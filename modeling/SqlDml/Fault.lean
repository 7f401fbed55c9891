/-!
# Faults

* `Fault` : what can go wrong, by cause;
* `Fault.message`, `Fault.suggestion?` : the wording shown to a user;
* `FaultClass`, `Fault.faultClass` : the coarse class of a fault and its number.

Scanning itself never fails: a broken literal is a token of its own, and the fault that it stands
for is read off that token.
-/

namespace SqlDml

/-- A quoted literal without its closing quote, a numeral that is none, a word without a canonical
spelling, or a step back where no token is kept. Offsets count bytes of the UTF-8 form. -/
inductive Fault where
  | unterminatedLiteral (offset : Nat)
  | malformedNumber (offset : Nat) (text : String)
  | unknownSynonym (word : String)
  | nothingKept
  deriving Repr, DecidableEq, Inhabited

/-- A fault of the text, of a lookup in the dialect, or of a caller who asks in the wrong order. -/
inductive FaultClass where
  | lexical
  | dialect
  | misuse
  deriving Repr, DecidableEq, Inhabited

def FaultClass.number : FaultClass → Nat
  | .lexical => 1
  | .dialect => 2
  | .misuse => 21

namespace Fault

def message : Fault → String
  | .unterminatedLiteral offset =>
    "unterminated string literal starting at byte " ++ toString offset
  | .malformedNumber offset text => "malformed number at byte " ++ toString offset ++ ": " ++ text
  | .unknownSynonym word => "no canonical spelling for '" ++ word ++ "'"
  | .nothingKept => "cannot push back: no buffered token to rewind to"

def faultClass : Fault → FaultClass
  | .unterminatedLiteral _ | .malformedNumber _ _ => .lexical
  | .unknownSynonym _ => .dialect
  | .nothingKept => .misuse

def isLexical (fault : Fault) : Bool := fault.faultClass == .lexical

def offset? : Fault → Option Nat
  | .unterminatedLiteral offset | .malformedNumber offset _ => some offset
  | .unknownSynonym _ | .nothingKept => none

def suggestion? : Fault → Option String
  | .unterminatedLiteral _ => some "Close the string with a matching quote"
  | .malformedNumber _ _ => some "Exponents need a sign and at least one digit, e.g. 1.5e-10"
  | .unknownSynonym _ => some "Check is_synonym before canonicalizing"
  | .nothingKept => none

end Fault

end SqlDml
