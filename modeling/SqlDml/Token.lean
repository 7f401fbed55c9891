import SqlDml.Binary64.Text
import SqlDml.Fault

/-!
# Tokens

* `Span` : a range of bytes of the text;
* `Kind`, `Kind.name` : what a token is, and the name a parser's vocabulary has for it;
* `Value` : the decoded value of a token;
* `Token`, `Token.fault?` : a token in its place, and the fault that a broken one stands for.
-/

namespace SqlDml

/-! ## Spans -/

/-- The bytes from offset `start` up to `stop`, not included. -/
structure Span where
  start : Nat := 0
  stop : Nat := 0
  deriving Repr, DecidableEq, Inhabited

namespace Span

def length (span : Span) : Nat := span.stop - span.start

def isEmpty (span : Span) : Bool := span.start == span.stop

def text (span : Span) : String := toString span.start ++ ".." ++ toString span.stop

end Span

/-- The largest offset or column that is reported; later ones are reported as this one. -/
def maxOffset : Nat := UInt32.size - 1

def clampOffset (offset : Nat) : Nat := min offset maxOffset

/-! ## Kinds -/

/-- What is wrong with a token that has no proper kind: a quoted literal that runs off the end of
the text, or a numeral that has a bad exponent, runs into a word or is out of range. -/
inductive Defect where
  | unterminatedLiteral
  | malformedNumber
  deriving Repr, DecidableEq, Inhabited

/-- What a token is. Symbols of the dialect are keywords, in lower case, and other words are
identifiers, or system variables if they begin with an underscore. A placeholder stands for a bound
parameter, and punctuation is any character that no other rule takes. -/
inductive Kind where
  | identifier
  | integer
  | real
  | text
  | placeholder
  | systemVariable
  | keyword (word : String)
  | operator (word : String)
  | punctuation (char : Char)
  | ellipsis
  | endOfInput
  | invalid (defect : Defect)
  deriving Repr, DecidableEq, Inhabited

namespace Kind

/-- The name of the kind in a parser's vocabulary. -/
def name : Kind → String
  | identifier => "identifier"
  | integer => "int_val"
  | real => "real_val"
  | text => "text_val"
  | placeholder => "placeholder"
  | systemVariable => "sys_var"
  | keyword word | operator word => word
  | punctuation char => String.singleton char
  | ellipsis => "..."
  | endOfInput => "*end of input*"
  | invalid _ => "*invalid*"

def isKeyword (kind : Kind) (word : String) : Bool := kind == keyword word

def isInvalid : Kind → Bool
  | invalid _ => true
  | _ => false

/-- Whether a token of this kind stands for a value: a number, a text, a placeholder or null. -/
def isValue : Kind → Bool
  | integer | real | text | placeholder => true
  | keyword word => word == "null"
  | _ => false

end Kind

/-- The vocabulary names that are taken for values; null goes by its upper case here. -/
def valueNames : List String := ["real_val", "int_val", "text_val", "placeholder", "NULL"]

def isValueName (name : String) : Bool := valueNames.contains name

/-! ## Values -/

inductive Value where
  | integer (n : Int64)
  | real (x : Binary64)
  | text (s : String)
  deriving Repr, DecidableEq, Inhabited

def integerText (n : Int64) : List Char := signText (n.toInt < 0) ++ digitText n.toInt.natAbs

namespace Value

/-- The value as text: numbers in decimal, texts as they are. -/
def shown : Value → String
  | integer n => String.ofList (integerText n)
  | real x => String.ofList x.text
  | text s => s

def text? : Value → Option String
  | text s => some s
  | _ => none

def integer? : Value → Option Int64
  | integer n => some n
  | _ => none

def real? : Value → Option Binary64
  | real x => some x
  | _ => none

end Value

/-! ## Tokens -/

/-- A token in its place. What it skipped are the blanks and comments right before it; its line and
column are those of its first byte, counted from one. -/
structure Token where
  kind : Kind
  value : Value
  skipped : String := ""
  span : Span := {}
  line : Nat := 1
  column : Nat := 1
  deriving Repr, DecidableEq, Inhabited

namespace Token

def isEnd (token : Token) : Bool := token.kind == .endOfInput

/-- The fault that an invalid token stands for. -/
def fault? (token : Token) : Option Fault :=
  match token.kind with
  | .invalid .unterminatedLiteral => some (.unterminatedLiteral token.span.start)
  | .invalid .malformedNumber =>
    some (.malformedNumber token.span.start (token.value.text?.getD ""))
  | _ => none

end Token

end SqlDml
