/-!
# Decimal numbers and their positional text

* `Decimal` : a signed whole number of units of a power of ten;
* `Decimal.text` : its text without an exponent, as `-1.5`, `100` or `0.05`.
-/

namespace SqlDml

/-- The number `± digits · 10 ^ exponent`. The sign stands apart, so that zero has one too. -/
structure Decimal where
  negative : Bool := false
  digits : Nat
  exponent : Int := 0
  deriving Repr, DecidableEq, Inhabited

/-- The digits of `n` in base ten, without leading zeros; zero is `0`. -/
def digitText (n : Nat) : List Char := Nat.toDigits 10 n

def signText (negative : Bool) : List Char := if negative then ['-'] else []

namespace Decimal

/-- `digits` with the last `places` of them behind a point and at least one before it. -/
def pointed (digits : List Char) (places : Nat) : List Char :=
  let padded := List.replicate (places + 1 - digits.length) '0' ++ digits
  padded.take (padded.length - places) ++ '.' :: padded.drop (padded.length - places)

def text (d : Decimal) : List Char :=
  signText d.negative ++
    match d.exponent with
    | .ofNat zeros => digitText d.digits ++ List.replicate zeros '0'
    | .negSucc places => pointed (digitText d.digits) (places + 1)

end Decimal

end SqlDml
