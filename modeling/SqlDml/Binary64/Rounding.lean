import SqlDml.Binary64.Basic
import SqlDml.Decimal

/-!
# The nearest double-precision number of a decimal

* `roundHalfEven` : the nearest whole number of a quotient, a half going to the even one;
* `Binary64.roundUnits` : the magnitude nearest to a quotient of units;
* `Binary64.ofDecimal` : the nearest number of a decimal, ties to even, infinite past the range.

All arithmetic is exact, on natural numbers.
-/

namespace SqlDml

/-- The whole number nearest to `num / den`; of two equally near, the even one. -/
def roundHalfEven (num den : Nat) : Nat :=
  let low := num / den
  let rest := num % den
  if 2 * rest < den ∨ (2 * rest = den ∧ low % 2 = 0) then low else low + 1

namespace Binary64

/-- The magnitude nearest to `num / den` units. The scale leaves 53 bits of the quotient before
its point, or all of them if there are fewer; a significand that rounds up to `2 ^ 53` carries into
the exponent bits, and past the largest finite magnitude comes infinity. -/
def roundUnits (num den : Nat) : Nat :=
  let scale := (num / den).log2 - 52
  min infinity (scale * binade + roundHalfEven num (den <<< scale))

/-- The magnitude nearest to `digits · 10 ^ exponent`. Numbers of more than 310 digits before the
point are infinite and those below `10 ^ -330` are zero, whatever their digits. -/
def nearestMagnitude (digits : Nat) (exponent : Int) : Nat :=
  if digits = 0 then 0
  else if 310 < exponent then infinity
  else if exponent + digits.log2 < -330 then 0
  else match exponent with
    | .ofNat k => roundUnits (digits * Nat.pow 10 k * unitsPerOne) 1
    | .negSucc k => roundUnits (digits * unitsPerOne) (Nat.pow 10 (k + 1))

def ofDecimal (d : Decimal) : Binary64 :=
  ofMagnitude d.negative (nearestMagnitude d.digits d.exponent)

end Binary64

end SqlDml
