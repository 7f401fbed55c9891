import SqlDml.Binary64.Rounding

/-!
# The decimal text of a double-precision number

* `Binary64.shortest` : the decimal of fewest digits that reads back, the nearest of those, and of
  two equally near the larger;
* `Binary64.text` : the shortest decimal, positional; `inf`, `-inf` and `NaN`;
* `Binary64.wholeText` : every digit of a whole number, then `.0`.
-/

namespace SqlDml.Binary64

/-! ## Shortest decimal -/

/-- The power of ten of the first digit of `num / den`, for a positive quotient. -/
def leadingPower (num den : Nat) : Int :=
  if den ≤ num then (digitText (num / den)).length - 1
  else -((digitText ((den - 1) / num)).length : Int)

/-- `digits · 10 ^ exponent`, a trailing zero taken into the exponent. -/
def gridPoint (negative : Bool) (digits : Nat) (exponent : Int) : Decimal :=
  if digits % 10 = 0 then ⟨negative, digits / 10, exponent + 1⟩ else ⟨negative, digits, exponent⟩

/-- Whether `d` is read as a number of the magnitude of `x`. -/
def readsBack (x : Binary64) (d : Decimal) : Bool :=
  nearestMagnitude d.digits d.exponent == x.magnitude

/-- A multiple of `10 ^ exponent` next to `x` that reads back as `x`: the nearer of the two, the
larger if they are equally near. -/
def onGrid? (x : Binary64) (exponent : Int) : Option Decimal :=
  let num := x.units * Nat.pow 10 (-exponent).toNat
  let den := unitsPerOne * Nat.pow 10 exponent.toNat
  let low := gridPoint x.negative (num / den) exponent
  let high := gridPoint x.negative (num / den + 1) exponent
  let nearLow : Bool := 2 * (num % den) < den
  if x.readsBack low && (nearLow || !x.readsBack high) then some low
  else if x.readsBack high then some high
  else none

def exact (x : Binary64) : Decimal := ⟨x.negative, x.units * Nat.pow 5 unitPlaces, -unitPlaces⟩

/-- The shortest decimal of a finite number. The grids are tried from one digit on; seventeen
digits always suffice, and the exact value stands in where a grid is not found. -/
def shortest (x : Binary64) : Decimal :=
  if x.isZero then ⟨x.negative, 0, 0⟩
  else
    let lead := leadingPower x.units unitsPerOne
    ((List.range 17).findSome? fun (more : Nat) => x.onGrid? (lead - more)).getD x.exact

/-! ## Texts -/

def text (x : Binary64) : List Char :=
  if x.isNaN then ['N', 'a', 'N']
  else if x.isFinite then x.shortest.text
  else signText x.negative ++ ['i', 'n', 'f']

def wholeText (x : Binary64) : List Char :=
  signText x.negative ++ digitText (x.units / unitsPerOne) ++ ['.', '0']

end SqlDml.Binary64
