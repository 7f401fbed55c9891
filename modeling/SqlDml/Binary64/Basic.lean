/-!
# Double-precision numbers by their bits

* `Binary64` : a 64-bit pattern: sign, 11 bits of exponent, 52 bits of fraction;
* `Binary64.magnitude` : the pattern without its sign; finite numbers are ordered as their
  magnitudes;
* `Binary64.units` : a finite number as a count of the smallest positive one, `2 ^ -1074`;
* `==` : equality of numbers: the two zeros are equal, a NaN equals nothing.
-/

namespace SqlDml

structure Binary64 where
  bits : UInt64
  deriving Repr, DecidableEq, Inhabited

namespace Binary64

/-- The weight of the sign bit, above all magnitudes. -/
def signBit : Nat := 0x8000000000000000

/-- The magnitude of infinity: the least one whose exponent bits are all set. -/
def infinity : Nat := 0x7FF0000000000000

/-- How many magnitudes have the same exponent bits. -/
def binade : Nat := 0x10000000000000

def ofMagnitude (negative : Bool) (magnitude : Nat) : Binary64 :=
  ⟨UInt64.ofNat ((if negative then signBit else 0) + magnitude)⟩

def negative (x : Binary64) : Bool := signBit ≤ x.bits.toNat

def magnitude (x : Binary64) : Nat := x.bits.toNat % signBit

def isFinite (x : Binary64) : Bool := x.magnitude < infinity

def isNaN (x : Binary64) : Bool := infinity < x.magnitude

def isZero (x : Binary64) : Bool := x.magnitude == 0

/-! ## Value -/

/-- The whole number that a magnitude scales: its fraction bits, with the leading one that all but
the smallest magnitudes leave unwritten. -/
def significand (magnitude : Nat) : Nat :=
  if magnitude < binade then magnitude else binade + magnitude % binade

/-- The power of two that scales the significand; the first two binades share the power zero. -/
def scale (magnitude : Nat) : Nat := magnitude / binade - 1

/-- The value of a finite magnitude, as a count of `2 ^ -1074`. -/
def unitsOf (magnitude : Nat) : Nat := significand magnitude <<< scale magnitude

def units (x : Binary64) : Nat := unitsOf x.magnitude

/-- The binary places that a unit has behind the point. -/
def unitPlaces : Nat := 1074

/-- How many units make one. -/
def unitsPerOne : Nat := 1 <<< unitPlaces

/-- Whether a finite number is whole. -/
def isWhole (x : Binary64) : Bool := x.units % unitsPerOne == 0

/-! ## Equality of numbers -/

/-- Two numbers are equal when neither is a NaN and they have the same bits or are both zero. -/
def numEq (x y : Binary64) : Bool :=
  !x.isNaN && !y.isNaN && (x.bits == y.bits || (x.isZero && y.isZero))

instance : BEq Binary64 := ⟨numEq⟩

end Binary64

end SqlDml
