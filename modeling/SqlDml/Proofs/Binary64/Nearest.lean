import Mathlib.Algebra.Order.Field.Rat
import Mathlib.Algebra.Order.Field.Power
import Mathlib.Tactic.FieldSimp
import Mathlib.Tactic.Linarith
import Mathlib.Tactic.Positivity
import SqlDml.Proofs.Binary64.Exact

/-!
# The number nearest to a decimal

* `Decimal.value`, `Binary64.value` : decimals and numbers as rational numbers;
* `Binary64.IsNearest` : a number is the nearest one of a decimal, ties to even;
* `Binary64.Rounds`, `Binary64.Bracket` : the same for magnitudes and units, and where a quotient
  lies between two magnitudes;
* `Binary64.isNearest_iff` : the nearest number of a decimal is the one that it is rounded to.

Magnitudes are ordered as the numbers of units that they stand for (`strictMono_unitsOf`), so it is
enough to compare the two magnitudes that a quotient lies between.
-/

namespace SqlDml

/-! ## Values -/

/-- A number of the given absolute value. -/
def signed (negative : Bool) (size : ℚ) : ℚ := if negative then -size else size

def Decimal.value (d : Decimal) : ℚ := signed d.negative (d.digits * 10 ^ d.exponent)

theorem Decimal.size_nonneg (d : Decimal) : (0 : ℚ) ≤ d.digits * 10 ^ d.exponent := by positivity

namespace Binary64

/-- The value of a finite number. Infinity counts as `2 ^ 1024`, which is where the next number
would stand. -/
def value (x : Binary64) : ℚ := signed x.negative (x.units / unitsPerOne)

/-- No number is nearer to the decimal, and if another one is as near then this one is even. A zero
has the sign of the decimal. -/
structure IsNearest (d : Decimal) (x : Binary64) : Prop where
  sign : x.negative = d.negative
  number : x.isNaN = false
  closest : ∀ y : Binary64, y.isNaN = false → |d.value - x.value| ≤ |d.value - y.value|
  even : ∀ y : Binary64, y.isNaN = false → y.value ≠ x.value →
    |d.value - y.value| = |d.value - x.value| → x.magnitude % 2 = 0

/-! ## The order of magnitudes -/

theorem significand_bounds (m : Nat) :
    (scale m = 0 ∨ binade ≤ significand m) ∧ significand m < 2 * binade := by
  unfold scale significand binade
  split <;> omega

theorem strictMono_unitsOf : StrictMono unitsOf := by
  refine strictMono_nat_of_lt_succ fun m => ?_
  obtain ⟨hl, hu⟩ := significand_bounds m
  have hnext : unitsOf (m + 1) = (significand m + 1) <<< scale m := by
    have h := @unitsOf_scaled (scale m) (significand m + 1) (by omega) (by omega)
    rwa [← Nat.add_assoc, scale_add_significand] at h
  rw [hnext, unitsOf, Nat.shiftLeft_eq, Nat.shiftLeft_eq]
  exact Nat.mul_lt_mul_of_pos_right (Nat.lt_succ_self _) (Nat.two_pow_pos _)

theorem cast_unitsOf_lt {m n : Nat} (h : m < n) : (unitsOf m : ℚ) < unitsOf n := by
  exact_mod_cast strictMono_unitsOf h

theorem cast_unitsOf_le {m n : Nat} (h : m ≤ n) : (unitsOf m : ℚ) ≤ unitsOf n := by
  exact_mod_cast strictMono_unitsOf.monotone h

/-! ## The nearest magnitude -/

/-- Of the magnitudes up to infinity, `r` is the nearest to `q` units, and it is even if another one
is as near. -/
structure Rounds (q : ℚ) (r : Nat) : Prop where
  le : r ≤ infinity
  closest : ∀ m ≤ infinity, |q - unitsOf r| ≤ |q - unitsOf m|
  even : ∀ m ≤ infinity, m ≠ r → |q - unitsOf m| = |q - unitsOf r| → r % 2 = 0

/-- It is enough to compare with the magnitudes next to it. -/
theorem rounds_of_neighbours {q : ℚ} {r : Nat} (hr : r ≤ infinity)
    (below : ∀ m, m + 1 = r → |q - unitsOf r| ≤ q - unitsOf m ∧
      (|q - unitsOf r| = q - unitsOf m → r % 2 = 0))
    (above : r < infinity → |q - unitsOf r| ≤ unitsOf (r + 1) - q ∧
      (|q - unitsOf r| = unitsOf (r + 1) - q → r % 2 = 0)) : Rounds q r := by
  have hpos := abs_nonneg (q - unitsOf r)
  have hother {m : Nat} (hm : m ≤ infinity) (hne : m ≠ r) :
      |q - unitsOf r| ≤ |q - unitsOf m| ∧ (|q - unitsOf m| = |q - unitsOf r| → r % 2 = 0) := by
    rcases Nat.lt_or_gt_of_ne hne with hlt | hgt
    · obtain ⟨hclosest, heven⟩ := below (r - 1) (by omega)
      have hle := @cast_unitsOf_le m (r - 1) (by omega)
      rw [abs_of_nonneg (a := q - unitsOf m) (by linarith)]
      exact ⟨by linarith, fun h => heven (by linarith)⟩
    · obtain ⟨hclosest, heven⟩ := above (by omega)
      have hle := @cast_unitsOf_le (r + 1) m (by omega)
      rw [abs_of_nonpos (a := q - unitsOf m) (by linarith)]
      exact ⟨by linarith, fun h => heven (by linarith)⟩
  refine ⟨hr, fun m hm => ?_, fun m hm hne => (hother hm hne).2⟩
  by_cases hne : m = r
  · rw [hne]
  · exact (hother hm hne).1

/-- Past infinity there is nothing nearer. -/
theorem rounds_infinity {q : ℚ} (h : (unitsOf infinity : ℚ) ≤ q) : Rounds q infinity := by
  refine rounds_of_neighbours le_rfl (fun m hm => ?_) fun h => absurd h (Nat.lt_irrefl _)
  have hlt := @cast_unitsOf_lt m infinity (by omega)
  rw [abs_of_nonneg (by linarith)]
  exact ⟨by linarith, fun h => by linarith⟩

/-- Whether a quotient is rounded down to the magnitude below it: the one above is not nearer, and
if both are as near then the one below is even. -/
def RoundsDown (q : ℚ) (a : Nat) : Prop :=
  q - unitsOf a < unitsOf (a + 1) - q ∨ (q - unitsOf a = unitsOf (a + 1) - q ∧ a % 2 = 0)

theorem rounds_down {q : ℚ} {a : Nat} (ha : a < infinity) (hl : unitsOf a ≤ q)
    (h : RoundsDown q a) : Rounds q a := by
  have habs : |q - unitsOf a| = q - unitsOf a := abs_of_nonneg (by linarith)
  refine rounds_of_neighbours ha.le (fun m hm => ?_) fun _ => ?_
  · have hlt := @cast_unitsOf_lt m a (by omega)
    rw [habs]
    exact ⟨by linarith, fun h => by linarith⟩
  · rw [habs]
    rcases h with hlt | ⟨heq, heven⟩
    · exact ⟨hlt.le, fun h => absurd h hlt.ne⟩
    · exact ⟨heq.le, fun _ => heven⟩

theorem rounds_up {q : ℚ} {a : Nat} (ha : a < infinity) (hu : q ≤ unitsOf (a + 1))
    (h : ¬RoundsDown q a) : Rounds q (a + 1) := by
  simp only [RoundsDown, not_or, not_lt, not_and] at h
  obtain ⟨hle, hodd⟩ := h
  have habs : |q - unitsOf (a + 1)| = unitsOf (a + 1) - q := by
    rw [abs_sub_comm]
    exact abs_of_nonneg (by linarith)
  refine rounds_of_neighbours ha (fun m hm => ?_) fun _ => ?_
  · obtain rfl : m = a := by omega
    rw [habs]
    refine ⟨hle, fun h => ?_⟩
    have := hodd h.symm
    omega
  · have hlt := @cast_unitsOf_lt (a + 1) (a + 1 + 1) (by omega)
    rw [habs]
    exact ⟨by linarith, fun h => by linarith⟩

/-! ## Rounding -/

/-- The quotient `num / den` lies between the magnitudes `a` and `a + 1`, which are `width` units
apart, `rest / den` units above the lower one. -/
structure Bracket (num den a width rest : Nat) : Prop where
  next : unitsOf (a + 1) = unitsOf a + width
  split : num = den * unitsOf a + rest
  below : rest < den * width

/-- Between which two magnitudes a quotient lies, and which of them it is rounded to. -/
theorem exists_bracket (num : Nat) {den : Nat} (hd : 0 < den) :
    ∃ a width rest, Bracket num den a width rest ∧ roundUnits num den = min infinity
      (if 2 * rest < den * width ∨ (2 * rest = den * width ∧ a % 2 = 0) then a else a + 1) := by
  obtain ⟨hl, hu⟩ := scaled_bounds (num / den)
  generalize hscale : (num / den).log2 - 52 = e at hl hu
  rw [← div_shiftLeft] at hl hu
  generalize hlow : num / (den <<< e) = low at hl hu
  have hpos : 0 < den <<< e := Nat.shiftLeft_pos_iff.2 hd
  have hunits : unitsOf (e * binade + low) = low <<< e := unitsOf_scaled hl (by omega)
  have hnext : unitsOf (e * binade + (low + 1)) = (low + 1) <<< e :=
    unitsOf_scaled (by omega) (by omega)
  have hwidth : den * 1 <<< e = den <<< e := by rw [Nat.one_shiftLeft, Nat.shiftLeft_eq]
  refine ⟨e * binade + low, 1 <<< e, num % (den <<< e), ⟨?_, ?_, ?_⟩, ?_⟩
  · rw [Nat.add_assoc, hnext, hunits, Nat.shiftLeft_eq, Nat.succ_mul, Nat.shiftLeft_eq,
      Nat.one_shiftLeft]
  · have h := Nat.div_add_mod num (den <<< e)
    rw [hlow, Nat.shiftLeft_eq, Nat.mul_assoc, Nat.mul_comm (2 ^ e)] at h
    rw [hunits, Nat.shiftLeft_eq, Nat.shiftLeft_eq, h]
  · rw [hwidth]
    exact Nat.mod_lt num hpos
  · have hparity : (e * binade + low) % 2 = low % 2 := by unfold binade; omega
    rw [roundUnits, hscale, roundHalfEven, hlow, hparity, hwidth]
    split
    · rfl
    · rw [Nat.add_assoc]

namespace Bracket

variable {num den a width rest : Nat}

theorem sub_low (h : Bracket num den a width rest) (hd : (0 : ℚ) < den) :
    (num / den : ℚ) - unitsOf a = rest / den := by
  have hsplit : (num : ℚ) = den * unitsOf a + rest := by exact_mod_cast h.split
  rw [hsplit, add_div, mul_div_cancel_left₀ _ hd.ne', add_sub_cancel_left]

theorem high_sub (h : Bracket num den a width rest) (hd : (0 : ℚ) < den) :
    (unitsOf (a + 1) : ℚ) - num / den = (den * width - rest) / den := by
  have hlow := h.sub_low hd
  have hnext : (unitsOf (a + 1) : ℚ) = unitsOf a + width := by exact_mod_cast h.next
  rw [sub_div, mul_div_cancel_left₀ _ hd.ne']
  linarith

theorem low_le (h : Bracket num den a width rest) (hd : (0 : ℚ) < den) :
    (unitsOf a : ℚ) ≤ num / den := by
  rw [← sub_nonneg, h.sub_low hd]
  positivity

theorem le_high (h : Bracket num den a width rest) (hd : (0 : ℚ) < den) :
    (num / den : ℚ) ≤ unitsOf (a + 1) := by
  have hbelow : (rest : ℚ) ≤ den * width := by exact_mod_cast h.below.le
  rw [← sub_nonneg, h.high_sub hd]
  exact div_nonneg (sub_nonneg.2 hbelow) hd.le

theorem roundsDown_iff (h : Bracket num den a width rest) (hd : (0 : ℚ) < den) :
    RoundsDown (num / den) a ↔
      2 * rest < den * width ∨ (2 * rest = den * width ∧ a % 2 = 0) := by
  have hlt : (rest : ℚ) < den * width - rest ↔ 2 * rest < den * width := by
    rw [lt_sub_iff_add_lt, ← two_mul]
    exact_mod_cast Iff.rfl
  have heq : (rest : ℚ) = den * width - rest ↔ 2 * rest = den * width := by
    rw [eq_sub_iff_add_eq, ← two_mul]
    exact_mod_cast Iff.rfl
  rw [RoundsDown, h.sub_low hd, h.high_sub hd, div_lt_div_iff_of_pos_right hd,
    div_left_inj' hd.ne', hlt, heq]

end Bracket

theorem rounds_roundUnits (num : Nat) {den : Nat} (hd : 0 < den) :
    Rounds (num / den) (roundUnits num den) := by
  obtain ⟨a, width, rest, hbracket, hround⟩ := exists_bracket num hd
  have hden : (0 : ℚ) < den := by exact_mod_cast hd
  have hlow := hbracket.low_le hden
  rw [hround]
  rcases Nat.lt_or_ge a infinity with ha | ha
  · split
    · rename_i hdown
      rw [Nat.min_eq_right ha.le]
      exact rounds_down ha hlow ((hbracket.roundsDown_iff hden).2 hdown)
    · rename_i hup
      rw [Nat.min_eq_right ha]
      exact rounds_up ha (hbracket.le_high hden) (mt (hbracket.roundsDown_iff hden).1 hup)
  · rw [Nat.min_eq_left (by split <;> omega)]
    exact rounds_infinity ((cast_unitsOf_le ha).trans hlow)

/-! ## Decimals -/

theorem unitsOf_infinity : unitsOf infinity = 2 ^ 1024 * unitsPerOne := by decide +kernel

/-- Less than half a unit is rounded to zero. -/
theorem rounds_zero {q : ℚ} (hl : 0 ≤ q) (hu : 2 * q < 1) : Rounds q 0 := by
  have hzero : (unitsOf 0 : ℚ) = 0 := by exact_mod_cast unitsOf_of_lt (by decide)
  have hone : (unitsOf (0 + 1) : ℚ) = 1 := by exact_mod_cast unitsOf_of_lt (by decide)
  refine rounds_down (by decide) (by rw [hzero]; exact hl) (.inl ?_)
  rw [hzero, hone]
  linarith

/-- What is so large that the digits are not looked at. -/
theorem unitsOf_infinity_le {digits k : Nat} (h0 : digits ≠ 0) (hk : 310 < k) :
    unitsOf infinity ≤ digits * 10 ^ k * unitsPerOne := by
  rw [unitsOf_infinity]
  refine Nat.mul_le_mul_right _ ?_
  calc 2 ^ 1024 ≤ 10 ^ 311 := by decide +kernel
    _ ≤ 10 ^ k := Nat.pow_le_pow_right (by decide) hk
    _ ≤ digits * 10 ^ k := Nat.le_mul_of_pos_left _ (Nat.pos_of_ne_zero h0)

/-- What is so small that the digits are not looked at. -/
theorem two_mul_units_lt {digits k : Nat} (hk : 330 + digits.log2 < k) :
    2 * (digits * unitsPerOne) < 10 ^ k := by
  have hdigits : digits < 2 ^ (digits.log2 + 1) := Nat.lt_log2_self
  generalize digits.log2 = l at hk hdigits
  obtain ⟨places, hplaces, hone⟩ : ∃ places, l + places ≤ k ∧ 2 * (2 * unitsPerOne) ≤ 10 ^ places :=
    ⟨331, by omega, by decide +kernel⟩
  have hpos := unitsPerOne_pos
  generalize unitsPerOne = one at hone hpos
  calc 2 * (digits * one) < 2 * (2 ^ (l + 1) * one) := by
        have := Nat.mul_lt_mul_of_pos_right hdigits hpos
        omega
    _ = 2 ^ l * (2 * (2 * one)) := by
        rw [Nat.pow_succ, Nat.mul_assoc, Nat.mul_left_comm]
    _ ≤ 10 ^ l * 10 ^ places :=
        Nat.mul_le_mul (Nat.pow_le_pow_left (by decide) l) hone
    _ = 10 ^ (l + places) := (Nat.pow_add 10 l places).symm
    _ ≤ 10 ^ k := Nat.pow_le_pow_right (by decide) hplaces

/-- The absolute value of a decimal, in units. -/
def unitsIn (d : Decimal) : ℚ := d.digits * 10 ^ d.exponent * unitsPerOne

theorem rounds_large {digits : Nat} {exponent : Int} (h0 : digits ≠ 0) (he : 310 < exponent) :
    Rounds (digits * 10 ^ exponent * unitsPerOne) infinity := by
  obtain ⟨k, rfl⟩ := Int.eq_ofNat_of_zero_le (by omega : 0 ≤ exponent)
  refine rounds_infinity ?_
  rw [zpow_natCast]
  exact_mod_cast unitsOf_infinity_le h0 (by omega)

theorem rounds_small {digits : Nat} {exponent : Int} (he : exponent + digits.log2 < -330) :
    Rounds (digits * 10 ^ exponent * unitsPerOne) 0 := by
  obtain ⟨k, hk⟩ := Int.eq_ofNat_of_zero_le (by omega : 0 ≤ -exponent)
  obtain rfl : exponent = -k := by omega
  have hsmall := @two_mul_units_lt digits k (by omega)
  generalize unitsPerOne = one at hsmall ⊢
  have hlt : (2 * (digits * one) : ℚ) < 10 ^ k := by exact_mod_cast hsmall
  have hq : (digits * 10 ^ (-k : ℤ) * one : ℚ) = digits * one / 10 ^ k := by
    rw [zpow_neg, zpow_natCast, mul_right_comm, ← div_eq_mul_inv]
  rw [hq]
  refine rounds_zero (by positivity) ?_
  rwa [← mul_div_assoc, div_lt_one (by positivity)]

theorem rounds_nearestMagnitude (d : Decimal) :
    Rounds (unitsIn d) (nearestMagnitude d.digits d.exponent) := by
  obtain ⟨negative, digits, exponent⟩ := d
  unfold unitsIn nearestMagnitude
  dsimp only
  split_ifs with h0 hlarge hsmall
  · rw [h0, Nat.cast_zero, zero_mul, zero_mul]
    exact rounds_zero le_rfl (by norm_num)
  · exact rounds_large h0 hlarge
  · exact rounds_small hsmall
  · cases exponent with
    | ofNat k =>
      have hq : (digits * 10 ^ (Int.ofNat k) * unitsPerOne : ℚ) =
          (digits * 10 ^ k * unitsPerOne : ℕ) / (1 : ℕ) := by
        rw [Int.ofNat_eq_natCast, zpow_natCast]
        push_cast
        rw [div_one]
      rw [hq]
      exact rounds_roundUnits _ Nat.one_pos
    | negSucc k =>
      have hq : (digits * 10 ^ (Int.negSucc k) * unitsPerOne : ℚ) =
          (digits * unitsPerOne : ℕ) / (10 ^ (k + 1) : ℕ) := by
        rw [zpow_negSucc, mul_right_comm, ← div_eq_mul_inv]
        push_cast
        rfl
      rw [hq]
      exact rounds_roundUnits _ (Nat.pow_pos (by decide))

/-- Two magnitudes that are both nearest are the same: else both would be even, and the one between
them nearer. -/
theorem Rounds.unique {q : ℚ} {r s : Nat} (hr : Rounds q r) (hs : Rounds q s) : r = s := by
  wlog hle : r ≤ s generalizing r s
  · exact (this hs hr (by omega)).symm
  by_contra hne
  have hdist := le_antisymm (hr.closest s hs.le) (hs.closest r hr.le)
  have hreven := hr.even s hs.le (Ne.symm hne) hdist.symm
  have hseven := hs.even r hr.le hne hdist
  have hlow := @cast_unitsOf_lt r (r + 1) (by omega)
  have hhigh := @cast_unitsOf_lt (r + 1) s (by omega)
  have hmiddle : q - unitsOf r = unitsOf s - q := by
    rcases abs_eq_abs.1 hdist with h | h <;> linarith
  have hnear : |q - unitsOf (r + 1)| < |q - unitsOf r| := by
    rw [abs_of_nonneg (a := q - unitsOf r) (by linarith), abs_lt]
    constructor <;> linarith
  exact absurd (hr.closest (r + 1) (by have := hs.le; omega)) (not_le.2 hnear)

/-! ## Signs -/

theorem abs_signed_sub (negative : Bool) (a b : ℚ) :
    |signed negative a - signed negative b| = |a - b| := by
  cases negative with
  | false => rfl
  | true =>
    show |-a - -b| = |a - b|
    rw [neg_sub_neg, abs_sub_comm]

/-- Numbers of different signs are as far apart as their absolute values make together. -/
theorem abs_signed_sub_of_ne {negative other : Bool} (h : other ≠ negative) {a b : ℚ} (ha : 0 ≤ a)
    (hb : 0 ≤ b) : |signed negative a - signed other b| = a + b := by
  obtain rfl : other = !negative := by cases other <;> cases negative <;> simp_all
  cases negative with
  | false =>
    show |a - -b| = a + b
    rw [sub_neg_eq_add, abs_of_nonneg (by linarith)]
  | true =>
    show |-a - b| = a + b
    rw [abs_of_nonpos (by linarith)]
    linarith

theorem le_abs_signed_sub (negative other : Bool) {a b : ℚ} (ha : 0 ≤ a) (hb : 0 ≤ b) :
    |a - b| ≤ |signed negative a - signed other b| := by
  by_cases h : other = negative
  · rw [h, abs_signed_sub]
  · rw [abs_signed_sub_of_ne h ha hb, abs_le]
    constructor <;> linarith

/-! ## Numbers -/

theorem magnitude_ofMagnitude {negative : Bool} {m : Nat} (h : m ≤ infinity) :
    (ofMagnitude negative m).negative = negative ∧ (ofMagnitude negative m).magnitude = m := by
  have hm : m < signBit := lt_of_le_of_lt h (by decide)
  have hbits : (ofMagnitude negative m).bits.toNat = (if negative then signBit else 0) + m := by
    rw [ofMagnitude, UInt64.toNat_ofNat']
    refine Nat.mod_eq_of_lt ?_
    unfold signBit at hm ⊢
    split <;> omega
  rw [Binary64.negative, Binary64.magnitude, hbits]
  unfold signBit at hm ⊢
  cases negative <;> simp <;> omega

theorem isNaN_eq_false {x : Binary64} : x.isNaN = false ↔ x.magnitude ≤ infinity := by
  rw [isNaN, decide_eq_false_iff_not, not_lt]

theorem size_nonneg (x : Binary64) : (0 : ℚ) ≤ x.units / unitsPerOne :=
  div_nonneg (Nat.cast_nonneg _) (Nat.cast_nonneg _)

theorem cast_unitsPerOne_pos : (0 : ℚ) < unitsPerOne := by exact_mod_cast unitsPerOne_pos

theorem unitsIn_nonneg (d : Decimal) : 0 ≤ unitsIn d :=
  mul_nonneg d.size_nonneg (Nat.cast_nonneg _)

theorem unitsIn_div (d : Decimal) : unitsIn d / unitsPerOne = d.digits * 10 ^ d.exponent := by
  have hpos := cast_unitsPerOne_pos
  rw [unitsIn]
  generalize (unitsPerOne : ℚ) = one at hpos ⊢
  exact mul_div_cancel_right₀ _ hpos.ne'

theorem div_unitsPerOne_inj {a b : ℚ} : a / unitsPerOne = b / unitsPerOne ↔ a = b := by
  have hpos := cast_unitsPerOne_pos
  generalize (unitsPerOne : ℚ) = one at hpos ⊢
  exact div_left_inj' hpos.ne'

theorem div_unitsPerOne_le {a b : ℚ} : a / unitsPerOne ≤ b / unitsPerOne ↔ a ≤ b :=
  div_le_div_iff_of_pos_right cast_unitsPerOne_pos

/-- Distances in ones, by distances in units. -/
theorem abs_sub_units (d : Decimal) (m : Nat) :
    |d.digits * 10 ^ d.exponent - (unitsOf m : ℚ) / unitsPerOne| =
      |unitsIn d - unitsOf m| / unitsPerOne := by
  rw [← unitsIn_div, ← sub_div, abs_div, abs_of_pos cast_unitsPerOne_pos]

theorem abs_value_sub {d : Decimal} {x : Binary64} (h : x.negative = d.negative) :
    |d.value - x.value| = |unitsIn d - unitsOf x.magnitude| / unitsPerOne := by
  rw [Decimal.value, value, h, abs_signed_sub, units, abs_sub_units]

theorem le_abs_value_sub (d : Decimal) (x : Binary64) :
    |unitsIn d - unitsOf x.magnitude| / unitsPerOne ≤ |d.value - x.value| := by
  rw [← abs_sub_units]
  exact le_abs_signed_sub _ _ d.size_nonneg x.size_nonneg

/-- A number of the decimal's sign is the nearest one if its magnitude is. -/
theorem isNearest_of_rounds {d : Decimal} {x : Binary64} (hs : x.negative = d.negative)
    (h : Rounds (unitsIn d) x.magnitude) : IsNearest d x where
  sign := hs
  number := isNaN_eq_false.2 h.le
  closest y hy := by
    refine le_trans ?_ (le_abs_value_sub d y)
    rw [abs_value_sub hs, div_unitsPerOne_le]
    exact h.closest y.magnitude (isNaN_eq_false.1 hy)
  even y hy hne heq := by
    by_cases hm : y.magnitude = x.magnitude
    · -- The two differ in their signs only, and are as far from the decimal only if they are zero.
      have hother : y.negative ≠ d.negative := by
        intro hsign
        exact hne (by rw [value, value, units, units, hm, hsign, hs])
      have hsum : |d.value - y.value| = (unitsIn d + unitsOf x.magnitude) / unitsPerOne := by
        rw [Decimal.value, value, abs_signed_sub_of_ne hother d.size_nonneg y.size_nonneg, units,
          hm, add_div, unitsIn_div]
      have hzero : (unitsOf 0 : ℚ) = 0 := by exact_mod_cast unitsOf_of_lt (by decide)
      have hclosest := h.closest 0 (by decide)
      rw [hsum, abs_value_sub hs, div_unitsPerOne_inj] at heq
      rw [← heq, hzero, sub_zero, abs_of_nonneg (unitsIn_nonneg d),
        add_le_iff_nonpos_right] at hclosest
      have hunits : unitsOf x.magnitude ≤ 0 := by exact_mod_cast hclosest
      rw [unitsOf_eq_zero.1 (Nat.le_zero.1 hunits)]
    · refine h.even y.magnitude (isNaN_eq_false.1 hy) hm (le_antisymm ?_ ?_)
      · rw [← div_unitsPerOne_le, ← abs_value_sub hs, ← heq]
        exact le_abs_value_sub d y
      · exact h.closest y.magnitude (isNaN_eq_false.1 hy)

theorem IsNearest.rounds {d : Decimal} {x : Binary64} (h : IsNearest d x) :
    Rounds (unitsIn d) x.magnitude where
  le := isNaN_eq_false.1 h.number
  closest m hm := by
    obtain ⟨hsign, hmagnitude⟩ := @magnitude_ofMagnitude d.negative m hm
    have hclosest := h.closest (ofMagnitude d.negative m) (isNaN_eq_false.2 (by rwa [hmagnitude]))
    rwa [abs_value_sub h.sign, abs_value_sub hsign, hmagnitude, div_unitsPerOne_le] at hclosest
  even m hm hne heq := by
    obtain ⟨hsign, hmagnitude⟩ := @magnitude_ofMagnitude d.negative m hm
    refine h.even (ofMagnitude d.negative m) (isNaN_eq_false.2 (by rwa [hmagnitude])) ?_ ?_
    · intro hvalue
      have hzero := abs_signed_sub d.negative (unitsOf m / unitsPerOne)
        (unitsOf x.magnitude / unitsPerOne)
      rw [value, value, hsign, h.sign, units, units, hmagnitude] at hvalue
      rw [hvalue, sub_self, abs_zero, eq_comm, abs_eq_zero, sub_eq_zero,
        div_unitsPerOne_inj, Nat.cast_inj] at hzero
      exact hne (strictMono_unitsOf.injective hzero)
    · rw [abs_value_sub h.sign, abs_value_sub hsign, hmagnitude, heq]

/-- The number nearest to a decimal is the one that the decimal is rounded to. -/
theorem isNearest_iff {d : Decimal} {x : Binary64} : IsNearest d x ↔ x = ofDecimal d := by
  have hrounds := rounds_nearestMagnitude d
  constructor
  · intro h
    exact (ReadAs.ofDecimal_eq ⟨h.sign.symm, hrounds.unique h.rounds⟩).symm
  · rintro rfl
    obtain ⟨hsign, hmagnitude⟩ := @magnitude_ofMagnitude d.negative _ hrounds.le
    exact isNearest_of_rounds hsign (by rwa [ofDecimal, hmagnitude])

end Binary64

end SqlDml
