import SqlDml.Binary64.Basic

/-!
# Equality of double-precision numbers

* `Binary64.mergeZeros` : a number, with zero in the place of negative zero;
* `Binary64.beq_iff` : numbers are equal if neither is a NaN and they are one with zeros merged;
* `NaNFree`, `ZeroFree` : no number of a list is a NaN, or a zero of either sign.
-/

namespace SqlDml

namespace Binary64

/-- The number, or zero if it is negative zero. -/
def mergeZeros (x : Binary64) : Binary64 :=
  if x = ofMagnitude true 0 then ofMagnitude false 0 else x

/-- There are two zeros. -/
theorem isZero_iff {x : Binary64} :
    x.isZero ↔ x = ofMagnitude false 0 ∨ x = ofMagnitude true 0 := by
  have hbits (n : Nat) (hn : n < UInt64.size) : x = ⟨UInt64.ofNat n⟩ ↔ x.bits.toNat = n := by
    obtain ⟨bits⟩ := x
    rw [mk.injEq, ← UInt64.toNat_inj, UInt64.toNat_ofNat_of_lt' hn]
  have hlt := x.bits.toNat_lt
  rw [ofMagnitude, ofMagnitude, hbits _ (by decide), hbits _ (by decide), isZero, magnitude,
    beq_iff_eq]
  simp only [Bool.false_eq_true, if_false, if_true, signBit]
  omega

theorem mergeZeros_of_not_isZero {x : Binary64} (h : x.isZero = false) : x.mergeZeros = x := by
  refine if_neg fun hx => ?_
  rw [isZero_iff.2 (.inr hx)] at h
  cases h

/-- Merging zeros makes no zero of another number. -/
theorem isZero_mergeZeros (x : Binary64) : x.mergeZeros.isZero = x.isZero := by
  rw [mergeZeros]
  split
  · rename_i h
    rw [isZero_iff.2 (.inl rfl), isZero_iff.2 (.inr h)]
  · rfl

theorem mergeZeros_eq_iff {x y : Binary64} :
    x.mergeZeros = y.mergeZeros ↔ x = y ∨ x.isZero ∧ y.isZero := by
  constructor
  · intro h
    cases hx : x.isZero with
    | true => exact .inr ⟨rfl, by rw [← isZero_mergeZeros, ← h, isZero_mergeZeros, hx]⟩
    | false =>
      have hy : y.isZero = false := by rw [← isZero_mergeZeros, ← h, isZero_mergeZeros, hx]
      rw [mergeZeros_of_not_isZero hx, mergeZeros_of_not_isZero hy] at h
      exact .inl h
  · have hzero {x : Binary64} (hx : x.isZero) : x.mergeZeros = ofMagnitude false 0 := by
      rcases isZero_iff.1 hx with rfl | rfl <;> rfl
    rintro (rfl | ⟨hx, hy⟩)
    · rfl
    · rw [hzero hx, hzero hy]

/-- Numbers are equal if neither is a NaN and they are one number with zeros merged. -/
theorem beq_iff {x y : Binary64} :
    x == y ↔ x.isNaN = false ∧ y.isNaN = false ∧ x.mergeZeros = y.mergeZeros := by
  show numEq x y ↔ _
  have hbits : x.bits = y.bits ↔ x = y := by
    obtain ⟨bits⟩ := x
    obtain ⟨bits'⟩ := y
    rw [mk.injEq]
  simp only [numEq, mergeZeros_eq_iff, Bool.and_eq_true, Bool.or_eq_true, Bool.not_eq_true',
    beq_iff_eq, hbits, and_assoc]

theorem eq_of_beq {x y : Binary64} (h : x == y) (hx : x.isZero = false) : x = y := by
  rcases mergeZeros_eq_iff.1 (beq_iff.1 h).2.2 with rfl | ⟨hzero, -⟩
  · rfl
  · rw [hx] at hzero
    cases hzero

end Binary64

/-! ## Numbers of a list -/

/-- No number of the list is a NaN. -/
def NaNFree (xs : List Binary64) : Prop := ∀ x ∈ xs, x.isNaN = false

/-- No number of the list is a zero of either sign. -/
def ZeroFree (xs : List Binary64) : Prop := ∀ x ∈ xs, x.isZero = false

theorem nanFree_nil : NaNFree [] := nofun

theorem nanFree_singleton {x : Binary64} : NaNFree [x] ↔ x.isNaN = false :=
  List.forall_mem_singleton

theorem nanFree_append {xs ys : List Binary64} : NaNFree (xs ++ ys) ↔ NaNFree xs ∧ NaNFree ys :=
  List.forall_mem_append

theorem zeroFree_append {xs ys : List Binary64} : ZeroFree (xs ++ ys) ↔ ZeroFree xs ∧ ZeroFree ys :=
  List.forall_mem_append

end SqlDml
