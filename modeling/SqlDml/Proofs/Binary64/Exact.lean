import SqlDml.Binary64.Text

/-!
# Numbers that their text reads back

* `Binary64.roundUnits_unitsOf` : rounding returns the magnitude of a number that is one;
* `Binary64.ReadAs` : a decimal is read as a number;
* `Binary64.readAs_shortest` : the shortest decimal of a number is read as that number;
* `Binary64.readAs_whole` : so are all the digits of a whole number, a point and a zero;
* `Binary64.exponent_shortest` : the shortest decimal of a number that is not whole has a point.
-/

namespace SqlDml.Binary64

/-! ## Magnitudes and units -/

theorem mul_unitsPerOne (n : Nat) : n * unitsPerOne = n <<< unitPlaces := by
  rw [unitsPerOne, Nat.one_shiftLeft, Nat.shiftLeft_eq]

theorem unitsPerOne_pos : 0 < unitsPerOne := by
  rw [unitsPerOne, Nat.shiftLeft_pos_iff]
  exact Nat.one_pos

theorem unitsOf_of_lt {m : Nat} (h : m < binade) : unitsOf m = m := by
  have hd : m / binade = 0 := Nat.div_eq_of_lt h
  rw [unitsOf, significand, if_pos h, scale, hd]
  rfl

theorem unitsOf_of_le {m : Nat} (h : binade ≤ m) :
    unitsOf m = (binade + m % binade) <<< (m / binade - 1) := by
  rw [unitsOf, significand, if_neg (Nat.not_lt.2 h), scale]

theorem significand_eq_zero {m : Nat} : significand m = 0 ↔ m = 0 := by
  unfold significand binade
  split <;> omega

theorem unitsOf_eq_zero {m : Nat} : unitsOf m = 0 ↔ m = 0 := by
  rw [unitsOf, Nat.shiftLeft_eq_zero_iff, significand_eq_zero]

theorem log2_shiftLeft {s e : Nat} (hl : binade ≤ s) (hu : s < 2 * binade) :
    (s <<< e).log2 = 52 + e := by
  have hs : s ≠ 0 := Nat.ne_of_gt (Nat.lt_of_lt_of_le (by decide) hl)
  have hbinade : s.log2 = 52 := (Nat.log2_eq_iff hs).2 ⟨hl, hu⟩
  induction e with
  | zero => exact hbinade
  | succ e ih =>
    have hne : s <<< e ≠ 0 := mt Nat.shiftLeft_eq_zero_iff.1 hs
    rw [Nat.shiftLeft_succ, Nat.log2_two_mul hne, ih, Nat.add_assoc]

/-- The scale of a magnitude is the one that rounding finds from its units. -/
theorem scale_eq_log2 (m : Nat) : (unitsOf m).log2 - 52 = scale m := by
  by_cases h : m < binade
  · rw [unitsOf_of_lt h, scale, Nat.div_eq_of_lt h]
    by_cases h0 : m = 0
    · simp [h0]
    · have hlog : m.log2 < 52 := (Nat.log2_lt h0).2 h
      omega
  · have hmod := Nat.mod_lt m (show 0 < binade by decide)
    rw [unitsOf_of_le (by omega), log2_shiftLeft (by omega) (by omega), scale]
    omega

theorem scale_add_significand (m : Nat) : scale m * binade + significand m = m := by
  unfold scale significand binade
  split <;> omega

theorem roundHalfEven_mul {s den : Nat} (h : 0 < den) : roundHalfEven (s * den) den = s := by
  rw [roundHalfEven, Nat.mul_div_cancel _ h, Nat.mul_mod_left]
  exact if_pos (.inl (by omega))

theorem roundUnits_unitsOf {m den : Nat} (hm : m < infinity) (hd : 0 < den) :
    roundUnits (unitsOf m * den) den = m := by
  have hpos : 0 < den <<< scale m := Nat.shiftLeft_pos_iff.2 hd
  have hq : unitsOf m * den = significand m * den <<< scale m := by
    rw [unitsOf, Nat.shiftLeft_eq, Nat.shiftLeft_eq, Nat.mul_assoc, Nat.mul_comm den]
  rw [roundUnits, Nat.mul_div_cancel _ hd, scale_eq_log2, hq, roundHalfEven_mul hpos,
    scale_add_significand]
  exact Nat.min_eq_right (by omega)

/-! ## Whole magnitudes -/

theorem le_roundHalfEven (num den : Nat) :
    num / den ≤ roundHalfEven num den ∧ roundHalfEven num den ≤ num / den + 1 := by
  rw [roundHalfEven]
  split <;> omega

/-- The units of a magnitude put together from a scale and a significand, which may carry. -/
theorem unitsOf_add {e s : Nat} (hl : binade ≤ s) (hu : s ≤ 2 * binade) :
    unitsOf (e * binade + s) = s <<< e := by
  rw [unitsOf_of_le (by omega)]
  by_cases hc : s = 2 * binade
  · have hd : (e * binade + s) / binade - 1 = e + 1 := by unfold binade at hc ⊢; omega
    have hm : (e * binade + s) % binade = 0 := by unfold binade at hc ⊢; omega
    rw [hd, hm, hc, Nat.add_zero, Nat.shiftLeft_succ_inside]
  · have hd : (e * binade + s) / binade - 1 = e := by unfold binade at hl hu hc ⊢; omega
    have hm : binade + (e * binade + s) % binade = s := by unfold binade at hl hu hc ⊢; omega
    rw [hd, hm]

/-- At scale zero the significand may be small. -/
theorem unitsOf_scaled {e s : Nat} (hl : e = 0 ∨ binade ≤ s) (hu : s ≤ 2 * binade) :
    unitsOf (e * binade + s) = s <<< e := by
  by_cases hs : binade ≤ s
  · exact unitsOf_add hs hu
  · obtain rfl : e = 0 := by omega
    rw [Nat.zero_mul, Nat.zero_add, unitsOf_of_lt (by omega), Nat.shiftLeft_zero]

/-- What the scale leaves of a quotient is a significand. -/
theorem scaled_bounds (n : Nat) :
    (n.log2 - 52 = 0 ∨ binade ≤ n >>> (n.log2 - 52)) ∧ n >>> (n.log2 - 52) < 2 * binade := by
  have hpos := Nat.two_pow_pos (n.log2 - 52)
  have hlt : n < 2 ^ (n.log2 + 1) := Nat.lt_log2_self
  rw [Nat.shiftRight_eq_div_pow, Nat.div_lt_iff_lt_mul hpos, Nat.le_div_iff_mul_le hpos,
    show 2 * binade = 2 ^ 53 from rfl, show binade = 2 ^ 52 from rfl, ← Nat.pow_add,
    ← Nat.pow_add]
  constructor
  · by_cases h : n.log2 ≤ 52
    · exact .inl (by omega)
    · have hn : n ≠ 0 := by
        rintro rfl
        exact h (by decide)
      rw [show 52 + (n.log2 - 52) = n.log2 by omega]
      exact .inr (Nat.log2_self_le hn)
  · exact Nat.lt_of_lt_of_le hlt (Nat.pow_le_pow_right (by decide) (by omega))

theorem div_shiftLeft (num den e : Nat) : num / (den <<< e) = (num / den) >>> e := by
  rw [Nat.shiftLeft_eq, Nat.shiftRight_eq_div_pow, Nat.div_div_eq_div_mul]

/-- What a whole count of ones rounds to is a whole count of ones. -/
theorem dvd_unitsOf_roundUnits {n places : Nat} (hf : roundUnits (n <<< places) 1 < infinity) :
    1 <<< places ∣ unitsOf (roundUnits (n <<< places) 1) := by
  obtain ⟨hl, hu⟩ := scaled_bounds (n <<< places)
  generalize hscale : (n <<< places).log2 - 52 = e at hl hu
  have hround : roundUnits (n <<< places) 1 =
      min infinity (e * binade + roundHalfEven (n <<< places) (1 <<< e)) := by
    rw [roundUnits, Nat.div_one, hscale]
  have hr := le_roundHalfEven (n <<< places) (1 <<< e)
  rw [div_shiftLeft, Nat.div_one] at hr
  have hmag : roundUnits (n <<< places) 1 =
      e * binade + roundHalfEven (n <<< places) (1 <<< e) := by omega
  rw [hmag, unitsOf_scaled (by omega) (by omega)]
  by_cases he : places ≤ e
  · rw [Nat.one_shiftLeft, Nat.shiftLeft_eq]
    exact Nat.dvd_mul_left_of_dvd (Nat.pow_dvd_pow 2 he) _
  · -- The quotient is whole, so nothing is rounded.
    have hsplit : n <<< places = n <<< (places - e) <<< e := by
      rw [← Nat.shiftLeft_add, Nat.sub_add_cancel (by omega)]
    have hwhole : roundHalfEven (n <<< places) (1 <<< e) = n <<< (places - e) := by
      rw [hsplit, Nat.shiftLeft_eq _ e, Nat.one_shiftLeft, roundHalfEven_mul (Nat.two_pow_pos e)]
    rw [hwhole, ← hsplit, Nat.one_shiftLeft, Nat.shiftLeft_eq]
    exact Nat.dvd_mul_left _ n

theorem dvd_unitsOf_nearestMagnitude {digits zeros : Nat}
    (hf : nearestMagnitude digits (.ofNat zeros) < infinity) :
    unitsPerOne ∣ unitsOf (nearestMagnitude digits (.ofNat zeros)) := by
  unfold nearestMagnitude at hf ⊢
  by_cases h0 : digits = 0
  · rw [if_pos h0, unitsOf_eq_zero.2 rfl]
    exact Nat.dvd_zero _
  rw [if_neg h0] at hf ⊢
  by_cases hb : (310 : Int) < .ofNat zeros
  · rw [if_pos hb] at hf
    exact absurd hf (Nat.lt_irrefl _)
  have hs : ¬(Int.ofNat zeros + digits.log2 < -330) := by
    have : (0 : Int) ≤ .ofNat zeros := Int.natCast_nonneg zeros
    omega
  rw [if_neg hb, if_neg hs] at hf ⊢
  dsimp only at hf ⊢
  rw [mul_unitsPerOne] at hf ⊢
  exact dvd_unitsOf_roundUnits hf

/-! ## Decimals that are read back -/

theorem ofMagnitude_magnitude (x : Binary64) : ofMagnitude x.negative x.magnitude = x := by
  have hlt := x.bits.toNat_lt
  have hsum : (if x.negative then signBit else 0) + x.magnitude = x.bits.toNat := by
    rw [negative, magnitude]
    by_cases h : signBit ≤ x.bits.toNat
    · rw [if_pos (decide_eq_true h)]
      unfold signBit at h ⊢
      omega
    · rw [if_neg (by simpa using h)]
      unfold signBit at h ⊢
      omega
  rw [ofMagnitude, hsum, UInt64.ofNat_toNat]

/-- What makes a number of the decimal. -/
structure ReadAs (d : Decimal) (x : Binary64) : Prop where
  negative : d.negative = x.negative
  magnitude : nearestMagnitude d.digits d.exponent = x.magnitude

theorem ReadAs.ofDecimal_eq {d : Decimal} {x : Binary64} (h : ReadAs d x) : ofDecimal d = x := by
  rw [ofDecimal, h.negative, h.magnitude, ofMagnitude_magnitude]

/-- A decimal of as many units as a magnitude has is read as that magnitude, unless it is so small
that its digits are not looked at. -/
theorem nearestMagnitude_exact {m digits k : Nat} (hm : m < infinity) (h0 : digits ≠ 0)
    (hs : k < 330 + digits.log2)
    (hu : digits * unitsPerOne = unitsOf m * Nat.pow 10 (k + 1)) :
    nearestMagnitude digits (.negSucc k) = m := by
  have hk : Int.negSucc k = -(k + 1 : Int) := Int.negSucc_eq k
  rw [nearestMagnitude, if_neg h0, if_neg (by omega), if_neg (by omega)]
  show roundUnits (digits * unitsPerOne) (Nat.pow 10 (k + 1)) = m
  rw [hu]
  exact roundUnits_unitsOf hm (Nat.pow_pos (by decide))

theorem magnitude_lt {x : Binary64} (hf : x.isFinite) : x.magnitude < infinity :=
  of_decide_eq_true hf

theorem ones_mul_unitsPerOne {x : Binary64} (hw : x.isWhole) :
    x.units / unitsPerOne * unitsPerOne = x.units :=
  Nat.div_mul_cancel (Nat.dvd_of_mod_eq_zero (by simpa [isWhole] using hw))

theorem readAs_whole {x : Binary64} (hf : x.isFinite) (hw : x.isWhole) :
    ReadAs ⟨x.negative, x.units / unitsPerOne * 10, -1⟩ x := by
  have hones := ones_mul_unitsPerOne hw
  generalize x.units / unitsPerOne = ones at hones
  refine ⟨rfl, ?_⟩
  by_cases h0 : ones = 0
  · have hz : x.magnitude = 0 := unitsOf_eq_zero.1 (by rw [← units, ← hones, h0, Nat.zero_mul])
    rw [hz, h0]
    rfl
  · show nearestMagnitude (ones * 10) (.negSucc 0) = x.magnitude
    have hu : ones * 10 * unitsPerOne = unitsOf x.magnitude * Nat.pow 10 (0 + 1) := by
      rw [Nat.mul_right_comm, hones]
      rfl
    exact nearestMagnitude_exact (magnitude_lt hf) (by omega) (by omega) hu

theorem two_mul_le_log2 {n : Nat} (h0 : n ≠ 0) (places : Nat) :
    n * Nat.pow 5 places ≠ 0 ∧ 2 * places ≤ (n * Nat.pow 5 places).log2 := by
  have hne : n * Nat.pow 5 places ≠ 0 :=
    Nat.mul_ne_zero h0 (Nat.ne_of_gt (Nat.pow_pos (by decide)))
  refine ⟨hne, (Nat.le_log2 hne).2 ?_⟩
  calc 2 ^ (2 * places) = 4 ^ places := Nat.pow_mul 2 2 places
    _ ≤ 5 ^ places := Nat.pow_le_pow_left (by decide) places
    _ ≤ n * 5 ^ places := Nat.le_mul_of_pos_left _ (by omega)

/-- So many units are a decimal of as many places. -/
theorem shiftLeft_mul_five (n places : Nat) :
    (n * Nat.pow 5 places) <<< places = n * Nat.pow 10 places := by
  rw [Nat.shiftLeft_eq, Nat.pow_eq, Nat.pow_eq, Nat.mul_assoc, ← Nat.mul_pow]

theorem readAs_exact {x : Binary64} (hf : x.isFinite) (h0 : ¬x.isZero) : ReadAs x.exact x := by
  have hu : x.units ≠ 0 := by
    intro hu
    exact h0 (by rw [isZero, unitsOf_eq_zero.1 hu]; rfl)
  obtain ⟨hne, hlog⟩ := two_mul_le_log2 hu unitPlaces
  have hsum := shiftLeft_mul_five x.units unitPlaces
  rw [← mul_unitsPerOne] at hsum
  obtain ⟨k, hk⟩ : ∃ k, unitPlaces = k + 1 := ⟨1073, rfl⟩
  have hexponent : -(unitPlaces : Int) = .negSucc k := by rw [hk]; rfl
  rw [hk] at hne hlog hsum
  refine ⟨rfl, ?_⟩
  rw [exact, hexponent, hk]
  dsimp only
  exact nearestMagnitude_exact (magnitude_lt hf) hne (by omega) hsum

/-! ## The shortest decimal -/

theorem negative_gridPoint (negative : Bool) (digits : Nat) (exponent : Int) :
    (gridPoint negative digits exponent).negative = negative := by
  rw [gridPoint]
  split <;> rfl

theorem ReadAs.of_readsBack {x : Binary64} {d : Decimal} (hn : d.negative = x.negative)
    (hr : x.readsBack d) : ReadAs d x :=
  ⟨hn, by simpa [readsBack] using hr⟩

theorem readAs_onGrid {x : Binary64} {exponent : Int} {d : Decimal}
    (h : x.onGrid? exponent = some d) : ReadAs d x := by
  unfold onGrid? at h
  dsimp only at h
  split at h
  · rename_i hl
    cases h
    rw [Bool.and_eq_true] at hl
    exact .of_readsBack (negative_gridPoint _ _ _) hl.1
  split at h
  · rename_i hh
    cases h
    exact .of_readsBack (negative_gridPoint _ _ _) hh
  · cases h

theorem readAs_shortest {x : Binary64} (hf : x.isFinite) : ReadAs x.shortest x := by
  unfold shortest
  by_cases h0 : x.isZero
  · rw [if_pos h0]
    have hz : x.magnitude = 0 := by simpa [isZero] using h0
    exact ⟨rfl, by rw [hz]; rfl⟩
  rw [if_neg h0]
  dsimp only
  cases hs : (List.range 17).findSome? fun (more : Nat) =>
      x.onGrid? (leadingPower x.units unitsPerOne - more) with
  | none => exact readAs_exact hf h0
  | some d =>
    obtain ⟨more, -, hd⟩ := List.exists_of_findSome?_eq_some hs
    exact readAs_onGrid hd

theorem exponent_shortest {x : Binary64} (hf : x.isFinite) (hw : ¬x.isWhole) :
    ∃ places, x.shortest.exponent = .negSucc places := by
  have hr := (readAs_shortest hf).magnitude
  have hm := magnitude_lt hf
  cases he : x.shortest.exponent with
  | negSucc places => exact ⟨places, rfl⟩
  | ofNat zeros =>
    rw [he] at hr
    rw [← hr] at hm
    have hdvd := dvd_unitsOf_nearestMagnitude hm
    rw [hr] at hdvd
    exact absurd (by rw [isWhole, units, Nat.mod_eq_zero_of_dvd hdvd]; rfl) hw

end SqlDml.Binary64
