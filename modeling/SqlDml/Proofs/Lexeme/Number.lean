import SqlDml.Proofs.Lexeme.Following

/-!
# The grammar of numbers

* `IsInteger`, `IsReal` : the texts of numbers, each with the number that it writes;
* `Numeral.Formed` : the numerals with these texts (`isInteger_iff`, `isReal_iff`);
* `Lexeme.read_formed` : the text of such a numeral, alone, is its value or a malformed number;
* `Lexeme.exists_formed_of_kind` : every integer or real is read off such a numeral, and no name
  begins behind it.
-/

namespace SqlDml

/-! ## Grammar -/

/-- One digit or more. -/
def IsDigits (cs : List Char) : Prop := cs ≠ [] ∧ cs.all Char.isDigit

/-- Digits, with a minus in front or without, and the integer that they write. -/
inductive IsInteger : List Char → Int → Prop where
  | positive {digits : List Char} (h : IsDigits digits) :
      IsInteger digits (Nat.ofDigitChars 10 digits 0)
  | negative {digits : List Char} (h : IsDigits digits) :
      IsInteger ('-' :: digits) (-Nat.ofDigitChars 10 digits 0)

/-- Nothing, or a marker, a sign and digits, and the power of ten that they write. -/
inductive IsExponent : List Char → Int → Prop where
  | none : IsExponent [] 0
  | up {marker : Char} {digits : List Char} (hm : marker = 'e' ∨ marker = 'E')
      (h : IsDigits digits) :
      IsExponent (marker :: '+' :: digits) (Nat.ofDigitChars 10 digits 0)
  | down {marker : Char} {digits : List Char} (hm : marker = 'e' ∨ marker = 'E')
      (h : IsDigits digits) :
      IsExponent (marker :: '-' :: digits) (-Nat.ofDigitChars 10 digits 0)

/-- A point with digits before it, or with digits behind it only, perhaps a minus in front and an
exponent behind, and the decimal that they write. -/
inductive IsReal : List Char → Decimal → Prop where
  | whole {negative : Bool} {whole fraction exponent : List Char} {power : Int}
      (hw : IsDigits whole) (hf : fraction.all Char.isDigit) (he : IsExponent exponent power) :
      IsReal (signText negative ++ whole ++ '.' :: fraction ++ exponent)
        ⟨negative, Nat.ofDigitChars 10 (whole ++ fraction) 0, power - fraction.length⟩
  | pointed {negative : Bool} {fraction exponent : List Char} {power : Int}
      (hf : IsDigits fraction) (he : IsExponent exponent power) :
      IsReal (signText negative ++ '.' :: fraction ++ exponent)
        ⟨negative, Nat.ofDigitChars 10 fraction 0, power - fraction.length⟩

/-! ## Numerals -/

namespace Numeral

/-- A numeral as it may stand by itself: with digits before the point or behind it, and an exponent
only if it has a point. -/
structure Formed (n : Numeral) : Prop where
  whole : n.whole.all Char.isDigit
  fraction : ∀ digits ∈ n.fraction, digits.all Char.isDigit
  nonempty : n.whole ≠ [] ∨ ∃ digits ∈ n.fraction, digits ≠ []
  exponent : ∀ e ∈ n.exponent,
    n.fraction.isSome ∧ IsMarker e.marker ∧ IsSign e.sign ∧ IsDigits e.digits

variable {n : Numeral}

theorem Formed.exponent_eq_none (h : Formed n) (hf : n.fraction = none) : n.exponent = none := by
  refine Option.eq_none_iff_forall_ne_some.2 fun e he => ?_
  have := (h.exponent e he).1
  rw [hf] at this
  cases this

theorem Formed.written (h : Formed n) : Written n [] [] := by
  obtain ⟨negative, whole, fraction, exponent⟩ := n
  cases fraction with
  | none =>
    obtain rfl := h.exponent_eq_none rfl
    exact .integer h.whole nofun nofun
  | some fraction =>
    have hf := h.fraction fraction rfl
    cases exponent with
    | none => exact .real h.whole hf nofun (fun _ => nofun) nofun
    | some e =>
      obtain ⟨-, hm, hs, hd⟩ := h.exponent e rfl
      exact .scaled h.whole hf hm hs hd.1 hd.2 nofun

/-- What is left of the text behind the sign begins with a digit or with a point and a digit. -/
theorem Formed.startsUnsigned (h : Formed n) (rest : List Char) :
    startsUnsigned (n.whole ++ (fractionText n.fraction ++ rest)) := by
  obtain ⟨negative, whole, fraction, exponent⟩ := n
  cases whole with
  | cons d whole =>
    have hd := h.whole
    rw [List.all_cons, Bool.and_eq_true] at hd
    rw [List.cons_append, startsUnsigned_cons, if_neg (ne_of_pred hd.1 (by decide))]
    exact hd.1
  | nil =>
    obtain ⟨digits, hm, hne⟩ := h.nonempty.resolve_left (fun hne => hne rfl)
    have hd := h.fraction digits hm
    obtain ⟨d, digits, rfl⟩ := List.exists_cons_of_ne_nil hne
    obtain rfl : fraction = some (d :: digits) := hm
    rw [List.all_cons, Bool.and_eq_true] at hd
    exact hd.1

theorem text_eq_sign (n : Numeral) :
    n.text = signText n.negative ++
      (n.whole ++ (fractionText n.fraction ++ exponentText n.exponent)) := by
  rw [text, List.append_assoc, List.append_assoc]

theorem Formed.starts_append (h : Formed n) (rest : List Char) : starts (n.text ++ rest) := by
  have hu := h.startsUnsigned (exponentText n.exponent ++ rest)
  rw [text_eq_sign, List.append_assoc, List.append_assoc, List.append_assoc]
  cases n.negative with
  | true => exact hu
  | false => exact starts_of_startsUnsigned hu

theorem Formed.starts_text (h : Formed n) : starts n.text := by
  have hs := h.starts_append []
  rwa [List.append_nil] at hs

/-- Where the grammar lets the numeral end, it is read up to there. -/
theorem Formed.read_append (h : Formed n) {rest : List Char} (hw : Written n [] rest) :
    read (n.text ++ rest) = ⟨n, [], rest⟩ := by
  have hread := hw.read_append
  rw [List.append_nil] at hread
  refine hread fun hn hm => ?_
  have hu := h.startsUnsigned (exponentText n.exponent ++ rest)
  rw [text_eq_sign, hn, List.append_assoc, List.append_assoc, List.append_assoc] at hm
  obtain ⟨us, hus⟩ := List.head?_eq_some_iff.1 hm
  rw [show signText false ++ _ = _ from List.nil_append _] at hus
  rw [hus] at hu
  cases hu

theorem Formed.read_text (h : Formed n) : read n.text = ⟨n, [], []⟩ := by
  have hread := h.read_append h.written
  rwa [List.append_nil] at hread

/-- No numeral begins with a point that no digit follows. -/
theorem starts_point {negative : Bool} {cs : List Char}
    (h : ∀ c ∈ cs.head?, c.isDigit = false) : starts (signText negative ++ '.' :: cs) = false := by
  have hu : startsUnsigned ('.' :: cs) = false := by
    rw [startsUnsigned_cons, if_pos rfl]
    cases cs with
    | nil => rfl
    | cons c cs => exact h c rfl
  cases negative with
  | true => exact hu
  | false =>
    show starts ('.' :: cs) = false
    rwa [starts_cons, if_neg (by decide)]

/-- A numeral that is read where one begins has digits before its point or behind it. -/
theorem Written.formed {stray rest : List Char} (h : Written n stray rest)
    (hs : starts n.text) : Formed n := by
  have hreal {negative : Bool} {whole fraction : List Char} {exponent : Option Exponent}
      (hs : starts (text ⟨negative, whole, some fraction, exponent⟩))
      (he : ∀ c ∈ (exponentText exponent).head?, c.isDigit = false) :
      whole ≠ [] ∨ ∃ digits ∈ some fraction, digits ≠ [] := by
    by_cases hw : whole = []
    · refine .inr ⟨fraction, rfl, ?_⟩
      rintro rfl
      subst hw
      have hn := @starts_point negative _ he
      rw [text_eq_sign] at hs
      exact Bool.false_ne_true (hn.symm.trans hs)
    · exact .inl hw
  have hplaces {fraction : List Char} (hf : fraction.all Char.isDigit) :
      ∀ digits ∈ some fraction, digits.all Char.isDigit := by
    rintro _ ⟨⟩
    exact hf
  cases h with
  | @integer negative whole _ hw =>
    refine ⟨hw, nofun, .inl ?_, nofun⟩
    rintro rfl
    cases negative <;> cases hs
  | real hw hf => exact ⟨hw, hplaces hf, hreal hs (by simp [exponentText]), nofun⟩
  | scaled hw hf hm hsign hne hp =>
    refine ⟨hw, hplaces hf, hreal hs (hm.head_not_digit _), ?_⟩
    rintro e ⟨⟩
    exact ⟨rfl, hm, hsign, hne, hp⟩
  | spoilt hw hf => exact ⟨hw, hplaces hf, hreal hs (by simp [exponentText]), nofun⟩

/-! ## Values -/

theorem value?_eq_integer {i : Int64} :
    n.value? = some (.integer i) ↔ n.fraction = none ∧ n.integer = i.toInt := by
  unfold value?
  cases n.fraction with
  | none =>
    dsimp only
    split
    · rename_i hr
      rw [Option.some.injEq, Value.integer.injEq]
      constructor
      · rintro rfl
        rw [Int64.toInt_minValue, Int64.toInt_maxValue] at hr
        exact ⟨rfl, (Int64.toInt_ofInt_of_le hr.1 (Int.lt_of_le_sub_one hr.2)).symm⟩
      · rintro ⟨-, hi⟩
        rw [hi, Int64.ofInt_toInt]
    · rename_i hr
      refine iff_of_false nofun ?_
      rintro ⟨-, hi⟩
      exact hr ⟨hi ▸ i.minValue_le_toInt, hi ▸ i.toInt_le⟩
  | some digits =>
    dsimp only
    refine iff_of_false ?_ nofun
    split <;> nofun

theorem value?_eq_real {x : Binary64} :
    n.value? = some (.real x) ↔ n.fraction.isSome ∧ x = .ofDecimal n.decimal ∧ x.isFinite := by
  unfold value?
  cases n.fraction with
  | none =>
    dsimp only
    refine iff_of_false ?_ nofun
    split <;> nofun
  | some digits =>
    dsimp only
    split
    · rename_i hf
      rw [Option.some.injEq, Value.real.injEq]
      constructor
      · rintro rfl
        exact ⟨rfl, rfl, hf⟩
      · rintro ⟨-, rfl, -⟩
        rfl
    · rename_i hf
      refine iff_of_false nofun ?_
      rintro ⟨-, rfl, hx⟩
      exact hf hx

end Numeral

/-! ## Texts of numerals -/

/-- Digits without a point. -/
theorem Numeral.formed_of_isDigits {negative : Bool} {digits : List Char} (h : IsDigits digits) :
    Formed { negative, whole := digits } where
  whole := h.2
  fraction := nofun
  nonempty := .inl h.1
  exponent := nofun

theorem Numeral.text_digits (negative : Bool) (digits : List Char) :
    text { negative, whole := digits } = signText negative ++ digits := by
  simp [text_eq_sign, fractionText, exponentText]

theorem isInteger_iff {cs : List Char} {i : Int} :
    IsInteger cs i ↔ ∃ n : Numeral, n.Formed ∧ n.fraction = none ∧ n.text = cs ∧ n.integer = i := by
  constructor
  · intro h
    cases h with
    | positive h =>
      exact ⟨_, Numeral.formed_of_isDigits h, rfl, Numeral.text_digits false cs, rfl⟩
    | @negative digits h =>
      exact ⟨_, Numeral.formed_of_isDigits h, rfl, Numeral.text_digits true digits, rfl⟩
  · rintro ⟨n, hn, hf, rfl, rfl⟩
    have he := hn.exponent_eq_none hf
    obtain ⟨negative, whole, fraction, exponent⟩ := n
    obtain rfl : fraction = none := hf
    obtain rfl : exponent = none := he
    have hd : IsDigits whole := ⟨hn.nonempty.resolve_right (by simp), hn.whole⟩
    rw [Numeral.text_digits]
    cases negative with
    | true => exact .negative hd
    | false => exact .positive hd

theorem isExponent_iff {cs : List Char} {power : Int} :
    IsExponent cs power ↔ ∃ e : Option Numeral.Exponent, (∀ x ∈ e, Numeral.IsMarker x.marker ∧
      Numeral.IsSign x.sign ∧ IsDigits x.digits) ∧ Numeral.exponentText e = cs ∧
      (e.map Numeral.Exponent.power).getD 0 = power := by
  constructor
  · intro h
    cases h with
    | none => exact ⟨none, nofun, rfl, rfl⟩
    | @up marker digits hm h =>
      exact ⟨some ⟨marker, '+', digits⟩, by rintro _ ⟨⟩; exact ⟨hm, .inl rfl, h⟩, rfl, rfl⟩
    | @down marker digits hm h =>
      exact ⟨some ⟨marker, '-', digits⟩, by rintro _ ⟨⟩; exact ⟨hm, .inr rfl, h⟩, rfl, rfl⟩
  · rintro ⟨e, he, rfl, rfl⟩
    cases e with
    | none => exact .none
    | some e =>
      obtain ⟨marker, sign, digits⟩ := e
      obtain ⟨hm, rfl | rfl, hd⟩ := he _ rfl
      · exact .up hm hd
      · exact .down hm hd

theorem isReal_iff {cs : List Char} {d : Decimal} :
    IsReal cs d ↔ ∃ n : Numeral, n.Formed ∧ n.fraction.isSome ∧ n.text = cs ∧ n.decimal = d := by
  constructor
  · intro h
    cases h with
    | @whole negative whole fraction _ _ hw hf he =>
      obtain ⟨e, hparts, rfl, rfl⟩ := isExponent_iff.1 he
      refine ⟨{ negative, whole, fraction := some fraction, exponent := e },
        ⟨hw.2, ?_, .inl hw.1, fun x hx => ⟨rfl, hparts x hx⟩⟩, rfl, rfl, rfl⟩
      rintro _ ⟨⟩
      exact hf
    | @pointed negative fraction _ _ hf he =>
      obtain ⟨e, hparts, rfl, rfl⟩ := isExponent_iff.1 he
      refine ⟨{ negative, whole := [], fraction := some fraction, exponent := e },
        ⟨rfl, ?_, .inr ⟨fraction, rfl, hf.1⟩, fun x hx => ⟨rfl, hparts x hx⟩⟩, rfl, ?_, rfl⟩
      · rintro _ ⟨⟩
        exact hf.2
      · simp [Numeral.text, Numeral.fractionText]
  · rintro ⟨n, hn, hf, rfl, rfl⟩
    obtain ⟨negative, whole, fraction, exponent⟩ := n
    obtain ⟨fraction, rfl⟩ := Option.isSome_iff_exists.1 hf
    have hdigits := hn.fraction fraction rfl
    have he := isExponent_iff.2 ⟨exponent, fun e he => (hn.exponent e he).2, rfl, rfl⟩
    cases whole with
    | nil =>
      obtain ⟨_, ⟨⟩, hne⟩ := hn.nonempty.resolve_left fun hne => hne rfl
      have htext : Numeral.text ⟨negative, [], some fraction, exponent⟩ =
          signText negative ++ '.' :: fraction ++ Numeral.exponentText exponent := by
        simp [Numeral.text, Numeral.fractionText]
      rw [htext]
      exact .pointed ⟨hne, hdigits⟩ he
    | cons d whole =>
      exact .whole ⟨by simp, hn.whole⟩ hdigits he

/-! ## Lexemes -/

/-- Where a numeral begins, no layout does. -/
theorem Numeral.bare_of_starts {c : Char} {cs : List Char} (h : starts (c :: cs)) :
    Layout.isBlank c = false ∧ Layout.opensComment c cs = false := by
  rw [starts_cons] at h
  split at h
  · subst c
    have hm : cs.head? ≠ some '-' := by
      intro hm
      obtain ⟨us, rfl⟩ := List.head?_eq_some_iff.1 hm
      cases h
    simp [Layout.isBlank, Layout.opensComment, hm]
  · rename_i hm
    rw [startsUnsigned_cons] at h
    split at h
    · subst c
      exact ⟨rfl, rfl⟩
    · exact bare_of_pred h (by decide) cs

namespace Lexeme

theorem read_of_starts {c : Char} {cs : List Char} (h : Numeral.starts (c :: cs)) :
    read c cs = number (c :: cs) := by
  by_cases hc : c = '.'
  · subst hc
    simp [read, startsWord, h]
  · refine read_of_leadsNumber ?_ h
    rw [Numeral.starts_cons] at h
    split at h
    · subst c
      rfl
    · rw [Numeral.startsUnsigned_cons, if_neg hc] at h
      simp [leadsNumber, h]

/-- Integers and reals are read by the rule for numbers only. -/
theorem starts_of_kind {c : Char} {cs : List Char}
    (h : (read c cs).kind = .integer ∨ (read c cs).kind = .real) : Numeral.starts (c :: cs) := by
  have hliteral : (read c cs).kind.isLiteral := by rcases h with h | h <;> rw [h] <;> rfl
  rcases quoted_or_number hliteral with ⟨-, hq⟩ | ⟨hs, -⟩
  · rw [hq] at h
    unfold quoted at h
    dsimp only at h
    split at h <;> simp [verbatim] at h
  · exact hs

/-- An integer or a real is the value of a numeral, and no name begins right behind it. -/
theorem exists_formed_of_kind {c : Char} {cs : List Char}
    (h : (read c cs).kind = .integer ∨ (read c cs).kind = .real) :
    ∃ (n : Numeral) (v : Value) (rest : List Char), n.Formed ∧ n.value? = some v ∧
      rest.head?.any isNameChar = false ∧ read c cs = ⟨literalKind v, v, n.text, rest⟩ := by
  have hs := starts_of_kind h
  have hwritten := Numeral.written_read (c :: cs)
  have htext := Numeral.starts_text_read hs []
  rw [List.append_nil] at htext
  rw [read_of_starts hs] at h ⊢
  obtain ⟨n, stray, rest, hr⟩ : ∃ n stray rest, Numeral.read (c :: cs) = ⟨n, stray, rest⟩ :=
    ⟨_, _, _, rfl⟩
  rw [hr] at hwritten htext
  by_cases hv : ∃ v, stray = [] ∧ rest.head?.any isNameChar = false ∧ n.value? = some v
  · obtain ⟨v, rfl, hn, hv⟩ := hv
    exact ⟨n, v, rest, hwritten.formed htext, hv, hn, number_of_value hr hn hv⟩
  · rw [not_exists] at hv
    rw [number_of_no_value hr hv] at h
    simp [verbatim] at h

/-- A numeral by itself is read as its value, or is malformed if it has none. -/
theorem read_formed {n : Numeral} (h : n.Formed) :
    ∃ c cs, n.text = c :: cs ∧ Layout.isBlank c = false ∧ Layout.opensComment c cs = false ∧
      (∀ v, n.value? = some v → read c cs = ⟨literalKind v, v, c :: cs, []⟩) ∧
      (n.value? = none → read c cs =
        ⟨.invalid .malformedNumber, .text (String.ofList (c :: cs)), c :: cs, []⟩) := by
  have hs := h.starts_text
  have hr := h.read_text
  cases ht : n.text with
  | nil =>
    rw [ht] at hs
    cases hs
  | cons c cs =>
    rw [ht] at hs hr
    obtain ⟨hb, ho⟩ := Numeral.bare_of_starts hs
    refine ⟨c, cs, rfl, hb, ho, fun v hv => ?_, fun hv => ?_⟩
    · rw [read_of_starts hs, number_of_value hr rfl hv, ht]
    · rw [read_of_starts hs, number_of_no_value hr (by simp [hv]), ht]
      simp [verbatim]

end Lexeme

end SqlDml
