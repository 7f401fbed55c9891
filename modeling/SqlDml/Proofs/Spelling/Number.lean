import SqlDml.Literal
import SqlDml.Proofs.Binary64.Exact
import SqlDml.Proofs.Lexeme.Number
import SqlDml.Proofs.Spelling.Word

/-!
# Numbers

* `Numeral.Plain` : a numeral as it is written: digits, perhaps a point and digits, no exponent;
* `isLexeme_numeral` : the text of a numeral that has a value is one lexeme with that value;
* `isLexeme_integer`, `isLexeme_real` : the text of a number is one lexeme with that number;
* `Mark.count`, `reads_count` : a count of any size, which is malformed if no integer can be it.
-/

namespace SqlDml

/-! ## Numerals as they are written -/

structure Numeral.Plain (n : Numeral) : Prop where
  whole_ne_nil : n.whole ≠ []
  whole_digits : n.whole.all Char.isDigit
  fraction_digits : ∀ digits ∈ n.fraction, digits.all Char.isDigit
  exponent_eq : n.exponent = none

theorem Numeral.Plain.formed {n : Numeral} (h : n.Plain) : n.Formed where
  whole := h.whole_digits
  fraction := h.fraction_digits
  nonempty := .inl h.whole_ne_nil
  exponent := by simp [h.exponent_eq]

/-! ## Spelling numerals -/

theorem valid_literalKind (v : Value) : (Lexeme.literalKind v).isInvalid = false := by
  cases v <;> rfl

theorem isLexeme_numeral {n : Numeral} {v : Value} (h : n.Formed) (hv : n.value? = some v) :
    IsLexeme n.text (Lexeme.literalKind v, v) := by
  have hs := h.starts_text
  obtain ⟨c, cs, htext, hb, ho, hread, -⟩ := Lexeme.read_formed h
  rw [htext] at hs ⊢
  refine isLexeme_of_alone hb ho (hread v hv) (valid_literalKind v) ?_
  rintro rfl
  cases hs

/-- The text of a numeral that is out of range is one malformed number. -/
theorem reads_malformed {n : Numeral} {text : String} (h : n.Formed) (ht : n.text = text.toList)
    (hv : n.value? = none) : Reads text [(.invalid .malformedNumber, .text text)] := by
  have hs := h.starts_text
  obtain ⟨c, cs, htext, hb, ho, -, hnone⟩ := Lexeme.read_formed h
  have hread := hnone hv
  rw [← htext, ht, String.ofList_toList] at hread
  have hp : (Lexeme.read c cs).text ≠ ['%'] := by
    rw [hread, ← ht]
    intro (hp : n.text = ['%'])
    rw [hp] at hs
    cases hs
  intro rest hr
  have hpieces := pieces_read_append hb ho (by rw [hread]; nofun) hp hr
  rw [hread] at hpieces
  rw [marks, hpieces]
  rfl

/-! ## Digits -/

theorem all_isDigit_digitText (n : Nat) : (digitText n).all Char.isDigit :=
  List.all_eq_true.2 fun _ hc => Nat.isDigit_of_mem_toDigits (by decide) (by decide) hc

theorem ofDigitChars_digitText (n : Nat) : Nat.ofDigitChars 10 (digitText n) 0 = n :=
  Nat.ofDigitChars_ten_toDigits

theorem digitText_ne_nil (n : Nat) : digitText n ≠ [] := Nat.toDigits_ne_nil

/-- Digits without a point. -/
def Numeral.ofDigits (negative : Bool) (n : Nat) : Numeral := { negative, whole := digitText n }

theorem Numeral.plain_ofDigits (negative : Bool) (n : Nat) : (ofDigits negative n).Plain where
  whole_ne_nil := digitText_ne_nil n
  whole_digits := all_isDigit_digitText n
  fraction_digits := nofun
  exponent_eq := rfl

theorem Numeral.integer_ofDigits (negative : Bool) (n : Nat) :
    (ofDigits negative n).integer = if negative then -(n : Int) else n := by
  rw [integer, ofDigits, ofDigitChars_digitText]

theorem Numeral.value?_ofDigits {negative : Bool} {n : Nat} {i : Int64}
    (h : (ofDigits negative n).integer = i.toInt) :
    (ofDigits negative n).value? = some (.integer i) := by
  have hl := i.minValue_le_toInt
  have hu := i.toInt_le
  rw [value?]
  show (if _ then _ else _) = _
  rw [h, if_pos ⟨hl, hu⟩, Int64.ofInt_toInt]

theorem isLexeme_integer (i : Int64) : IsLexeme (integerText i) (.integer, .integer i) := by
  have hi : (Numeral.ofDigits (i.toInt < 0) i.toInt.natAbs).integer = i.toInt := by
    rw [Numeral.integer_ofDigits]
    by_cases hn : i.toInt < 0
    · rw [if_pos (decide_eq_true hn)]
      omega
    · rw [if_neg (by simpa using hn)]
      omega
  have hs := isLexeme_numeral (Numeral.plain_ofDigits _ _).formed (Numeral.value?_ofDigits hi)
  have ht : (Numeral.ofDigits (i.toInt < 0) i.toInt.natAbs).text = integerText i := by
    simp [Numeral.text, Numeral.ofDigits, Numeral.fractionText, Numeral.exponentText, integerText]
  rwa [ht] at hs

/-! ## Counts -/

theorem Numeral.text_ofDigits (n : Nat) : (ofDigits false n).text = (toString n).toList := by
  have ht : (toString n).toList = digitText n := String.toList_ofList
  rw [ht]
  simp [text, ofDigits, fractionText, exponentText, signText]

/-- A count that a 64-bit integer can be. -/
theorem spells_natural {n : Nat} (h : n ≤ Int64.maxValue.toInt) :
    Spells (toString n) [(.integer, .integer (.ofNat n))] := by
  have hi : (Numeral.ofDigits false n).integer = (Int64.ofNat n).toInt := by
    rw [Int64.toInt_maxValue] at h
    rw [Numeral.integer_ofDigits, Int64.toInt_ofNat_of_lt (by omega)]
    rfl
  have hs := isLexeme_numeral (Numeral.plain_ofDigits _ _).formed (Numeral.value?_ofDigits hi)
  rw [Numeral.text_ofDigits] at hs
  exact hs.spells

/-- The mark of a count, an integer if it is in range. -/
def Mark.count (n : Nat) : Mark :=
  if n ≤ Int64.maxValue.toInt then (.integer, .integer (.ofNat n))
  else (.invalid .malformedNumber, .text (toString n))

theorem Mark.isInvalid_count (n : Nat) :
    (count n).1.isInvalid = false ↔ n ≤ Int64.maxValue.toInt := by
  by_cases h : n ≤ Int64.maxValue.toInt
  · rw [count, if_pos h]
    exact iff_of_true rfl h
  · rw [count, if_neg h]
    exact iff_of_false nofun h

theorem reads_count (n : Nat) : Reads (toString n) [Mark.count n] := by
  by_cases h : n ≤ Int64.maxValue.toInt
  · rw [Mark.count, if_pos h]
    exact (spells_natural h).reads
  · rw [Mark.count, if_neg h]
    refine reads_malformed (Numeral.plain_ofDigits false n).formed (Numeral.text_ofDigits n) ?_
    have hi : (Numeral.ofDigits false n).integer = n := Numeral.integer_ofDigits false n
    rw [Numeral.value?]
    show (if _ then _ else _) = _
    rw [hi, if_neg (mt And.right h)]

/-! ## Decimals with a point -/

theorem Numeral.value?_of_readAs {n : Numeral} {x : Binary64} (hp : n.fraction.isSome)
    (hf : x.isFinite) (h : Binary64.ReadAs n.decimal x) : n.value? = some (.real x) := by
  obtain ⟨digits, hd⟩ := Option.isSome_iff_exists.1 hp
  rw [value?, hd]
  dsimp only
  rw [h.ofDecimal_eq, if_pos hf]

/-- Digits with the last `places` behind a point, zeros before them where there are too few. -/
theorem Decimal.pointed_eq (digits : List Char) (places : Nat) :
    ∃ whole fraction zeros, pointed digits places = whole ++ '.' :: fraction ∧ whole ≠ [] ∧
      fraction.length = places ∧ whole ++ fraction = List.replicate zeros '0' ++ digits := by
  generalize hp : List.replicate (places + 1 - digits.length) '0' ++ digits = padded
  have hlen : places < padded.length := by
    rw [← hp, List.length_append, List.length_replicate]
    omega
  refine ⟨padded.take (padded.length - places), padded.drop (padded.length - places),
    places + 1 - digits.length, by rw [pointed, hp], ?_, ?_, ?_⟩
  · intro hnil
    have := congrArg List.length hnil
    rw [List.length_take, List.length_nil] at this
    omega
  · rw [List.length_drop]
    omega
  · rw [List.take_append_drop, hp]

theorem Decimal.text_pointed {d : Decimal} {places : Nat} (h : d.exponent = .negSucc places) :
    ∃ n : Numeral, n.Plain ∧ n.fraction.isSome ∧ n.text = d.text ∧ n.decimal = d := by
  obtain ⟨negative, size, exponent⟩ := d
  obtain rfl : exponent = .negSucc places := h
  obtain ⟨whole, fraction, zeros, hp, hne, hlen, hsum⟩ := pointed_eq (digitText size) (places + 1)
  have hall : (whole ++ fraction).all Char.isDigit := by
    rw [hsum, List.all_append, all_isDigit_digitText, Bool.and_true, List.all_replicate]
    simp
  rw [List.all_append, Bool.and_eq_true] at hall
  refine ⟨{ negative, whole, fraction := some fraction }, ⟨hne, hall.1, ?_, rfl⟩, rfl, ?_, ?_⟩
  · rintro digits ⟨⟩
    exact hall.2
  · show signText negative ++ whole ++ '.' :: fraction ++ [] =
      signText negative ++ pointed (digitText size) (places + 1)
    rw [hp, List.append_nil, List.append_assoc]
  · have hdigits : Nat.ofDigitChars 10 (whole ++ fraction) 0 = size := by
      rw [hsum, Nat.ofDigitChars_append, Nat.ofDigitChars_replicate_zero, Nat.mul_zero,
        ofDigitChars_digitText]
    rw [Numeral.decimal]
    simp only [Option.getD_some, hdigits, hlen, Option.map_none, Option.getD_none]
    rw [Int.negSucc_eq]
    simp

/-- The text of a whole number is a numeral with one place behind the point. -/
theorem Binary64.wholeText_eq (x : Binary64) :
    ∃ n : Numeral, n.Plain ∧ n.fraction.isSome ∧ n.text = x.wholeText ∧
      n.decimal = ⟨x.negative, x.units / unitsPerOne * 10, -1⟩ := by
  generalize hn : x.units / unitsPerOne = ones
  refine ⟨{ negative := x.negative, whole := digitText ones, fraction := some ['0'] },
    ⟨digitText_ne_nil _, all_isDigit_digitText _, ?_, rfl⟩, rfl, ?_, ?_⟩
  · rintro digits ⟨⟩
    rfl
  · rw [wholeText, hn]
    simp [Numeral.text, Numeral.fractionText, Numeral.exponentText]
  · have hdigits : Nat.ofDigitChars 10 (digitText ones ++ ['0']) 0 = ones * 10 := by
      rw [Nat.ofDigitChars_append, ofDigitChars_digitText, Nat.ofDigitChars_cons, Nat.mul_comm]
      rfl
    rw [Numeral.decimal]
    simp only [Option.getD_some, hdigits]
    rfl

theorem isLexeme_real {x : Binary64} (hf : x.isFinite) :
    IsLexeme (Literal.realText x) (.real, .real x) := by
  have hx : ∃ n : Numeral, n.Plain ∧ n.fraction.isSome ∧ n.text = Literal.realText x ∧
      Binary64.ReadAs n.decimal x := by
    rw [Literal.realText]
    by_cases hw : x.isWhole
    · obtain ⟨n, hp, hs, ht, hd⟩ := x.wholeText_eq
      rw [hf, hw]
      exact ⟨n, hp, hs, ht, hd ▸ Binary64.readAs_whole hf hw⟩
    · obtain ⟨places, he⟩ := Binary64.exponent_shortest hf hw
      obtain ⟨n, hp, hs, ht, hd⟩ := Decimal.text_pointed he
      have hnan : x.isNaN = false := by
        have := Binary64.magnitude_lt hf
        exact decide_eq_false (by omega)
      rw [hf, Bool.eq_false_iff.2 hw, Binary64.text, hnan, hf]
      exact ⟨n, hp, hs, ht, hd ▸ Binary64.readAs_shortest hf⟩
  obtain ⟨n, hp, hs, ht, hd⟩ := hx
  have hn := isLexeme_numeral hp.formed (Numeral.value?_of_readAs hs hf hd)
  rwa [ht] at hn

end SqlDml
