import SqlDml.Proofs.Lexeme.Dispatch

/-!
# What a numeral is

* `Numeral.Written` : a numeral, what spoils it and the text behind it, as a grammar;
* `Numeral.written_read` : what is read is written so;
* `Numeral.Written.read_append` : what is written so is read back.

The text behind decides where a numeral ends, by its first two characters.
-/

namespace SqlDml.Numeral

/-- What begins an exponent. -/
def IsMarker (c : Char) : Prop := c = 'e' ∨ c = 'E'

/-- What follows the marker of an exponent. -/
def IsSign (c : Char) : Prop := c = '+' ∨ c = '-'

/-- `Written n stray rest` : the numeral `n` and the marker `stray` that spoils it, if any, are all
that is read before `rest`. -/
inductive Written : Numeral → List Char → List Char → Prop where
  | integer {negative : Bool} {whole rest : List Char} (digits : whole.all Char.isDigit)
      (ends : ∀ c ∈ rest.head?, c.isDigit = false)
      (point : ∀ cs, rest = '.' :: cs → cs.head? = some '.') :
      Written { negative, whole } [] rest
  | real {negative : Bool} {whole fraction rest : List Char} (digits : whole.all Char.isDigit)
      (places : fraction.all Char.isDigit) (ends : ∀ c ∈ rest.head?, c.isDigit = false)
      (point : fraction = [] → rest.head? ≠ some '.') (marker : ∀ c ∈ rest.head?, ¬IsMarker c) :
      Written { negative, whole, fraction := some fraction } [] rest
  | scaled {negative : Bool} {whole fraction power rest : List Char} {marker sign : Char}
      (digits : whole.all Char.isDigit) (places : fraction.all Char.isDigit)
      (marks : IsMarker marker) (signs : IsSign sign) (nonempty : power ≠ [])
      (powers : power.all Char.isDigit) (ends : ∀ c ∈ rest.head?, c.isDigit = false) :
      Written { negative, whole, fraction := some fraction, exponent := some ⟨marker, sign, power⟩ }
        [] rest
  | spoilt {negative : Bool} {whole fraction rest : List Char} {marker : Char}
      (digits : whole.all Char.isDigit) (places : fraction.all Char.isDigit)
      (marks : IsMarker marker)
      (lacks : ∀ sign cs, rest = sign :: cs → IsSign sign → cs.head?.any Char.isDigit = false) :
      Written { negative, whole, fraction := some fraction } [marker] rest

/-! ## Parts -/

theorem readSign_signText {negative : Bool} {cs : List Char}
    (h : negative = false → cs.head? ≠ some '-') :
    readSign (signText negative ++ cs) = (negative, cs) := by
  cases negative with
  | true => rfl
  | false =>
    show readSign cs = (false, cs)
    unfold readSign
    split
    · exact absurd rfl (h rfl)
    · rfl

theorem readFraction_none {cs : List Char} (h : ∀ ds, cs = '.' :: ds → ds.head? = some '.') :
    readFraction cs = (none, cs) := by
  unfold readFraction
  split
  · rw [if_pos (h _ rfl)]
  · rfl

theorem readFraction_some {cs : List Char} (h : cs.head? ≠ some '.') :
    readFraction ('.' :: cs) =
      (some (cs.takeWhile Char.isDigit), cs.dropWhile Char.isDigit) := if_neg h

theorem readExponent_none {cs : List Char} (h : ∀ c ∈ cs.head?, ¬IsMarker c) :
    readExponent cs = (none, [], cs) := by
  unfold readExponent
  split
  · exact if_neg (h _ rfl)
  · exact if_neg (h _ rfl)
  · rfl

theorem readExponent_scaled {marker sign : Char} {cs : List Char} (hm : IsMarker marker)
    (hs : IsSign sign) (hd : cs.head?.any Char.isDigit) :
    readExponent (marker :: sign :: cs) =
      (some ⟨marker, sign, cs.takeWhile Char.isDigit⟩, [], cs.dropWhile Char.isDigit) := by
  have hboth : (sign = '+' ∨ sign = '-') ∧ cs.head?.any Char.isDigit := ⟨hs, hd⟩
  exact (if_pos hm).trans (if_pos hboth)

theorem readExponent_spoilt {marker : Char} {cs : List Char} (hm : IsMarker marker)
    (hl : ∀ sign ds, cs = sign :: ds → IsSign sign → ds.head?.any Char.isDigit = false) :
    readExponent (marker :: cs) = (none, [marker], cs) := by
  cases cs with
  | nil => exact if_pos hm
  | cons sign ds =>
    have hneither : ¬((sign = '+' ∨ sign = '-') ∧ ds.head?.any Char.isDigit) := by
      rintro ⟨hs, hd⟩
      rw [hl sign ds rfl hs] at hd
      cases hd
    exact (if_pos hm).trans (if_neg hneither)

/-! ## Reading keeps to the grammar -/

/-- The three ways in which a real goes on behind its places. -/
theorem written_real {negative : Bool} {whole fraction cs : List Char}
    (hw : whole.all Char.isDigit) (hf : fraction.all Char.isDigit)
    (hd : ∀ c ∈ cs.head?, c.isDigit = false) (hp : fraction = [] → cs.head? ≠ some '.') :
    Written { negative, whole, fraction := some fraction, exponent := (readExponent cs).1 }
      (readExponent cs).2.1 (readExponent cs).2.2 := by
  by_cases hm : ∀ c ∈ cs.head?, ¬IsMarker c
  · rw [readExponent_none hm]
    exact .real hw hf hd hp hm
  have hmarker : ∃ marker ds, cs = marker :: ds ∧ IsMarker marker := by
    cases cs with
    | nil => exact absurd nofun hm
    | cons marker ds =>
      exact ⟨marker, ds, rfl, by simpa using hm⟩
  obtain ⟨marker, ds, rfl, hmarker⟩ := hmarker
  by_cases hl : ∀ sign es, ds = sign :: es → IsSign sign → es.head?.any Char.isDigit = false
  · rw [readExponent_spoilt hmarker hl]
    exact .spoilt hw hf hmarker hl
  · simp only [Classical.not_forall, exists_prop, Bool.not_eq_false] at hl
    obtain ⟨sign, es, rfl, hsign, hdigit⟩ := hl
    rw [readExponent_scaled hmarker hsign hdigit]
    exact .scaled hw hf hmarker hsign (mt takeWhile_eq_nil_iff.1 (by simp [hdigit]))
      List.all_takeWhile (head?_dropWhile es)

theorem written_read (cs : List Char) :
    Written (read cs).numeral (read cs).stray (read cs).rest := by
  have hwhole := List.all_takeWhile (p := Char.isDigit) (l := (readSign cs).2)
  have hends := head?_dropWhile (p := Char.isDigit) (readSign cs).2
  by_cases hp : ∀ ds, (readSign cs).2.dropWhile Char.isDigit = '.' :: ds → ds.head? = some '.'
  · simp only [read, readFraction_none hp]
    exact .integer hwhole hends hp
  · simp only [Classical.not_forall, exists_prop] at hp
    obtain ⟨ds, hds, hn⟩ := hp
    simp only [read, hds, readFraction_some hn, Option.isSome_some, if_true]
    refine written_real hwhole List.all_takeWhile (head?_dropWhile ds) fun hnil => ?_
    rwa [← List.takeWhile_append_dropWhile (p := Char.isDigit) (l := ds), hnil] at hn

/-! ## The grammar is read back -/

theorem IsMarker.head_not_digit {marker : Char} (h : IsMarker marker) (cs : List Char) :
    ∀ c ∈ (marker :: cs).head?, c.isDigit = false := by
  rintro c ⟨⟩
  rcases h with rfl | rfl <;> decide

theorem IsMarker.head_ne_point {marker : Char} (h : IsMarker marker) (cs : List Char) :
    (marker :: cs).head? ≠ some '.' := by
  rintro ⟨⟩
  rcases h with h | h <;> cases h

/-- Behind the places of a real stands what is read as its exponent. -/
theorem read_real {negative : Bool} {whole fraction cs : List Char}
    (hs : negative = false → (whole ++ '.' :: (fraction ++ cs)).head? ≠ some '-')
    (hw : whole.all Char.isDigit) (hf : fraction.all Char.isDigit)
    (hd : ∀ c ∈ cs.head?, c.isDigit = false) (hp : fraction = [] → cs.head? ≠ some '.') :
    read (signText negative ++ (whole ++ '.' :: (fraction ++ cs))) =
      ⟨{ negative, whole, fraction := some fraction, exponent := (readExponent cs).1 },
        (readExponent cs).2.1, (readExponent cs).2.2⟩ := by
  have hpoint : ∀ c ∈ ('.' :: (fraction ++ cs)).head?, c.isDigit = false := by
    rintro c ⟨⟩
    decide
  obtain ⟨htake, hdrop⟩ := takeWhile_append_of_head hw hpoint
  obtain ⟨hplaces, hbehind⟩ := takeWhile_append_of_head hf hd
  have hdot : (fraction ++ cs).head? ≠ some '.' := by
    cases fraction with
    | nil => exact hp rfl
    | cons d fraction =>
      rw [List.all_cons, Bool.and_eq_true] at hf
      intro h
      exact ne_of_pred hf.1 (by decide) (Option.some.inj h)
  simp only [read, readSign_signText hs, htake, hdrop, readFraction_some hdot, hplaces, hbehind,
    Option.isSome_some, if_true]

/-- What is written is read back, unless a minus stands in front that is none of it. -/
theorem Written.read_append {n : Numeral} {stray rest : List Char} (h : Written n stray rest)
    (hs : n.negative = false → (n.text ++ stray ++ rest).head? ≠ some '-') :
    read (n.text ++ stray ++ rest) = ⟨n, stray, rest⟩ := by
  have htext : n.text ++ stray ++ rest = signText n.negative ++ (n.whole ++
      (fractionText n.fraction ++ (exponentText n.exponent ++ (stray ++ rest)))) := by
    simp only [text, List.append_assoc]
  have hsign : n.negative = false → (n.whole ++
      (fractionText n.fraction ++ (exponentText n.exponent ++ (stray ++ rest)))).head? ≠
        some '-' := by
    intro hn
    have h := hs hn
    rwa [htext, hn] at h
  rw [htext]
  cases h with
  | integer hw hd hp =>
    obtain ⟨htake, hdrop⟩ := takeWhile_append_of_head hw hd
    simp only [fractionText, exponentText, List.nil_append] at hsign ⊢
    simp only [read, readSign_signText hsign, htake, hdrop, readFraction_none hp]
    rfl
  | @real negative whole fraction _ hw hf hd hp hm =>
    have hr := @read_real negative whole fraction rest hsign hw hf hd hp
    rwa [readExponent_none hm] at hr
  | @scaled negative whole fraction power _ marker sign hw hf hm hsig hne hpow hd =>
    obtain ⟨htake, hdrop⟩ := takeWhile_append_of_head hpow hd
    have hdigit : (power ++ rest).head?.any Char.isDigit := by
      cases power with
      | nil => exact absurd rfl hne
      | cons d power =>
        rw [List.all_cons, Bool.and_eq_true] at hpow
        exact hpow.1
    have hr := @read_real negative whole fraction (marker :: sign :: (power ++ rest)) hsign hw hf
      (hm.head_not_digit _) fun _ => hm.head_ne_point _
    rwa [readExponent_scaled hm hsig hdigit, htake, hdrop] at hr
  | @spoilt negative whole fraction _ marker hw hf hm hl =>
    have hr := @read_real negative whole fraction (marker :: rest) hsign hw hf
      (hm.head_not_digit _) fun _ => hm.head_ne_point _
    rwa [readExponent_spoilt hm hl] at hr

end SqlDml.Numeral
