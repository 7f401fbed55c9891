import SqlDml.Proofs.Lexeme.Form
import SqlDml.Proofs.Lexeme.Number
import SqlDml.Proofs.Text.Case

/-!
# Letter case in a text

* `Lexeme.lowered` : a lexeme with its texts in lower case;
* `Layout.split_toLower` : the layout of a text in lower case;
* `Numeral.read_toLower` : a numeral has no letter but the marker of its exponent, and that counts
  in either case;
* `Lexeme.read_toLower` : away from quotes, what is read of a text in lower case is the lexeme in
  lower case.

Every class of characters that a rule asks about has both cases of a letter or neither. Only the `s`
of a placeholder within quotes is asked for in one case.
-/

namespace SqlDml

open Text (apply_toLower toLower_eq_iff takeWhile_toLower dropWhile_toLower map_toLower_eq_self
  map_toLower_map_toLower)

/-! ## Layout -/

namespace Layout

theorem opensComment_toLower (c : Char) (cs : List Char) :
    opensComment c.toLower (cs.map Char.toLower) = opensComment c cs := by
  have hhash := apply_toLower (· == '#') (by decide) c
  have hminus := apply_toLower (· == '-') (by decide) c
  have hsecond : ((cs.map Char.toLower).head? == some '-') = (cs.head? == some '-') := by
    cases cs with
    | nil => rfl
    | cons d cs => exact apply_toLower (fun d => some d == some '-') (by decide) d
  simp only [opensComment, hsecond] at hhash hminus ⊢
  rw [hhash, hminus]

theorem splitFrom_toLower (inComment : Bool) (cs : List Char) :
    splitFrom inComment (cs.map Char.toLower) =
      ((splitFrom inComment cs).1.map Char.toLower,
        (splitFrom inComment cs).2.map Char.toLower) := by
  induction cs generalizing inComment with
  | nil => rfl
  | cons c cs ih =>
    have hblank := apply_toLower isBlank (by decide) c
    have hbreak := apply_toLower isBreak (by decide) c
    simp only [List.map_cons, splitFrom, opensComment_toLower, hblank, hbreak, ih]
    split <;> rfl

theorem split_toLower (cs : List Char) :
    split (cs.map Char.toLower) =
      ((split cs).1.map Char.toLower, (split cs).2.map Char.toLower) :=
  splitFrom_toLower false cs

/-- A text in another case of its letters has its layout in the same place. -/
theorem split_of_toLower {cs skipped body skipped' body' : List Char}
    (h : split cs = (skipped, body))
    (hs : skipped'.map Char.toLower = skipped.map Char.toLower)
    (hb : body'.map Char.toLower = body.map Char.toLower) :
    split (skipped' ++ body') = (skipped', body') := by
  have hcs := split_append cs
  have happend := split_append (skipped' ++ body')
  have hlower : (skipped' ++ body').map Char.toLower = cs.map Char.toLower := by
    rw [← hcs, h, List.map_append, List.map_append, hs, hb]
  have hsplit := split_toLower (skipped' ++ body')
  rw [hlower, split_toLower, h, Prod.mk.injEq, ← hs] at hsplit
  have hlength := congrArg List.length hsplit.1
  rw [List.length_map, List.length_map] at hlength
  obtain ⟨hfirst, hsecond⟩ := List.append_inj happend hlength.symm
  exact Prod.ext hfirst hsecond

end Layout

/-! ## Numerals -/

namespace Numeral

theorem isDigit_toLower (c : Char) : c.toLower.isDigit = c.isDigit :=
  apply_toLower Char.isDigit (by decide) c

theorem takeWhile_isDigit_toLower (cs : List Char) :
    (cs.map Char.toLower).takeWhile Char.isDigit = cs.takeWhile Char.isDigit := by
  rw [takeWhile_toLower isDigit_toLower]
  exact map_toLower_eq_self isAlpha_of_isDigit List.all_takeWhile

theorem any_isDigit_toLower (cs : List Char) :
    (cs.map Char.toLower).head?.any Char.isDigit = cs.head?.any Char.isDigit := by
  cases cs with
  | nil => rfl
  | cons c cs => exact isDigit_toLower c

theorem startsUnsigned_toLower (cs : List Char) :
    startsUnsigned (cs.map Char.toLower) = startsUnsigned cs := by
  cases cs with
  | nil => rfl
  | cons c cs =>
    have hpoint : c.toLower = '.' ↔ c = '.' := toLower_eq_iff rfl
    simp only [List.map_cons, startsUnsigned_cons, any_isDigit_toLower, isDigit_toLower, hpoint]

theorem starts_toLower (cs : List Char) : starts (cs.map Char.toLower) = starts cs := by
  cases cs with
  | nil => rfl
  | cons c cs =>
    have hminus : c.toLower = '-' ↔ c = '-' := toLower_eq_iff rfl
    have hunsigned := startsUnsigned_toLower (c :: cs)
    rw [List.map_cons] at hunsigned
    simp only [List.map_cons, starts_cons, startsUnsigned_toLower, hunsigned, hminus]

/-- A numeral with the marker of its exponent in lower case. -/
def lowered (n : Numeral) : Numeral :=
  { n with exponent := n.exponent.map fun e => { e with marker := e.marker.toLower } }

/-- The marker is no part of the value. -/
theorem value?_lowered (n : Numeral) : n.lowered.value? = n.value? := by
  obtain ⟨negative, whole, fraction, exponent⟩ := n
  have hdecimal : (lowered ⟨negative, whole, fraction, exponent⟩).decimal =
      decimal ⟨negative, whole, fraction, exponent⟩ := by
    cases exponent <;> rfl
  unfold value?
  rw [hdecimal]
  rfl

theorem readSign_toLower (cs : List Char) :
    readSign (cs.map Char.toLower) = ((readSign cs).1, (readSign cs).2.map Char.toLower) := by
  by_cases hm : cs.head? = some '-'
  · obtain ⟨ds, rfl⟩ := List.head?_eq_some_iff.1 hm
    rfl
  · have hm' : (cs.map Char.toLower).head? ≠ some '-' := by
      rw [List.head?_map]
      intro h
      obtain ⟨c, hc, hlower⟩ := Option.map_eq_some_iff.1 h
      rw [(toLower_eq_iff (by decide)).1 hlower] at hc
      exact hm hc
    have hsign {ds : List Char} (h : ds.head? ≠ some '-') : readSign ds = (false, ds) :=
      @readSign_signText false ds fun _ => h
    rw [hsign hm, hsign hm']

theorem head?_toLower_eq_iff {c : Char} (hc : c.isAlpha = false) (cs : List Char) :
    (cs.map Char.toLower).head? = some c ↔ cs.head? = some c := by
  cases cs with
  | nil => rfl
  | cons d cs => simp [toLower_eq_iff hc]

theorem readFraction_toLower (cs : List Char) :
    readFraction (cs.map Char.toLower) =
      ((readFraction cs).1, (readFraction cs).2.map Char.toLower) := by
  by_cases hp : ∃ ds, cs = '.' :: ds ∧ ds.head? ≠ some '.'
  · obtain ⟨ds, rfl, hd⟩ := hp
    have hd' : (ds.map Char.toLower).head? ≠ some '.' := mt (head?_toLower_eq_iff rfl ds).1 hd
    have hpoint : ('.' :: ds).map Char.toLower = '.' :: ds.map Char.toLower := rfl
    rw [hpoint, readFraction_some hd, readFraction_some hd', takeWhile_isDigit_toLower,
      dropWhile_toLower isDigit_toLower]
  · have hnone : readFraction cs = (none, cs) :=
      readFraction_none fun ds hds => Classical.byContradiction fun hd => hp ⟨ds, hds, hd⟩
    rw [hnone, readFraction_none]
    intro ds hds
    obtain ⟨c, es, rfl, hc, rfl⟩ := List.map_eq_cons_iff.1 hds
    rw [toLower_eq_iff (by decide)] at hc
    subst hc
    rw [head?_toLower_eq_iff rfl]
    exact Classical.byContradiction fun hd => hp ⟨es, rfl, hd⟩

theorem readExponent_toLower (cs : List Char) :
    readExponent (cs.map Char.toLower) =
      ((readExponent cs).1.map fun e => { e with marker := e.marker.toLower },
        (readExponent cs).2.1.map Char.toLower, (readExponent cs).2.2.map Char.toLower) := by
  have hmarker (c : Char) : (c.toLower = 'e' ∨ c.toLower = 'E') ↔ (c = 'e' ∨ c = 'E') := by
    have h := apply_toLower (fun c => c == 'e' || c == 'E') (by decide) c
    simpa using Bool.eq_iff_iff.1 h
  have hsign (c : Char) : (c.toLower = '+' ∨ c.toLower = '-') ↔ (c = '+' ∨ c = '-') :=
    or_congr (toLower_eq_iff rfl) (toLower_eq_iff rfl)
  match cs with
  | [] => rfl
  | [marker] =>
    simp only [List.map_cons, List.map_nil, readExponent, hmarker]
    split <;> rfl
  | marker :: sign :: cs =>
    simp only [List.map_cons, readExponent, hmarker, hsign, any_isDigit_toLower,
      takeWhile_isDigit_toLower, dropWhile_toLower isDigit_toLower]
    split
    · split
      · rename_i h
        have hs : sign.toLower = sign := by
          rcases h.1 with rfl | rfl <;> rfl
        rw [hs]
        rfl
      · rfl
    · rfl

theorem read_toLower (cs : List Char) :
    read (cs.map Char.toLower) =
      ⟨(read cs).numeral.lowered, (read cs).stray.map Char.toLower,
        (read cs).rest.map Char.toLower⟩ := by
  simp only [read, readSign_toLower, takeWhile_isDigit_toLower, dropWhile_toLower isDigit_toLower,
    readFraction_toLower, readExponent_toLower]
  split <;> rfl

end Numeral

/-! ## Lexemes -/

/-- A value with its text, if it is one, in lower case. -/
def Value.lowered : Value → Value
  | .text s => .text (SqlDml.lowered s.toList)
  | v => v

/-- The kinds whose values the case of letters does not change: those of numbers, and that of texts,
which stand within quotes. -/
def Kind.isExact : Kind → Bool
  | .integer | .real | .text => true
  | _ => false

namespace Lexeme

/-- A lexeme with its texts in lower case. -/
def lowered (lexeme : Lexeme) : Lexeme :=
  ⟨lexeme.kind, lexeme.value.lowered, lexeme.text.map Char.toLower,
    lexeme.rest.map Char.toLower⟩

variable {c : Char} {cs : List Char}

theorem lowered_verbatim (kind : Kind) (text rest : List Char) :
    (verbatim kind text rest).lowered =
      verbatim kind (text.map Char.toLower) (rest.map Char.toLower) := by
  simp [lowered, verbatim, Value.lowered, SqlDml.lowered]

theorem single_toLower (hc : c.isAlpha = false) (cs : List Char) :
    single c (cs.map Char.toLower) = (single c cs).lowered := by
  have hlower : [c].map Char.toLower = [c] := by
    rw [List.map_singleton, Text.toLower_of_not_isAlpha hc]
  unfold single
  rw [lowered_verbatim, hlower]

theorem escape_toLower (cs : List Char) :
    escape (cs.map Char.toLower) = (escape cs).lowered := by
  cases cs with
  | nil => exact single_toLower rfl []
  | cons c cs =>
    have hquote : (c.toLower = '\'' ∨ c.toLower = '"' ∨ c.toLower = '\\') ↔
        (c = '\'' ∨ c = '"' ∨ c = '\\') :=
      or_congr (toLower_eq_iff rfl) (or_congr (toLower_eq_iff rfl) (toLower_eq_iff rfl))
    simp only [List.map_cons, escape, hquote]
    split
    · rename_i hc
      rcases hc with rfl | rfl | rfl <;> rfl
    · exact single_toLower rfl (c :: cs)

theorem run_toLower {kind : Kind} {p : Char → Bool} (hp : ∀ c, p c.toLower = p c) (c : Char)
    (cs : List Char) :
    run kind p c.toLower (cs.map Char.toLower) = (run kind p c cs).lowered := by
  rw [run, run, lowered_verbatim, takeWhile_toLower hp, dropWhile_toLower hp]
  rfl

theorem word_toLower (c : Char) (cs : List Char) :
    word c.toLower (cs.map Char.toLower) = (word c cs).lowered := by
  have hp : ∀ c, isWordChar c.toLower = isWordChar c := apply_toLower isWordChar (by decide)
  have htext : c.toLower :: (cs.takeWhile isWordChar).map Char.toLower =
      (c :: cs.takeWhile isWordChar).map Char.toLower := rfl
  have htwice (text : List Char) : SqlDml.lowered (String.ofList (text.map Char.toLower)).toList =
      String.ofList (text.map Char.toLower) := by
    rw [SqlDml.lowered, String.toList_ofList, map_toLower_map_toLower]
  unfold word
  simp only [takeWhile_toLower hp, dropWhile_toLower hp, htext, map_toLower_map_toLower]
  split
  · simp only [lowered, Value.lowered, htwice]
  · rw [lowered_verbatim]

/-- The covered text of a number is what stands before its rest. -/
theorem number_toLower (cs : List Char) :
    number (cs.map Char.toLower) = (number cs).lowered := by
  have hp : ∀ c, isSpoilt c.toLower = isSpoilt c := apply_toLower isSpoilt (by decide)
  have hread := Numeral.read_toLower cs
  obtain ⟨n, stray, rest, hr⟩ : ∃ n stray rest, Numeral.read cs = ⟨n, stray, rest⟩ :=
    ⟨_, _, _, rfl⟩
  have hcs := Numeral.text_append_rest cs
  have hlower := Numeral.text_append_rest (cs.map Char.toLower)
  rw [hread] at hlower
  rw [hr] at hcs hread hlower
  have hcovered : n.lowered.text ++ stray.map Char.toLower =
      (n.text ++ stray).map Char.toLower := by
    rw [← hcs, List.map_append] at hlower
    exact List.append_cancel_right hlower
  have hname : (rest.map Char.toLower).head?.any isNameChar = rest.head?.any isNameChar := by
    cases rest with
    | nil => rfl
    | cons c rest => exact apply_toLower isNameChar (by decide) c
  by_cases hv : ∃ v, stray = [] ∧ rest.head?.any isNameChar = false ∧ n.value? = some v
  · obtain ⟨v, rfl, hn, hv⟩ := hv
    rw [List.map_nil, List.append_nil, List.append_nil] at hcovered
    rw [number_of_value hr hn hv,
      number_of_value hread (hname.trans hn) ((Numeral.value?_lowered n).trans hv), hcovered]
    cases v with
    | text s => exact absurd hv (n.value?_ne_text s)
    | _ => rfl
  · rw [not_exists] at hv
    have hv' : ∀ v, ¬(stray.map Char.toLower = [] ∧
        (rest.map Char.toLower).head?.any isNameChar = false ∧ n.lowered.value? = some v) := by
      intro v h
      rw [List.map_eq_nil_iff, hname, Numeral.value?_lowered] at h
      exact hv v h
    rw [number_of_no_value hr hv, number_of_no_value hread hv', lowered_verbatim, hcovered,
      takeWhile_toLower hp, dropWhile_toLower hp, ← List.map_append]

theorem dots_toLower (cs : List Char) : dots (cs.map Char.toLower) = (dots cs).lowered := by
  by_cases hc : ∃ ds, cs = '.' :: '.' :: ds
  · obtain ⟨ds, rfl⟩ := hc
    rfl
  · have hc' : ¬∃ ds, cs.map Char.toLower = '.' :: '.' :: ds := by
      rintro ⟨ds, hds⟩
      obtain ⟨c, es, rfl, hfirst, hes⟩ := List.map_eq_cons_iff.1 hds
      obtain ⟨d, fs, rfl, hsecond, -⟩ := List.map_eq_cons_iff.1 hes
      rw [toLower_eq_iff (by decide)] at hfirst hsecond
      exact hc ⟨fs, by rw [hfirst, hsecond]⟩
    rw [dots_eq_single hc, dots_eq_single hc', single_toLower rfl]

theorem percent_toLower (cs : List Char) :
    percent (cs.map Char.toLower) = (percent cs).lowered := by
  cases cs with
  | nil => rfl
  | cons c cs =>
    have hc := apply_toLower Char.isAlphanum (by decide) c
    rw [List.map_cons, percent, percent, hc]
    split
    · rw [lowered_verbatim]
      rfl
    · exact single_toLower rfl (c :: cs)

theorem isAlpha_of_isComparison (h : isComparison c) : c.isAlpha = false := by
  simp only [isComparison, Bool.or_eq_true, beq_iff_eq] at h
  rcases h with ((rfl | rfl) | rfl) | rfl <;> rfl

theorem comparison_toLower (hc : isComparison c) (cs : List Char) :
    comparison c (cs.map Char.toLower) = (comparison c cs).lowered := by
  have hp : ∀ c, isComparison c.toLower = isComparison c := apply_toLower isComparison (by decide)
  have hrun : (cs.takeWhile isComparison).map Char.toLower = cs.takeWhile isComparison :=
    map_toLower_eq_self isAlpha_of_isComparison List.all_takeWhile
  have htext : (c :: cs.takeWhile isComparison).map Char.toLower =
      c :: cs.takeWhile isComparison :=
    map_toLower_eq_self isAlpha_of_isComparison (by simp [hc])
  unfold comparison
  simp only [takeWhile_toLower hp, dropWhile_toLower hp, hrun]
  split
  · rw [lowered_verbatim, htext]
  · exact single_toLower (isAlpha_of_isComparison hc) cs

/-- The characters that begin a quoted literal. -/
def isQuote (c : Char) : Bool := c == '\'' || c == '"'

/-- Away from quotes, reading and lower case may change places. -/
theorem read_toLower (hq : isQuote c = false) (cs : List Char) :
    read c.toLower (cs.map Char.toLower) = (read c cs).lowered := by
  have hword := apply_toLower startsWord (by decide) c
  have hcomparison := apply_toLower isComparison (by decide) c
  have hstarts : Numeral.starts (c.toLower :: cs.map Char.toLower) = Numeral.starts (c :: cs) :=
    Numeral.starts_toLower (c :: cs)
  have hquote : ¬(c = '\'' ∨ c = '"') := by simpa [isQuote] using hq
  have hsame {d : Char} (hd : d.isAlpha = false) (h : c = d) : c.toLower = d :=
    (toLower_eq_iff hd).2 h
  rw [read, read, hword, hcomparison, hstarts]
  simp only [toLower_eq_iff (show Char.isAlpha '\\' = false from rfl),
    toLower_eq_iff (show Char.isAlpha '\'' = false from rfl),
    toLower_eq_iff (show Char.isAlpha '"' = false from rfl),
    toLower_eq_iff (show Char.isAlpha '_' = false from rfl),
    toLower_eq_iff (show Char.isAlpha '.' = false from rfl),
    toLower_eq_iff (show Char.isAlpha '%' = false from rfl), if_neg hquote]
  split
  · exact escape_toLower cs
  split
  · exact run_toLower (apply_toLower isNameChar (by decide)) c cs
  split
  · exact word_toLower c cs
  split
  · exact number_toLower (c :: cs)
  split
  · exact dots_toLower cs
  split
  · exact percent_toLower cs
  rename_i hw _ _ _
  have halpha : c.isAlpha = false := by
    refine Bool.eq_false_iff.2 fun ha => hw ?_
    simp [startsWord, ha]
  rw [Text.toLower_of_not_isAlpha halpha]
  split
  · exact comparison_toLower ‹_› cs
  · exact single_toLower halpha cs

/-! ## A text in another case of its letters -/

/-- Numbers are no texts, and a text begins with a quote. -/
theorem value_eq_of_lowered (hb : Layout.isBlank c = false)
    (ho : Layout.opensComment c cs = false) (hq : isQuote c = false) {v : Value}
    (h : v.lowered = (read c cs).value.lowered) (hk : (read c cs).kind.isExact) :
    v = (read c cs).value := by
  have hform := form_read hb ho
  rw [HasForm] at hform
  cases hkind : (read c cs).kind with
  | integer =>
    rw [hkind] at hform
    obtain ⟨-, n, hn⟩ := hform
    rw [hn] at h ⊢
    cases v <;> first | exact h | cases h
  | real =>
    rw [hkind] at hform
    obtain ⟨-, x, hx⟩ := hform
    rw [hx] at h ⊢
    cases v <;> first | exact h | cases h
  | text =>
    rw [hkind] at hform
    obtain ⟨⟨quote, body, hquote, -, htext⟩, -⟩ := hform
    rw [text_read_eq_cons, List.cons_append, List.cons.injEq] at htext
    rw [htext.1] at hq
    rcases hquote with rfl | rfl <;> cases hq
  | _ =>
    rw [hkind] at hk
    cases hk

/-- A text in another case of its letters begins with the same lexeme in another case, if a quoted
literal is left as it is. -/
theorem read_recased {d : Char} {ds text other : List Char} (hb : Layout.isBlank c = false)
    (ho : Layout.opensComment c cs = false) (hds : d :: ds = text ++ other)
    (ht : text.map Char.toLower = (read c cs).text.map Char.toLower)
    (hr : other.map Char.toLower = (read c cs).rest.map Char.toLower)
    (hq : isQuote c → text = (read c cs).text) :
    (read d ds).kind = (read c cs).kind ∧ (read d ds).value.lowered = (read c cs).value.lowered ∧
      ((read c cs).kind.isExact → (read d ds).value = (read c cs).value) ∧
      (read d ds).text = text ∧ (read d ds).rest = other := by
  cases hquote : isQuote c with
  | true =>
    have hread (cs : List Char) : read c cs = quoted c cs := by
      simp only [isQuote, Bool.or_eq_true, beq_iff_eq] at hquote
      rcases hquote with rfl | rfl <;> rfl
    rw [hq hquote, text_read_eq_cons, List.cons_append, List.cons.injEq] at hds
    obtain ⟨rfl, rfl⟩ := hds
    have hsame : read d ((read d cs).text.tail ++ other) = { read d cs with rest := other } := by
      by_cases hk : (read d cs).kind = .invalid .unterminatedLiteral
      · have hrest : (read d cs).rest = [] := (form_of_kind hb ho hk).1
        have hcs := text_append_rest d cs
        rw [hrest, List.map_nil, List.map_eq_nil_iff] at hr
        rw [hrest, List.append_nil] at hcs
        rw [hr, hcs, List.append_nil, List.tail_cons, ← hrest]
      · have hs : d ≠ 's' := ne_of_pred hquote (by decide)
        rw [hread cs] at hk ⊢
        rw [hread]
        exact quoted_append hs hk
    rw [hsame]
    exact ⟨rfl, rfl, fun _ => rfl, (hq hquote).symm, rfl⟩
  | false =>
    have hcs := text_append_rest c cs
    have hdsText := text_append_rest d ds
    have hall : (d :: ds).map Char.toLower = (c :: cs).map Char.toLower := by
      rw [hds, ← hcs, List.map_append, List.map_append, ht, hr]
    obtain ⟨hfirst, hothers⟩ := List.cons.inj hall
    have hquote' : isQuote d = false := by
      rw [← apply_toLower isQuote (by decide) d, hfirst, apply_toLower isQuote (by decide) c,
        hquote]
    have hlowered : (read d ds).lowered = (read c cs).lowered := by
      rw [← read_toLower hquote', ← read_toLower hquote, hfirst, hothers]
    simp only [lowered, Lexeme.mk.injEq] at hlowered
    obtain ⟨hkind, hvalue, htext, -⟩ := hlowered
    have hlength := congrArg List.length (htext.trans ht.symm)
    rw [List.length_map, List.length_map] at hlength
    exact ⟨hkind, hvalue, value_eq_of_lowered hb ho hquote hvalue,
      List.append_inj (hdsText.trans hds) hlength⟩

end Lexeme

end SqlDml
