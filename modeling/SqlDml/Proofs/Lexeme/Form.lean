import SqlDml.Proofs.Lexeme.Following

/-!
# The form of a lexeme

* `IsQuoted`, `IsWord` : quoted literals and words;
* `Kind.Form` : what a lexeme of each kind covers, what its value is, and what may stand behind it;
* `Lexeme.form_read` : every lexeme has the form of its kind;
* `Kind.Form.getLast?_ne` : no lexeme but the last of a text ends with a carriage return.

The rules hand over to one another: dots, percent signs, comparisons and backslashes that make
nothing longer are single characters, and a minus or a dot may begin a number.
-/

namespace SqlDml

/-! ## Quoted literals -/

/-- What may stand between two quotes: characters other than the quote and the backslash, and any
character behind a backslash. -/
inductive Quoted.Body (quote : Char) : List Char → Prop where
  | nil : Body quote []
  | plain {c : Char} {cs : List Char} (hq : c ≠ quote) (hb : c ≠ '\\') (body : Body quote cs) :
      Body quote (c :: cs)
  | escaped {c : Char} {cs : List Char} (body : Body quote cs) : Body quote ('\\' :: c :: cs)

/-- A quote, a body, and the same quote again. -/
def IsQuoted (text : List Char) : Prop :=
  ∃ quote body, (quote = '\'' ∨ quote = '"') ∧ Quoted.Body quote body ∧
    text = quote :: body ++ [quote]

/-- What is read as a closed literal is a body and its quote. -/
theorem Quoted.exists_body {quote : Char} {cs : List Char} (hs : quote ≠ 's') (hp : quote ≠ '%')
    (h : (read quote cs).ending ≠ .missing) :
    ∃ body, Body quote body ∧ (read quote cs).text = body ++ [quote] := by
  fun_induction read quote cs with
  | case1 => exact absurd rfl h
  | case2 => exact absurd rfl h
  | case3 c cs ih =>
    obtain ⟨body, hbody, ht⟩ := ih h
    exact ⟨'\\' :: c :: body, .escaped hbody, by rw [text_push, ht]; rfl⟩
  | case4 cs => exact ⟨[], .nil, rfl⟩
  | case5 c cs _ _ _ _ =>
    exact ⟨['%', 's'], .plain hp.symm (by decide) (.plain hs.symm (by decide) .nil), rfl⟩
  | case6 c cs hn hc hq _ ih =>
    obtain ⟨body, hbody, ht⟩ := ih h
    exact ⟨c :: body, .plain hq (ne_backslash hn hc) hbody, by rw [text_push, ht]; rfl⟩

/-- An unterminated literal runs to the end of the text. -/
theorem Quoted.rest_of_missing {quote : Char} {cs : List Char}
    (h : (read quote cs).ending = .missing) : (read quote cs).rest = [] := by
  fun_induction read quote cs with
  | case1 => rfl
  | case2 => rfl
  | case3 c cs ih => exact ih h
  | case4 => cases h
  | case5 => cases h
  | case6 c cs _ _ _ _ ih => exact ih h

/-! ## Numbers -/

/-- The characters of numbers, broken ones included. -/
def isNumeric (c : Char) : Bool := Lexeme.isSpoilt c || c == '.'

theorem all_isNumeric_of_digits {cs : List Char} (h : cs.all Char.isDigit) : cs.all isNumeric := by
  rw [List.all_eq_true] at h ⊢
  intro c hc
  simp [isNumeric, Lexeme.isDigit_isSpoilt (h c hc)]

theorem Numeral.Written.all_isNumeric {n : Numeral} {stray rest : List Char}
    (h : Written n stray rest) : (n.text ++ stray).all isNumeric := by
  have hnegative (negative : Bool) : (signText negative).all isNumeric := by
    cases negative <;> decide
  have hpoint : isNumeric '.' := by decide
  have hmarker {marker : Char} (hm : IsMarker marker) : isNumeric marker := by
    rcases hm with rfl | rfl <;> decide
  have hsign {sign : Char} (hs : IsSign sign) : isNumeric sign := by
    rcases hs with rfl | rfl <;> decide
  cases h with
  | integer hw =>
    simp [text, hnegative, all_isNumeric_of_digits hw, fractionText, exponentText]
  | real hw hf =>
    simp [text, hnegative, all_isNumeric_of_digits hw, hpoint, all_isNumeric_of_digits hf,
      fractionText, exponentText]
  | scaled hw hf hm hs _ hp =>
    simp [text, hnegative, all_isNumeric_of_digits hw, hpoint, all_isNumeric_of_digits hf,
      fractionText, exponentText, Exponent.text, hmarker hm, hsign hs, all_isNumeric_of_digits hp]
  | spoilt hw hf hm =>
    simp [text, hnegative, all_isNumeric_of_digits hw, hpoint, all_isNumeric_of_digits hf,
      fractionText, exponentText, hmarker hm]

theorem Numeral.value?_ne_text (n : Numeral) (s : String) : n.value? ≠ some (.text s) := by
  intro h
  unfold value? at h
  split at h
  · split at h <;> cases h
  · dsimp only at h
    split at h <;> cases h

/-! ## Forms -/

/-- A word that what stands behind it does not go on. -/
structure IsWord (text rest : List Char) : Prop where
  begins : ∃ c tail, text = c :: tail ∧ Lexeme.startsWord c ∧ tail.all Lexeme.isWordChar
  ends : ∀ c ∈ rest.head?, Lexeme.isWordChar c = false

/-- A word in lower case. -/
def lowered (text : List Char) : String := String.ofList (text.map Char.toLower)

/-- A value, the text that a lexeme with it covers, and the text behind, for each kind. -/
def Kind.Form (value : Value) (text rest : List Char) : Kind → Prop
  | .identifier =>
    IsWord text rest ∧ Dialect.isSymbol (lowered text) = false ∧ value = .text (String.ofList text)
  | .keyword word =>
    IsWord text rest ∧ word = lowered text ∧ Dialect.isSymbol word ∧ value = .text word
  | .systemVariable =>
    (∃ name, text = '_' :: name ∧ name.all Lexeme.isNameChar) ∧
      (∀ c ∈ rest.head?, Lexeme.isNameChar c = false) ∧ value = .text (String.ofList text)
  | .operator word =>
    word = String.ofList text ∧ value = .text word ∧
      word ∈ ["=", "!=", "<>", "<", "<=", ">", ">="]
  | .punctuation c =>
    value = .text (String.singleton c) ∧
      (text = [c] ∨ text = ['\\', c] ∧ (c = '\'' ∨ c = '"' ∨ c = '\\')) ∧
      c.isAlphanum = false ∧
      c ∉ ['=', '<', '>', '_', '\x7b', '\x60', '#', ' ', '\t', '\r', '\n']
  | .ellipsis => text = ['.', '.', '.'] ∧ value = .text "..."
  | .placeholder =>
    value = .text (String.ofList text) ∧
      (IsQuoted text ∨ (∃ c, c.isAlphanum ∧ text = ['%', c]) ∨ (text = ['%'] ∧ rest = []))
  | .text => IsQuoted text ∧ ∃ s, value = .text s
  | .integer => text.all isNumeric ∧ ∃ n, value = .integer n
  | .real => text.all isNumeric ∧ ∃ x, value = .real x
  | .invalid .malformedNumber => text.all isNumeric ∧ value = .text (String.ofList text)
  | .invalid .unterminatedLiteral => rest = [] ∧ value = .text (String.ofList text)
  | .endOfInput => text = [] ∧ value = .text ""

namespace Lexeme

/-- A lexeme has the form of its kind. -/
def HasForm (lexeme : Lexeme) : Prop := lexeme.kind.Form lexeme.value lexeme.text lexeme.rest

/-- A character by itself has a form if no rule before would have taken it. -/
theorem hasForm_single {c : Char} {cs : List Char} (ha : c.isAlphanum = false)
    (hc : c ∉ ['_', '\x7b', '\x60', '#', ' ', '\t', '\r', '\n']) : (single c cs).HasForm := by
  unfold HasForm single
  by_cases ho : c = '=' ∨ c = '<' ∨ c = '>'
  · simp only [if_pos ho, verbatim, Kind.Form]
    rcases ho with rfl | rfl | rfl <;> decide
  · simp only [if_neg ho, verbatim, Kind.Form]
    refine ⟨rfl, .inl trivial, ha, ?_⟩
    simp only [not_or] at ho
    simp only [List.mem_cons, not_or] at hc ⊢
    exact ⟨ho.1, ho.2.1, ho.2.2, hc⟩

theorem hasForm_escape (cs : List Char) : (escape cs).HasForm := by
  unfold escape
  split
  · rename_i c cs
    split
    · rename_i hc
      refine ⟨rfl, .inr ⟨rfl, hc⟩, ?_⟩
      rcases hc with rfl | rfl | rfl <;> decide
    · exact hasForm_single (by decide) (by decide)
  · exact hasForm_single (by decide) (by decide)

theorem hasForm_quoted {quote : Char} (hq : quote = '\'' ∨ quote = '"') (cs : List Char) :
    (quoted quote cs).HasForm := by
  have hbody (h : (Quoted.read quote cs).ending ≠ .missing) :
      IsQuoted (quote :: (Quoted.read quote cs).text) := by
    have hs : quote ≠ 's' := by rcases hq with rfl | rfl <;> decide
    have hp : quote ≠ '%' := by rcases hq with rfl | rfl <;> decide
    obtain ⟨body, hbody, ht⟩ := Quoted.exists_body hs hp h
    exact ⟨quote, body, hq, hbody, by rw [ht]; rfl⟩
  rw [quoted, Quoted.scan_eq_read]
  split
  · rename_i he
    exact ⟨hbody (by simp [he]), _, rfl⟩
  · rename_i he
    exact ⟨rfl, .inl (hbody (by simp [he]))⟩
  · rename_i he
    exact ⟨Quoted.rest_of_missing he, rfl⟩

theorem hasForm_systemVariable (cs : List Char) :
    (run .systemVariable isNameChar '_' cs).HasForm :=
  ⟨⟨_, rfl, List.all_takeWhile⟩, head?_dropWhile cs, rfl⟩

theorem hasForm_word {c : Char} (h : startsWord c) (cs : List Char) : (word c cs).HasForm := by
  have hword : IsWord (c :: cs.takeWhile isWordChar) (cs.dropWhile isWordChar) :=
    ⟨⟨c, _, rfl, h, List.all_takeWhile⟩, head?_dropWhile cs⟩
  unfold word
  dsimp only
  split
  · rename_i hs
    exact ⟨hword, rfl, hs, rfl⟩
  · rename_i hs
    exact ⟨hword, Bool.eq_false_iff.2 hs, rfl⟩

theorem hasForm_number (cs : List Char) : (number cs).HasForm := by
  have hwritten := Numeral.written_read cs
  obtain ⟨n, stray, rest, hr⟩ : ∃ n stray rest, Numeral.read cs = ⟨n, stray, rest⟩ :=
    ⟨_, _, _, rfl⟩
  rw [hr] at hwritten
  have hall := hwritten.all_isNumeric
  by_cases hv : ∃ v, stray = [] ∧ rest.head?.any isNameChar = false ∧ n.value? = some v
  · obtain ⟨v, rfl, hn, hv⟩ := hv
    rw [number_of_value hr hn hv]
    rw [List.append_nil] at hall
    cases v with
    | integer i => exact ⟨hall, i, rfl⟩
    | real x => exact ⟨hall, x, rfl⟩
    | text s => exact absurd hv (n.value?_ne_text s)
  · rw [not_exists] at hv
    rw [number_of_no_value hr hv]
    refine ⟨?_, rfl⟩
    have hspoilt : (rest.takeWhile isSpoilt).all isNumeric := by
      rw [List.all_eq_true]
      intro c hc
      simp [isNumeric, List.all_eq_true.1 List.all_takeWhile c hc]
    rw [verbatim, List.all_append, hall, hspoilt]
    rfl

theorem hasForm_dots (cs : List Char) : (dots cs).HasForm := by
  unfold dots
  split
  · exact ⟨rfl, rfl⟩
  · exact hasForm_single (by decide) (by decide)

theorem hasForm_percent (cs : List Char) : (percent cs).HasForm := by
  unfold percent
  split
  · exact ⟨rfl, .inr (.inr ⟨rfl, rfl⟩)⟩
  · rename_i c cs
    split
    · rename_i hc
      exact ⟨rfl, .inr (.inl ⟨c, hc, rfl⟩)⟩
    · exact hasForm_single (by decide) (by decide)

theorem hasForm_comparison {c : Char} (h : isComparison c) (cs : List Char) :
    (comparison c cs).HasForm := by
  unfold comparison
  dsimp only
  split
  · rename_i hm
    refine ⟨rfl, rfl, ?_⟩
    rw [List.contains_iff_mem] at hm
    exact List.mem_map_of_mem (f := String.ofList) hm
  · simp only [isComparison, Bool.or_eq_true, beq_iff_eq] at h
    rcases h with ((rfl | rfl) | rfl) | rfl <;> exact hasForm_single (by decide) (by decide)

/-- Every lexeme has the form of its kind. -/
theorem form_read {c : Char} {cs : List Char} (hb : Layout.isBlank c = false)
    (ho : Layout.opensComment c cs = false) : (read c cs).HasForm := by
  refine read_cases ?_ ?_ ?_ ?_ ?_ ?_ ?_ ?_ ?_
  · exact fun _ => hasForm_escape cs
  · exact fun hq => hasForm_quoted hq cs
  · rintro rfl
    exact hasForm_systemVariable cs
  · exact fun hw => hasForm_word hw cs
  · exact fun _ => hasForm_number (c :: cs)
  · exact fun _ => hasForm_dots cs
  · exact fun _ => hasForm_percent cs
  · exact fun hc => hasForm_comparison hc cs
  · intro hu hw hn _
    -- Neither a letter nor a digit is left over for the last rule.
    have hdigit : c.isDigit = false := by
      refine Bool.eq_false_iff.2 fun hd => hn ?_
      have hm : c ≠ '-' := ne_of_pred hd (by decide)
      have hp : c ≠ '.' := ne_of_pred hd (by decide)
      rw [Numeral.starts_cons, if_neg hm, Numeral.startsUnsigned_cons, if_neg hp]
      exact hd
    simp only [startsWord, Bool.or_eq_true, beq_iff_eq, not_or, Bool.not_eq_true] at hw
    simp only [Layout.isBlank, Layout.opensComment, Bool.or_eq_false_iff, beq_eq_false_iff_ne]
      at hb ho
    refine hasForm_single (by simp [Char.isAlphanum, hw.1.1, hdigit]) ?_
    simp [hu, hw, hb, ho]

/-- A lexeme of a known kind has the form of that. -/
theorem form_of_kind {c : Char} {cs : List Char} {kind : Kind} (hb : Layout.isBlank c = false)
    (ho : Layout.opensComment c cs = false) (hk : (read c cs).kind = kind) :
    kind.Form (read c cs).value (read c cs).text (read c cs).rest := hk ▸ form_read hb ho

end Lexeme

/-! ## What a lexeme ends with -/

theorem getLast?_ne_of_all {p : Char → Bool} {cs : List Char} {c : Char} (h : cs.all p)
    (hc : p c = false) : cs.getLast? ≠ some c := by
  intro hl
  have hm := List.all_eq_true.1 h c (List.mem_of_getLast? hl)
  rw [hc] at hm
  cases hm

/-- Only an unterminated literal ends with a carriage return, and nothing stands behind that. -/
theorem Kind.Form.getLast?_ne {kind : Kind} {value : Value} {text rest : List Char}
    (h : kind.Form value text rest) (hr : rest ≠ []) : text.getLast? ≠ some '\r' := by
  have hword (hw : IsWord text rest) : text.getLast? ≠ some '\r' := by
    obtain ⟨c, tail, rfl, hc, ht⟩ := hw.begins
    have hstart : Lexeme.isWordChar c := by
      simp only [Lexeme.startsWord, Bool.or_eq_true, beq_iff_eq] at hc
      rcases hc with (hc | rfl) | rfl
      · simp [Lexeme.isWordChar, Char.isAlphanum, hc]
      · decide
      · decide
    exact getLast?_ne_of_all (p := Lexeme.isWordChar) (by simp [hstart, ht]) (by decide)
  have hquoted (hq : IsQuoted text) : text.getLast? ≠ some '\r' := by
    obtain ⟨quote, body, hquote, -, rfl⟩ := hq
    rw [List.getLast?_concat]
    rcases hquote with rfl | rfl <;> decide
  have hnumeric (hn : text.all isNumeric) : text.getLast? ≠ some '\r' :=
    getLast?_ne_of_all hn (by decide)
  cases kind with
  | identifier => exact hword h.1
  | keyword word => exact hword h.1
  | systemVariable =>
    obtain ⟨name, rfl, hn⟩ := h.1
    exact getLast?_ne_of_all (p := Lexeme.isNameChar) (by simpa [Lexeme.isNameChar] using hn)
      (by decide)
  | operator word =>
    obtain ⟨rfl, -, hm⟩ := h
    have hmap : String.ofList text ∈ Lexeme.comparisons.map String.ofList := hm
    obtain ⟨other, hother, he⟩ := List.mem_map.1 hmap
    obtain rfl := String.ofList_injective he
    have hlast : ∀ text ∈ Lexeme.comparisons, text.getLast? ≠ some '\r' := by decide
    exact hlast other hother
  | punctuation c =>
    obtain ⟨-, ht, -, hc⟩ := h
    have hne : c ≠ '\r' := by
      rintro rfl
      exact hc (by decide)
    rcases ht with rfl | ⟨rfl, -⟩ <;> simpa using hne
  | ellipsis => rw [h.1]; decide
  | placeholder =>
    obtain ⟨-, hq | ⟨c, hc, rfl⟩ | ⟨rfl, -⟩⟩ := h
    · exact hquoted hq
    · have hne : c ≠ '\r' := ne_of_pred hc (by decide)
      simpa using hne
    · decide
  | text => exact hquoted h.1
  | integer => exact hnumeric h.1
  | real => exact hnumeric h.1
  | invalid defect =>
    cases defect with
    | malformedNumber => exact hnumeric h.1
    | unterminatedLiteral => exact absurd h.1 hr
  | endOfInput => rw [h.1]; decide

end SqlDml
