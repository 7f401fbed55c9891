import SqlDml.Proofs.Text.Case
import SqlDml.Proofs.TokenStream.Progress

/-!
# The names of tokens

* `Kind.Lexed` : the kinds that tokens have, by the words and characters that go with them;
* `lexed_of_mem_tokenize` : every token of a text has one of them;
* `Kind.ofName`, `Kind.ofName_name` : a kind read back from its name, all that is broken as one;
* `name_eq_iff` : tokens with one name are of one kind, or both are broken;
* `isValueName_name_iff` : the tests of names and of kinds for values agree but on null.

Names without a fixed kind are told apart by their first character. Keywords begin as words do, and
neither operators nor punctuation characters begin so, although the operators are symbols as well.
-/

namespace SqlDml

namespace Kind

/-! ## Kinds of tokens -/

def comparisonWords : List String := Lexeme.comparisons.map String.ofList

/-- Whether a token can be of the kind. -/
def Lexed : Kind → Prop
  | keyword word => Dialect.isSymbol word ∧ word.toList.head?.any Lexeme.startsWord
  | operator word => word ∈ comparisonWords
  | punctuation c => Lexeme.startsWord c = false ∧ c ∉ ['=', '<', '>']
  | _ => True

theorem Form.lexed {kind : Kind} {value : Value} {text rest : List Char}
    (h : kind.Form value text rest) : kind.Lexed := by
  cases kind with
  | keyword word =>
    obtain ⟨hword, rfl, hsymbol, -⟩ := h
    obtain ⟨c, tail, rfl, hc, -⟩ := hword.begins
    refine ⟨hsymbol, ?_⟩
    have hlower : Lexeme.startsWord c.toLower = Lexeme.startsWord c :=
      Text.apply_toLower Lexeme.startsWord (by decide) c
    rw [lowered, String.toList_ofList]
    exact hlower.trans hc
  | operator word => exact h.2.2
  | punctuation c =>
    obtain ⟨-, -, ha, hc⟩ := h
    rw [Char.isAlphanum, Bool.or_eq_false_iff] at ha
    simp only [List.mem_cons, List.not_mem_nil, or_false, not_or] at hc
    simp [Lexed, Lexeme.startsWord, ha.1, hc]
  | _ => trivial

/-! ## Reading a name back -/

/-- The kinds with a fixed name, one for all that is broken. -/
def fixed : List Kind :=
  [identifier, integer, real, text, placeholder, systemVariable, ellipsis, endOfInput,
    invalid .malformedNumber]

def ofName (name : String) : Kind :=
  match fixed.find? (·.name == name) with
  | some kind => kind
  | none =>
    if comparisonWords.contains name then operator name
    else if name.toList.head?.any Lexeme.startsWord then keyword name
    else punctuation (name.toList.headD ' ')

theorem ofName_of_not_fixed {name : String} (hf : ∀ kind ∈ fixed, kind.name ≠ name)
    (hc : name ∉ comparisonWords) :
    ofName name =
      if name.toList.head?.any Lexeme.startsWord then keyword name
      else punctuation (name.toList.headD ' ') := by
  have hnone : fixed.find? (·.name == name) = none :=
    List.find?_eq_none.2 fun kind hk => by simpa using hf kind hk
  have hcontains : comparisonWords.contains name = false :=
    Bool.eq_false_iff.2 fun hm => hc (List.contains_iff_mem.1 hm)
  rw [ofName, hnone, hcontains]
  rfl

theorem ofName_symbol {word : String} (hs : Dialect.isSymbol word)
    (hw : word.toList.head?.any Lexeme.startsWord) : ofName word = keyword word := by
  have hfixed : ∀ kind ∈ fixed, Dialect.isSymbol kind.name = false := by decide +kernel
  have hcomparison : ∀ word ∈ comparisonWords,
      word.toList.head?.any Lexeme.startsWord = false := by decide
  rw [ofName_of_not_fixed, hw, if_pos rfl]
  · rintro kind hk rfl
    exact Bool.false_ne_true ((hfixed kind hk).symm.trans hs)
  · exact fun hm => Bool.false_ne_true ((hcomparison word hm).symm.trans hw)

theorem ofName_singleton {c : Char} (hw : Lexeme.startsWord c = false) (hc : c ∉ ['=', '<', '>']) :
    ofName (String.singleton c) = punctuation c := by
  have htext : (String.singleton c).toList = [c] := String.toList_singleton c
  have hfixed : ∀ kind ∈ fixed, kind.name.toList.tail ≠ [] := by decide
  have hcomparison : ∀ word ∈ comparisonWords, word.toList.tail = [] →
      word.toList.headD ' ' ∈ ['=', '<', '>'] := by decide
  rw [ofName_of_not_fixed, htext, List.head?_cons, Option.any_some, hw]
  · rfl
  · intro kind hk he
    exact hfixed kind hk (by rw [he, htext]; rfl)
  · intro hm
    have hd := hcomparison _ hm (by rw [htext]; rfl)
    rw [htext] at hd
    exact hc hd

/-- The kind of a token is read back from its name. -/
theorem ofName_name {kind : Kind} (h : kind.Lexed) :
    ofName kind.name = if kind.isInvalid then invalid .malformedNumber else kind := by
  cases kind with
  | keyword word => exact ofName_symbol h.1 h.2
  | operator word =>
    have hall : ∀ word ∈ comparisonWords, ofName word = operator word := by decide
    exact hall word h
  | punctuation c => exact ofName_singleton h.1 h.2
  | _ => rfl

theorem name_of_isInvalid {kind : Kind} (h : kind.isInvalid) : kind.name = "*invalid*" := by
  cases kind with
  | invalid _ => rfl
  | _ => cases h

/-! ## Values by name -/

/-- No keyword is a value by its name, as names of keywords are in lower case. -/
theorem isValueName_name {kind : Kind} (h : kind.Lexed) :
    isValueName kind.name = (kind.isValue && kind != keyword "null") := by
  cases kind with
  | keyword word =>
    have hvalues : ∀ text ∈ valueNames, Dialect.isSymbol text = false := by decide +kernel
    have hname : isValueName word = false := by
      refine Bool.eq_false_iff.2 fun hm => ?_
      exact Bool.false_ne_true ((hvalues word (List.contains_iff_mem.1 hm)).symm.trans h.1)
    rw [name, hname, isValue]
    by_cases hw : word = "null" <;> simp [hw]
  | operator word =>
    have hall : ∀ word ∈ comparisonWords, isValueName word = false := by decide
    exact hall word h
  | punctuation c =>
    have hlong : ∀ name ∈ valueNames, name.toList.tail ≠ [] := by decide
    refine Bool.eq_false_iff.2 fun hm => hlong _ (List.contains_iff_mem.1 hm) ?_
    rw [name, String.toList_singleton]
    rfl
  | _ => rfl

/-- Read back, null in upper case would be a keyword, but it is no symbol. -/
theorem name_ne_upperNull {kind : Kind} (h : kind.Lexed) : kind.name ≠ "NULL" := by
  intro hname
  have hkind := ofName_name h
  rw [hname, show ofName "NULL" = keyword "NULL" by decide] at hkind
  split at hkind
  · cases hkind
  · subst hkind
    exact absurd h.1 (by decide +kernel)

end Kind

/-! ## Tokens -/

theorem lexed_of_mem_tokenize {source : String} {token : Token} (h : token ∈ tokenize source) :
    token.kind.Lexed := by
  obtain ⟨n, hn⟩ := List.mem_iff_getElem?.1 h
  obtain ⟨before, piece, rfl, -, htakes⟩ := exists_takes_of_getElem?_tokenize hn
  exact htakes.form.lexed

/-- Tokens of any two texts have the same name if they are of one kind or both broken, and only
then. -/
theorem name_eq_iff {s t : String} {a b : Token} (ha : a ∈ tokenize s) (hb : b ∈ tokenize t) :
    a.kind.name = b.kind.name ↔ a.kind = b.kind ∨ (a.kind.isInvalid ∧ b.kind.isInvalid) := by
  constructor
  · intro hname
    have hkinds := Kind.ofName_name (lexed_of_mem_tokenize ha)
    rw [hname, Kind.ofName_name (lexed_of_mem_tokenize hb)] at hkinds
    by_cases hi : a.kind.isInvalid <;> by_cases hj : b.kind.isInvalid
    · exact .inr ⟨hi, hj⟩
    · rw [if_pos hi, if_neg hj] at hkinds
      exact absurd (hkinds ▸ rfl) hj
    · rw [if_neg hi, if_pos hj] at hkinds
      exact absurd (hkinds ▸ rfl) hi
    · rw [if_neg hi, if_neg hj] at hkinds
      exact .inl hkinds.symm
  · rintro (hkind | ⟨hi, hj⟩)
    · rw [hkind]
    · rw [Kind.name_of_isInvalid hi, Kind.name_of_isInvalid hj]

/-- A quote without an end and a number without its exponent share a name. -/
theorem name_eq_iff_broken :
    let quote : Token := ⟨.invalid .unterminatedLiteral, .text "'", "", ⟨0, 1⟩, 1, 1⟩
    let number : Token := ⟨.invalid .malformedNumber, .text "1e", "", ⟨0, 2⟩, 1, 1⟩
    quote ∈ tokenize "'" ∧ number ∈ tokenize "1e" ∧
      (quote.kind.name = number.kind.name ↔
        quote.kind = number.kind ∨ (quote.kind.isInvalid ∧ number.kind.isInvalid)) := by
  intro quote number
  have hquote : quote ∈ tokenize "'" := by decide +kernel
  have hnumber : number ∈ tokenize "1e" := by decide +kernel
  exact ⟨hquote, hnumber, name_eq_iff hquote hnumber⟩

/-- The two tests for values agree on every token but that of null. The name in upper case that the
test of names has for it is the name of no token. -/
theorem isValueName_name_iff {source : String} {token : Token} (h : token ∈ tokenize source) :
    (isValueName token.kind.name = token.kind.isValue ↔ token.kind ≠ .keyword "null") ∧
      token.kind.name ≠ "NULL" := by
  have hlexed := lexed_of_mem_tokenize h
  refine ⟨?_, Kind.name_ne_upperNull hlexed⟩
  rw [Kind.isValueName_name hlexed]
  by_cases hnull : token.kind = .keyword "null"
  · rw [hnull]
    decide
  · simp [hnull]

theorem isValueName_name_iff_placeholder :
    let token : Token := ⟨.placeholder, .text "%s", " ", ⟨4, 6⟩, 1, 5⟩
    token ∈ tokenize "a = %s" ∧
      (isValueName token.kind.name = token.kind.isValue ↔ token.kind ≠ .keyword "null") ∧
      token.kind.name ≠ "NULL" := by
  intro token
  have hm : token ∈ tokenize "a = %s" := by decide +kernel
  exact ⟨hm, isValueName_name_iff hm⟩

/-- The token of null is a value by its kind, but not by its name. -/
theorem isValueName_null :
    ∃ token ∈ tokenize "null", token.kind = .keyword "null" ∧ token.kind.isValue = true ∧
      isValueName token.kind.name = false := by
  decide +kernel

end SqlDml
