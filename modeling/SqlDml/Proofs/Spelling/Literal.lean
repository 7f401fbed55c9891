import SqlDml.Proofs.Lexeme.Form
import SqlDml.Proofs.Spelling.Number
import SqlDml.Proofs.TokenStream.Partition

/-!
# Literals

* `IsPlaceholder` : a text that is read as a placeholder somewhere;
* `Literal.Clean`, `Literal.mark` : the literals that can be read back, and what each is read as;
* `isLexeme_literal` : the text of a clean literal is one lexeme with its mark;
* `Literal.Legible`, `tokenize_literal` : the same for a text that is nothing else.

A lone percent sign is a placeholder at the end of a text only, so it cannot be read back from
within a statement.
-/

namespace SqlDml

/-! ## Texts -/

theorem isLexeme_text (s : String) :
    IsLexeme (Literal.quotedText s.toList) (.text, .text s) := by
  have hread : Lexeme.read '\'' (Literal.quotedBody s.toList ++ ['\'']) =
      ⟨.text, .text s, Literal.quotedText s.toList, []⟩ := by
    show Lexeme.quoted '\'' _ = _
    rw [Lexeme.quoted, Quoted.scan_eq_read, Quoted.read_quotedBody s.toList []]
    simp [Literal.quotedText]
  exact isLexeme_of_alone rfl rfl hread rfl (by decide)

/-! ## Placeholders -/

/-- The value of a placeholder of some text. -/
def IsPlaceholder (spelling : String) : Prop :=
  ∃ source, ∃ token ∈ tokenize source,
    token.kind = .placeholder ∧ token.value = .text spelling

theorem isPlaceholder_of_read {spelling : String} {c : Char} {cs : List Char}
    (hb : Layout.isBlank c = false) (ho : Layout.opensComment c cs = false)
    (h : (Lexeme.read c cs).mark = (.placeholder, .text spelling)) : IsPlaceholder spelling := by
  have hm : (Kind.placeholder, Value.text spelling) ∈
      (tokenize (String.ofList (c :: cs))).map Token.mark := by
    rw [map_mark_tokenize, String.toList_ofList, marks_cons hb ho, h]
    exact List.mem_cons_self
  obtain ⟨token, ht, hmark⟩ := List.mem_map.1 hm
  obtain ⟨hk, hv⟩ := Prod.mk.inj hmark
  exact ⟨String.ofList (c :: cs), token, ht, hk, hv⟩

/-- Each mark but that of the end is of a lexeme that begins with no layout. -/
theorem mark_of_mem_marks {m : Mark} {cs : List Char} (h : m ∈ marks cs) :
    m = Mark.last ∨ ∃ c body, m = (Lexeme.read c body).mark ∧
      Layout.isBlank c = false ∧ Layout.opensComment c body = false := by
  induction cs using pieces_induction with
  | last cs skipped hs =>
    rw [marks, pieces_of_split_nil hs] at h
    exact .inl (List.mem_singleton.1 h)
  | lexeme cs skipped c body hs ih =>
    rw [marks, pieces_of_split_cons hs, List.map_cons, List.mem_cons] at h
    rcases h with rfl | h
    · exact .inr ⟨c, body, rfl, Layout.not_layout_of_split hs⟩
    · exact ih h

/-- The value of a placeholder is all that it covers. -/
theorem value_of_placeholder {c : Char} {cs : List Char} (hb : Layout.isBlank c = false)
    (ho : Layout.opensComment c cs = false) (h : (Lexeme.read c cs).kind = .placeholder) :
    (Lexeme.read c cs).value = .text (String.ofList (Lexeme.read c cs).text) :=
  (Lexeme.form_of_kind hb ho h).1

/-- A placeholder is read back, but a lone percent sign only at the end of a text. -/
theorem isLexeme_placeholder {spelling : String} (h : IsPlaceholder spelling)
    (hp : spelling ≠ "%") : IsLexeme spelling.toList (.placeholder, .text spelling) := by
  obtain ⟨source, token, ht, hk, hv⟩ := h
  have hm : token.mark ∈ marks source.toList := map_mark_tokenize source ▸ List.mem_map_of_mem ht
  rw [Token.mark, hk, hv] at hm
  rcases mark_of_mem_marks hm with hl | ⟨c, cs, hl, hb, ho⟩
  · cases hl
  obtain ⟨hkind, hvalue⟩ := Prod.mk.inj hl
  rw [value_of_placeholder hb ho hkind.symm] at hvalue
  obtain rfl := Value.text.inj hvalue
  have hlexeme := @isLexeme_of_read c cs hb ho (by rw [← hkind]; rfl)
    fun htext => hp (by rw [htext])
  rw [String.toList_ofList]
  rwa [← hl] at hlexeme

/-! ## All literals -/

namespace Literal

def mark : Literal → Mark
  | integer n => (.integer, .integer n)
  | real x => (.real, .real x)
  | text s => (.text, .text s)
  | placeholder spelling => (.placeholder, .text spelling)
  | null => .keyword "null"

/-- Whether the text of a literal can be read back. -/
def Clean : Literal → Prop
  | real x => x.isFinite
  | placeholder spelling => IsPlaceholder spelling ∧ spelling ≠ "%"
  | _ => True

end Literal

theorem isLexeme_null : IsLexeme "NULL".toList (.keyword "null") := by
  have h : IsLexeme "NULL".toList (Mark.word "NULL".toList) := isLexeme_word (by decide)
  rwa [show Mark.word "NULL".toList = .keyword "null" by decide] at h

theorem spells_null : Spells "NULL" [.keyword "null"] := isLexeme_null.spells

theorem isLexeme_literal {l : Literal} (h : l.Clean) : IsLexeme l.render.toList l.mark := by
  cases l with
  | integer n =>
    rw [Literal.render, String.toList_ofList]
    exact isLexeme_integer n
  | real x =>
    rw [Literal.render, String.toList_ofList]
    exact isLexeme_real h
  | text s =>
    rw [Literal.render, String.toList_ofList]
    exact isLexeme_text s
  | placeholder spelling => exact isLexeme_placeholder h.1 h.2
  | null => exact isLexeme_null

theorem spells_literal {l : Literal} (h : l.Clean) : Spells l.render [l.mark] :=
  (isLexeme_literal h).spells

/-! ## Literals by themselves -/

/-- Whether the text of a literal can be read back where nothing stands behind it. -/
def Literal.Legible : Literal → Prop
  | real x => x.isFinite
  | placeholder spelling => IsPlaceholder spelling
  | _ => True

theorem pieces_literal {l : Literal} (h : l.Legible) :
    pieces l.render.toList = [⟨[], l.mark.1, l.mark.2, l.render.toList⟩, .last []] := by
  by_cases hp : l = .placeholder "%"
  · subst hp
    have hs : Layout.split (Literal.placeholder "%").render.toList = ([], ['%']) := rfl
    rw [pieces_of_split_cons hs, show (Lexeme.read '%' []).rest = [] from rfl, pieces_nil]
    rfl
  · have hclean : l.Clean := by
      cases l with
      | real x => exact h
      | placeholder spelling => exact ⟨h, fun he => hp (by rw [he])⟩
      | integer n => trivial
      | text s => trivial
      | null => trivial
    have hpieces := (isLexeme_literal hclean).pieces_append [] stops_nil
    rwa [List.append_nil, pieces_nil] at hpieces

/-- The text of a literal is one token of its kind and value, and nothing else. -/
theorem tokenize_literal {l : Literal} (hl : l.render.utf8ByteSize < UInt32.size) (h : l.Legible) :
    (tokenize l.render).map (fun token => (token.mark, token.skipped, token.span)) =
      [(l.mark, "", ⟨0, l.render.utf8ByteSize⟩),
        (Mark.last, "", ⟨l.render.utf8ByteSize, l.render.utf8ByteSize⟩)] := by
  have hsize := utf8Len_toList l.render
  rw [tokenize_eq_placeAll, pieces_literal h]
  simp only [Piece.placeAll, Piece.place, Piece.last, Token.place, Token.mark, Position.advance,
    Position.offset_advance, hsize, Nat.zero_add, clampOffset_of_lt hl, List.map_cons]
  rfl

/-- Minus zero keeps its sign and its point, and a lone percent sign is a placeholder. -/
theorem tokenize_literal_signs :
    (tokenize (Literal.real ⟨0x8000000000000000⟩).render).map
        (fun token => (token.mark, token.skipped, token.span)) =
      [((.real, .real ⟨0x8000000000000000⟩), "", ⟨0, 4⟩), (Mark.last, "", ⟨4, 4⟩)] ∧
    (tokenize (Literal.placeholder "%").render).map
        (fun token => (token.mark, token.skipped, token.span)) =
      [((.placeholder, .text "%"), "", ⟨0, 1⟩), (Mark.last, "", ⟨1, 1⟩)] := by
  have hzero : (Literal.real ⟨0x8000000000000000⟩).render.utf8ByteSize = 4 := by decide +kernel
  have hpercent : IsPlaceholder "%" := @isPlaceholder_of_read _ '%' [] rfl rfl rfl
  refine ⟨?_, tokenize_literal (by decide) hpercent⟩
  have hfinite : Binary64.isFinite ⟨0x8000000000000000⟩ := by decide
  have h := @tokenize_literal (.real ⟨0x8000000000000000⟩) (by rw [hzero]; decide) hfinite
  rwa [hzero] at h

end SqlDml
