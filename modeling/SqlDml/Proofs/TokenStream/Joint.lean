import SqlDml.Proofs.Layout.Grammar
import SqlDml.Proofs.Lexeme.Following
import SqlDml.Proofs.TokenStream.Pieces

/-!
# Where a text is joined to another

* `pieces_lexeme_append` : a lexeme behind any layout, before a text that looks like its own rest;
* `pieces_laid_append` : layout in front of a text joins the layout of its first piece;
* `exists_pieces_eq_append_last` : the last piece is the end of the text, and none but the last.

Whatever is put together from layout and from lexemes that were read somewhere is read piece by
piece if each joint is one of these.
-/

namespace SqlDml

/-! ## Layout in front -/

namespace Piece

/-- A piece behind another layout. -/
def relay (layout : List Char) (piece : Piece) : Piece := { piece with skipped := layout }

/-- Pieces with more layout in front of the first. -/
def after (layout : List Char) : List Piece → List Piece
  | [] => []
  | piece :: others => piece.relay (layout ++ piece.skipped) :: others

@[simp] theorem map_mark_after (layout : List Char) (list : List Piece) :
    (after layout list).map mark = list.map mark := by
  cases list <;> rfl

end Piece

theorem pieces_laid_append {layout : List Char} (h : Layout.Laid false layout) (cs : List Char) :
    pieces (layout ++ cs) = Piece.after layout (pieces cs) := by
  have hsplit := @Layout.split_append_of_laid _ _ h cs nofun
  rcases hs : Layout.split cs with ⟨skipped, _ | ⟨c, body⟩⟩
  · rw [hs] at hsplit
    rw [pieces_of_split_nil hs, pieces_of_split_nil hsplit]
    rfl
  · rw [hs] at hsplit
    rw [pieces_of_split_cons hs, pieces_of_split_cons hsplit]
    rfl

/-! ## One lexeme -/

/-- A lexeme is read as it was behind any layout, and before any text that looks like its rest. -/
theorem pieces_lexeme_append {cs skipped body layout other : List Char} {c : Char}
    (hs : Layout.split cs = (skipped, c :: body)) (hl : Layout.Laid false layout)
    (hf : Lexeme.Follows (Lexeme.read c body).rest other)
    (hk : (Lexeme.read c body).kind ≠ .invalid .unterminatedLiteral)
    (hp : (Lexeme.read c body).text = ['%'] → ((Lexeme.read c body).rest = [] ↔ other = [])) :
    pieces (layout ++ (Lexeme.read c body).text ++ other) =
      (Lexeme.read c body).behind layout :: pieces other := by
  obtain ⟨hb, ho⟩ := Layout.not_layout_of_split hs
  have hsplit := Layout.split_laid_append hl hb (Lexeme.opensComment_follows hf ho)
  have hpieces := pieces_of_split_cons hsplit
  rw [Lexeme.read_append hf hk hp] at hpieces
  rw [Lexeme.text_read_eq_cons, List.append_assoc]
  exact hpieces

/-! ## The last piece -/

theorem pieces_of_laid {atEnd : Bool} {layout : List Char} (h : Layout.Laid atEnd layout) :
    pieces layout = [.last layout] := pieces_of_split_nil (Layout.split_of_laid h)

/-- The end of the text is the last piece. -/
theorem exists_pieces_eq_append_last (cs : List Char) :
    ∃ front skipped, pieces cs = front ++ [.last skipped] := by
  induction cs using pieces_induction with
  | last cs skipped hs => exact ⟨[], skipped, pieces_of_split_nil hs⟩
  | lexeme cs skipped c body hs ih =>
    obtain ⟨front, last, h⟩ := ih
    exact ⟨_ :: front, last, by rw [pieces_of_split_cons hs, h, List.cons_append]⟩

theorem pieces_ne_nil (cs : List Char) : pieces cs ≠ [] := by
  obtain ⟨front, skipped, hpieces⟩ := exists_pieces_eq_append_last cs
  rw [hpieces]
  exact List.append_ne_nil_of_right_ne_nil _ (List.cons_ne_nil _ _)

/-- The last lexeme of a text with at least one more is not its first. -/
theorem mem_getLast?_dropLast_cons {cs : List Char} {piece found : Piece} :
    found ∈ (piece :: pieces cs).dropLast.getLast? ↔
      found ∈ (pieces cs).dropLast.getLast? ∨ (found = piece ∧ (pieces cs).length = 1) := by
  obtain ⟨front, skipped, hpieces⟩ := exists_pieces_eq_append_last cs
  rw [hpieces, List.dropLast_cons_of_ne_nil (by simp), List.dropLast_concat, List.getLast?_cons]
  cases h : front.getLast? with
  | none =>
    obtain rfl := List.getLast?_eq_none_iff.1 h
    simp [eq_comm]
  | some q =>
    have hne : front ≠ [] := by
      rintro rfl
      cases h
    simp [hne]

end SqlDml
