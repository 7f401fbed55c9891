import SqlDml.TokenStream

/-!
# Tokens without their places

* `Piece` : a token with the layout before it, as characters and without a position;
* `pieces` : the pieces of a text, the end of the text last;
* `Piece.placeAll` : the tokens of a list of pieces, one behind the other;
* `tokenize_eq_placeAll` : the tokens of a text are its pieces, placed from the start on.

What a piece is depends on the characters alone, so statements about kinds, values and covered text
are made about `pieces`, and statements about offsets and lines about `placeAll`.
-/

namespace SqlDml

structure Piece where
  skipped : List Char
  kind : Kind
  value : Value
  /-- The characters covered. -/
  text : List Char
  deriving Repr, DecidableEq, Inhabited

/-- A lexeme behind some layout. -/
def Lexeme.behind (lexeme : Lexeme) (skipped : List Char) : Piece :=
  ⟨skipped, lexeme.kind, lexeme.value, lexeme.text⟩

namespace Piece

def last (skipped : List Char) : Piece := ⟨skipped, .endOfInput, .text "", []⟩

/-- All that a piece takes from the text. -/
def extent (piece : Piece) : List Char := piece.skipped ++ piece.text

def mark (piece : Piece) : Kind × Value := (piece.kind, piece.value)

/-- The token of a piece that begins, layout included, at `p`. -/
def place (p : Position) (piece : Piece) : Token :=
  let start := p.advance piece.skipped
  .place piece.kind piece.value piece.skipped start (start.advance piece.text)

/-- The tokens of pieces that follow one another from `p` on. -/
def placeAll (p : Position) : List Piece → List Token
  | [] => []
  | piece :: others =>
    piece.place p :: placeAll ((p.advance piece.skipped).advance piece.text) others

end Piece

/-- The pieces of a text, the end of the text last. -/
def pieces (cs : List Char) : List Piece :=
  match _h : Layout.split cs with
  | (skipped, []) => [.last skipped]
  | (skipped, c :: body) =>
    let lexeme := Lexeme.read c body
    lexeme.behind skipped :: pieces lexeme.rest
termination_by cs.length
decreasing_by
  have hl := Layout.length_split_snd_le cs
  have hr := Lexeme.length_rest_read_le c body
  rw [_h, List.length_cons] at hl
  omega

/-! ## Unfolding -/

theorem pieces_of_split_nil {cs skipped : List Char} (h : Layout.split cs = (skipped, [])) :
    pieces cs = [.last skipped] := by
  rw [pieces]
  split
  · rename_i h'
    rw [h] at h'
    cases h'
    rfl
  · rename_i h'
    rw [h] at h'
    cases h'

theorem pieces_nil : pieces [] = [.last []] := pieces_of_split_nil rfl

theorem pieces_of_split_cons {cs skipped body : List Char} {c : Char}
    (h : Layout.split cs = (skipped, c :: body)) :
    pieces cs = (Lexeme.read c body).behind skipped :: pieces (Lexeme.read c body).rest := by
  rw [pieces]
  split
  · rename_i h'
    rw [h] at h'
    cases h'
  · rename_i h'
    rw [h] at h'
    cases h'
    rfl

/-- To prove something of every text, prove it of a text that is all layout, and of one with a
lexeme behind its layout from what holds of the text after that lexeme. -/
theorem pieces_induction {motive : List Char → Prop}
    (last : ∀ cs skipped, Layout.split cs = (skipped, []) → motive cs)
    (lexeme : ∀ cs skipped c body, Layout.split cs = (skipped, c :: body) →
      motive (Lexeme.read c body).rest → motive cs) (cs : List Char) : motive cs := by
  fun_induction pieces cs with
  | case1 cs skipped h => exact last cs skipped h
  | case2 cs skipped c body h _ ih => exact lexeme cs skipped c body h ih

/-! ## Pieces and tokens -/

theorem TokenStream.toList_of_ended {s : TokenStream} (h : s.ended = true) : s.toList = [] := by
  rw [toList]
  split
  · rfl
  · rename_i hn
    simp [next?, h] at hn

/-- The tokens of a stream are the pieces of what is left, placed from its position on. -/
theorem TokenStream.toList_eq_placeAll (cs : List Char) (p : Position) :
    (TokenStream.mk cs p false).toList = Piece.placeAll p (pieces cs) := by
  induction cs using pieces_induction generalizing p with
  | last cs skipped h =>
    rw [pieces_of_split_nil h, toList]
    have hn : (TokenStream.mk cs p false).next? =
        some ((Piece.last skipped).place p, ⟨[], p.advance skipped, true⟩) := by
      simp [next?, h, Piece.place, Piece.last, Position.advance]
    split
    · rename_i hs
      rw [hn] at hs
      cases hs
    · rename_i hs
      rw [hn] at hs
      cases hs
      rw [toList_of_ended rfl]
      rfl
  | lexeme cs skipped c body h ih =>
    rw [pieces_of_split_cons h, toList]
    have hn : (TokenStream.mk cs p false).next? =
        some (((Lexeme.read c body).behind skipped).place p, ⟨(Lexeme.read c body).rest,
          (p.advance skipped).advance (Lexeme.read c body).text, false⟩) := by
      simp [next?, h, Piece.place, Lexeme.behind]
    split
    · rename_i hs
      rw [hn] at hs
      cases hs
    · rename_i hs
      rw [hn] at hs
      cases hs
      rw [ih]
      rfl

theorem tokenize_eq_placeAll (source : String) :
    tokenize source = Piece.placeAll {} (pieces source.toList) :=
  TokenStream.toList_eq_placeAll source.toList {}

end SqlDml
