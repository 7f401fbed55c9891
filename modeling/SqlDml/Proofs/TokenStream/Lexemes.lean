import SqlDml.Proofs.Spelling.Basic
import SqlDml.Proofs.TokenStream.Partition

/-!
# The lexemes that tokens are

* `textFrom` : the text from an offset on;
* `Token.Covers` : a token is a lexeme in its place, and the text behind it is the lexeme's rest;
* `exists_covers_of_mem_tokenize` : every token but the end is the lexeme of the text from its place
  on;
* `IsSole`, `isSole_of_read`, `exists_read_of_isSole` : a text that is one token and nothing else is
  one that is read as one lexeme.
-/

namespace SqlDml

open String (utf8Len)

/-! ## Pieces -/

/-- A piece is the lexeme that the pieces from it on begin with, or the end of the text. -/
theorem lexeme_of_pieces_eq {cs : List Char} {front back : List Piece} {piece : Piece}
    (h : pieces cs = front ++ piece :: back) :
    (piece = .last piece.skipped ∧ back = []) ∨
      ∃ c body, piece = (Lexeme.read c body).behind piece.skipped ∧
        (Lexeme.read c body).rest = back.flatMap Piece.extent ∧
        Layout.isBlank c = false ∧ Layout.opensComment c body = false := by
  induction cs using pieces_induction generalizing front with
  | last cs skipped hs =>
    rw [pieces_of_split_nil hs] at h
    have hnil : front = [] ∧ back = [] := by
      have hl := congrArg List.length h
      simp only [List.length_append, List.length_cons, List.length_nil] at hl
      exact ⟨List.length_eq_zero_iff.1 (by omega), List.length_eq_zero_iff.1 (by omega)⟩
    obtain ⟨rfl, rfl⟩ := hnil
    cases h
    exact .inl ⟨rfl, rfl⟩
  | lexeme cs skipped c body hs ih =>
    rw [pieces_of_split_cons hs] at h
    cases front with
    | nil =>
      obtain ⟨rfl, hback⟩ := List.cons.inj h
      refine .inr ⟨c, body, rfl, ?_, Layout.not_layout_of_split hs⟩
      rw [← hback, flatMap_extent_pieces]
    | cons first front => exact ih (List.cons.inj h).2

/-! ## Tokens -/

/-- The text from an offset on. -/
def textFrom (source : String) (offset : Nat) : List Char :=
  (Span.slice ⟨offset, source.utf8ByteSize⟩ source).toList

theorem textFrom_append (before after : List Char) :
    textFrom (String.ofList (before ++ after)) (utf8Len before) = after := by
  have h := slice_append before after []
  rw [List.append_nil] at h
  rw [textFrom, String.utf8ByteSize_ofList, h, String.toList_ofList]

/-- The token has the kind and value of the lexeme, covers its text, and has its rest behind it. -/
structure Token.Covers (source : String) (token : Token) (lexeme : Lexeme) : Prop where
  kind_eq : token.kind = lexeme.kind
  value_eq : token.value = lexeme.value
  text_eq : (token.span.slice source).toList = lexeme.text
  rest_eq : textFrom source token.span.stop = lexeme.rest

/-- Each token is the lexeme that begins where it does, or the end of the text. -/
theorem exists_covers_of_mem_tokenize {source : String} (hl : source.utf8ByteSize < UInt32.size)
    {token : Token} (h : token ∈ tokenize source) :
    (token.kind = .endOfInput ∧ textFrom source token.span.start = []) ∨
      ∃ c cs, textFrom source token.span.start = c :: cs ∧
        token.Covers source (Lexeme.read c cs) ∧
        Layout.isBlank c = false ∧ Layout.opensComment c cs = false := by
  rw [tokenize_eq_placeAll] at h
  obtain ⟨front, piece, back, q, hpieces, rfl, hq⟩ :=
    @Piece.exists_of_mem_placeAll {} [] _ token rfl h
  rw [List.nil_append] at hq
  have hsource := flatMap_extent_pieces source.toList
  rw [hpieces, List.flatMap_append, List.flatMap_cons, ← List.append_assoc] at hsource
  have hspan := Piece.span_place hq (by rwa [hsource, utf8Len_toList])
  obtain ⟨before, hbefore⟩ : ∃ before, before = front.flatMap Piece.extent ++ piece.skipped :=
    ⟨_, rfl⟩
  obtain ⟨rest, hrest⟩ : ∃ rest, rest = back.flatMap Piece.extent := ⟨_, rfl⟩
  have htext : source = String.ofList (before ++ (piece.text ++ rest)) := by
    rw [← source.ofList_toList, ← hsource, hbefore, hrest, Piece.extent]
    simp only [List.append_assoc]
  rw [hspan, ← hbefore]
  rcases lexeme_of_pieces_eq hpieces with ⟨hlast, rfl⟩ | ⟨c, body, hpiece, hbehind, hb, ho⟩
  · refine .inl ⟨?_, ?_⟩
    · rw [hlast]
      rfl
    · obtain rfl : rest = [] := hrest
      rw [htext, textFrom_append, hlast]
      rfl
  · rw [← hrest] at hbehind
    have hcovered : piece.text = (Lexeme.read c body).text := by rw [hpiece]; rfl
    have hbody := Lexeme.text_append_rest c body
    rw [← hcovered, hbehind] at hbody
    refine .inr ⟨c, body, ?_, ⟨?_, ?_, ?_, ?_⟩, hb, ho⟩
    · rw [htext, textFrom_append, hbody]
    · rw [hpiece]
      rfl
    · rw [hpiece]
      rfl
    · rw [hspan, ← hbefore, htext, ← List.append_assoc, slice_append, String.toList_ofList,
        hcovered]
    · rw [hspan, ← hbefore, htext, ← List.append_assoc, textFrom_append, hbehind]

/-! ## Texts of one token -/

/-- The text is one token with a kind and a value, and its end. -/
def IsSole (text : String) (m : Mark) : Prop :=
  (tokenize text).map (fun token => (token.mark, token.skipped, token.span)) =
    [(m, "", ⟨0, text.utf8ByteSize⟩),
      (Mark.last, "", ⟨text.utf8ByteSize, text.utf8ByteSize⟩)]

theorem isSole_of_read {text : String} (hl : text.utf8ByteSize < UInt32.size) {c : Char}
    {cs : List Char} {m : Mark} (ht : text.toList = c :: cs) (hb : Layout.isBlank c = false)
    (ho : Layout.opensComment c cs = false) (hr : Lexeme.read c cs = ⟨m.1, m.2, c :: cs, []⟩) :
    IsSole text m := by
  have hs : Layout.split text.toList = ([], c :: cs) := by
    rw [ht]
    exact Layout.splitFrom_false_other ho hb
  have hpieces := pieces_of_split_cons hs
  rw [hr, pieces_nil, ← ht] at hpieces
  have hsize := utf8Len_toList text
  rw [IsSole, tokenize_eq_placeAll, hpieces]
  simp only [Piece.placeAll, Piece.place, Piece.last, Lexeme.behind, Token.place, Token.mark,
    Position.advance, Position.offset_advance, hsize, Nat.zero_add, clampOffset_of_lt hl,
    List.map_cons]
  rfl

theorem exists_read_of_isSole {text : String} (hl : text.utf8ByteSize < UInt32.size) {m : Mark}
    (h : IsSole text m) (hm : m.1 ≠ .endOfInput) :
    ∃ c cs, text.toList = c :: cs ∧ Lexeme.read c cs = ⟨m.1, m.2, c :: cs, []⟩ := by
  obtain ⟨token, others, htokens, htoken, -⟩ := List.map_eq_cons_iff.1 h
  simp only [Prod.mk.injEq] at htoken
  obtain ⟨hmark, -, hspan⟩ := htoken
  have hmem : token ∈ tokenize text := by rw [htokens]; exact List.mem_cons_self
  rcases exists_covers_of_mem_tokenize hl hmem with ⟨hend, -⟩ | ⟨c, cs, hfrom, hcovers, -⟩
  · rw [← hmark] at hm
    exact absurd hend hm
  · have hwhole := textFrom_append [] text.toList
    have hnone := textFrom_append text.toList []
    rw [List.nil_append, String.ofList_toList] at hwhole
    rw [List.append_nil, String.ofList_toList, utf8Len_toList] at hnone
    have htext : text.toList = c :: cs := by rw [← hwhole, ← hfrom, hspan]; rfl
    have hrest : (Lexeme.read c cs).rest = [] := by rw [← hcovers.rest_eq, hspan, hnone]
    have hcovered := Lexeme.text_append_rest c cs
    rw [hrest, List.append_nil] at hcovered
    refine ⟨c, cs, htext, ?_⟩
    rw [← hmark, Token.mark, hcovers.kind_eq, hcovers.value_eq]
    show Lexeme.read c cs = ⟨(Lexeme.read c cs).kind, (Lexeme.read c cs).value, c :: cs, []⟩
    rw [← hrest, ← hcovered]

end SqlDml
