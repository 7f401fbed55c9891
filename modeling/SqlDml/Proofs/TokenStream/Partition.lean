import Mathlib.Data.String.Basic
import SqlDml.Proofs.Layout.Grammar
import SqlDml.Proofs.TokenStream.Pieces

/-!
# Tokens partition their text

* `Span.slice` : the text that a span covers;
* `Partitions` : tokens follow one another through a text from its start to its end, on character
  boundaries, with nothing between them but the layout that they skip;
* `tokenize_partitions` : the tokens of a text of less than 4 GiB partition it.

The bound is where offsets begin to be reported as the largest one.
-/

namespace SqlDml

open String (utf8Len)

/-- The text that a span covers. -/
def Span.slice (span : Span) (source : String) : String :=
  String.Pos.Raw.extract source ⟨span.start⟩ ⟨span.stop⟩

/-- Each token begins where the one before it ended, or at `stop`, and as many bytes later as the
layout that it skips has. -/
def Token.Abut (stop : Nat) : List Token → Prop
  | [] => True
  | token :: others =>
    token.span.start = stop + token.skipped.utf8ByteSize ∧ Abut token.span.stop others

structure Partitions (source : String) (tokens : List Token) : Prop where
  in_bounds : ∀ token ∈ tokens,
    token.span.start ≤ token.span.stop ∧ token.span.stop ≤ source.utf8ByteSize
  on_boundaries : ∀ token ∈ tokens,
    String.Pos.Raw.IsValid source ⟨token.span.start⟩ ∧
      String.Pos.Raw.IsValid source ⟨token.span.stop⟩
  in_order : tokens.Pairwise fun token later => token.span.stop ≤ later.span.start
  abut : Token.Abut 0 tokens
  whole : String.join (tokens.map fun token => token.skipped ++ token.span.slice source) = source
  /-- A comment without its line break is skipped only where the text ends. -/
  laid : ∀ token ∈ tokens,
    Layout.Laid (token.span.start == source.utf8ByteSize) token.skipped.toList
  bare : ∀ token ∈ tokens, ∀ c cs, (token.span.slice source).toList = c :: cs →
    Layout.isBlank c = false ∧ Layout.opensComment c cs = false

/-! ## Pieces cover their text -/

theorem flatMap_extent_pieces (cs : List Char) : (pieces cs).flatMap Piece.extent = cs := by
  induction cs using pieces_induction with
  | last cs skipped h =>
    have hs := Layout.split_append cs
    rw [h] at hs
    rw [pieces_of_split_nil h]
    simpa [Piece.extent, Piece.last] using hs
  | lexeme cs skipped c body h ih =>
    have hs := Layout.split_append cs
    have hr := Lexeme.text_append_rest c body
    rw [h, ← hr] at hs
    rw [pieces_of_split_cons h, List.flatMap_cons, ih]
    simpa [Piece.extent, Lexeme.behind] using hs

/-- What a piece skips is layout, and what it covers begins with none. -/
theorem layout_of_mem_pieces {cs : List Char} {piece : Piece} (h : piece ∈ pieces cs) :
    Layout.Laid piece.text.isEmpty piece.skipped ∧
      ∀ c text, piece.text = c :: text →
        Layout.isBlank c = false ∧ Layout.opensComment c text = false := by
  induction cs using pieces_induction with
  | last cs skipped hs =>
    have hl := Layout.laid_split cs
    rw [pieces_of_split_nil hs, List.mem_singleton] at h
    rw [hs] at hl
    subst h
    exact ⟨hl, by simp [Piece.last]⟩
  | lexeme cs skipped c body hs ih =>
    rw [pieces_of_split_cons hs, List.mem_cons] at h
    rcases h with rfl | h
    · have hl := Layout.laid_split cs
      have hr := Lexeme.text_append_rest c body
      obtain ⟨hb, ho⟩ := Layout.not_layout_of_split hs
      rw [hs] at hl
      refine ⟨?_, fun d text ht => ?_⟩
      · have hn := Lexeme.text_read_ne_nil c body
        rw [show (Lexeme.behind (Lexeme.read c body) skipped).text = (Lexeme.read c body).text
          from rfl, List.isEmpty_eq_false_iff.2 hn]
        exact hl
      · rw [show (Lexeme.read c body).text = d :: text from ht, List.cons_append,
          List.cons.injEq] at hr
        obtain ⟨rfl, hr⟩ := hr
        rw [← hr] at ho
        refine ⟨hb, ?_⟩
        cases text with
        | nil =>
          simp only [Layout.opensComment, Bool.or_eq_false_iff] at ho ⊢
          exact ⟨ho.1, by simp⟩
        | cons e text => exact ho
    · exact ih h

/-- Only the last piece covers nothing. -/
theorem text_ne_nil_of_pieces_eq {cs : List Char} {front back : List Piece} {piece : Piece}
    (h : pieces cs = front ++ piece :: back) (hb : back ≠ []) : piece.text ≠ [] := by
  induction cs using pieces_induction generalizing front with
  | last cs skipped hs =>
    rw [pieces_of_split_nil hs] at h
    have hl := congrArg List.length h
    have hp := List.length_pos_iff.2 hb
    simp only [List.length_append, List.length_cons, List.length_nil] at hl
    omega
  | lexeme cs skipped c body hs ih =>
    rw [pieces_of_split_cons hs] at h
    cases front with
    | nil =>
      rw [List.nil_append, List.cons.injEq] at h
      rw [← h.1]
      exact Lexeme.text_read_ne_nil c body
    | cons first front =>
      rw [List.cons_append, List.cons.injEq] at h
      exact ih h.2

/-! ## Places -/

theorem Position.offset_step (p : Position) (c : Char) (following : Option Char) :
    (p.step c following).offset = p.offset + c.utf8Size := by
  simp only [step]
  split <;> rfl

theorem Position.offset_advance (p : Position) (cs : List Char) :
    (p.advance cs).offset = p.offset + utf8Len cs := by
  induction cs generalizing p with
  | nil => rfl
  | cons c cs ih =>
    rw [advance, ih, offset_step, String.utf8Len_cons]
    omega

theorem utf8Len_toList (s : String) : utf8Len s.toList = s.utf8ByteSize := by
  rw [← String.utf8ByteSize_ofList, String.ofList_toList]

theorem length_le_utf8Len (cs : List Char) : cs.length ≤ utf8Len cs := by
  induction cs with
  | nil => exact Nat.le_refl 0
  | cons c cs ih =>
    have hpos := c.utf8Size_pos
    rw [List.length_cons, String.utf8Len_cons]
    omega

theorem clampOffset_of_lt {offset : Nat} (h : offset < UInt32.size) :
    clampOffset offset = offset := by
  rw [clampOffset, maxOffset]
  omega

theorem slice_append (before text after : List Char) :
    Span.slice ⟨utf8Len before, utf8Len (before ++ text)⟩
        (String.ofList (before ++ text ++ after)) = String.ofList text := by
  rw [Span.slice, String.utf8Len_append]
  exact String.extract_of_valid before text after

theorem isValid_append (before after : List Char) :
    String.Pos.Raw.IsValid (String.ofList (before ++ after)) ⟨utf8Len before⟩ := by
  rw [String.Pos.Raw.isValid_iff_exists_append]
  exact ⟨String.ofList before, String.ofList after, String.ofList_append, by simp⟩

namespace Piece

/-- The spans of a piece that stands behind `before`, in a text of less than 4 GiB. -/
theorem span_place {p : Position} {before after : List Char} {piece : Piece}
    (hp : p.offset = utf8Len before)
    (hl : utf8Len (before ++ piece.extent ++ after) < UInt32.size) :
    (piece.place p).span =
      ⟨utf8Len (before ++ piece.skipped), utf8Len (before ++ piece.skipped ++ piece.text)⟩ := by
  simp only [extent, String.utf8Len_append] at hl
  simp only [place, Token.place, Position.offset_advance, hp, String.utf8Len_append]
  rw [clampOffset_of_lt (by omega), clampOffset_of_lt (by omega)]

theorem offset_after {p : Position} {before : List Char} {piece : Piece}
    (hp : p.offset = utf8Len before) :
    ((p.advance piece.skipped).advance piece.text).offset = utf8Len (before ++ piece.extent) := by
  rw [Position.offset_advance, Position.offset_advance, hp, extent, String.utf8Len_append,
    String.utf8Len_append]
  omega

/-- The tokens of some pieces skip and cover what the pieces do. -/
theorem slices_placeAll {p : Position} {before : List Char} {list : List Piece}
    (hp : p.offset = utf8Len before)
    (hl : utf8Len (before ++ list.flatMap extent) < UInt32.size) :
    (placeAll p list).map (fun token => (token.skipped.toList,
        (token.span.slice (String.ofList (before ++ list.flatMap extent))).toList)) =
      list.map fun piece => (piece.skipped, piece.text) := by
  induction list generalizing p before with
  | nil => rfl
  | cons piece list ih =>
    rw [List.flatMap_cons, ← List.append_assoc] at hl ⊢
    have hs := span_place hp hl
    rw [placeAll, List.map_cons, List.map_cons, ih (offset_after hp) hl, hs]
    have he : before ++ piece.extent = before ++ piece.skipped ++ piece.text := by simp [extent]
    rw [he, slice_append]
    simp [place, Token.place]

theorem abut_placeAll {p : Position} {before : List Char} {list : List Piece}
    (hp : p.offset = utf8Len before)
    (hl : utf8Len (before ++ list.flatMap extent) < UInt32.size) :
    Token.Abut (utf8Len before) (placeAll p list) := by
  induction list generalizing p before with
  | nil => trivial
  | cons piece list ih =>
    rw [List.flatMap_cons, ← List.append_assoc] at hl
    have hs := span_place hp hl
    refine ⟨?_, ?_⟩
    · rw [hs]
      simp [place, Token.place, String.utf8ByteSize_ofList]
    · have ha := ih (offset_after hp) hl
      rw [hs]
      simpa [extent] using ha

/-- Each token is a piece in its place. -/
theorem exists_of_mem_placeAll {p : Position} {before : List Char} {list : List Piece}
    {token : Token} (hp : p.offset = utf8Len before) (h : token ∈ placeAll p list) :
    ∃ front piece back q, list = front ++ piece :: back ∧ token = piece.place q ∧
      q.offset = utf8Len (before ++ front.flatMap extent) := by
  induction list generalizing p before with
  | nil => cases h
  | cons piece list ih =>
    rw [placeAll, List.mem_cons] at h
    rcases h with rfl | h
    · exact ⟨[], piece, list, p, rfl, rfl, by simpa using hp⟩
    · obtain ⟨front, found, back, q, hl, ht, hq⟩ := ih (offset_after hp) h
      exact ⟨piece :: front, found, back, q, by rw [hl, List.cons_append], ht, by simpa using hq⟩

end Piece

theorem join_map_ofList (list : List Piece) :
    String.join (list.map fun piece => String.ofList piece.extent) =
      String.ofList (list.flatMap Piece.extent) := by
  induction list with
  | nil => rfl
  | cons piece list ih =>
    rw [List.map_cons, String.join_cons, ih, List.flatMap_cons, String.ofList_append]

/-! ## The partition -/

theorem Layout.Laid.mono {atEnd : Bool} {cs : List Char} (h : Layout.Laid false cs) :
    Layout.Laid atEnd cs := by
  induction h with
  | nil => exact .nil
  | blank hb _ ih => exact .blank hb ih
  | comment ho hb hl hr _ ih => exact .comment ho hb hl hr ih
  | unfinished _ _ he => cases he

theorem Token.Abut.pairwise {stop : Nat} {tokens : List Token} (h : Token.Abut stop tokens)
    (hs : ∀ token ∈ tokens, token.span.start ≤ token.span.stop) :
    (∀ token ∈ tokens, stop ≤ token.span.start) ∧
      tokens.Pairwise fun token later => token.span.stop ≤ later.span.start := by
  induction tokens generalizing stop with
  | nil => simp
  | cons token tokens ih =>
    obtain ⟨hstart, hothers⟩ := h
    obtain ⟨hle, hpair⟩ := ih hothers fun t ht => hs t (List.mem_cons_of_mem _ ht)
    have hspan := hs token List.mem_cons_self
    refine ⟨fun t ht => ?_, List.pairwise_cons.2 ⟨hle, hpair⟩⟩
    rcases List.mem_cons.1 ht with rfl | ht
    · omega
    · have := hle t ht
      omega

/-- Where the token of a piece stands in the text. -/
theorem span_of_mem_tokenize {source : String} (hl : source.utf8ByteSize < UInt32.size)
    {token : Token} (h : token ∈ tokenize source) :
    ∃ before piece after, source = String.ofList (before ++ piece.skipped ++ piece.text ++ after) ∧
      piece ∈ pieces source.toList ∧ (piece.text = [] → after = []) ∧
      token.skipped = String.ofList piece.skipped ∧
      token.span =
        ⟨utf8Len (before ++ piece.skipped), utf8Len (before ++ piece.skipped ++ piece.text)⟩ := by
  rw [tokenize_eq_placeAll] at h
  obtain ⟨front, piece, back, q, hp, rfl, hq⟩ :=
    @Piece.exists_of_mem_placeAll {} [] _ token rfl h
  have hs := flatMap_extent_pieces source.toList
  rw [hp, List.flatMap_append, List.flatMap_cons, ← List.append_assoc] at hs
  have hu : utf8Len source.toList = source.utf8ByteSize := by
    rw [← String.utf8ByteSize_ofList, String.ofList_toList]
  rw [List.nil_append] at hq
  refine ⟨front.flatMap Piece.extent, piece, back.flatMap Piece.extent, ?_, ?_, fun ht => ?_, rfl,
    Piece.span_place hq (by rw [hs, hu]; exact hl)⟩
  · rw [List.append_assoc _ piece.skipped, ← Piece.extent, hs, String.ofList_toList]
  · simp [hp]
  · by_cases hb : back = []
    · simp [hb]
    · exact absurd ht (text_ne_nil_of_pieces_eq hp hb)

theorem tokenize_partitions (source : String) (hl : source.utf8ByteSize < UInt32.size) :
    Partitions source (tokenize source) := by
  have hu : utf8Len (([] : List Char) ++ (pieces source.toList).flatMap Piece.extent) <
      UInt32.size := by
    rwa [List.nil_append, flatMap_extent_pieces, ← String.utf8ByteSize_ofList,
      String.ofList_toList]
  have habut := @Piece.abut_placeAll {} [] _ rfl hu
  have hslices := @Piece.slices_placeAll {} [] _ rfl hu
  rw [← tokenize_eq_placeAll] at habut hslices
  rw [List.nil_append, flatMap_extent_pieces, String.ofList_toList] at hslices
  have hbounds : ∀ token ∈ tokenize source,
      token.span.start ≤ token.span.stop ∧ token.span.stop ≤ source.utf8ByteSize := by
    intro token h
    obtain ⟨before, piece, after, hsource, -, -, -, hspan⟩ := span_of_mem_tokenize hl h
    rw [hspan, hsource, String.utf8ByteSize_ofList]
    simp only [String.utf8Len_append]
    omega
  refine ⟨hbounds, ?_, (habut.pairwise fun token h => (hbounds token h).1).2, habut, ?_, ?_, ?_⟩
  · intro token h
    obtain ⟨before, piece, after, hsource, -, -, -, hspan⟩ := span_of_mem_tokenize hl h
    rw [hspan, hsource]
    refine ⟨?_, isValid_append _ _⟩
    rw [List.append_assoc _ piece.text]
    exact isValid_append _ _
  · have hparts : (tokenize source).map (fun token => token.skipped ++ token.span.slice source) =
        (pieces source.toList).map fun piece => String.ofList piece.extent := by
      have hj := congrArg (List.map fun part => String.ofList (part.1 ++ part.2)) hslices
      simpa [List.map_map, Function.comp_def, Piece.extent, String.ofList_append] using hj
    rw [hparts, join_map_ofList, flatMap_extent_pieces, String.ofList_toList]
  · intro token h
    obtain ⟨before, piece, after, hsource, hpiece, hafter, hskipped, hspan⟩ :=
      span_of_mem_tokenize hl h
    have hlaid := (layout_of_mem_pieces hpiece).1
    rw [hskipped, String.toList_ofList]
    by_cases ht : piece.text = []
    · rw [ht] at hlaid hspan hsource
      have hsize : token.span.start = source.utf8ByteSize := by
        rw [hspan, hsource, hafter ht, String.utf8ByteSize_ofList, List.append_nil,
          List.append_nil]
      rw [hsize, beq_self_eq_true]
      exact hlaid
    · rw [List.isEmpty_eq_false_iff.2 ht] at hlaid
      exact hlaid.mono
  · intro token h c cs hc
    obtain ⟨before, piece, after, hsource, hpiece, -, -, hspan⟩ := span_of_mem_tokenize hl h
    rw [hspan, hsource, slice_append, String.toList_ofList] at hc
    exact (layout_of_mem_pieces hpiece).2 c cs hc

/-- A comment with a two-byte character and its line break, a placeholder within quotes, a number
that is left for an ellipsis, and a comment that the end of the text cuts off. -/
theorem tokenize_partitions_mixed :
    String.utf8ByteSize "# é\r\n'%s'1... --é" < UInt32.size ∧
      Partitions "# é\r\n'%s'1... --é" (tokenize "# é\r\n'%s'1... --é") :=
  ⟨by decide, tokenize_partitions _ (by decide)⟩

end SqlDml
