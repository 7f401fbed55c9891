import SqlDml.Proofs.TokenStream.Relaid

/-!
# Texts with a line break between them

* `Piece.spans` : the spans of pieces that follow one another from an offset on;
* `pieces_append_lineFeed` : the pieces of two texts with a line feed between them;
* `tokenize_append_lineFeed` : their tokens are the tokens of the one, then those of the other,
  further on.

A line feed goes on no lexeme, and it ends the comment that may be open at the end of a text. Only a
quoted literal can run across it.
-/

namespace SqlDml

open String (utf8Len)

/-! ## Pieces -/

theorem Lexeme.mark_of_text_percent {c : Char} {cs : List Char} (ht : (read c cs).text = ['%'])
    (hr : (read c cs).rest = []) : (read c cs).mark = (.placeholder, .text "%") := by
  have hcs := text_append_rest c cs
  rw [ht, hr] at hcs
  cases hcs
  rfl

/-- A lexeme is read before a line feed as it was, unless it is unterminated or the percent sign at
the end of the text. -/
theorem pieces_lexeme_lineFeed {cs skipped body : List Char} {c : Char}
    (hs : Layout.split cs = (skipped, c :: body))
    (hk : (Lexeme.read c body).kind ≠ .invalid .unterminatedLiteral)
    (hp : ¬((Lexeme.read c body).text = ['%'] ∧ (Lexeme.read c body).rest = []))
    (ds : List Char) :
    pieces (cs ++ '\n' :: ds) =
      (Lexeme.read c body).behind skipped :: pieces ((Lexeme.read c body).rest ++ '\n' :: ds) := by
  have hcs := Layout.split_append cs
  have hlaid := Layout.laid_split cs
  rw [hs] at hcs hlaid
  have hhalts : Lexeme.Halts ('\n' :: ds) := Lexeme.halts_cons.2 rfl
  have hstep := pieces_lexeme_append hs hlaid (.append_halts hhalts) hk
    fun ht => iff_of_false (fun hr => hp ⟨ht, hr⟩) (by simp)
  rw [← hstep, ← hcs, ← Lexeme.text_append_rest c body]
  simp only [List.append_assoc]

/-- Behind the last lexeme, the line feed joins the layout there. -/
theorem pieces_layout_lineFeed {cs skipped : List Char} (hs : Layout.split cs = (skipped, []))
    (ds : List Char) :
    pieces (cs ++ '\n' :: ds) = Piece.after (skipped ++ ['\n']) (pieces ds) := by
  have hcs := Layout.split_append cs
  have hlaid := Layout.laid_split cs
  rw [hs] at hcs hlaid
  rw [List.append_nil] at hcs
  rw [← hcs, List.append_cons, pieces_laid_append hlaid.append_lineFeed]

/-- The pieces of two texts with a line feed between them. The induction is on the lexemes of the
first. -/
theorem pieces_append_lineFeed {cs : List Char}
    (hu : ∀ piece ∈ pieces cs, piece.kind ≠ .invalid .unterminatedLiteral)
    (hp : ∀ piece ∈ (pieces cs).dropLast.getLast?, piece.mark ≠ (.placeholder, .text "%"))
    (ds : List Char) :
    ∃ front skipped, pieces cs = front ++ [.last skipped] ∧
      pieces (cs ++ '\n' :: ds) = front ++ Piece.after (skipped ++ ['\n']) (pieces ds) := by
  induction cs using pieces_induction with
  | last cs skipped hs =>
    exact ⟨[], skipped, pieces_of_split_nil hs, pieces_layout_lineFeed hs ds⟩
  | lexeme cs skipped c body hs ih =>
    rw [pieces_of_split_cons hs] at hu hp ⊢
    obtain ⟨hpiece, hothers⟩ := List.forall_mem_cons.1 hu
    obtain ⟨front, last, hfront, hjoined⟩ :=
      ih hothers fun q hq => hp q (mem_getLast?_dropLast_cons.2 (.inl hq))
    have hpercent : ¬((Lexeme.read c body).text = ['%'] ∧ (Lexeme.read c body).rest = []) := by
      rintro ⟨ht, hr⟩
      have hone : (pieces (Lexeme.read c body).rest).length = 1 := by
        rw [hr, pieces_nil]
        rfl
      exact absurd (Lexeme.mark_of_text_percent ht hr)
        (hp _ (mem_getLast?_dropLast_cons.2 (.inr ⟨rfl, hone⟩)))
    refine ⟨(Lexeme.read c body).behind skipped :: front, last, ?_, ?_⟩
    · rw [hfront, List.cons_append]
    · rw [pieces_lexeme_lineFeed hs hpiece hpercent ds, hjoined, List.cons_append]

/-! ## Spans -/

def Span.shift (n : Nat) (span : Span) : Span := ⟨span.start + n, span.stop + n⟩

namespace Piece

/-- The spans of pieces that follow one another from an offset on. -/
def spans (offset : Nat) : List Piece → List Span
  | [] => []
  | piece :: others =>
    let start := offset + utf8Len piece.skipped
    let stop := start + utf8Len piece.text
    ⟨clampOffset start, clampOffset stop⟩ :: spans stop others

theorem map_span_placeAll (p : Position) (list : List Piece) :
    (placeAll p list).map Token.span = spans p.offset list := by
  induction list generalizing p with
  | nil => rfl
  | cons piece list ih =>
    rw [placeAll, List.map_cons, ih, spans, Position.offset_advance, Position.offset_advance]
    simp only [place, Token.place, Position.offset_advance]

theorem spans_after (offset : Nat) (layout : List Char) (list : List Piece) :
    spans offset (after layout list) = spans (offset + utf8Len layout) list := by
  cases list with
  | nil => rfl
  | cons piece list => simp only [after, spans, relay, String.utf8Len_append, Nat.add_assoc]

theorem spans_add {offset n : Nat} {list : List Piece}
    (hl : offset + n + utf8Len (list.flatMap extent) < UInt32.size) :
    spans (offset + n) list = (spans offset list).map (Span.shift n) := by
  induction list generalizing offset with
  | nil => rfl
  | cons piece list ih =>
    rw [List.flatMap_cons, extent, String.utf8Len_append, String.utf8Len_append] at hl
    have hstart : offset + n + utf8Len piece.skipped = offset + utf8Len piece.skipped + n := by
      omega
    have hstop : offset + utf8Len piece.skipped + n + utf8Len piece.text =
      offset + utf8Len piece.skipped + utf8Len piece.text + n := by omega
    rw [spans, spans, List.map_cons, hstart, hstop, ih (by omega), Span.shift]
    rw [clampOffset_of_lt (by omega), clampOffset_of_lt (by omega), clampOffset_of_lt (by omega),
      clampOffset_of_lt (by omega)]

theorem placeAll_append (p : Position) (list others : List Piece) :
    ∃ q, q.offset = p.offset + utf8Len (list.flatMap extent) ∧
      placeAll p (list ++ others) = placeAll p list ++ placeAll q others := by
  induction list generalizing p with
  | nil => exact ⟨p, rfl, rfl⟩
  | cons piece list ih =>
    obtain ⟨q, hq, hplace⟩ := ih ((p.advance piece.skipped).advance piece.text)
    refine ⟨q, ?_, ?_⟩
    · rw [hq, Position.offset_advance, Position.offset_advance, List.flatMap_cons, extent,
        String.utf8Len_append, String.utf8Len_append]
      omega
    · rw [List.cons_append, placeAll, hplace, placeAll, List.cons_append]

end Piece

/-! ## Texts -/

/-- The tokens of two texts with a line break between them: those of the first without its end, then
those of the second, shifted. -/
theorem tokenize_append_lineFeed {a b : String} (hl : (a ++ "\n" ++ b).utf8ByteSize < UInt32.size)
    (hu : ∀ token ∈ tokenize a, token.kind ≠ .invalid .unterminatedLiteral)
    (hp : ∀ token ∈ (tokenize a).dropLast.getLast?, token.mark ≠ (.placeholder, .text "%")) :
    ∃ others, tokenize (a ++ "\n" ++ b) = (tokenize a).dropLast ++ others ∧
      others.map Token.mark = (tokenize b).map Token.mark ∧
      others.map Token.span =
        (tokenize b).map fun token => token.span.shift (a.utf8ByteSize + 1) := by
  have hunterminated := @forall_kind_pieces a (· ≠ .invalid .unterminatedLiteral) hu
  have hpercent : ∀ piece ∈ (pieces a.toList).dropLast.getLast?,
      piece.mark ≠ (.placeholder, .text "%") := by
    intro piece hpiece hmark
    have hlast := congrArg (fun ms => ms.dropLast.getLast?) (map_mark_tokenize a)
    simp only [marks, ← List.map_dropLast, List.getLast?_map, Option.mem_def.1 hpiece,
      Option.map_some, Option.map_eq_some_iff] at hlast
    obtain ⟨token, ht, hm⟩ := hlast
    exact hp token ht (hm.trans hmark)
  obtain ⟨front, skipped, hfront, hjoined⟩ :=
    pieces_append_lineFeed hunterminated hpercent b.toList
  obtain ⟨p, -, hfirst⟩ := Piece.placeAll_append {} front [.last skipped]
  obtain ⟨q, hq, hsecond⟩ :=
    Piece.placeAll_append {} front (Piece.after (skipped ++ ['\n']) (pieces b.toList))
  have hoffset : q.offset + utf8Len (skipped ++ ['\n']) = 0 + (a.utf8ByteSize + 1) := by
    have htext := congrArg utf8Len (flatMap_extent_pieces a.toList)
    rw [hfront, List.flatMap_append, String.utf8Len_append, utf8Len_toList] at htext
    rw [hq, ← htext, String.utf8Len_append]
    have hlast : utf8Len ([Piece.last skipped].flatMap Piece.extent) = utf8Len skipped := by
      simp [Piece.extent, Piece.last]
    have hbreak : utf8Len ['\n'] = 1 := rfl
    have hstart : ({} : Position).offset = 0 := rfl
    omega
  refine ⟨Piece.placeAll q (Piece.after (skipped ++ ['\n']) (pieces b.toList)), ?_, ?_, ?_⟩
  · have htext : (a ++ "\n" ++ b).toList = a.toList ++ '\n' :: b.toList := by simp
    rw [tokenize_eq_placeAll, htext, hjoined, hsecond, tokenize_eq_placeAll, hfront, hfirst]
    exact congrArg (· ++ _) List.dropLast_concat.symm
  · rw [map_mark_placeAll, Piece.map_mark_after, map_mark_tokenize, marks]
  · rw [Piece.map_span_placeAll, Piece.spans_after, hoffset, Piece.spans_add, tokenize_eq_placeAll,
      ← Function.comp_def, ← List.map_map, Piece.map_span_placeAll]
    rw [flatMap_extent_pieces, utf8Len_toList]
    rw [String.utf8ByteSize_append, String.utf8ByteSize_append] at hl
    have hbreak : "\n".utf8ByteSize = 1 := rfl
    omega

/-- A number that wants an exponent, a comment that is left open with a quote in it, and then what
would be the exponent. -/
theorem tokenize_append_lineFeed_comment :
    ∃ others, tokenize ("1.-- '" ++ "\n" ++ "e5 'x") = (tokenize "1.-- '").dropLast ++ others ∧
      others.map Token.mark = (tokenize "e5 'x").map Token.mark ∧
      others.map Token.span =
        (tokenize "e5 'x").map fun token => token.span.shift (String.utf8ByteSize "1.-- '" + 1) :=
  tokenize_append_lineFeed (by decide) (by decide +kernel) (by decide +kernel)

end SqlDml
