import SqlDml.Proofs.TokenStream.Progress

/-!
# Lines and columns

* `breakEnds`, `breaksBefore` : where the line breaks of a text end, counted from the text alone;
* `Position.advance_eq` : a position that goes through a text counts these;
* `TokenStream.Reached.breaksBefore_eq` : what a stream has read holds the breaks before its place;
* `lines_columns_tokenize` : lines and columns of tokens, and the line that a reader has reached.

A position decides on a break by one character and the next. It counts a carriage return and a line
feed once because no stream stops between the two.
-/

namespace SqlDml

open String (utf8Len)

/-! ## Line breaks of a text -/

/-- The offsets at which the line breaks of a text end that begins at `offset`. A carriage return
and a line feed together are one break. -/
def breakEnds (offset : Nat) : List Char → List Nat
  | [] => []
  | '\r' :: '\n' :: cs => (offset + 2) :: breakEnds (offset + 2) cs
  | c :: cs =>
    let next := offset + c.utf8Size
    if c = '\n' ∨ c = '\r' then next :: breakEnds next cs else breakEnds next cs

/-- The ends of the line breaks of a text up to an offset. -/
def breaksBefore (source : String) (offset : Nat) : List Nat :=
  (breakEnds 0 source.toList).filter (· ≤ offset)

theorem breakEnds_cons (offset : Nat) (c : Char) (cs : List Char) :
    breakEnds offset (c :: cs) =
      if Position.endsLine c cs.head? then
        (offset + c.utf8Size) :: breakEnds (offset + c.utf8Size) cs
      else breakEnds (offset + c.utf8Size) cs := by
  by_cases hboth : ∃ ds, c = '\r' ∧ cs = '\n' :: ds
  · obtain ⟨ds, rfl, rfl⟩ := hboth
    have hlast : breakEnds (offset + 1) ('\n' :: ds) = (offset + 2) :: breakEnds (offset + 2) ds :=
      rfl
    exact hlast.symm
  · have hends : Position.endsLine c cs.head? = decide (c = '\n' ∨ c = '\r') := by
      by_cases hr : c = '\r'
      · subst hr
        have hne : cs.head? ≠ some '\n' := by
          intro hh
          obtain ⟨ds, hds⟩ := List.head?_eq_some_iff.1 hh
          exact hboth ⟨ds, rfl, hds⟩
        simp [Position.endsLine, hne]
      · simp only [Position.endsLine, beq_eq_false_iff_ne.2 hr, Bool.false_and, Bool.or_false, hr,
          or_false]
        rfl
    rw [hends, breakEnds.eq_3 _ _ _ fun ds hc hcs => hboth ⟨ds, hc, hcs⟩]
    simp only [decide_eq_true_eq]

theorem breakEnds_append {before after : List Char} (h : Position.KeepsBreaks before after)
    (offset : Nat) :
    breakEnds offset (before ++ after) =
      breakEnds offset before ++ breakEnds (offset + utf8Len before) after := by
  induction before generalizing offset with
  | nil => rfl
  | cons c before ih =>
    have hrest : Position.KeepsBreaks before after := by
      cases before with
      | nil => exact Position.keepsBreaks_nil_left after
      | cons d before => exact h
    have hends :
        Position.endsLine c (before ++ after).head? = Position.endsLine c before.head? := by
      cases before with
      | cons d before => rfl
      | nil => exact Position.endsLine_of_keepsBreaks h
    have hsize : offset + c.utf8Size + utf8Len before = offset + utf8Len (c :: before) := by
      rw [String.utf8Len_cons]
      omega
    rw [List.cons_append, breakEnds_cons, breakEnds_cons, hends, ih hrest, hsize]
    split <;> rfl

theorem bounds_of_mem_breakEnds {offset stop : Nat} {cs : List Char}
    (h : stop ∈ breakEnds offset cs) : offset < stop ∧ stop ≤ offset + utf8Len cs := by
  induction cs generalizing offset with
  | nil => cases h
  | cons c cs ih =>
    have hpos := c.utf8Size_pos
    rw [breakEnds_cons] at h
    rw [String.utf8Len_cons]
    split at h
    · rcases List.mem_cons.1 h with rfl | h
      · omega
      · have := ih h
        omega
    · have := ih h
      omega

/-! ## Positions -/

namespace Position

/-- A position behind a text has counted its breaks, and its line begins at the end of the last. -/
theorem advance_eq (offset line lineStart : Nat) (cs : List Char) :
    advance ⟨offset, line, lineStart⟩ cs =
      ⟨offset + utf8Len cs, line + (breakEnds offset cs).length,
        (breakEnds offset cs).getLastD lineStart⟩ := by
  induction cs generalizing offset line lineStart with
  | nil => rfl
  | cons c cs ih =>
    rw [advance, step, breakEnds_cons, String.utf8Len_cons]
    split
    · rw [ih, List.length_cons, List.getLastD_cons]
      simp only [mk.injEq, and_true]
      omega
    · rw [ih]
      simp only [mk.injEq, and_true]
      omega

/-- No line begins behind a place on it. -/
theorem lineStart_le_advance {p : Position} (h : p.lineStart ≤ p.offset) (cs : List Char) :
    (p.advance cs).lineStart ≤ (p.advance cs).offset := by
  induction cs generalizing p with
  | nil => exact h
  | cons c cs ih =>
    refine ih ?_
    unfold step
    dsimp only
    split
    · exact Nat.le_refl _
    · exact Nat.le_add_right_of_le h

end Position

theorem breaksBefore_eq {source : String} {before after : List Char}
    (hs : before ++ after = source.toList) (h : Position.KeepsBreaks before after) :
    breaksBefore source (utf8Len before) = breakEnds 0 before := by
  rw [breaksBefore, ← hs, breakEnds_append h, List.filter_append, Nat.zero_add]
  have hbefore : (breakEnds 0 before).filter (· ≤ utf8Len before) = breakEnds 0 before := by
    refine List.filter_eq_self.2 fun stop hstop => ?_
    have := bounds_of_mem_breakEnds hstop
    simp only [decide_eq_true_eq]
    omega
  have hafter : (breakEnds (utf8Len before) after).filter (· ≤ utf8Len before) = [] := by
    refine List.filter_eq_nil_iff.2 fun stop hstop => ?_
    have := bounds_of_mem_breakEnds hstop
    simp only [decide_eq_true_eq]
    omega
  rw [hbefore, hafter, List.append_nil]

/-- A position that has gone through the front of a text has counted the breaks before it. -/
theorem Position.advance_eq_breaksBefore {source : String} {before after : List Char}
    (hs : before ++ after = source.toList) (h : KeepsBreaks before after) :
    advance {} before = ⟨utf8Len before, 1 + (breaksBefore source (utf8Len before)).length,
      (breaksBefore source (utf8Len before)).getLastD 0⟩ := by
  rw [breaksBefore_eq hs h, advance_eq, Nat.zero_add]

/-! ## Tokens and readers -/

/-- The line of a token is one more than the breaks before it, and its column counts the bytes from
the last of them on. The line of a reader, after any moves, counts the breaks before its offset; and
where it takes the column of its next token, the line begins no later than the token. -/
theorem lines_columns_tokenize (source : String) (hl : source.utf8ByteSize < UInt32.size - 1) :
    (∀ token ∈ tokenize source,
      let breaks := breaksBefore source token.span.start
      token.line = 1 + breaks.length ∧ breaks.getLastD 0 ≤ token.span.start ∧
        token.column = 1 + (token.span.start - breaks.getLastD 0)) ∧
    ∀ (lookahead : Nat) (moves : List TokenReader.Move),
      let r := ((TokenReader.ofString source { lookahead }).run moves).2
      let start := r.stream.position.advance (Layout.split r.stream.rest).1
      r.line = 1 + (breaksBefore source r.offset).length ∧ start.lineStart ≤ start.offset := by
  constructor
  · intro token htoken
    obtain ⟨n, hn⟩ := List.mem_iff_getElem?.1 htoken
    obtain ⟨before, piece, rfl, hreached, htakes⟩ := exists_takes_of_getElem?_tokenize hn
    have hs := hreached.before_append htakes
    have hspan := hreached.span_eq htakes (by omega)
    have hplace := Position.advance_eq_breaksBefore hs (hreached.skipped_joint htakes)
    have hle := Position.lineStart_le_advance (Nat.le_refl 0) (p := {}) (before ++ piece.skipped)
    have hsize := congrArg utf8Len hs
    rw [String.utf8Len_append, utf8Len_toList] at hsize
    rw [hspan]
    simp only [Piece.place, Token.place, hreached.start_eq htakes]
    rw [hplace] at hle ⊢
    refine ⟨rfl, hle, ?_⟩
    -- The column is at most one more than the size of the text, so it is reported as it is.
    simp only [Position.column, clampOffset, maxOffset]
    omega
  · intro lookahead moves r start
    have hstream := ((TokenReader.Follows.ofString source { lookahead }).run moves).2.stream_eq
    obtain ⟨before, hreached⟩ := TokenStream.exists_reached_after source
      (TokenReader.Tape.run (TokenReader.results source)
        (TokenReader.ofString source { lookahead }).lookahead {} moves).2.taken
    rw [← hstream] at hreached
    constructor
    · show r.stream.position.line = _
      have hplace := Position.advance_eq_breaksBefore hreached.text_eq hreached.joint
      rw [TokenReader.offset, hreached.position_eq, hplace]
    · refine Position.lineStart_le_advance ?_ _
      rw [hreached.position_eq]
      exact Position.lineStart_le_advance (Nat.le_refl 0) before

/-- Before the word `b` end a comment with a break of two characters, a literal that has one break
behind a backslash and one more, and a lone carriage return. -/
theorem lines_columns_tokenize_breaks :
    let source := "#\r\n'\\\r\n\r' a\rb"
    let token : Token := ⟨.identifier, .text "b", "\r", ⟨12, 13⟩, 5, 1⟩
    source.utf8ByteSize < UInt32.size - 1 ∧ token ∈ tokenize source ∧
      token.line = 1 + (breaksBefore source token.span.start).length ∧
      token.column =
        1 + (token.span.start - (breaksBefore source token.span.start).getLastD 0) := by
  intro source token
  have hl : source.utf8ByteSize < UInt32.size - 1 := by decide
  have hm : token ∈ tokenize source := by decide +kernel
  obtain ⟨hline, -, hcolumn⟩ := (lines_columns_tokenize source hl).1 token hm
  exact ⟨hl, hm, hline, hcolumn⟩

end SqlDml
