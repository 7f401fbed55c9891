import SqlDml.Proofs.Spelling.Clause

/-!
# Limits are read back

* `Limit.marks` : the marks of a limit whose counts may be out of range;
* `Limit.reads_render` : the text of every limit gives them;
* `tokenize_limit` : the tokens of a limit by itself, and when none of them is invalid.

A count of rows goes up to `2 ^ 64`, an integer that is read only to `2 ^ 63`. The larger half of
the counts is shown as it is and read as malformed numbers.
-/

namespace SqlDml

namespace Limit

/-- The number of rows, and those to leave out if there are any. -/
def marks (limit : Limit) : List Mark :=
  [Mark.keyword "limit", Mark.count limit.rowCount.toNat] ++
    if limit.offset = 0 then [] else [Mark.keyword "offset", Mark.count limit.offset.toNat]

theorem reads_render (limit : Limit) : Reads limit.render limit.marks := by
  have hl : Closed "LIMIT " [Mark.keyword "limit"] := closed_words "LIMIT" (by decide)
  have ho : Lead " OFFSET " [Mark.keyword "offset"] := lead_words " OFFSET" (by decide) rfl
  have hrows := hl.append_reads (reads_count limit.rowCount.toNat)
  rw [render, marks]
  by_cases h0 : limit.offset = 0
  · rw [if_pos h0, if_pos h0]
    exact hrows.append closed_empty.spells.reads stops_nil
  · rw [if_neg h0, if_neg h0]
    have hoffset := ho.closed.append_reads (reads_count limit.offset.toNat)
    exact hrows.append hoffset (ho.stops_append _)

/-- The counts of a limit are what can be invalid in it. -/
theorem valid_marks_iff (limit : Limit) :
    (∀ m ∈ limit.marks, m.1.isInvalid = false) ↔ limit.Clean := by
  have hlimit : (Mark.keyword "limit").1.isInvalid = false := rfl
  have hoffset : (Mark.keyword "offset").1.isInvalid = false := rfl
  rw [marks, Clean]
  by_cases h0 : limit.offset = 0
  · have hzero : limit.offset.toNat ≤ Int64.maxValue.toInt := by
      rw [h0]
      decide
    rw [if_pos h0]
    simp only [List.append_nil, List.forall_mem_cons, hlimit, Mark.isInvalid_count, true_and,
      hzero, and_true]
    exact and_iff_left nofun
  · rw [if_neg h0, List.forall_mem_append]
    simp only [List.forall_mem_cons, hlimit, hoffset, Mark.isInvalid_count, true_and]
    exact and_congr (and_iff_left nofun) (and_iff_left nofun)

/-- Counts in the range of integers are read as these. -/
theorem marks_eq_flatten {limit : Limit} (h : limit.Clean) : limit.marks = limit.flatten := by
  obtain ⟨hrows, hoffset⟩ := h
  unfold marks flatten Mark.count
  rw [if_pos hrows, if_pos hoffset]

theorem spells_render {limit : Limit} (h : limit.Clean) : Spells limit.render limit.flatten := by
  rw [← marks_eq_flatten h]
  exact ⟨limit.reads_render, limit.valid_marks_iff.2 h⟩

end Limit

/-- The tokens of a limit: LIMIT and the number of rows, OFFSET and its number exactly if that is
not zero, and the end. They are all valid exactly if both counts are in the range of integers. -/
theorem tokenize_limit (limit : Limit) :
    (tokenize limit.render).map Token.mark =
        [Mark.keyword "limit", Mark.count limit.rowCount.toNat] ++
          (if limit.offset = 0 then []
            else [Mark.keyword "offset", Mark.count limit.offset.toNat]) ++ [Mark.last] ∧
      ((∀ token ∈ tokenize limit.render, token.kind.isInvalid = false) ↔
        limit.rowCount.toNat ≤ Int64.maxValue.toInt ∧
          limit.offset.toNat ≤ Int64.maxValue.toInt) := by
  have hm : (tokenize limit.render).map Token.mark = limit.marks ++ [Mark.last] :=
    limit.reads_render.tokenize
  refine ⟨hm, ?_⟩
  calc (∀ token ∈ tokenize limit.render, token.kind.isInvalid = false)
      ↔ ∀ m ∈ (tokenize limit.render).map Token.mark, m.1.isInvalid = false := by
        rw [List.forall_mem_map]
        rfl
    _ ↔ ∀ m ∈ limit.marks, m.1.isInvalid = false := by
        rw [hm, List.forall_mem_append]
        exact and_iff_left (by decide)
    _ ↔ limit.Clean := limit.valid_marks_iff

/-- The least count that no integer can be. -/
theorem tokenize_limit_malformed :
    (tokenize (Limit.render { rowCount := 9223372036854775808 })).map Token.mark =
      [Mark.keyword "limit", (.invalid .malformedNumber, .text "9223372036854775808"),
        Mark.last] := by decide +kernel

end SqlDml
