import SqlDml.Proofs.TokenReader.Tape

/-!
# More look-ahead changes no run that works

* `Answer.isRefused` : the answer to a step back that there was not;
* `Tape.play_of_le`, `Tape.run_of_le` : a head that is never refused moves alike in a wider window;
* `Follows.kept_eq_latest` : of two readers at one place of a tape, the one with less look-ahead
  keeps the latest of what the other keeps;
* `run_of_more_lookahead` : a run without refusals has the same answers with more look-ahead, and
  goes through the same places of the text.

Two readers with different look-ahead drop their oldest results at different times, and their
cursors have different numbers. The tape drops nothing and counts from the end of its record, so
both readers are heads on the same tape, and the look-ahead only tells how far back a head may go.
-/

namespace SqlDml

namespace TokenReader

def Answer.isRefused : Answer → Bool
  | .refused _ => true
  | _ => false

/-! ## One tape in two windows -/

namespace Tape

variable {results : Nat → Option Token} {small large : Nat}

/-- A window decides about steps back only, and then only whether there is one. -/
theorem play_of_le (h : small ≤ large) (t : Tape) {move : Move} (hm : move ≠ .stepBack)
    (hok : (t.play results small move).1.isRefused = false) :
    t.play results large move = t.play results small move := by
  cases move with
  | next => rfl
  | scan => rfl
  | stepBack => exact absurd rfl hm
  | stepBack? =>
    simp only [play] at hok ⊢
    by_cases hb : t.back < min small t.record.length
    · have hwide : t.back < min large t.record.length := by omega
      rw [if_pos hb, if_pos hwide]
    · rw [if_neg hb] at hok
      cases hok

/-- The induction is on the moves: each leaves the same tape in both windows. -/
theorem run_of_le (h : small ≤ large) (t : Tape) {moves : List Move}
    (hm : ∀ move ∈ moves, move ≠ .stepBack)
    (hok : ∀ answer ∈ (t.run results small moves).1, answer.isRefused = false) :
    t.run results large moves = t.run results small moves := by
  induction moves generalizing t with
  | nil => rfl
  | cons move moves ih =>
    obtain ⟨hmove, hmoves⟩ := List.forall_mem_cons.1 hm
    unfold run at hok
    obtain ⟨hfirst, hothers⟩ := List.forall_mem_cons.1 hok
    have hplay := play_of_le h t hmove hfirst
    unfold run
    rw [hplay, ih _ hmoves hothers]

end Tape

/-! ## Two readers on one tape -/

theorem latest_latest {α : Type} {small large : Nat} (h : small ≤ large) (record : List α) :
    latest small (latest large record) = latest small record := by
  unfold latest
  rw [List.drop_drop, List.length_drop]
  congr 1
  omega

theorem Follows.kept_eq_latest {source : String} {narrow wide : TokenReader} {t : Tape}
    (hn : narrow.Follows source t) (hw : wide.Follows source t)
    (h : narrow.lookahead ≤ wide.lookahead) :
    narrow.kept = latest narrow.lookahead wide.kept := by
  rw [hn.kept_eq, hw.kept_eq, latest_latest h]

/-- A run without refusals takes a reader with more look-ahead over the same tape. -/
theorem exists_follows_both (source : String) {small large : Nat} (h : small ≤ large)
    {moves : List Move} (hm : ∀ move ∈ moves, move ≠ .stepBack)
    (hok : ∀ answer ∈ ((ofString source { lookahead := small }).run moves).1,
      answer.isRefused = false) :
    ((ofString source { lookahead := large }).run moves).1 =
        ((ofString source { lookahead := small }).run moves).1 ∧
      ∃ t : Tape, ((ofString source { lookahead := small }).run moves).2.Follows source t ∧
        ((ofString source { lookahead := large }).run moves).2.Follows source t := by
  obtain ⟨hanswers, hsmall⟩ := (Follows.ofString source { lookahead := small }).run moves
  obtain ⟨hwide, hlarge⟩ := (Follows.ofString source { lookahead := large }).run moves
  have hs : (ofString source { lookahead := small }).lookahead = small := rfl
  have hl : (ofString source { lookahead := large }).lookahead = large := rfl
  rw [hs] at hanswers hsmall
  rw [hl] at hwide hlarge
  rw [hanswers] at hok
  rw [Tape.run_of_le h {} hm hok] at hwide hlarge
  exact ⟨hwide.trans hanswers.symm, _, hsmall, hlarge⟩

theorem run_take (r : TokenReader) (moves : List Move) (n : Nat) :
    (r.run (moves.take n)).1 = (r.run moves).1.take n := by
  induction moves generalizing r n with
  | nil => rw [List.take_nil, run, List.take_nil]
  | cons move moves ih =>
    cases n with
    | zero => rfl
    | succ n =>
      rw [List.take_succ_cons, run, run, List.take_succ_cons, ih]

/-- Asked for results and for steps back that it all makes, a reader answers as one with more
look-ahead does. After each move both are at the same place of the text, and what the one keeps are
the latest results that the other keeps. -/
theorem run_of_more_lookahead (source : String) {small large : Nat} (h : small ≤ large)
    {moves : List Move} (hm : ∀ move ∈ moves, move ≠ .stepBack)
    (hok : ∀ answer ∈ ((ofString source { lookahead := small }).run moves).1,
      answer.isRefused = false) :
    ((ofString source { lookahead := large }).run moves).1 =
        ((ofString source { lookahead := small }).run moves).1 ∧
      ∀ n,
        let narrow := ((ofString source { lookahead := small }).run (moves.take n)).2
        let wide := ((ofString source { lookahead := large }).run (moves.take n)).2
        wide.offset = narrow.offset ∧ wide.line = narrow.line ∧
          narrow.kept = latest small wide.kept := by
  refine ⟨(exists_follows_both source h hm hok).1, ?_⟩
  intro n narrow wide
  have hfirst : ∀ answer ∈ ((ofString source { lookahead := small }).run (moves.take n)).1,
      answer.isRefused = false := by
    intro answer hanswer
    rw [run_take] at hanswer
    exact hok answer (List.mem_of_mem_take hanswer)
  have hmoves : ∀ move ∈ moves.take n, move ≠ .stepBack := by
    intro move hmove
    exact hm move (List.mem_of_mem_take hmove)
  obtain ⟨-, t, hnarrow, hwide⟩ := exists_follows_both source h hmoves hfirst
  have hstream : wide.stream = narrow.stream := hwide.stream_eq.trans hnarrow.stream_eq.symm
  have hln : narrow.lookahead = small := run_lookahead _ _
  have hlw : wide.lookahead = large := run_lookahead _ _
  have hle : narrow.lookahead ≤ wide.lookahead := by rw [hln, hlw]; exact h
  refine ⟨?_, ?_, ?_⟩
  · unfold offset
    rw [hstream]
  · unfold line
    rw [hstream]
  · rw [← hln]
    exact hnarrow.kept_eq_latest hwide hle

/-- One result is kept, or three: a result is read again across a direct scan. -/
theorem run_of_more_lookahead_scan :
    let moves := [Move.next, .next, .stepBack?, .next, .scan, .stepBack?, .next, .next]
    1 ≤ 3 ∧ (∀ move ∈ moves, move ≠ .stepBack) ∧
      (∀ answer ∈ ((ofString "a\nb c" { lookahead := 1 }).run moves).1,
        answer.isRefused = false) ∧
      ((ofString "a\nb c" { lookahead := 3 }).run moves).1 =
        ((ofString "a\nb c" { lookahead := 1 }).run moves).1 := by
  intro moves
  have hm : ∀ move ∈ moves, move ≠ .stepBack := by decide
  have hok : ∀ answer ∈ ((ofString "a\nb c" { lookahead := 1 }).run moves).1,
      answer.isRefused = false := by decide +kernel
  exact ⟨by decide, hm, hok, (run_of_more_lookahead "a\nb c" (by decide) hm hok).1⟩

end TokenReader

end SqlDml
