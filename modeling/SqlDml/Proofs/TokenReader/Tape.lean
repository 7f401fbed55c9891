import SqlDml.TokenReader

/-!
# A reader with steps back is a head on a tape

* `Move`, `Answer`, `run` : what a reader can be asked for, what it answers, and whole runs;
* `kept`, `cursor` : the results that a reader keeps, the oldest first, and its place among them;
* `Tape` : a machine that records every result which `next` takes from the stream and forgets none;
* `Reads` : what a reader has in common with a tape, and what each move does to it;
* `run_reads_tape` : after any run the answers are those of the tape, and the reader `Reads` it.

The tape knows how many results were taken from the stream, so each is taken once and in order. The
reader keeps a window on the record, the latest results up to its look-ahead.
-/

namespace SqlDml

/-! ## Results of a stream, one by one -/

namespace TokenStream

/-- The stream after its next token; an exhausted stream stays as it is. -/
def tail (s : TokenStream) : TokenStream :=
  match s.next? with
  | some (_, s') => s'
  | none => s

/-- The stream after `n` results. -/
def after (s : TokenStream) : Nat → TokenStream
  | 0 => s
  | n + 1 => s.tail.after n

theorem tail_after (s : TokenStream) (n : Nat) : (s.after n).tail = s.after (n + 1) := by
  induction n generalizing s with
  | zero => rfl
  | succ n ih => exact ih s.tail

theorem after_of_exhausted {s : TokenStream} (h : s.next? = none) (n : Nat) : s.after n = s := by
  have ht : s.tail = s := by simp [tail, h]
  induction n with
  | zero => rfl
  | succ n ih => rw [after, ht, ih]

/-- The tokens of a stream are its results, and after them it has none. -/
theorem getElem?_toList (s : TokenStream) (n : Nat) :
    s.toList[n]? = (s.after n).next?.map Prod.fst := by
  induction n generalizing s with
  | zero =>
    rw [toList, after]
    split
    · rename_i h; simp [h]
    · rename_i h; simp [h]
  | succ n ih =>
    rw [toList]
    split
    · rename_i h; simp [after_of_exhausted h, h]
    · rename_i token s' h
      have ht : s.tail = s' := by simp [tail, h]
      rw [List.getElem?_cons_succ, ih, after, ht]

end TokenStream

namespace TokenReader

/-! ## Runs -/

/-- What a reader can be asked for. -/
inductive Move where
  | next
  | scan
  | stepBack
  | stepBack?
  deriving Repr, DecidableEq, Inhabited

inductive Answer where
  | result (result : Option Token)
  /-- A step back was asked for, and whether there was one is not told. -/
  | untold
  | moved
  | refused (fault : Fault)
  deriving Repr, DecidableEq, Inhabited

def play (r : TokenReader) : Move → Answer × TokenReader
  | .next => (.result r.next.1, r.next.2)
  | .scan => (.result r.scan.1, r.scan.2)
  | .stepBack => (.untold, r.stepBack)
  | .stepBack? =>
    match r.stepBack? with
    | .ok back => (.moved, back)
    | .error fault => (.refused fault, r)

/-- The answers to some moves in turn, and the reader after them. -/
def run (r : TokenReader) : List Move → List Answer × TokenReader
  | [] => ([], r)
  | move :: moves =>
    ((r.play move).1 :: ((r.play move).2.run moves).1, ((r.play move).2.run moves).2)

/-- The results kept, the oldest first. -/
def kept (r : TokenReader) : List (Option Token) := r.behind.reverse ++ r.ahead

/-- The place among the results kept of the one that `next` gives out. -/
def cursor (r : TokenReader) : Nat := r.behind.length

/-- Whether a move takes a fresh result from the stream. -/
def takes (r : TokenReader) : Move → Bool
  | .next => r.cursor == r.kept.length
  | .scan => true
  | .stepBack | .stepBack? => false

/-- The moves of a run that take a fresh result, each with its answer, in order. -/
def taken (r : TokenReader) : List Move → List (Move × Answer)
  | [] => []
  | move :: moves =>
    let later := (r.play move).2.taken moves
    if r.takes move then (move, (r.play move).1) :: later else later

/-! ## The tape -/

structure Tape where
  /-- How many results were taken from the stream. -/
  taken : Nat := 0
  /-- The results that `next` took from the stream, the oldest first. -/
  record : List (Option Token) := []
  /-- How many results of the record the head stands before its end. -/
  back : Nat := 0
  deriving Repr, DecidableEq, Inhabited

namespace Tape

/-- A move of the head. `results` are those of the stream, and the head goes back no further than
`window` results before the end of the record. -/
def play (results : Nat → Option Token) (window : Nat) (t : Tape) : Move → Answer × Tape
  | .next =>
    if t.back = 0 then
      (.result (results t.taken),
        { t with taken := t.taken + 1, record := t.record ++ [results t.taken] })
    else (.result t.record[t.record.length - t.back]?.join, { t with back := t.back - 1 })
  | .scan => (.result (results t.taken), { t with taken := t.taken + 1 })
  | .stepBack =>
    if t.back < min window t.record.length then (.untold, { t with back := t.back + 1 })
    else (.untold, t)
  | .stepBack? =>
    if t.back < min window t.record.length then (.moved, { t with back := t.back + 1 })
    else (.refused .nothingKept, t)

def run (results : Nat → Option Token) (window : Nat) (t : Tape) :
    List Move → List Answer × Tape
  | [] => ([], t)
  | move :: moves =>
    ((t.play results window move).1 :: ((t.play results window move).2.run results window moves).1,
      ((t.play results window move).2.run results window moves).2)

end Tape

/-! ## A reader beside a tape -/

/-- The latest results of a record, `window` of them or all if there are fewer. -/
def latest {α : Type} (window : Nat) (record : List α) : List α :=
  record.drop (record.length - window)

/-- The reader of `source` stands where the tape stands: it has taken as many results, keeps the
latest ones of the record, and its cursor is as far from the end of them as the head is. -/
structure Follows (source : String) (r : TokenReader) (t : Tape) : Prop where
  stream_eq : r.stream = (TokenStream.ofString source).after t.taken
  kept_eq : r.kept = latest r.lookahead t.record
  ahead_eq : r.ahead.length = t.back

/-- `r'` is `r` but for the cursor. -/
structure SameButCursor (r r' : TokenReader) : Prop where
  source_eq : r'.source = r.source
  lookahead_eq : r'.lookahead = r.lookahead
  stream_eq : r'.stream = r.stream
  kept_eq : r'.kept = r.kept

/-! ## Each operation on the results kept -/

@[simp] theorem length_latest {α : Type} (window : Nat) (record : List α) :
    (latest window record).length = min window record.length := by
  rw [latest, List.length_drop]
  omega

theorem map_latest {α β : Type} (f : α → β) (window : Nat) (record : List α) :
    (latest window record).map f = latest window (record.map f) := by
  rw [latest, latest, List.map_drop, List.length_map]

theorem reverse_latest {α : Type} (window : Nat) (record : List α) :
    (latest window record).reverse = record.reverse.take window := by
  rw [latest, List.reverse_drop, ← List.length_reverse, List.take_eq_take_iff]
  omega

theorem latest_append_singleton {α : Type} (window : Nat) (record : List α) (result : α) :
    latest window (latest window record ++ [result]) = latest window (record ++ [result]) := by
  apply List.reverse_inj.1
  rw [reverse_latest, reverse_latest, List.reverse_append, List.reverse_append, reverse_latest]
  cases window with
  | zero => rfl
  | succ k => simp [List.take_take]

theorem length_kept (r : TokenReader) : r.kept.length = r.cursor + r.ahead.length := by
  simp [kept, cursor]

theorem scan_eq (r : TokenReader) :
    r.scan = (r.stream.next?.map Prod.fst, { r with stream := r.stream.tail }) := by
  unfold scan TokenStream.tail
  cases r.stream.next? <;> rfl

theorem next_of_ahead {r : TokenReader} {result : Option Token} {ahead : List (Option Token)}
    (h : r.ahead = result :: ahead) :
    r.next = (result, { r with behind := result :: r.behind, ahead }) := by
  simp [next, h]

theorem next_of_ahead_nil {r : TokenReader} (h : r.ahead = []) :
    r.next = (r.scan.1, { r with
      stream := r.stream.tail
      behind := (r.scan.1 :: r.behind).take r.lookahead }) := by
  simp [next, h, scan_eq]

theorem stepBack?_of_behind {r : TokenReader} {result : Option Token}
    {behind : List (Option Token)} (h : r.behind = result :: behind) :
    r.stepBack? = .ok { r with behind, ahead := result :: r.ahead } := by
  simp [stepBack?, h]

theorem stepBack?_of_behind_nil {r : TokenReader} (h : r.behind = []) :
    r.stepBack? = .error .nothingKept := by
  simp [stepBack?, h]

/-- A kept result that is given out again stays where it is. -/
theorem next_replays {r : TokenReader} (h : r.cursor < r.kept.length) :
    r.kept[r.cursor]? = some r.next.1 ∧ SameButCursor r r.next.2 ∧
      r.next.2.cursor = r.cursor + 1 := by
  cases ha : r.ahead with
  | nil =>
    rw [length_kept, ha, List.length_nil] at h
    omega
  | cons result ahead =>
    rw [next_of_ahead ha]
    refine ⟨?_, ⟨rfl, rfl, rfl, ?_⟩, rfl⟩
    · simp [kept, cursor, ha]
    · simp [kept, ha]

/-- With nothing ahead the next result is a fresh one, and the window moves on to it. -/
theorem next_takes {r : TokenReader} (h : r.cursor = r.kept.length) :
    r.next.1 = r.stream.next?.map Prod.fst ∧ r.next.2.stream = r.stream.tail ∧
      r.next.2.kept = latest r.lookahead (r.kept ++ [r.next.1]) ∧
      r.next.2.cursor = r.next.2.kept.length := by
  have ha : r.ahead = [] := by
    rw [length_kept] at h
    exact List.length_eq_zero_iff.1 (by omega)
  rw [next_of_ahead_nil ha]
  refine ⟨by rw [scan_eq], rfl, ?_, ?_⟩
  · apply List.reverse_inj.1
    rw [reverse_latest]
    simp [kept, ha]
  · rw [length_kept]
    simp [ha]

theorem stepBack?_moves {r : TokenReader} (h : 0 < r.cursor) :
    ∃ back, r.stepBack? = .ok back ∧ r.stepBack = back ∧ SameButCursor r back ∧
      back.cursor + 1 = r.cursor := by
  cases hb : r.behind with
  | nil =>
    rw [cursor, hb] at h
    exact absurd h (Nat.lt_irrefl 0)
  | cons result behind =>
    have hs := stepBack?_of_behind hb
    refine ⟨_, hs, by rw [stepBack, hs], ⟨rfl, rfl, rfl, ?_⟩, ?_⟩
    · simp [kept, hb]
    · simp [cursor, hb]

theorem stepBack?_refuses {r : TokenReader} (h : r.cursor = 0) :
    r.stepBack? = .error .nothingKept ∧ r.stepBack = r := by
  have hs := stepBack?_of_behind_nil (List.length_eq_zero_iff.1 h)
  exact ⟨hs, by rw [stepBack, hs]⟩

/-! ## Simulation -/

/-- The results of the stream of `source`: its tokens, and after them none. -/
def results (source : String) (n : Nat) : Option Token := (tokenize source)[n]?

theorem results_eq (source : String) (n : Nat) :
    results source n = ((TokenStream.ofString source).after n).next?.map Prod.fst :=
  TokenStream.getElem?_toList _ n

namespace Follows

variable {source : String} {r : TokenReader} {t : Tape}

theorem ofString (source : String) (config : ReaderConfig) :
    (TokenReader.ofString source config).Follows source {} :=
  ⟨rfl, by simp [kept, latest, TokenReader.ofString], rfl⟩

theorem length_kept_eq (h : r.Follows source t) :
    r.kept.length = min r.lookahead t.record.length := by
  rw [h.kept_eq, length_latest]

theorem cursor_add_back (h : r.Follows source t) : r.cursor + t.back = r.kept.length := by
  rw [length_kept, h.ahead_eq]

theorem fresh_eq (h : r.Follows source t) :
    r.stream.next?.map Prod.fst = results source t.taken := by
  rw [h.stream_eq, results_eq]

theorem tail_eq (h : r.Follows source t) :
    r.stream.tail = (TokenStream.ofString source).after (t.taken + 1) := by
  rw [h.stream_eq, TokenStream.tail_after]

/-- What the reader keeps at its cursor is what the record holds at the head. -/
theorem kept_getElem? (h : r.Follows source t) :
    r.kept[r.cursor]? = t.record[t.record.length - t.back]? := by
  have hl := h.length_kept_eq
  have hc := h.cursor_add_back
  have hi : t.record.length - r.lookahead + r.cursor = t.record.length - t.back := by omega
  rw [h.kept_eq, latest, List.getElem?_drop, hi]

theorem next (h : r.Follows source t) :
    .result r.next.1 = (t.play (results source) r.lookahead .next).1 ∧
      r.next.2.Follows source (t.play (results source) r.lookahead .next).2 := by
  have hl := length_kept r
  have ha := h.ahead_eq
  by_cases hb : t.back = 0
  · obtain ⟨hr, hs, hk, hc⟩ := next_takes (r := r) (by omega)
    have hn : r.next.2.lookahead = r.lookahead := by
      rw [next_of_ahead_nil (List.length_eq_zero_iff.1 (ha.trans hb))]
    rw [h.fresh_eq] at hr
    simp only [Tape.play, if_pos hb]
    refine ⟨by rw [hr], ⟨by rw [hs, h.tail_eq], ?_, ?_⟩⟩
    · rw [hk, h.kept_eq, hr, latest_append_singleton, hn]
    · have hl' := length_kept r.next.2
      simp only
      omega
  · obtain ⟨hr, hm, hc⟩ := next_replays (r := r) (by omega)
    rw [h.kept_getElem?] at hr
    simp only [Tape.play, if_neg hb]
    refine ⟨by rw [hr, Option.join_some], ⟨hm.stream_eq.trans h.stream_eq, ?_, ?_⟩⟩
    · rw [hm.kept_eq, h.kept_eq, hm.lookahead_eq]
    · have hl' := length_kept r.next.2
      rw [hm.kept_eq] at hl'
      simp only
      omega

theorem scan (h : r.Follows source t) :
    r.scan.1 = results source t.taken ∧
      r.scan.2.Follows source { t with taken := t.taken + 1 } := by
  rw [scan_eq]
  exact ⟨h.fresh_eq, h.tail_eq, h.kept_eq, h.ahead_eq⟩

/-- A step back finds a result exactly when the head is not at the start of the window. -/
theorem cursor_pos_iff (h : r.Follows source t) :
    0 < r.cursor ↔ t.back < min r.lookahead t.record.length := by
  have hl := h.length_kept_eq
  have hc := h.cursor_add_back
  omega

theorem back (h : r.Follows source t) {b : TokenReader} (hm : SameButCursor r b)
    (hc : b.cursor + 1 = r.cursor) : b.Follows source { t with back := t.back + 1 } := by
  refine ⟨hm.stream_eq.trans h.stream_eq, ?_, ?_⟩
  · rw [hm.kept_eq, h.kept_eq, hm.lookahead_eq]
  · have hl := length_kept b
    have hl' := h.cursor_add_back
    rw [hm.kept_eq] at hl
    simp only
    omega

/-- One move of the reader is one move of the tape. -/
theorem play (h : r.Follows source t) (move : Move) :
    (r.play move).1 = (t.play (results source) r.lookahead move).1 ∧
      (r.play move).2.Follows source (t.play (results source) r.lookahead move).2 := by
  cases move with
  | next => exact h.next
  | scan =>
    obtain ⟨hr, hf⟩ := h.scan
    exact ⟨congrArg Answer.result hr, hf⟩
  | stepBack =>
    simp only [TokenReader.play, Tape.play]
    by_cases hc : 0 < r.cursor
    · obtain ⟨b, -, hb, hm, hb'⟩ := stepBack?_moves hc
      rw [if_pos (h.cursor_pos_iff.1 hc), hb]
      exact ⟨rfl, h.back hm hb'⟩
    · obtain ⟨-, hb⟩ := stepBack?_refuses (r := r) (by omega)
      rw [if_neg (mt h.cursor_pos_iff.2 hc), hb]
      exact ⟨rfl, h⟩
  | stepBack? =>
    simp only [TokenReader.play, Tape.play]
    by_cases hc : 0 < r.cursor
    · obtain ⟨b, hb, -, hm, hb'⟩ := stepBack?_moves hc
      rw [if_pos (h.cursor_pos_iff.1 hc), hb]
      exact ⟨rfl, h.back hm hb'⟩
    · obtain ⟨hb, -⟩ := stepBack?_refuses (r := r) (by omega)
      rw [if_neg (mt h.cursor_pos_iff.2 hc), hb]
      exact ⟨rfl, h⟩

end Follows

theorem play_lookahead (r : TokenReader) (move : Move) :
    (r.play move).2.lookahead = r.lookahead := by
  cases move with
  | next =>
    simp only [play]
    cases ha : r.ahead with
    | nil => rw [next_of_ahead_nil ha]
    | cons result ahead => rw [next_of_ahead ha]
  | scan => simp only [play, scan_eq]
  | stepBack =>
    cases hb : r.behind with
    | nil => simp only [play, stepBack, stepBack?_of_behind_nil hb]
    | cons result behind => simp only [play, stepBack, stepBack?_of_behind hb]
  | stepBack? =>
    cases hb : r.behind with
    | nil => simp only [play, stepBack?_of_behind_nil hb]
    | cons result behind => simp only [play, stepBack?_of_behind hb]

theorem run_lookahead (r : TokenReader) (moves : List Move) :
    (r.run moves).2.lookahead = r.lookahead := by
  induction moves generalizing r with
  | nil => rfl
  | cons move moves ih => rw [run, ih, play_lookahead]

/-- A run of the reader is a run of the tape. -/
theorem Follows.run {source : String} {r : TokenReader} {t : Tape} (h : r.Follows source t)
    (moves : List Move) :
    (r.run moves).1 = (t.run (results source) r.lookahead moves).1 ∧
      (r.run moves).2.Follows source (t.run (results source) r.lookahead moves).2 := by
  induction moves generalizing r t with
  | nil => exact ⟨rfl, h⟩
  | cons move moves ih =>
    obtain ⟨ha, hf⟩ := h.play move
    obtain ⟨has, hfs⟩ := ih hf
    rw [play_lookahead] at has hfs
    simp only [TokenReader.run, Tape.run]
    exact ⟨by rw [ha, has], hfs⟩

namespace Follows

variable {source : String} {r : TokenReader} {t : Tape}

theorem takes_next (h : r.Follows source t) : r.takes .next = decide (t.back = 0) := by
  have hc := h.cursor_add_back
  rw [takes, Bool.eq_iff_iff, beq_iff_eq, decide_eq_true_iff]
  omega

/-- A move that takes a result takes the next one of the stream. -/
theorem answer_of_takes (h : r.Follows source t) {move : Move} (ht : r.takes move) :
    (r.play move).1 = .result (results source t.taken) := by
  rw [(h.play move).1]
  cases move with
  | next =>
    rw [h.takes_next, decide_eq_true_iff] at ht
    simp [Tape.play, ht]
  | scan => rfl
  | stepBack => simp [takes] at ht
  | stepBack? => simp [takes] at ht

theorem taken_play (h : r.Follows source t) (move : Move) :
    (t.play (results source) r.lookahead move).2.taken =
      if r.takes move then t.taken + 1 else t.taken := by
  cases move with
  | next => by_cases hb : t.back = 0 <;> simp [h.takes_next, Tape.play, hb]
  | scan => rfl
  | stepBack => simp only [takes, Tape.play]; split <;> rfl
  | stepBack? => simp only [takes, Tape.play]; split <;> rfl

theorem record_play (h : r.Follows source t) (move : Move) :
    (t.play (results source) r.lookahead move).2.record =
      if r.takes move ∧ move = .next then t.record ++ [results source t.taken] else t.record := by
  cases move with
  | next => by_cases hb : t.back = 0 <;> simp [h.takes_next, Tape.play, hb]
  | scan => rfl
  | stepBack => simp only [takes, Tape.play]; split <;> rfl
  | stepBack? => simp only [takes, Tape.play]; split <;> rfl

/-- The results that a run takes are those of the stream from where the tape stands, each once. -/
theorem taken_run (h : r.Follows source t) (moves : List Move) :
    (r.taken moves).map Prod.snd =
      (List.range' t.taken (r.taken moves).length).map fun n => .result (results source n) := by
  induction moves generalizing r t with
  | nil => rfl
  | cons move moves ih =>
    have hm := ih (h.play move).2
    rw [h.taken_play] at hm
    rw [taken]
    by_cases ht : r.takes move
    · simp only [ht, if_true] at hm ⊢
      rw [List.map_cons, hm, h.answer_of_takes ht, List.length_cons, List.range'_succ,
        List.map_cons]
    · simpa [ht] using hm

/-- The record after a run holds what was on it and then all that `next` took. -/
theorem record_run (h : r.Follows source t) (moves : List Move) :
    (t.run (results source) r.lookahead moves).2.record.map Answer.result =
      t.record.map Answer.result ++
        ((r.taken moves).filter (·.1 = .next)).map Prod.snd := by
  induction moves generalizing r t with
  | nil => simp [Tape.run, taken]
  | cons move moves ih =>
    have hm := ih (h.play move).2
    rw [play_lookahead, h.record_play] at hm
    rw [taken, Tape.run, hm]
    by_cases ht : r.takes move
    · by_cases hn : move = .next
      · subst hn
        simp [ht, h.answer_of_takes ht]
      · simp [ht, hn]
    · simp [ht]

theorem count_run (h : r.Follows source t) (moves : List Move) :
    (t.run (results source) r.lookahead moves).2.taken = t.taken + (r.taken moves).length := by
  induction moves generalizing r t with
  | nil => rfl
  | cons move moves ih =>
    have hm := ih (h.play move).2
    rw [play_lookahead, h.taken_play] at hm
    rw [taken, Tape.run, hm]
    by_cases ht : r.takes move
    · simp only [ht, if_true, List.length_cons]
      omega
    · simp [ht]

end Follows

/-! ## The main statement -/

/-- What holds of a reader of `source` that has taken `count` results from the stream. -/
structure Reads (source : String) (count : Nat) (r : TokenReader) : Prop where
  stream_eq : r.stream = (TokenStream.ofString source).after count
  cursor_le : r.cursor ≤ r.kept.length
  length_le : r.kept.length ≤ r.lookahead
  /-- A direct scan gives the next result of the stream and leaves what is kept alone. -/
  scan_eq : r.scan = (results source count, { r with stream := r.stream.tail })
  /-- Behind the end of what is kept, `next` gives the result at the cursor and moves only that. -/
  replay : r.cursor < r.kept.length →
    r.kept[r.cursor]? = some r.next.1 ∧ SameButCursor r r.next.2 ∧ r.next.2.cursor = r.cursor + 1
  /-- At the end of what is kept, `next` gives the next result of the stream and keeps it. -/
  fresh : r.cursor = r.kept.length →
    r.next.1 = results source count ∧ r.next.2.stream = r.stream.tail ∧
      r.next.2.kept = latest r.lookahead (r.kept ++ [results source count]) ∧
      r.next.2.cursor = r.next.2.kept.length
  /-- Where the oldest result has to make room, the cursor is not at the front. -/
  room : r.cursor = r.kept.length → r.kept.length = r.lookahead → 0 < r.cursor
  step_back : 0 < r.cursor →
    ∃ back, r.stepBack? = .ok back ∧ r.stepBack = back ∧ SameButCursor r back ∧
      back.cursor + 1 = r.cursor
  no_step_back : r.cursor = 0 → r.stepBack? = .error .nothingKept ∧ r.stepBack = r

theorem Follows.reads {source : String} {r : TokenReader} {t : Tape} (h : r.Follows source t)
    (hl : 1 ≤ r.lookahead) : r.Reads source t.taken where
  stream_eq := h.stream_eq
  cursor_le := by rw [length_kept]; omega
  length_le := by rw [h.length_kept_eq]; omega
  scan_eq := by rw [TokenReader.scan_eq, h.fresh_eq]
  replay := next_replays
  fresh hc := by
    obtain ⟨hr, hs, hk, hn⟩ := next_takes hc
    rw [h.fresh_eq] at hr
    exact ⟨hr, hs, hr ▸ hk, hn⟩
  room := by omega
  step_back := stepBack?_moves
  no_step_back := stepBack?_refuses

/-- After any moves a reader with look-ahead has answered as the tape does. The results that it
took are those of the stream, in order and each once; it keeps the latest of those that `next`
took; and it `Reads` the rest of the stream from there. -/
theorem run_reads_tape (source : String) {lookahead : Nat} (hl : 1 ≤ lookahead)
    (moves : List Move) :
    let start := ofString source { lookahead }
    let r := (start.run moves).2
    let taken := start.taken moves
    (start.run moves).1 = (({} : Tape).run (results source) lookahead moves).1 ∧
      taken.map Prod.snd = (List.range taken.length).map (fun n => .result (results source n)) ∧
      r.kept.map Answer.result = latest lookahead ((taken.filter (·.1 = .next)).map Prod.snd) ∧
      r.lookahead = lookahead ∧
      r.Reads source taken.length := by
  intro start r taken
  have hf := Follows.ofString source { lookahead }
  have hr : r.lookahead = lookahead := run_lookahead start moves
  obtain ⟨ha, hs⟩ := hf.run moves
  have hc := hf.count_run moves
  have ht := hf.taken_run moves
  have hk := hf.record_run moves
  rw [Nat.zero_add] at hc
  rw [List.map_nil, List.nil_append] at hk
  refine ⟨ha, ?_, ?_, hr, hc ▸ hs.reads (hr.symm ▸ hl)⟩
  · rw [List.range_eq_range']
    exact ht
  · rw [hs.kept_eq, hr, map_latest]
    exact congrArg (latest lookahead) hk

/-- Four results are taken through a window of two, one of them by a direct scan: two steps back
succeed, the third is refused, and one result is read again. -/
def windowMoves : List Move :=
  [.next, .next, .scan, .next, .stepBack?, .stepBack, .stepBack?, .next]

theorem run_reads_tape_window :
    1 ≤ 2 ∧ ((ofString "a b c" { lookahead := 2 }).run windowMoves).2.Reads "a b c" 4 := by
  have hc : ((ofString "a b c" { lookahead := 2 }).taken windowMoves).length = 4 := by
    decide +kernel
  exact ⟨by decide, hc ▸ (run_reads_tape "a b c" (by decide) windowMoves).2.2.2.2⟩

end TokenReader

end SqlDml
