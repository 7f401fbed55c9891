import SqlDml.Proofs.TokenReader.Tape

/-!
# The buffer and the cursor of a reader

* `BufferReader` : a stream with a buffer of results, the oldest first, and a cursor into it;
* `BufferReader.next?` : the result at the cursor, else a fresh one, which goes into the buffer;
* `TokenReader.buffered` : a token reader as such a machine;
* `TokenReader.buffered_play` : each move of a reader is a move of its machine;
* `BufferReader.run_ofString`, `BufferReader.answers_ofString` : the machine runs through any moves,
  and answers as the reader and the tape do.

A full buffer drops its oldest result, and the cursor has to move down with it. A cursor that stands
at the front cannot, so this move is checked here, and a run of the machine has no outcome after it.
-/

namespace SqlDml

open TokenReader (Answer Move latest)

structure BufferReader where
  lookahead : Nat
  stream : TokenStream
  /-- The results kept, the oldest first. -/
  buffer : List (Option Token) := []
  /-- The place in the buffer of the result that is given out next. -/
  cursor : Nat := 0
  deriving Repr, DecidableEq, Inhabited

namespace BufferReader

def ofString (source : String) (config : ReaderConfig) : BufferReader where
  lookahead := config.lookahead
  stream := TokenStream.ofString source

def scan (b : BufferReader) : Option Token × BufferReader :=
  match b.stream.next? with
  | some (token, stream) => (some token, { b with stream })
  | none => (none, b)

/-- The oldest result goes, unless the cursor stands on it. -/
def evict? (b : BufferReader) : Option BufferReader :=
  match b.cursor with
  | 0 => none
  | cursor + 1 => some { b with buffer := b.buffer.tail, cursor }

/-- Room for one more result. -/
def makeRoom? (b : BufferReader) : Option BufferReader :=
  if b.buffer.length = b.lookahead then b.evict? else some b

def push (b : BufferReader) (result : Option Token) : BufferReader :=
  { b with buffer := b.buffer ++ [result], cursor := b.cursor + 1 }

/-- The next result: straight from the stream without look-ahead, else the one at the cursor, else
a fresh one, which is kept. -/
def next? (b : BufferReader) : Option (Option Token × BufferReader) :=
  if b.lookahead = 0 then some b.scan
  else
    match b.buffer[b.cursor]? with
    | some result => some (result, { b with cursor := b.cursor + 1 })
    | none => b.makeRoom?.map fun room => (room.scan.1, room.scan.2.push room.scan.1)

def stepBack? (b : BufferReader) : Except Fault BufferReader :=
  if 0 < b.lookahead ∧ b.buffer ≠ [] ∧ 0 < b.cursor then .ok { b with cursor := b.cursor - 1 }
  else .error .nothingKept

def stepBack (b : BufferReader) : BufferReader :=
  match b.stepBack? with
  | .ok back => back
  | .error _ => b

def play (b : BufferReader) : Move → Option (Answer × BufferReader)
  | .next => b.next?.map fun (result, next) => (.result result, next)
  | .scan => some (.result b.scan.1, b.scan.2)
  | .stepBack => some (.untold, b.stepBack)
  | .stepBack? =>
    match b.stepBack? with
    | .ok back => some (.moved, back)
    | .error fault => some (.refused fault, b)

/-- The answers to some moves in turn and the machine after them, if the cursor can always move as
it has to. -/
def run (b : BufferReader) : List Move → Option (List Answer × BufferReader)
  | [] => some ([], b)
  | move :: moves =>
    (b.play move).bind fun now =>
      (now.2.run moves).map fun later => (now.1 :: later.1, later.2)

/-! ## Each operation -/

theorem latest_of_length_le {α : Type} {window : Nat} {record : List α}
    (h : record.length ≤ window) : latest window record = record := by
  rw [latest, Nat.sub_eq_zero_of_le h, List.drop_zero]

theorem latest_append_of_ne_zero {α : Type} {window : Nat} (h : window ≠ 0) (record : List α)
    (result : α) :
    latest window (record ++ [result]) = latest (window - 1) record ++ [result] := by
  have hdrop : record.length + 1 - window = record.length - (window - 1) := by omega
  rw [latest, latest, List.length_append, List.length_singleton, hdrop,
    List.drop_append_of_le_length (by omega)]

theorem scan_eq (b : BufferReader) :
    b.scan = (b.stream.next?.map Prod.fst, { b with stream := b.stream.tail }) := by
  unfold scan TokenStream.tail
  cases b.stream.next? <;> rfl

theorem next?_of_no_lookahead {b : BufferReader} (h : b.lookahead = 0) :
    b.next? = some b.scan := by
  rw [next?, if_pos h]

theorem next?_of_getElem? {b : BufferReader} {result : Option Token} (hl : b.lookahead ≠ 0)
    (h : b.buffer[b.cursor]? = some result) :
    b.next? = some (result, { b with cursor := b.cursor + 1 }) := by
  rw [next?, if_neg hl, h]

/-- A cursor at the end of a full buffer is not at its front, so the oldest result can go. -/
theorem makeRoom?_of_end {b : BufferReader} (hl : b.lookahead ≠ 0)
    (hc : b.cursor = b.buffer.length) (hle : b.buffer.length ≤ b.lookahead) :
    let buffer := latest (b.lookahead - 1) b.buffer
    b.makeRoom? = some { b with buffer, cursor := buffer.length } := by
  intro buffer
  by_cases hfull : b.buffer.length = b.lookahead
  · obtain ⟨cursor, hcursor⟩ : ∃ cursor, b.cursor = cursor + 1 :=
      Nat.exists_eq_add_one_of_ne_zero (by omega)
    have hbuffer : buffer = b.buffer.tail := by
      have hone : b.buffer.length - (b.lookahead - 1) = 1 := by omega
      show b.buffer.drop _ = _
      rw [hone, List.drop_one]
    have hlength : cursor = buffer.length := by
      rw [hbuffer, List.length_tail]
      omega
    rw [makeRoom?, if_pos hfull, evict?, hcursor, hbuffer, hlength, hbuffer]
  · have hbuffer : buffer = b.buffer := latest_of_length_le (by omega)
    rw [makeRoom?, if_neg hfull, hbuffer, ← hc]

/-- A fresh result goes into the buffer, which holds the latest ones. -/
theorem next?_of_end {b : BufferReader} (hl : b.lookahead ≠ 0)
    (hc : b.cursor = b.buffer.length) (hle : b.buffer.length ≤ b.lookahead) :
    let buffer := latest b.lookahead (b.buffer ++ [b.scan.1])
    b.next? = some (b.scan.1,
      { b with stream := b.stream.tail, buffer, cursor := buffer.length }) := by
  have hnone : b.buffer[b.cursor]? = none := List.getElem?_eq_none (Nat.le_of_eq hc.symm)
  rw [next?, if_neg hl, hnone, makeRoom?_of_end hl hc hle]
  simp [scan_eq, push, latest_append_of_ne_zero hl]

theorem stepBack?_of_pos {b : BufferReader} (hc : 0 < b.cursor)
    (hle : b.cursor ≤ b.buffer.length) (hl : b.buffer.length ≤ b.lookahead) :
    b.stepBack? = .ok { b with cursor := b.cursor - 1 } := by
  have hbuffer : b.buffer ≠ [] := List.length_pos_iff.1 (by omega)
  rw [stepBack?, if_pos ⟨by omega, hbuffer, hc⟩]

theorem stepBack?_of_cursor_eq_zero {b : BufferReader} (hc : b.cursor = 0) :
    b.stepBack? = .error .nothingKept := by
  rw [stepBack?, if_neg fun h => absurd hc (Nat.ne_of_gt h.2.2)]

end BufferReader

/-! ## Simulation -/

namespace TokenReader

/-- The results kept as a buffer, with the cursor at its place among them. -/
def buffered (r : TokenReader) : BufferReader where
  lookahead := r.lookahead
  stream := r.stream
  buffer := r.kept
  cursor := r.cursor

theorem SameButCursor.buffered_eq {r r' : TokenReader} (h : SameButCursor r r') :
    r'.buffered = { r.buffered with cursor := r'.cursor } := by
  simp only [buffered, h.lookahead_eq, h.stream_eq, h.kept_eq]

theorem buffered_scan (r : TokenReader) : r.buffered.scan = (r.scan.1, r.scan.2.buffered) := by
  rw [BufferReader.scan_eq, scan_eq]
  rfl

theorem cursor_le (r : TokenReader) : r.cursor ≤ r.kept.length := by
  rw [length_kept]
  omega

/-- A request has an outcome: where a full buffer has to drop a result, the cursor is behind it. -/
theorem buffered_next {r : TokenReader} (hk : r.kept.length ≤ r.lookahead) :
    r.buffered.next? = some (r.next.1, r.next.2.buffered) := by
  rcases Nat.lt_or_eq_of_le r.cursor_le with hlt | hend
  · obtain ⟨hresult, hsame, hcursor⟩ := next_replays hlt
    have hl : r.buffered.lookahead ≠ 0 := (by omega : r.lookahead ≠ 0)
    rw [BufferReader.next?_of_getElem? hl hresult, hsame.buffered_eq, hcursor]
    rfl
  · obtain ⟨hresult, hstream, hkept, hcursor⟩ := next_takes hend
    have hlookahead : r.next.2.lookahead = r.lookahead := play_lookahead r .next
    have hscan : r.buffered.scan.1 = r.next.1 := by rw [BufferReader.scan_eq, hresult]; rfl
    have hnext : r.next.2.buffered =
        { lookahead := r.lookahead
          stream := r.stream.tail
          buffer := latest r.lookahead (r.kept ++ [r.next.1])
          cursor := (latest r.lookahead (r.kept ++ [r.next.1])).length } := by
      rw [buffered, hlookahead, hstream, hcursor, hkept]
    by_cases hl : r.lookahead = 0
    · have hnil : r.kept = [] := List.length_eq_zero_iff.1 (by omega)
      rw [BufferReader.next?_of_no_lookahead hl, hnext, BufferReader.scan_eq, hresult]
      simp [buffered, hl, hnil, latest, hend]
    · rw [BufferReader.next?_of_end hl hend hk, hscan, hnext]
      rfl

theorem buffered_stepBack? {r : TokenReader} (hk : r.kept.length ≤ r.lookahead) :
    r.buffered.stepBack? = r.stepBack?.map buffered := by
  rcases Nat.eq_zero_or_pos r.cursor with hzero | hpos
  · rw [BufferReader.stepBack?_of_cursor_eq_zero hzero, (stepBack?_refuses hzero).1]
    rfl
  · obtain ⟨back, hback, -, hsame, hcursor⟩ := stepBack?_moves hpos
    have hone : r.buffered.cursor - 1 = back.cursor := (by omega : r.cursor - 1 = back.cursor)
    rw [BufferReader.stepBack?_of_pos hpos r.cursor_le hk, hone, hback, Except.map,
      hsame.buffered_eq]

theorem buffered_stepBack {r : TokenReader} (hk : r.kept.length ≤ r.lookahead) :
    r.buffered.stepBack = r.stepBack.buffered := by
  rw [BufferReader.stepBack, stepBack, buffered_stepBack? hk]
  cases r.stepBack? <;> rfl

/-- One move of the reader is one move of its machine, which has an outcome. -/
theorem buffered_play {r : TokenReader} (hk : r.kept.length ≤ r.lookahead) (move : Move) :
    r.buffered.play move = some ((r.play move).1, (r.play move).2.buffered) := by
  cases move with
  | next => rw [BufferReader.play, buffered_next hk]; rfl
  | scan => rw [BufferReader.play, buffered_scan]; rfl
  | stepBack => rw [BufferReader.play, buffered_stepBack hk]; rfl
  | stepBack? =>
    rw [BufferReader.play, buffered_stepBack? hk, play]
    cases r.stepBack? <;> rfl

/-- A run of the machine goes through: after each move no more results are kept than the look-ahead
allows, because a reader beside a tape keeps just the latest ones. -/
theorem Follows.run_buffered {source : String} {r : TokenReader} {t : Tape}
    (h : r.Follows source t) (moves : List Move) :
    r.buffered.run moves = some ((r.run moves).1, (r.run moves).2.buffered) := by
  induction moves generalizing r t with
  | nil => rfl
  | cons move moves ih =>
    have hk : r.kept.length ≤ r.lookahead := by
      rw [h.length_kept_eq]
      omega
    rw [BufferReader.run, buffered_play hk, Option.bind_some, ih (h.play move).2]
    rfl

end TokenReader

namespace BufferReader

/-- From the start of a text the machine goes through any moves, with the answers of the reader, and
comes to the reader's results and cursor. -/
theorem run_ofString (source : String) (config : ReaderConfig) (moves : List Move) :
    let run := (TokenReader.ofString source config).run moves
    (ofString source config).run moves = some (run.1, run.2.buffered) :=
  (TokenReader.Follows.ofString source config).run_buffered moves

/-- So its answers are those of the tape. -/
theorem answers_ofString (source : String) (config : ReaderConfig) (moves : List Move) :
    ((ofString source config).run moves).map Prod.fst =
      some (({} : TokenReader.Tape).run (TokenReader.results source) config.lookahead moves).1 := by
  have hrun := ((TokenReader.Follows.ofString source config).run moves).1
  rw [run_ofString, Option.map_some, hrun]
  rfl

end BufferReader

end SqlDml
