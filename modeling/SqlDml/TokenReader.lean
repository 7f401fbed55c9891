import SqlDml.ReaderConfig
import SqlDml.TokenStream

/-!
# Reading tokens with steps back

* `TokenReader` : a token stream with the latest results kept, so that they can be read again;
* `TokenReader.next` : the next result, kept ones first;
* `TokenReader.stepBack?`, `TokenReader.stepBack` : back by one result;
* `TokenReader.scan` : the next token of the stream itself, past whatever is kept;
* `TokenReader.drain` : everything up to the first result that is no token.

The results kept lie around the place where the reader stands: `behind` it those that were given
out, `ahead` of it those that will be given out again. An exhausted stream is a result as well.
-/

namespace SqlDml

/-- A reader of `source` that keeps `lookahead` results: behind it the latest first, and ahead of it
the next first. -/
structure TokenReader where
  source : String
  lookahead : Nat
  stream : TokenStream
  behind : List (Option Token) := []
  ahead : List (Option Token) := []
  deriving Repr, DecidableEq, Inhabited

namespace TokenReader

def ofString (source : String) (config : ReaderConfig) : TokenReader where
  source
  lookahead := config.lookahead
  stream := TokenStream.ofString source

-- The line and the offset are those that scanning has reached, wherever the reader stands.
def line (r : TokenReader) : Nat := r.stream.position.line

def offset (r : TokenReader) : Nat := r.stream.position.offset

/-- The next token of the stream. What is kept stays as it is. -/
def scan (r : TokenReader) : Option Token × TokenReader :=
  match r.stream.next? with
  | some (token, stream) => (some token, { r with stream })
  | none => (none, r)

/-- The next result: the next one kept ahead, else a fresh one, which is kept in turn, the oldest
making room for it. -/
def next (r : TokenReader) : Option Token × TokenReader :=
  match r.ahead with
  | result :: ahead => (result, { r with behind := result :: r.behind, ahead })
  | [] =>
    let (result, r) := r.scan
    (result, { r with behind := (result :: r.behind).take r.lookahead })

def stepBack? (r : TokenReader) : Except Fault TokenReader :=
  match r.behind with
  | result :: behind => .ok { r with behind, ahead := result :: r.ahead }
  | [] => .error .nothingKept

/-- One result back, or no move at all. -/
def stepBack (r : TokenReader) : TokenReader :=
  match r.stepBack? with
  | .ok back => back
  | .error _ => r

/-! ## Draining -/

/-- A bound on the number of tokens that `next` still gives out. -/
def remaining (r : TokenReader) : Nat := r.ahead.length + r.stream.remaining

theorem remaining_lt_of_next {r r' : TokenReader} {token : Token}
    (h : r.next = (some token, r')) : r'.remaining < r.remaining := by
  unfold next at h
  split at h
  · rename_i result ahead ha
    simp only [Prod.mk.injEq] at h
    obtain ⟨-, rfl⟩ := h
    simp [remaining, ha]
  · rename_i ha
    unfold scan at h
    cases hn : r.stream.next? with
    | none => simp [hn] at h
    | some pair =>
      have hl : pair.2.remaining < r.stream.remaining := TokenStream.remaining_lt_of_next? hn
      simp only [hn, Prod.mk.injEq] at h
      obtain ⟨-, rfl⟩ := h
      simpa [remaining, ha] using hl

def drain (r : TokenReader) : List Token × TokenReader :=
  match _h : r.next with
  | (none, r') => ([], r')
  | (some token, r') =>
    let (tokens, last) := r'.drain
    (token :: tokens, last)
termination_by r.remaining
decreasing_by exact remaining_lt_of_next _h

end TokenReader

end SqlDml
