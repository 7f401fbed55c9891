import SqlDml.Layout
import SqlDml.Lexeme.Read
import SqlDml.Position

/-!
# The tokens of a text

* `TokenStream` : what is left of a text, and where that begins;
* `TokenStream.next?` : the next token and the stream after it; the end of the text is a token of
  its own, and nothing follows it;
* `TokenStream.toList` : all tokens that are left;
* `tokenize` : the tokens of a whole text.

A stream always ends, because each token but the last covers at least one character
(`remaining_lt_of_next?`).
-/

namespace SqlDml

/-- What is left of a text, where that begins, and whether its end has been given out. -/
structure TokenStream where
  rest : List Char
  position : Position := {}
  ended : Bool := false
  deriving Repr, DecidableEq, Inhabited

/-- A token at `start` that ends at `stop`. -/
def Token.place (kind : Kind) (value : Value) (skipped : List Char) (start stop : Position) :
    Token where
  kind
  value
  skipped := String.ofList skipped
  span := ⟨clampOffset start.offset, clampOffset stop.offset⟩
  line := start.line
  column := clampOffset start.column

namespace TokenStream

def ofString (text : String) : TokenStream := { rest := text.toList }

def next? (s : TokenStream) : Option (Token × TokenStream) :=
  if s.ended then none
  else
    let (skipped, body) := Layout.split s.rest
    let start := s.position.advance skipped
    match body with
    | [] => some (.place .endOfInput (.text "") skipped start start, ⟨[], start, true⟩)
    | c :: cs =>
      let lexeme := Lexeme.read c cs
      let stop := start.advance lexeme.text
      some (.place lexeme.kind lexeme.value skipped start stop, ⟨lexeme.rest, stop, false⟩)

/-! ## Every stream ends -/

/-- A bound on the number of tokens that are left. -/
def remaining (s : TokenStream) : Nat := if s.ended then 0 else s.rest.length + 1

theorem remaining_lt_of_next? {s s' : TokenStream} {token : Token}
    (h : s.next? = some (token, s')) : s'.remaining < s.remaining := by
  have hl := Layout.length_split_snd_le s.rest
  unfold next? at h
  split at h
  · simp at h
  · rename_i he
    dsimp only at h
    split at h
    · simp only [Option.some.injEq, Prod.mk.injEq] at h
      obtain ⟨-, rfl⟩ := h
      simp [remaining, he]
    · rename_i c cs hb
      have hr := Lexeme.length_rest_read_le c cs
      simp only [Option.some.injEq, Prod.mk.injEq] at h
      obtain ⟨-, rfl⟩ := h
      rw [hb, List.length_cons] at hl
      simp only [remaining, he]
      simp
      omega

def toList (s : TokenStream) : List Token :=
  match _h : s.next? with
  | none => []
  | some (token, s') => token :: s'.toList
termination_by s.remaining
decreasing_by exact remaining_lt_of_next? _h

end TokenStream

def tokenize (text : String) : List Token := (TokenStream.ofString text).toList

/-- The fault of the first broken token of a text, if there is one. -/
def checkLexical (text : String) : Except Fault Unit :=
  match (tokenize text).findSome? Token.fault? with
  | none => .ok ()
  | some fault => .error fault

end SqlDml
