import SqlDml.Dialect
import SqlDml.Lexeme.Numeral
import SqlDml.Lexeme.Quoted

/-!
# Lexemes

* `Lexeme` : a token's kind and value, the characters that it covers and the text after it;
* `Lexeme.read` : the lexeme at the front of a text that does not begin with layout;
* `Lexeme.text_append_rest`, `Lexeme.text_read_ne_nil` : reading loses nothing and makes progress.

The first character, with one or two more for dots and minus, decides which rule reads the lexeme.
No text is refused: what no rule takes is a lexeme of one character.
-/

namespace SqlDml

structure Lexeme where
  kind : Kind
  value : Value
  /-- The characters covered. -/
  text : List Char
  rest : List Char
  deriving Repr, DecidableEq, Inhabited

namespace Lexeme

/-- A lexeme whose value is the text that it covers. -/
def verbatim (kind : Kind) (text rest : List Char) : Lexeme :=
  ⟨kind, .text (String.ofList text), text, rest⟩

/-! ## Character classes -/

/-- The characters of a word after its first. -/
def isWordChar (c : Char) : Bool :=
  c.isAlphanum || c == '_' || c == '.' || c == '\x7b' || c == '\x7d' || c == '\x60' || c == '*'

/-- The characters that begin a word. -/
def startsWord (c : Char) : Bool := c.isAlpha || c == '\x7b' || c == '\x60'

/-- The characters that a number must not run into. -/
def isNameChar (c : Char) : Bool := c.isAlphanum || c == '_'

/-- The characters that a broken number takes along. -/
def isSpoilt (c : Char) : Bool := isNameChar c || c == '+' || c == '-'

def isComparison (c : Char) : Bool := c == '<' || c == '>' || c == '=' || c == '!'

/-- The comparison operators. -/
def comparisons : List (List Char) :=
  [['='], ['!', '='], ['<', '>'], ['<'], ['<', '='], ['>'], ['>', '=']]

/-! ## Rules -/

/-- One character by itself: an operator if it is a comparison, else punctuation. -/
def single (c : Char) (rest : List Char) : Lexeme :=
  let kind :=
    if c = '=' ∨ c = '<' ∨ c = '>' then .operator (String.singleton c) else .punctuation c
  verbatim kind [c] rest

/-- After a backslash outside quotes: a quote or a backslash is escaped, anything else leaves the
backslash by itself. -/
def escape : List Char → Lexeme
  | c :: cs =>
    if c = '\'' ∨ c = '"' ∨ c = '\\' then
      ⟨.punctuation c, .text (String.singleton c), ['\\', c], cs⟩
    else single '\\' (c :: cs)
  | [] => single '\\' []

/-- After an opening quote: a text, a placeholder if `%s` comes last in it, or an unterminated
literal. A text has its content as value, the other two all that they cover. -/
def quoted (quote : Char) (cs : List Char) : Lexeme :=
  let literal := Quoted.scan quote cs
  let covered := quote :: literal.text
  match literal.ending with
  | .closed => ⟨.text, .text (String.ofList literal.content), covered, literal.rest⟩
  | .placeholder => verbatim .placeholder covered literal.rest
  | .missing => verbatim (.invalid .unterminatedLiteral) covered literal.rest

/-- The run from `c` on of characters in a class. -/
def run (kind : Kind) (inClass : Char → Bool) (c : Char) (cs : List Char) : Lexeme :=
  verbatim kind (c :: cs.takeWhile inClass) (cs.dropWhile inClass)

/-- A word: a keyword, in lower case, if that is a symbol of the dialect, else an identifier. -/
def word (c : Char) (cs : List Char) : Lexeme :=
  let text := c :: cs.takeWhile isWordChar
  let rest := cs.dropWhile isWordChar
  let lowered := String.ofList (text.map Char.toLower)
  if Dialect.isSymbol lowered then ⟨.keyword lowered, .text lowered, text, rest⟩
  else verbatim .identifier text rest

/-- The kind of the literal that has a value. -/
def literalKind : Value → Kind
  | .integer _ => .integer
  | .real _ => .real
  | .text _ => .text

/-- A number; it is malformed if it lacks the end of its exponent, runs into a name or is out of
range, and then takes along the rest of the broken text. -/
def number (cs : List Char) : Lexeme :=
  let reading := Numeral.read cs
  let covered := reading.numeral.text ++ reading.stray
  let sound := reading.stray.isEmpty && !reading.rest.head?.any isNameChar
  match if sound then reading.numeral.value? else none with
  | some value => ⟨literalKind value, value, covered, reading.rest⟩
  | none =>
    verbatim (.invalid .malformedNumber) (covered ++ reading.rest.takeWhile isSpoilt)
      (reading.rest.dropWhile isSpoilt)

/-- After a dot: two more make an ellipsis. -/
def dots : List Char → Lexeme
  | '.' :: '.' :: cs => verbatim .ellipsis ['.', '.', '.'] cs
  | cs => single '.' cs

/-- After a percent sign: a letter or digit makes a placeholder, and so does the end of the
text. -/
def percent : List Char → Lexeme
  | [] => verbatim .placeholder ['%'] []
  | c :: cs => if c.isAlphanum then verbatim .placeholder ['%', c] cs else single '%' (c :: cs)

/-- A run of comparison characters: one operator if the whole run spells one, else the first
character by itself. -/
def comparison (c : Char) (cs : List Char) : Lexeme :=
  let text := c :: cs.takeWhile isComparison
  if comparisons.contains text then
    verbatim (.operator (String.ofList text)) text (cs.dropWhile isComparison)
  else single c cs

/-- The lexeme that begins with `c`, a character that is no layout. -/
def read (c : Char) (cs : List Char) : Lexeme :=
  if c = '\\' then escape cs
  else if c = '\'' ∨ c = '"' then quoted c cs
  else if c = '_' then run .systemVariable isNameChar c cs
  else if startsWord c then word c cs
  else if Numeral.starts (c :: cs) then number (c :: cs)
  else if c = '.' then dots cs
  else if c = '%' then percent cs
  else if isComparison c then comparison c cs
  else single c cs

/-! ## Nothing is lost -/

/-- The lexeme covers all of `cs` up to its rest. -/
def Splits (lexeme : Lexeme) (cs : List Char) : Prop := lexeme.text ++ lexeme.rest = cs

theorem single_splits (c : Char) (cs : List Char) : (single c cs).Splits (c :: cs) := rfl

theorem escape_splits (cs : List Char) : (escape cs).Splits ('\\' :: cs) := by
  unfold escape
  split
  · split <;> rfl
  · rfl

theorem quoted_splits (quote : Char) (cs : List Char) :
    (quoted quote cs).Splits (quote :: cs) := by
  have h := Quoted.text_append_rest quote cs
  rw [quoted, Quoted.scan_eq_read]
  split <;> simp [Splits, verbatim, h]

theorem run_splits (kind : Kind) (inClass : Char → Bool) (c : Char) (cs : List Char) :
    (run kind inClass c cs).Splits (c :: cs) := by
  simp [Splits, run, verbatim]

theorem word_splits (c : Char) (cs : List Char) : (word c cs).Splits (c :: cs) := by
  unfold word
  dsimp only
  split <;> simp [Splits, verbatim]

theorem number_splits (cs : List Char) : (number cs).Splits cs := by
  have h := Numeral.text_append_rest cs
  unfold number
  dsimp only
  split
  · exact h
  · simpa [Splits, verbatim] using h

theorem dots_splits (cs : List Char) : (dots cs).Splits ('.' :: cs) := by
  unfold dots
  split <;> rfl

theorem percent_splits (cs : List Char) : (percent cs).Splits ('%' :: cs) := by
  unfold percent
  split
  · rfl
  · split <;> rfl

theorem comparison_splits (c : Char) (cs : List Char) :
    (comparison c cs).Splits (c :: cs) := by
  unfold comparison
  dsimp only
  split
  · simp [Splits, verbatim]
  · rfl

theorem read_splits (c : Char) (cs : List Char) : (read c cs).Splits (c :: cs) := by
  unfold read
  split
  · subst c; exact escape_splits cs
  split
  · exact quoted_splits c cs
  split
  · exact run_splits _ _ c cs
  split
  · exact word_splits c cs
  split
  · exact number_splits (c :: cs)
  split
  · subst c; exact dots_splits cs
  split
  · subst c; exact percent_splits cs
  split
  · exact comparison_splits c cs
  · exact single_splits c cs

theorem text_append_rest (c : Char) (cs : List Char) :
    (read c cs).text ++ (read c cs).rest = c :: cs := read_splits c cs

/-! ## Progress -/

theorem text_number_ne_nil {cs : List Char} (h : Numeral.starts cs) : (number cs).text ≠ [] := by
  have ht := Numeral.text_read_ne_nil h
  unfold number
  dsimp only
  split <;> simp [verbatim, ht]

theorem text_read_ne_nil (c : Char) (cs : List Char) : (read c cs).text ≠ [] := by
  unfold read
  split
  · unfold escape; split
    · split <;> simp [single, verbatim]
    · simp [single, verbatim]
  split
  · unfold quoted; dsimp only; split <;> simp [verbatim]
  split
  · simp [run, verbatim]
  split
  · unfold word; dsimp only; split <;> simp [verbatim]
  split
  · rename_i h; exact text_number_ne_nil h
  split
  · unfold dots; split <;> simp [single, verbatim]
  split
  · unfold percent; split
    · simp [verbatim]
    · split <;> simp [single, verbatim]
  split
  · unfold comparison; dsimp only; split <;> simp [single, verbatim]
  · simp [single, verbatim]

theorem length_rest_read_le (c : Char) (cs : List Char) :
    (read c cs).rest.length ≤ cs.length := by
  have h := congrArg List.length (text_append_rest c cs)
  have := List.length_pos_iff.2 (text_read_ne_nil c cs)
  rw [List.length_append, List.length_cons] at h
  omega

end Lexeme

end SqlDml
