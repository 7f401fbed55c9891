/-!
# Layout: blanks and comments

* `Layout.split` : the layout at the front of a text, and what follows it.

A comment opens with `#` or `--` and runs through the end of its line, or to the end of the text.
-/

namespace SqlDml.Layout

/-- A space, a tab, or a character of a line break. -/
def isBlank (c : Char) : Bool := c == ' ' || c == '\t' || c == '\r' || c == '\n'

def isBreak (c : Char) : Bool := c == '\n' || c == '\r'

/-- Whether a comment opens at `c`, with `following` the text after it. -/
def opensComment (c : Char) (following : List Char) : Bool :=
  c == '#' || (c == '-' && following.head? == some '-')

/-- Splits off the layout at the front of a text that begins inside a comment or outside. The
comment ends with the first character of a line break; a line feed after a carriage return is then
a blank. -/
def splitFrom (inComment : Bool) : List Char → List Char × List Char
  | [] => ([], [])
  | c :: cs =>
    let comment := inComment || opensComment c cs
    if comment || isBlank c then
      let (skipped, rest) := splitFrom (comment && !isBreak c) cs
      (c :: skipped, rest)
    else ([], c :: cs)

/-- The layout at the front of a text, and the rest. -/
def split (text : List Char) : List Char × List Char := splitFrom false text

/-! ## Nothing is lost -/

theorem splitFrom_append (inComment : Bool) (text : List Char) :
    (splitFrom inComment text).1 ++ (splitFrom inComment text).2 = text := by
  induction text generalizing inComment with
  | nil => rfl
  | cons c cs ih =>
    simp only [splitFrom]
    split
    · simp [ih]
    · rfl

theorem split_append (text : List Char) : (split text).1 ++ (split text).2 = text :=
  splitFrom_append false text

theorem length_split_snd_le (text : List Char) : (split text).2.length ≤ text.length := by
  have h := congrArg List.length (split_append text)
  rw [List.length_append] at h
  omega

end SqlDml.Layout
