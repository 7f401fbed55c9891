/-!
# Places in a text

* `Position` : a byte offset with the line it lies on and the offset where that line begins;
* `Position.advance` : the position after some more text.

A line ends at a line feed, at a carriage return, or at a carriage return and line feed together.
-/

namespace SqlDml

/-- The bytes of the UTF-8 form before a place, its line, counted from one, and the offset where
that line begins. -/
structure Position where
  offset : Nat := 0
  line : Nat := 1
  lineStart : Nat := 0
  deriving Repr, DecidableEq, Inhabited

namespace Position

/-- The column in bytes, counted from one. -/
def column (p : Position) : Nat := p.offset - p.lineStart + 1

/-- Whether a line ends after `c`, with `following` the next character. A carriage return before a
line feed leaves the break to the line feed. -/
def endsLine (c : Char) (following : Option Char) : Bool :=
  c == '\n' || (c == '\r' && following != some '\n')

def step (p : Position) (c : Char) (following : Option Char) : Position :=
  let offset := p.offset + c.utf8Size
  if endsLine c following then ⟨offset, p.line + 1, offset⟩ else { p with offset }

/-- The position after `text`; a carriage return at its very end ends a line. -/
def advance (p : Position) : List Char → Position
  | [] => p
  | c :: cs => (p.step c cs.head?).advance cs

end Position

end SqlDml
