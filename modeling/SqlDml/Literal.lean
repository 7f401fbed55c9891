import SqlDml.Token

/-!
# Literals

* `Literal`, `ValueKind` : the values that a statement can hold, and what kinds there are;
* `Literal.render` : the text of a literal, which is read back as a token of that value;
* `==` : equality of values, in which the two zeros are equal and a NaN equals nothing.
-/

namespace SqlDml

inductive ValueKind where
  | integer
  | real
  | text
  | placeholder
  | null
  deriving Repr, DecidableEq, Inhabited

/-- The name of the kind in a parser's vocabulary. -/
def ValueKind.name : ValueKind → String
  | integer => "int_val"
  | real => "real_val"
  | text => "text_val"
  | placeholder => "placeholder"
  | null => "null"

inductive Literal where
  | integer (n : Int64)
  | real (x : Binary64)
  /-- A text, by its characters. -/
  | text (s : String)
  /-- A placeholder, by its spelling. -/
  | placeholder (spelling : String)
  | null
  deriving Repr, Inhabited

namespace Literal

def kind : Literal → ValueKind
  | integer _ => .integer
  | real _ => .real
  | text _ => .text
  | placeholder _ => .placeholder
  | null => .null

/-! ## Text -/

/-- The text of a character within single quotes. -/
def quotedChar (c : Char) : List Char := if c = '\'' ∨ c = '\\' then ['\\', c] else [c]

/-- The text within single quotes. A final `%s` would make the literal a placeholder, so its `s` is
escaped. -/
def quotedBody : List Char → List Char
  | [] => []
  | ['%', 's'] => ['%', '\\', 's']
  | c :: cs => quotedChar c ++ quotedBody cs

def quotedText (s : List Char) : List Char := '\'' :: quotedBody s ++ ['\'']

/-- The text of a number, which has a point whenever the number is finite. -/
def realText (x : Binary64) : List Char :=
  if x.isFinite && x.isWhole then x.wholeText else x.text

def render : Literal → String
  | integer n => String.ofList (integerText n)
  | real x => String.ofList (realText x)
  | text s => String.ofList (quotedText s.toList)
  | placeholder spelling => spelling
  | null => "NULL"

/-! ## Equality -/

def eqv : Literal → Literal → Bool
  | integer m, integer n => m == n
  | real x, real y => x == y
  | text s, text t => s == t
  | placeholder s, placeholder t => s == t
  | null, null => true
  | _, _ => false

instance : BEq Literal := ⟨eqv⟩

end Literal

end SqlDml
