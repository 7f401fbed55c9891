import SqlDml.Text.CaseTable

/-!
# Upper and lower case of whole texts

* `upper` : the full upper case, under which one character may become several;
* `lower` : the full lower case, under which a sigma that ends a word takes its final form.

Both agree with the ASCII maps of `Char` on ASCII text and leave caseless characters alone.
-/

namespace SqlDml.Text

open CaseTable

/-- The counterpart of `c` in the first run that covers it. -/
def counterpart? (runs : List CaseRun) (c : Char) : Option Char :=
  (runs.find? fun run => run.covers c.toNat).map fun run =>
    Char.ofNat ((c.toNat : Int) + run.shift).toNat

/-! ## Upper case -/

/-- The upper case of one character: itself, one other character, or two or three. -/
def upperChar (c : Char) : List Char :=
  if c.toNat < 128 then [c.toUpper]
  else match upperExpansions.lookup c.toNat with
    | some codes => codes.map Char.ofNat
    | none => [(counterpart? upperRuns c).getD c]

def upper (text : String) : String :=
  String.ofList (text.toList.flatMap upperChar)

/-! ## Lower case -/

def inRanges (ranges : List (Nat × Nat)) (c : Char) : Bool :=
  ranges.any fun range => range.1 ≤ c.toNat && c.toNat ≤ range.2

/-- Whether a letter with case comes first in `text`, case-ignorable characters looked through. -/
def facesCased (text : List Char) : Bool :=
  match text.dropWhile (inRanges caseIgnorable) with
  | [] => false
  | c :: _ => inRanges cased c

/-- The lower case of `c` between `before`, nearest character first, and `after`. A sigma is final
when a letter precedes it and none follows. -/
def lowerChar (before : List Char) (c : Char) (after : List Char) : List Char :=
  if c.toNat < 128 then [c.toLower]
  else if c = 'Σ' then [if facesCased before && !facesCased after then 'ς' else 'σ']
  else if c = 'İ' then ['i', Char.ofNat 0x307]
  else [(counterpart? lowerRuns c).getD c]

/-- The lower case of the characters that follow `before`, nearest character first. -/
def lowerAfter (before : List Char) : List Char → List Char
  | [] => []
  | c :: after => lowerChar before c after ++ lowerAfter (c :: before) after

def lower (text : String) : String :=
  String.ofList (lowerAfter [] text.toList)

end SqlDml.Text
