import SqlDml.Token

/-!
# Numerals

* `Numeral` : the parts of a numeral: sign, digits, fraction, exponent;
* `Numeral.text`, `Numeral.value?` : its text, and the number that it stands for, if in range;
* `Numeral.read` : the longest numeral at the front of a text, with what spoils it, if anything;
* `Numeral.text_append_rest` : reading loses nothing.

A numeral is real exactly when it has a point, and only then may it have an exponent, whose sign is
never left out.
-/

namespace SqlDml

structure Numeral.Exponent where
  /-- `e` or `E`. -/
  marker : Char
  /-- `+` or `-`. -/
  sign : Char
  digits : List Char
  deriving Repr, DecidableEq, Inhabited

structure Numeral where
  negative : Bool
  /-- The digits before the point. -/
  whole : List Char
  /-- The digits after the point, if there is a point. -/
  fraction : Option (List Char) := none
  exponent : Option Numeral.Exponent := none
  deriving Repr, DecidableEq, Inhabited

namespace Numeral

/-! ## Text and value -/

def Exponent.text (e : Exponent) : List Char := e.marker :: e.sign :: e.digits

/-- The power of ten. -/
def Exponent.power (e : Exponent) : Int :=
  let size : Nat := Nat.ofDigitChars 10 e.digits 0
  if e.sign = '-' then -size else size

def fractionText : Option (List Char) → List Char
  | none => []
  | some digits => '.' :: digits

def exponentText : Option Exponent → List Char
  | none => []
  | some e => e.text

def text (n : Numeral) : List Char :=
  signText n.negative ++ n.whole ++ fractionText n.fraction ++ exponentText n.exponent

/-- The number that the numeral writes. -/
def decimal (n : Numeral) : Decimal :=
  let fraction := n.fraction.getD []
  { negative := n.negative
    digits := Nat.ofDigitChars 10 (n.whole ++ fraction) 0
    exponent := (n.exponent.map Exponent.power).getD 0 - fraction.length }

/-- The integer that the digits before the point write. -/
def integer (n : Numeral) : Int :=
  let size : Nat := Nat.ofDigitChars 10 n.whole 0
  if n.negative then -size else size

/-- The value of a numeral: without a point an integer of 64 bits, with a point the nearest
double-precision number. A value out of range is no value. -/
def value? (n : Numeral) : Option Value :=
  match n.fraction with
  | none =>
    if Int64.minValue.toInt ≤ n.integer ∧ n.integer ≤ Int64.maxValue.toInt then
      some (.integer (Int64.ofInt n.integer))
    else none
  | some _ =>
    let x := Binary64.ofDecimal n.decimal
    if x.isFinite then some (.real x) else none

/-! ## Reading -/

/-- Whether a numeral begins here: with a digit, or with a point and a digit. -/
def startsUnsigned : List Char → Bool
  | '.' :: d :: _ => d.isDigit
  | d :: _ => d.isDigit
  | [] => false

/-- Whether a numeral begins here, a minus allowed in front. -/
def starts : List Char → Bool
  | '-' :: cs => startsUnsigned cs
  | cs => startsUnsigned cs

/-- A minus in front, if there is one. -/
def readSign : List Char → Bool × List Char
  | '-' :: cs => (true, cs)
  | cs => (false, cs)

/-- A point and the digits after it. A point before another point is left alone, so that dots
after an integer can form an ellipsis. -/
def readFraction : List Char → Option (List Char) × List Char
  | '.' :: cs =>
    if cs.head? = some '.' then (none, '.' :: cs)
    else (some (cs.takeWhile Char.isDigit), cs.dropWhile Char.isDigit)
  | cs => (none, cs)

/-- An exponent: a marker, a sign and digits. A marker without them spoils the numeral and is
returned by itself. -/
def readExponent : List Char → Option Exponent × List Char × List Char
  | marker :: sign :: cs =>
    if marker = 'e' ∨ marker = 'E' then
      if (sign = '+' ∨ sign = '-') ∧ cs.head?.any Char.isDigit then
        (some ⟨marker, sign, cs.takeWhile Char.isDigit⟩, [], cs.dropWhile Char.isDigit)
      else (none, [marker], sign :: cs)
    else (none, [], marker :: sign :: cs)
  | [marker] => if marker = 'e' ∨ marker = 'E' then (none, [marker], []) else (none, [], [marker])
  | [] => (none, [], [])

/-- A numeral read from the front of a text. -/
structure Reading where
  numeral : Numeral
  /-- The marker of an exponent that lacks its sign or digits. -/
  stray : List Char
  rest : List Char
  deriving Repr, DecidableEq, Inhabited

def read (cs : List Char) : Reading :=
  let (negative, unsigned) := readSign cs
  let whole := unsigned.takeWhile Char.isDigit
  let (fraction, afterFraction) := readFraction (unsigned.dropWhile Char.isDigit)
  if fraction.isSome then
    let (exponent, stray, rest) := readExponent afterFraction
    ⟨{ negative, whole, fraction, exponent }, stray, rest⟩
  else ⟨{ negative, whole }, [], afterFraction⟩

/-! ## Nothing is lost -/

theorem readSign_append (cs : List Char) :
    signText (readSign cs).1 ++ (readSign cs).2 = cs := by
  unfold readSign
  split <;> rfl

theorem readFraction_append (cs : List Char) :
    fractionText (readFraction cs).1 ++ (readFraction cs).2 = cs := by
  unfold readFraction
  split
  · split <;> simp [fractionText]
  · rfl

theorem readExponent_append (cs : List Char) :
    exponentText (readExponent cs).1 ++ (readExponent cs).2.1 ++ (readExponent cs).2.2 = cs := by
  unfold readExponent
  split
  · split
    · split <;> simp [exponentText, Exponent.text]
    · rfl
  · split <;> rfl
  · rfl

theorem text_append_rest (cs : List Char) :
    (read cs).numeral.text ++ (read cs).stray ++ (read cs).rest = cs := by
  have hs := readSign_append cs
  have hd := List.takeWhile_append_dropWhile (p := Char.isDigit) (l := (readSign cs).2)
  have hf := readFraction_append ((readSign cs).2.dropWhile Char.isDigit)
  have he := readExponent_append (readFraction ((readSign cs).2.dropWhile Char.isDigit)).2
  simp only [read]
  split
  · simp only [text, List.append_assoc] at he ⊢
    rw [he, hf, hd, hs]
  · rename_i h
    simp only [text, exponentText, List.append_nil, List.append_assoc]
    rw [Option.not_isSome_iff_eq_none.1 h] at hf
    simp only [fractionText] at hf ⊢
    rw [hf, hd, hs]

/-! ## Progress -/

theorem text_read_ne_nil {cs : List Char} (h : starts cs) : (read cs).numeral.text ≠ [] := by
  have unsigned {us : List Char} (hu : startsUnsigned us) :
      us.takeWhile Char.isDigit ≠ [] ∨ (readFraction (us.dropWhile Char.isDigit)).1.isSome := by
    unfold startsUnsigned at hu
    split at hu
    · rename_i d _
      have hp : Char.isDigit '.' = false := by decide
      have hd : d ≠ '.' := by rintro rfl; simp [hp] at hu
      right
      simp [List.dropWhile_cons, hp, readFraction, hd]
    · left
      simp [hu]
    · simp at hu
  unfold starts at h
  split at h
  · simp only [read, readSign]
    split <;> simp [text, signText]
  · rename_i hm
    have hs : readSign cs = (false, cs) := by
      unfold readSign
      split
      · exact absurd rfl (hm _)
      · rfl
    simp only [read, hs]
    rcases unsigned h with hw | hf
    · split <;> simp [text, hw]
    · rw [if_pos hf]
      obtain ⟨digits, hd⟩ := Option.isSome_iff_exists.1 hf
      simp [text, hd, fractionText]

end Numeral

end SqlDml
