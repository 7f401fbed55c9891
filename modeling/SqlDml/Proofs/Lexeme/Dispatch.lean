import SqlDml.Layout
import SqlDml.Lexeme.Read

/-!
# Which rule reads a lexeme

* `ne_of_pred`, `bare_of_pred` : what a character is not, from one of its properties;
* `read_of_startsWord`, `read_of_leadsNumber`, `read_of_isComparison` : the rule for a text that
  begins with such a character;
* `Lexeme.read_cases` : what holds of the lexeme of each rule holds of every lexeme.
-/

namespace SqlDml

/-! ## Runs of a class -/

theorem takeWhile_append_of_head {α : Type} {p : α → Bool} {cs rest : List α} (hc : cs.all p)
    (hr : ∀ c ∈ rest.head?, p c = false) :
    (cs ++ rest).takeWhile p = cs ∧ (cs ++ rest).dropWhile p = rest := by
  have hall : ∀ c ∈ cs, p c = true := by simpa using hc
  rw [List.takeWhile_append_of_pos hall, List.dropWhile_append_of_pos hall]
  cases rest with
  | nil => simp
  | cons c rest =>
    have hn := hr c rfl
    simp [hn]

theorem takeWhile_of_all {α : Type} {p : α → Bool} {cs : List α} (hc : cs.all p) :
    cs.takeWhile p = cs ∧ cs.dropWhile p = [] := by
  have h := @takeWhile_append_of_head _ p cs [] hc nofun
  rwa [List.append_nil] at h

theorem head?_dropWhile {p : Char → Bool} (cs : List Char) :
    ∀ c ∈ (cs.dropWhile p).head?, p c = false := by
  intro c hc
  have hn := List.head?_dropWhile_not p cs
  rw [Option.mem_def.1 hc] at hn
  simpa using hn

theorem takeWhile_eq_nil_iff {p : Char → Bool} {cs : List Char} :
    cs.takeWhile p = [] ↔ cs.head?.any p = false := by
  cases cs with
  | nil => simp
  | cons c cs =>
    rw [List.takeWhile_cons]
    cases hc : p c <;> simp [hc]

/-! ## Characters -/

/-- A character with a property that `d` lacks is not `d`. -/
theorem ne_of_pred {p : Char → Bool} {c d : Char} (hc : p c) (hd : p d = false) : c ≠ d := by
  rintro rfl
  rw [hc] at hd
  cases hd

theorem bare_of_ne {c : Char} (hs : c ≠ ' ') (ht : c ≠ '\t') (hr : c ≠ '\r') (hn : c ≠ '\n')
    (hh : c ≠ '#') (hm : c ≠ '-') (cs : List Char) :
    Layout.isBlank c = false ∧ Layout.opensComment c cs = false := by
  simp [Layout.isBlank, Layout.opensComment, hs, ht, hr, hn, hh, hm]

/-- A character with a property that no character of layout has begins no layout. -/
theorem bare_of_pred {p : Char → Bool} {c : Char} (hc : p c)
    (hp : [' ', '\t', '\r', '\n', '#', '-'].any p = false) (cs : List Char) :
    Layout.isBlank c = false ∧ Layout.opensComment c cs = false := by
  simp only [List.any_cons, List.any_nil, Bool.or_false, Bool.or_eq_false_iff] at hp
  obtain ⟨hs, ht, hr, hn, hh, hm⟩ := hp
  exact bare_of_ne (ne_of_pred hc hs) (ne_of_pred hc ht) (ne_of_pred hc hr) (ne_of_pred hc hn)
    (ne_of_pred hc hh) (ne_of_pred hc hm) cs

theorem isAlpha_of_isDigit {c : Char} (h : c.isDigit) : c.isAlpha = false := by
  have hd := of_decide_eq_true (Bool.and_eq_true_iff.1 h).2
  refine Bool.eq_false_iff.2 fun ha => ?_
  have hle : c.toNat ≤ 57 := hd
  rcases Bool.or_eq_true_iff.1 ha with hu | hl
  · have hge : 65 ≤ c.toNat := (of_decide_eq_true hu).1
    omega
  · have hge : 97 ≤ c.toNat := of_decide_eq_true (Bool.and_eq_true_iff.1 hl).1
    omega

theorem toNat_lt_of_isAlpha {c : Char} (h : c.isAlpha) : c.toNat < 128 := by
  have hz : c.toNat ≤ 90 ∨ c.toNat ≤ 122 := by
    rcases Bool.or_eq_true_iff.1 h with hu | hl
    · exact .inl ((of_decide_eq_true hu).2)
    · exact .inr (of_decide_eq_true (Bool.and_eq_true_iff.1 hl).2)
  omega

/-! ## Rules -/

theorem read_of_startsWord {c : Char} (h : Lexeme.startsWord c) (cs : List Char) :
    Lexeme.read c cs = Lexeme.word c cs := by
  have h1 : c ≠ '\\' := ne_of_pred h (by decide)
  have h2 : c ≠ '\'' := ne_of_pred h (by decide)
  have h3 : c ≠ '"' := ne_of_pred h (by decide)
  have h4 : c ≠ '_' := ne_of_pred h (by decide)
  simp [Lexeme.read, h1, h2, h3, h4, h]

/-- The characters that a numeral without a leading point begins with. -/
def leadsNumber (c : Char) : Bool := c == '-' || c.isDigit

theorem read_of_leadsNumber {c : Char} {cs : List Char} (h : leadsNumber c)
    (hs : Numeral.starts (c :: cs)) : Lexeme.read c cs = Lexeme.number (c :: cs) := by
  have h1 : c ≠ '\\' := ne_of_pred h (by decide)
  have h2 : c ≠ '\'' := ne_of_pred h (by decide)
  have h3 : c ≠ '"' := ne_of_pred h (by decide)
  have h4 : c ≠ '_' := ne_of_pred h (by decide)
  have h5 : Lexeme.startsWord c = false := by
    have hb : c ≠ '\x7b' := ne_of_pred h (by decide)
    have ht : c ≠ '\x60' := ne_of_pred h (by decide)
    have ha : c.isAlpha = false := by
      simp only [leadsNumber, Bool.or_eq_true, beq_iff_eq] at h
      rcases h with rfl | hd
      · decide
      · exact isAlpha_of_isDigit hd
    simp [Lexeme.startsWord, ha, hb, ht]
  simp [Lexeme.read, h1, h2, h3, h4, h5, hs]

theorem read_of_isComparison {c : Char} (h : Lexeme.isComparison c) (cs : List Char) :
    Lexeme.read c cs = Lexeme.comparison c cs := by
  simp only [Lexeme.isComparison, Bool.or_eq_true, beq_iff_eq] at h
  rcases h with ((rfl | rfl) | rfl) | rfl <;> rfl

/-- To prove something of a lexeme, prove it of what each rule reads where its turn comes. -/
theorem Lexeme.read_cases {motive : Lexeme → Prop} {c : Char} {cs : List Char}
    (escape : c = '\\' → motive (escape cs))
    (quoted : c = '\'' ∨ c = '"' → motive (quoted c cs))
    (systemVariable : c = '_' → motive (run .systemVariable isNameChar c cs))
    (word : startsWord c → motive (word c cs))
    (number : Numeral.starts (c :: cs) → motive (number (c :: cs)))
    (dots : c = '.' → motive (dots cs))
    (percent : c = '%' → motive (percent cs))
    (comparison : isComparison c → motive (comparison c cs))
    (single : c ≠ '_' → ¬startsWord c → ¬Numeral.starts (c :: cs) → ¬isComparison c →
      motive (single c cs)) : motive (read c cs) := by
  unfold read
  split
  · exact escape ‹_›
  split
  · exact quoted ‹_›
  split
  · exact systemVariable ‹_›
  split
  · exact word ‹_›
  split
  · exact number ‹_›
  split
  · exact dots ‹_›
  split
  · exact percent ‹_›
  split
  · exact comparison ‹_›
  · exact single ‹_› ‹_› ‹_› ‹_›

/-- The kinds of numbers, of texts and of what is broken. -/
def Kind.isLiteral : Kind → Bool
  | .integer | .real | .text | .invalid _ => true
  | _ => false

/-- Lexemes of these kinds are read by two of the rules only. -/
theorem Lexeme.quoted_or_number {c : Char} {cs : List Char} (h : (read c cs).kind.isLiteral) :
    ((c = '\'' ∨ c = '"') ∧ read c cs = quoted c cs) ∨
      (Numeral.starts (c :: cs) ∧ read c cs = number (c :: cs)) := by
  revert h
  have hsingle (c : Char) (cs : List Char) : ¬(single c cs).kind.isLiteral := by
    unfold single
    dsimp only
    split <;> exact Bool.false_ne_true
  refine read_cases (motive := fun lexeme => lexeme.kind.isLiteral →
    ((c = '\'' ∨ c = '"') ∧ lexeme = quoted c cs) ∨
      (Numeral.starts (c :: cs) ∧ lexeme = number (c :: cs))) ?_ ?_ ?_ ?_ ?_ ?_ ?_ ?_ ?_
  · intro _ h
    unfold escape at h
    split at h
    · split at h
      · cases h
      · exact absurd h (hsingle _ _)
    · exact absurd h (hsingle _ _)
  · exact fun hq _ => .inl ⟨hq, rfl⟩
  · exact fun _ h => absurd h Bool.false_ne_true
  · intro _ h
    unfold word at h
    dsimp only at h
    split at h <;> cases h
  · exact fun hs _ => .inr ⟨hs, rfl⟩
  · intro _ h
    unfold dots at h
    split at h
    · cases h
    · exact absurd h (hsingle _ _)
  · intro _ h
    unfold percent at h
    split at h
    · cases h
    · split at h
      · cases h
      · exact absurd h (hsingle _ _)
  · intro _ h
    unfold comparison at h
    dsimp only at h
    split at h
    · cases h
    · exact absurd h (hsingle _ _)
  · exact fun _ _ _ _ h => absurd h (hsingle _ _)

/-- A lexeme covers the character that it begins with. -/
theorem Lexeme.text_read_eq_cons (c : Char) (cs : List Char) :
    (read c cs).text = c :: (read c cs).text.tail := by
  have h := text_append_rest c cs
  obtain ⟨d, text, ht⟩ := List.exists_cons_of_ne_nil (text_read_ne_nil c cs)
  rw [ht, List.cons_append, List.cons.injEq] at h
  rw [ht, h.1]
  rfl

end SqlDml
