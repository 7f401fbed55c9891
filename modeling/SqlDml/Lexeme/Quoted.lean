/-!
# Quoted literals

* `Quoted.read` : the literal after its opening quote, read unit by unit: a backslash with the
  character it escapes, or one character;
* `Quoted.scan` : the same in jumps, all plain characters before the next quote, backslash or
  percent sign at once;
* `Quoted.scan_eq_read` : both find the same literal;
* `Quoted.text_append_rest` : reading loses nothing.

A `%s` right before the closing quote, neither character escaped, makes the literal a placeholder.
-/

namespace SqlDml

inductive Quoted.Ending where
  | closed
  /-- Closed right after an unescaped `%s`. -/
  | placeholder
  | missing
  deriving Repr, DecidableEq, Inhabited

/-- A quoted literal after its opening quote. -/
structure Quoted where
  ending : Quoted.Ending
  /-- The characters it stands for, escaping backslashes dropped. -/
  content : List Char
  /-- The characters it covers, the closing quote included. -/
  text : List Char
  rest : List Char
  deriving Repr, DecidableEq, Inhabited

namespace Quoted

/-- The literal with the unit `unit`, which stands for `c`, in front. -/
def push (literal : Quoted) (unit : List Char) (c : Char) : Quoted :=
  { literal with content := c :: literal.content, text := unit ++ literal.text }

/-- The literal with characters in front that stand for themselves. -/
def behind (literal : Quoted) (plain : List Char) : Quoted :=
  { literal with content := plain ++ literal.content, text := plain ++ literal.text }

/-! ## Reading -/

/-- Reads up to and with the first unescaped `quote`. -/
def read (quote : Char) : List Char → Quoted
  | [] => ⟨.missing, [], [], []⟩
  | ['\\'] => ⟨.missing, [], ['\\'], []⟩
  | '\\' :: c :: cs => (read quote cs).push ['\\', c] c
  | c :: cs =>
    if c = quote then ⟨.closed, [], [c], cs⟩
    else if c = '%' ∧ cs.take 2 = ['s', quote] then ⟨.placeholder, [], ['%', 's', quote], cs.drop 2⟩
    else (read quote cs).push [c] c

/-- Whether a jump may go over a character. -/
def isPlain (quote c : Char) : Bool := c != quote && c != '\\' && c != '%'

/-- Reads up to and with the first unescaped `quote`, in jumps. -/
def scan (quote : Char) (cs : List Char) : Quoted :=
  let literal : Quoted :=
    match _h : cs.dropWhile (isPlain quote) with
    | [] => ⟨.missing, [], [], []⟩
    | ['\\'] => ⟨.missing, [], ['\\'], []⟩
    | '\\' :: c :: rest => (scan quote rest).push ['\\', c] c
    | c :: rest =>
      if c = quote then ⟨.closed, [], [c], rest⟩
      else if rest.take 2 = ['s', quote] then
        ⟨.placeholder, [], ['%', 's', quote], rest.drop 2⟩
      else (scan quote rest).push [c] c
  literal.behind (cs.takeWhile (isPlain quote))
termination_by cs.length
decreasing_by
  all_goals
    have hl := (List.dropWhile_sublist (isPlain quote) (l := cs)).length_le
    rw [_h] at hl
    simp only [List.length_cons] at hl
    omega

/-! ## Both find the same literal -/

@[simp] theorem text_push (literal : Quoted) (unit : List Char) (c : Char) :
    (literal.push unit c).text = unit ++ literal.text := rfl

@[simp] theorem rest_push (literal : Quoted) (unit : List Char) (c : Char) :
    (literal.push unit c).rest = literal.rest := rfl

/-- Outside escapes a character ends the literal, or stands in it for itself. -/
theorem read_of_ne {quote c : Char} (hc : c ≠ '\\') (cs : List Char) :
    read quote (c :: cs) =
      if c = quote then ⟨.closed, [], [c], cs⟩
      else if c = '%' ∧ cs.take 2 = ['s', quote] then
        ⟨.placeholder, [], ['%', 's', quote], cs.drop 2⟩
      else (read quote cs).push [c] c :=
  read.eq_4 quote c cs (fun h _ => hc h) fun _ _ h _ => hc h

theorem read_behind {quote : Char} {plain : List Char} (h : plain.all (isPlain quote))
    (cs : List Char) : read quote (plain ++ cs) = (read quote cs).behind plain := by
  induction plain with
  | nil => rfl
  | cons c plain ih =>
    rw [List.all_cons, Bool.and_eq_true] at h
    obtain ⟨hc, hplain⟩ := h
    simp only [isPlain, Bool.and_eq_true, bne_iff_ne] at hc
    obtain ⟨⟨hq, hb⟩, hp⟩ := hc
    rw [List.cons_append, read_of_ne hb, if_neg hq, if_neg fun h => hp h.1, ih hplain]
    rfl

/-- A character that is neither a backslash by itself nor one that escapes another. -/
theorem ne_backslash {c : Char} {cs : List Char} (hlast : c = '\\' → cs = [] → False)
    (hescape : ∀ d ds, c = '\\' → cs = d :: ds → False) : c ≠ '\\' := by
  intro h
  cases cs with
  | nil => exact hlast h rfl
  | cons d ds => exact hescape d ds h rfl

theorem eq_percent_of_dropWhile {quote c : Char} {cs rest : List Char}
    (h : cs.dropWhile (isPlain quote) = c :: rest) (hq : c ≠ quote) (hb : c ≠ '\\') :
    c = '%' := by
  have hc := List.head?_dropWhile_not (isPlain quote) cs
  rw [h] at hc
  simpa [isPlain, hq, hb] using hc

/-- A jump goes over plain characters only, and where it stops both read the same. -/
theorem scan_eq_read (quote : Char) (cs : List Char) : scan quote cs = read quote cs := by
  fun_induction scan quote cs with
  | case1 cs literal escaped plain =>
    have hstop : literal = read quote (cs.dropWhile (isPlain quote)) := by
      unfold literal
      split
      · rename_i h
        rw [h]
        rfl
      · rename_i h
        rw [h]
        rfl
      · rename_i c rest h
        rw [escaped c rest h, h]
        rfl
      · rename_i c rest hlast hescape h
        have hb := ne_backslash hlast hescape
        rw [h, read_of_ne hb]
        by_cases hq : c = quote
        · rw [dif_pos hq, if_pos hq]
        have hp := eq_percent_of_dropWhile h hq hb
        rw [dif_neg hq, if_neg hq]
        by_cases hs : rest.take 2 = ['s', quote]
        · rw [dif_pos hs, if_pos ⟨hp, hs⟩]
        · rw [dif_neg hs, if_neg fun h => hs h.2, plain c rest h]
    rw [hstop, ← read_behind List.all_takeWhile, List.takeWhile_append_dropWhile]

/-! ## Nothing is lost -/

theorem text_append_rest (quote : Char) (cs : List Char) :
    (read quote cs).text ++ (read quote cs).rest = cs := by
  fun_induction read quote cs with
  | case1 => rfl
  | case2 => rfl
  | case3 c cs ih => simp [ih]
  | case4 => rfl
  | case5 c cs _ _ _ h =>
    have := List.take_append_drop 2 cs
    rw [h.2] at this
    simpa [h.1] using this
  | case6 c cs _ _ _ _ ih => simp [ih]

end Quoted

end SqlDml
