import SqlDml.Layout

/-!
# What layout is

* `Layout.Laid` : layout as a grammar: blanks, and comments through the end of their line;
* `Layout.laid_split` : what `Layout.split` takes is layout, with an unfinished comment only where
  the text ends;
* `Layout.not_layout_of_split` : what it leaves begins with no layout;
* `Layout.split_append_of_laid` : layout in front of a text is taken with the text's own.

A carriage return and a line feed after it are one line break, so the grammar lets a comment end
between the two nowhere.
-/

namespace SqlDml.Layout

/-- What a comment begins with. -/
def openers : List (List Char) := [['#'], ['-', '-']]

/-- What ends a line. -/
def breaks : List (List Char) := [['\n'], ['\r'], ['\r', '\n']]

theorem mem_openers {opener : List Char} :
    opener ∈ openers ↔ opener = ['#'] ∨ opener = ['-', '-'] := by
  simp [openers]

theorem mem_breaks {lineBreak : List Char} :
    lineBreak ∈ breaks ↔ lineBreak = ['\n'] ∨ lineBreak = ['\r'] ∨ lineBreak = ['\r', '\n'] := by
  simp [breaks]

/-- `cs` is layout; `atEnd` says whether the text ends behind it, as it must behind an unfinished
comment. -/
inductive Laid (atEnd : Bool) : List Char → Prop where
  | nil : Laid atEnd []
  | blank {c : Char} {cs : List Char} : isBlank c → Laid atEnd cs → Laid atEnd (c :: cs)
  | comment {opener body lineBreak cs : List Char} :
    opener ∈ openers → (∀ c ∈ body, isBreak c = false) → lineBreak ∈ breaks →
    (lineBreak = ['\r'] → cs.head? ≠ some '\n') → Laid atEnd cs →
    Laid atEnd (opener ++ body ++ lineBreak ++ cs)
  | unfinished {opener body : List Char} :
    opener ∈ openers → (∀ c ∈ body, isBreak c = false) → atEnd = true →
    Laid atEnd (opener ++ body)

/-- What may follow the opener of a comment. -/
inductive CommentTail (atEnd : Bool) : List Char → Prop where
  | closed {body lineBreak cs : List Char} :
    (∀ c ∈ body, isBreak c = false) → lineBreak ∈ breaks →
    (lineBreak = ['\r'] → cs.head? ≠ some '\n') → Laid atEnd cs →
    CommentTail atEnd (body ++ lineBreak ++ cs)
  | unfinished {body : List Char} :
    (∀ c ∈ body, isBreak c = false) → atEnd = true → CommentTail atEnd body

namespace CommentTail

variable {atEnd : Bool} {cs : List Char}

theorem cons {c : Char} (hc : isBreak c = false) (h : CommentTail atEnd cs) :
    CommentTail atEnd (c :: cs) := by
  cases h with
  | @closed body lineBreak cs hb hl hr hcs =>
    exact @closed _ (c :: body) _ _ (List.forall_mem_cons.2 ⟨hc, hb⟩) hl hr hcs
  | unfinished hb he => exact .unfinished (List.forall_mem_cons.2 ⟨hc, hb⟩) he

theorem of_cons {c : Char} (hc : isBreak c = false) (h : CommentTail atEnd (c :: cs)) :
    CommentTail atEnd cs := by
  generalize ht : c :: cs = text at h
  cases h with
  | @closed body lineBreak more hb hl hr hcs =>
    cases body with
    | nil =>
      rcases mem_breaks.1 hl with rfl | rfl | rfl <;> cases ht <;> cases hc
    | cons d body =>
      cases ht
      exact .closed (List.forall_mem_cons.1 hb).2 hl hr hcs
  | unfinished hb he =>
    cases ht
    exact .unfinished (List.forall_mem_cons.1 hb).2 he

theorem laid {opener : List Char} (ho : opener ∈ openers) (h : CommentTail atEnd cs) :
    Laid atEnd (opener ++ cs) := by
  cases h with
  | closed hb hl hr hcs =>
    rw [← List.append_assoc, ← List.append_assoc]
    exact .comment ho hb hl hr hcs
  | unfinished hb he => exact .unfinished ho hb he

end CommentTail

/-- A line feed in front of layout is a blank: no comment begins with it. -/
theorem Laid.of_cons_lineFeed {atEnd : Bool} {cs : List Char} (h : Laid atEnd ('\n' :: cs)) :
    Laid atEnd cs := by
  generalize ht : '\n' :: cs = text at h
  cases h with
  | nil => cases ht
  | blank _ hcs =>
    cases ht
    exact hcs
  | comment ho _ _ _ _ => rcases mem_openers.1 ho with rfl | rfl <;> simp at ht
  | unfinished ho _ _ => rcases mem_openers.1 ho with rfl | rfl <;> simp at ht

/-! ## Splitting -/

theorem splitFrom_true_cons (c : Char) (cs : List Char) :
    splitFrom true (c :: cs) =
      (c :: (splitFrom (!isBreak c) cs).1, (splitFrom (!isBreak c) cs).2) := by
  simp [splitFrom]

theorem splitFrom_false_comment {c : Char} {cs : List Char} (h : opensComment c cs) :
    splitFrom false (c :: cs) = (c :: (splitFrom true cs).1, (splitFrom true cs).2) := by
  have hb : isBreak c = false := by
    simp only [opensComment, Bool.or_eq_true, Bool.and_eq_true, beq_iff_eq] at h
    rcases h with rfl | ⟨rfl, -⟩ <;> rfl
  simp [splitFrom, h, hb]

theorem splitFrom_false_blank {c : Char} {cs : List Char} (hc : opensComment c cs = false)
    (hb : isBlank c) :
    splitFrom false (c :: cs) = (c :: (splitFrom false cs).1, (splitFrom false cs).2) := by
  simp [splitFrom, hc, hb]

theorem splitFrom_false_other {c : Char} {cs : List Char} (hc : opensComment c cs = false)
    (hb : isBlank c = false) : splitFrom false (c :: cs) = ([], c :: cs) := by
  simp [splitFrom, hc, hb]

/-- The induction is on the text, for both sides of an opener at once: behind one the layout taken
is the tail of a comment. -/
theorem laid_splitFrom (cs : List Char) :
    Laid (splitFrom false cs).2.isEmpty (splitFrom false cs).1 ∧
      CommentTail (splitFrom true cs).2.isEmpty (splitFrom true cs).1 := by
  induction cs with
  | nil => exact ⟨.nil, .unfinished (by simp [splitFrom]) rfl⟩
  | cons c cs ih =>
    obtain ⟨hlaid, htail⟩ := ih
    constructor
    · by_cases ho : opensComment c cs
      · rw [splitFrom_false_comment ho]
        simp only [opensComment, Bool.or_eq_true, Bool.and_eq_true, beq_iff_eq] at ho
        rcases ho with rfl | ⟨rfl, hm⟩
        · exact htail.laid (mem_openers.2 (.inl rfl))
        · obtain ⟨cs, rfl⟩ := List.head?_eq_some_iff.1 hm
          rw [splitFrom_true_cons] at htail ⊢
          exact (htail.of_cons rfl).laid (mem_openers.2 (.inr rfl))
      · rw [Bool.not_eq_true] at ho
        by_cases hb : isBlank c
        · rw [splitFrom_false_blank ho hb]
          exact .blank hb hlaid
        · rw [Bool.not_eq_true] at hb
          rw [splitFrom_false_other ho hb]
          exact .nil
    · rw [splitFrom_true_cons]
      by_cases hb : isBreak c
      · rw [hb, Bool.not_true]
        simp only [isBreak, Bool.or_eq_true, beq_iff_eq] at hb
        rcases hb with rfl | rfl
        · exact @CommentTail.closed _ [] _ _ (by simp) (mem_breaks.2 (.inl rfl)) (by simp) hlaid
        · by_cases hn : (splitFrom false cs).1.head? = some '\n'
          · obtain ⟨more, hm⟩ := List.head?_eq_some_iff.1 hn
            rw [hm] at hlaid ⊢
            exact @CommentTail.closed _ [] _ _ (by simp) (mem_breaks.2 (.inr (.inr rfl))) (by simp)
              hlaid.of_cons_lineFeed
          · exact @CommentTail.closed _ [] _ _ (by simp) (mem_breaks.2 (.inr (.inl rfl)))
              (fun _ => hn) hlaid
      · rw [Bool.not_eq_true] at hb
        rw [hb, Bool.not_false]
        exact htail.cons hb

theorem laid_split (cs : List Char) : Laid (split cs).2.isEmpty (split cs).1 :=
  (laid_splitFrom cs).1

/-- What splitting leaves begins with no layout. -/
theorem not_layout_of_splitFrom {inComment : Bool} {cs rest : List Char} {c : Char}
    (h : (splitFrom inComment cs).2 = c :: rest) :
    isBlank c = false ∧ opensComment c rest = false := by
  induction cs generalizing inComment with
  | nil => cases h
  | cons d cs ih =>
    rw [splitFrom] at h
    split at h
    · exact ih h
    · rename_i hn
      cases h
      simp only [Bool.or_eq_true, not_or, Bool.not_eq_true] at hn
      exact ⟨hn.2, hn.1.2⟩

theorem not_layout_of_split {cs skipped rest : List Char} {c : Char}
    (h : split cs = (skipped, c :: rest)) : isBlank c = false ∧ opensComment c rest = false :=
  not_layout_of_splitFrom (congrArg Prod.snd h)

/-! ## Layout in front of a text -/

theorem splitFrom_true_body {body : List Char} (hb : ∀ c ∈ body, isBreak c = false)
    (text : List Char) :
    splitFrom true (body ++ text) =
      (body ++ (splitFrom true text).1, (splitFrom true text).2) := by
  induction body with
  | nil => rfl
  | cons c body ih =>
    have hc := hb c List.mem_cons_self
    rw [List.cons_append, splitFrom_true_cons, hc, Bool.not_false,
      ih fun d hd => hb d (List.mem_cons_of_mem c hd)]
    rfl

theorem splitFrom_false_opener {opener : List Char} (ho : opener ∈ openers) (text : List Char) :
    splitFrom false (opener ++ text) =
      (opener ++ (splitFrom true text).1, (splitFrom true text).2) := by
  rcases mem_openers.1 ho with rfl | rfl
  · exact splitFrom_false_comment rfl
  · show splitFrom false ('-' :: '-' :: text) = _
    rw [splitFrom_false_comment rfl, splitFrom_true_cons]
    rfl

theorem splitFrom_true_lineBreak {lineBreak : List Char} (hl : lineBreak ∈ breaks)
    (text : List Char) :
    splitFrom true (lineBreak ++ text) =
      (lineBreak ++ (splitFrom false text).1, (splitFrom false text).2) := by
  rcases mem_breaks.1 hl with rfl | rfl | rfl
  · exact splitFrom_true_cons '\n' text
  · exact splitFrom_true_cons '\r' text
  · show splitFrom true ('\r' :: '\n' :: text) = _
    rw [splitFrom_true_cons]
    show ('\r' :: (splitFrom false ('\n' :: text)).1, (splitFrom false ('\n' :: text)).2) = _
    rw [splitFrom_false_blank rfl rfl]
    rfl

/-- Layout in front of a text joins the layout that the text begins with. -/
theorem split_append_of_laid {atEnd : Bool} {layout : List Char} (h : Laid atEnd layout)
    {text : List Char} (ht : atEnd = true → text = []) :
    split (layout ++ text) = (layout ++ (split text).1, (split text).2) := by
  induction h with
  | nil => rfl
  | @blank c cs hc _ ih =>
    have ho : opensComment c (cs ++ text) = false := by
      simp only [isBlank, Bool.or_eq_true, beq_iff_eq] at hc
      rcases hc with ((rfl | rfl) | rfl) | rfl <;> rfl
    have hsplit := splitFrom_false_blank ho hc
    rw [show splitFrom false (cs ++ text) = _ from ih] at hsplit
    exact hsplit
  | @comment opener body lineBreak cs ho hb hl _ _ ih =>
    rw [List.append_assoc, List.append_assoc, List.append_assoc, split,
      splitFrom_false_opener ho, splitFrom_true_body hb, splitFrom_true_lineBreak hl,
      show splitFrom false (cs ++ text) = _ from ih]
    simp only [List.append_assoc]
  | unfinished ho hb he =>
    obtain rfl := ht he
    rw [List.append_assoc, split, splitFrom_false_opener ho, splitFrom_true_body hb]
    simp [split, splitFrom]

/-- Layout alone is taken whole. -/
theorem split_of_laid {atEnd : Bool} {layout : List Char} (h : Laid atEnd layout) :
    split layout = (layout, []) := by
  have hs := @split_append_of_laid _ _ h [] fun _ => rfl
  rw [List.append_nil] at hs
  rw [hs]
  simp [split, splitFrom]

/-- Layout is taken up to a character that begins none. -/
theorem split_laid_append {layout cs : List Char} {c : Char} (h : Laid false layout)
    (hb : isBlank c = false) (ho : opensComment c cs = false) :
    split (layout ++ c :: cs) = (layout, c :: cs) := by
  have hs : split (c :: cs) = ([], c :: cs) := splitFrom_false_other ho hb
  rw [split_append_of_laid h nofun, hs, List.append_nil]

/-- Any break may end a comment: before a line feed, a carriage return makes one break with it. -/
theorem Laid.comment_append {atEnd : Bool} {opener body lineBreak cs : List Char}
    (ho : opener ∈ openers) (hb : ∀ c ∈ body, isBreak c = false) (hl : lineBreak ∈ breaks)
    (h : Laid atEnd cs) : Laid atEnd (opener ++ body ++ lineBreak ++ cs) := by
  by_cases hr : lineBreak = ['\r'] ∧ cs.head? = some '\n'
  · obtain ⟨rfl, hn⟩ := hr
    obtain ⟨cs, rfl⟩ := List.head?_eq_some_iff.1 hn
    have hc := Laid.comment ho hb (mem_breaks.2 (.inr (.inr rfl))) (by simp) h.of_cons_lineFeed
    simpa using hc
  · exact .comment ho hb hl (fun hc hn => hr ⟨hc, hn⟩) h

/-- A line feed behind layout ends the comment that may be open there. -/
theorem Laid.append_lineFeed {atEnd : Bool} {cs : List Char} (h : Laid atEnd cs) :
    Laid false (cs ++ ['\n']) := by
  induction h with
  | nil => exact .blank rfl .nil
  | blank hc _ ih => exact .blank hc ih
  | comment ho hb hl _ _ ih =>
    rw [List.append_assoc]
    exact .comment_append ho hb hl ih
  | unfinished ho hb _ =>
    have hc : Laid false _ := .comment_append ho hb (mem_breaks.2 (.inl rfl)) .nil
    rwa [List.append_nil] at hc

end SqlDml.Layout
