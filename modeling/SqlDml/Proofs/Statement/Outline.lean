import SqlDml.Proofs.Spelling.Clause
import SqlDml.Proofs.Statement.Nesting

/-!
# Texts whose parentheses match

* `ownMarks` : the marks of a text, without its end;
* `Outlined` : a text is read as by itself wherever it stands, its parentheses match and, if it is
  bare, no OR stands outside them;
* `Hangs` : the same for a text that can stand behind a word;
* `Outlined.append`, `Outlined.behind`, `Outlined.parenthesized`, `Outlined.intercalate` : so does
  what is put together from such texts.

Parentheses hide what stands between them: a text in parentheses is outlined as bare whatever the
text itself is. Nothing here asks that the marks be valid.
-/

namespace SqlDml

variable {a b lead sep : String} {ms ns : List Mark} {bare other : Prop} {α : Type}
  {f : α → String} {g : α → List Mark}

/-! ## Marks that are neither parentheses nor OR -/

namespace Mark

def isFlat (m : Mark) : Bool := !m.isParen && m ≠ keyword "or"

theorem mem_of_mem_outer {m : Mark} {depth : Nat} (h : m ∈ outer depth ms) : m ∈ ms := by
  induction ms generalizing depth with
  | nil => cases h
  | cons n ms ih =>
    rw [outer] at h
    split at h
    · exact List.mem_cons_of_mem n (ih h)
    split at h
    · exact List.mem_cons_of_mem n (ih h)
    split at h
    · rcases List.mem_cons.1 h with rfl | h
      · exact List.mem_cons_self
      · exact List.mem_cons_of_mem n (ih h)
    · exact List.mem_cons_of_mem n (ih h)

theorem isFlat_iff {m : Mark} : m.isFlat ↔ m.isParen = false ∧ m ≠ keyword "or" := by
  simp [isFlat]

theorem balanced_of_flat (h : ms.all isFlat) : Balanced ms :=
  .of_forall fun m hm => (isFlat_iff.1 (List.all_eq_true.1 h m hm)).1

theorem or_notMem_of_flat (h : ms.all isFlat) : keyword "or" ∉ outer 0 ms := fun hm =>
  (isFlat_iff.1 (List.all_eq_true.1 h _ (mem_of_mem_outer hm))).2 rfl

theorem or_notMem_append (hb : Balanced ms) (hm : keyword "or" ∉ outer 0 ms)
    (hn : keyword "or" ∉ outer 0 ns) : keyword "or" ∉ outer 0 (ms ++ ns) := by
  rw [hb.outer_append]
  exact List.not_mem_append hm hn

theorem isFlat_keyword {word : String} (h : word ≠ "or") : (keyword word).isFlat := by
  refine isFlat_iff.2 ⟨isParen_keyword word, fun he => h ?_⟩
  exact Value.text.inj (Prod.mk.inj he).2

theorem isFlat_name {text : String} (h : text.toList.map Char.toLower ≠ ['o', 'r']) :
    (name text).isFlat := by
  rw [name]
  split
  · decide
  · rw [word]
    split
    · refine isFlat_keyword fun he => h ?_
      have hl := congrArg String.toList he
      rwa [String.toList_ofList] at hl
    · simp [isFlat, isParen, punctuation, keyword]

theorem isFlat_literal (l : Literal) : l.mark.isFlat := by
  refine isFlat_iff.2 ⟨isParen_literal l, ?_⟩
  cases l <;> simp [Literal.mark, keyword]

end Mark

open Mark

/-! ## Reading -/

/-- The marks of a text, but not its end. -/
def ownMarks (text : String) : List Mark := ((tokenize text).map Token.mark).dropLast

theorem Reads.ownMarks_eq (h : Reads a ms) : ownMarks a = ms := by
  rw [ownMarks, h.tokenize, List.dropLast_concat]

theorem Reads.parenthesized (h : Reads a ms) : Reads (parenthesized a) (Mark.parens ms) :=
  (closed_open.append_reads h).append lead_close.closed.spells.reads (stops_cons.2 rfl)

theorem Reads.intercalate {l : List α} (hs : Lead sep ms) (h : ∀ x ∈ l, Reads (f x) (g x)) :
    Reads (sep.intercalate (l.map f)) (ms.intercalate (l.map g)) := by
  induction l with
  | nil => exact closed_empty.spells.reads
  | cons x l ih =>
    have hx := h x List.mem_cons_self
    cases l with
    | nil => simpa using hx
    | cons y l =>
      have hi := ih fun z hz => h z (List.mem_cons_of_mem x hz)
      have hrest := hs.closed.append_reads hi
      simp only [List.map_cons, String.intercalate_cons_cons, List.intercalate_cons_cons,
        String.append_assoc, List.append_assoc] at hrest ⊢
      exact hx.append hrest (hs.stops_append _)

/-! ## Outlines -/

structure Outlined (bare : Prop) (text : String) : Prop where
  reads : Reads text (ownMarks text)
  balanced : Balanced (ownMarks text)
  outer : bare → keyword "or" ∉ Mark.outer 0 (ownMarks text)

/-- A text with something before it that ends the lexeme there. -/
structure Hangs (bare : Prop) (text : String) : Prop where
  outlined : Outlined bare text
  stops : Stops text.toList

theorem Outlined.of_reads (h : Reads a ms) (hb : Balanced ms)
    (ho : bare → keyword "or" ∉ Mark.outer 0 ms) : Outlined bare a := by
  obtain rfl := h.ownMarks_eq
  exact ⟨h, hb, ho⟩

theorem Outlined.of_flat (h : Spells a ms) (hf : ms.all isFlat) : Outlined bare a :=
  .of_reads h.reads (balanced_of_flat hf) fun _ => or_notMem_of_flat hf

theorem Outlined.of_balanced (h : Reads a ms) (hb : Balanced ms) : Outlined False a :=
  .of_reads h hb False.elim

theorem Trails.hangs (h : Trails a ms) (hb : Balanced ms) : Hangs False a :=
  ⟨.of_balanced h.spells.reads hb, h.stops⟩

theorem Outlined.mono (h : Outlined bare a) (hb : other → bare) : Outlined other a :=
  ⟨h.reads, h.balanced, fun ho => h.outer (hb ho)⟩

theorem outlined_empty : Outlined bare "" := .of_flat closed_empty.spells rfl

theorem hangs_empty : Hangs bare "" := ⟨outlined_empty, stops_nil⟩

/-! ## One text behind another -/

theorem Outlined.append (ha : Outlined bare a) (hb : Outlined bare b) (hs : Stops b.toList) :
    Outlined bare (a ++ b) :=
  .of_reads (ha.reads.append hb.reads hs) (ha.balanced.append hb.balanced)
    fun h => or_notMem_append ha.balanced (ha.outer h) (hb.outer h)

theorem Outlined.append_hangs (ha : Outlined bare a) (hb : Hangs bare b) :
    Outlined bare (a ++ b) := ha.append hb.outlined hb.stops

theorem Hangs.append (ha : Hangs bare a) (hb : Hangs bare b) : Hangs bare (a ++ b) where
  outlined := ha.outlined.append_hangs hb
  stops := by
    rw [String.toList_append]
    exact ha.stops.append hb.stops

/-- A text behind words that keep to themselves. -/
theorem Outlined.behind (h : Outlined bare a) (hl : Closed lead ms) (hf : ms.all isFlat) :
    Outlined bare (lead ++ a) := by
  have hb := balanced_of_flat hf
  exact .of_reads (hl.append_reads h.reads) (hb.append h.balanced)
    fun hbare => or_notMem_append hb (or_notMem_of_flat hf) (h.outer hbare)

theorem Outlined.hangs (h : Outlined bare a) (hl : Lead lead ms) (hf : ms.all isFlat) :
    Hangs bare (lead ++ a) := ⟨h.behind hl.closed hf, hl.stops_append a⟩

theorem Outlined.parenthesized (h : Outlined bare a) : Outlined other (parenthesized a) := by
  refine .of_reads h.reads.parenthesized (.parens h.balanced) fun _ => ?_
  rw [h.balanced.outer_parens]
  exact List.not_mem_nil

theorem stops_parenthesized (text : String) : Stops (parenthesized text).toList := by
  rw [SqlDml.parenthesized, String.toList_append, String.toList_append]
  exact stops_cons.2 rfl

/-! ## Lists and parts that may be absent -/

theorem Outlined.intercalate {texts : List String} (hs : Lead sep ms) (hf : ms.all isFlat)
    (h : ∀ text ∈ texts, Outlined bare text) : Outlined bare (sep.intercalate texts) := by
  induction texts with
  | nil => exact outlined_empty
  | cons text texts ih =>
    have ht := h text List.mem_cons_self
    cases texts with
    | nil => simpa using ht
    | cons next texts =>
      have hi := ih fun x hx => h x (List.mem_cons_of_mem text hx)
      rw [String.intercalate_cons_cons, String.append_assoc]
      exact ht.append_hangs (hi.hangs hs hf)

theorem outlined_commas {l : List α} (h : ∀ x ∈ l, Outlined bare (f x)) :
    Outlined bare (commaList (l.map f)) := by
  refine .intercalate lead_comma (by decide) fun text ht => ?_
  obtain ⟨x, hx, rfl⟩ := List.mem_map.1 ht
  exact h x hx

theorem hangs_clause {o : Option α} (hl : Lead lead ms) (hf : ms.all isFlat)
    (h : ∀ x ∈ o, Outlined bare (f x)) : Hangs bare (clause lead (o.map f)) := by
  cases o with
  | none => exact hangs_empty
  | some x => exact (h x rfl).hangs hl hf

end SqlDml
