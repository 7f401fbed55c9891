import SqlDml.Proofs.Statement.Flatten

/-!
# Clauses, lists and parentheses

* `closed_words`, `lead_words` : keywords and the blank after them; `lead_from` and the like for
  those that open a clause;
* `spells_intercalate`, `spells_commas`, `closed_parens`, `trails_clause` : the ways in which a
  statement puts texts together.
-/

namespace SqlDml

variable {a b : String} {ms ns : List Mark} {α : Type} {f : α → String} {g : α → List Mark}

/-! ## Keywords -/

theorem closed_words (words : String) (h : isPhrase words ∧ Mark.phrase words = ms) :
    Closed (words ++ " ") ms := by
  have hc := closed_phrase h.1
  rwa [h.2] at hc

theorem lead_words (words : String) (h : isPhrase words ∧ Mark.phrase words = ms)
    (ho : words.toList.head?.any isStop) : Lead (words ++ " ") ms where
  closed := closed_words words h
  opens := by
    rw [String.toList_append]
    cases hcs : words.toList with
    | nil => rfl
    | cons c cs =>
      rw [hcs] at ho
      exact ho

theorem spells_words (words : String) (h : isPhrase words ∧ Mark.phrase words = ms) :
    Spells words ms := h.2 ▸ spells_phrase h.1

theorem lead_as : Lead " AS " [Mark.keyword "as"] := lead_words " AS" (by decide) rfl

theorem lead_from : Lead " FROM " [Mark.keyword "from"] := lead_words " FROM" (by decide) rfl

theorem lead_on : Lead " ON " [Mark.keyword "on"] := lead_words " ON" (by decide) rfl

theorem lead_using : Lead " USING " [Mark.keyword "using"] := lead_words " USING" (by decide) rfl

theorem lead_where : Lead " WHERE " [Mark.keyword "where"] := lead_words " WHERE" (by decide) rfl

theorem lead_having : Lead " HAVING " [Mark.keyword "having"] :=
  lead_words " HAVING" (by decide) rfl

theorem lead_and : Lead " AND " [Mark.keyword "and"] := lead_words " AND" (by decide) rfl

/-! ## Lists -/

theorem spells_intercalate {sep : String} {l : List α} (hs : Lead sep ms)
    (h : ∀ x ∈ l, Spells (f x) (g x)) :
    Spells (sep.intercalate (l.map f)) (ms.intercalate (l.map g)) := by
  induction l with
  | nil => exact closed_empty.spells
  | cons x l ih =>
    have hx := h x List.mem_cons_self
    cases l with
    | nil => simpa using hx
    | cons y l =>
      have hi := ih fun z hz => h z (List.mem_cons_of_mem x hz)
      simp only [List.map_cons, String.intercalate_cons_cons, List.intercalate_cons_cons] at hi ⊢
      exact (hx.append_lead hs).append hi

/-- Texts that spell some marks one by one. -/
inductive SpellsEach : List String → List Mark → Prop where
  | nil : SpellsEach [] []
  | cons {text : String} {texts : List String} {ms ns : List Mark} (head : Spells text ms)
      (tail : SpellsEach texts ns) : SpellsEach (text :: texts) (ms ++ ns)

theorem SpellsEach.single (h : Spells a ms) : SpellsEach [a] ms := by
  have hs := SpellsEach.cons h .nil
  rwa [List.append_nil] at hs

theorem SpellsEach.append {texts others : List String} (h : SpellsEach texts ms)
    (ho : SpellsEach others ns) : SpellsEach (texts ++ others) (ms ++ ns) := by
  induction h with
  | nil => exact ho
  | cons head tail ih =>
    rw [List.cons_append, List.append_assoc]
    exact .cons head ih

theorem SpellsEach.spells_blanks {texts : List String} (h : SpellsEach texts ms) :
    Spells (" ".intercalate texts) ms := by
  induction h with
  | nil => exact closed_empty.spells
  | cons head tail ih =>
    cases tail with
    | nil =>
      rw [String.intercalate_singleton, List.append_nil]
      exact head
    | cons next tail =>
      rw [String.intercalate_cons_cons]
      have hb := head.append_lead lead_blank
      rw [List.append_nil] at hb
      exact hb.append ih

theorem lead_comma : Lead ", " [Mark.punctuation ','] := by
  have hc : Closed "," [Mark.punctuation ','] := closed_sign (c := ',') rfl
  exact ⟨hc.append_closed lead_blank.closed, rfl⟩

theorem spells_commas {l : List α} (h : ∀ x ∈ l, Spells (f x) (g x)) :
    Spells (commaList (l.map f)) (Mark.commas (l.map g)) :=
  spells_intercalate lead_comma h

theorem spells_names {texts : List String} (h : NamesClean texts) :
    Spells (commaList texts) (Mark.names texts) := by
  have hn := spells_commas (f := id) fun text ht => spells_name (h text ht)
  rwa [List.map_id] at hn

/-! ## Parentheses -/

theorem closed_open : Closed "(" [Mark.punctuation '('] := closed_sign (c := '(') rfl

theorem lead_close : Lead ")" [Mark.punctuation ')'] := ⟨closed_sign (c := ')') rfl, rfl⟩

theorem closed_parens (h : Spells a ms) : Closed (parenthesized a) (Mark.parens ms) :=
  (closed_open.append h).append_lead lead_close

theorem lead_parens (h : Spells a ms) : Lead (parenthesized a) (Mark.parens ms) := by
  refine ⟨closed_parens h, ?_⟩
  rw [parenthesized, String.toList_append, String.toList_append]
  rfl

/-! ## Parts that may be absent -/

theorem trails_clause {lead : String} {o : Option α} (hl : Lead lead ms)
    (h : ∀ x ∈ o, Spells (f x) (g x)) :
    Trails (clause lead (o.map f)) (Mark.led ms (o.map g)) := by
  cases o with
  | none => exact trails_empty
  | some x => exact hl.append (h x rfl)

theorem trails_alias {lead : String} {alias? : Option String} (hl : Lead lead ms)
    (h : AliasClean alias?) :
    Trails (clause lead alias?) (Mark.led ms (alias?.map fun text => [Mark.name text])) := by
  have ht := trails_clause (f := id) hl fun text hm => spells_name (h text hm)
  rwa [Option.map_id] at ht

end SqlDml
