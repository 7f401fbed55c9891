import SqlDml.Proofs.Statement.Flatten

/-!
# The conditions of a statement

* `Statement.conditions` and a `conditions` for each part : the conditions that a part shows, at any
  depth: after WHERE, HAVING and ON, as operands, in arguments, and in queries within them;
* `Shows` : a text stands in another;
* `Statement.within_of_mem` : the text of each of its conditions stands in that of the statement,
  and the conditions of a clean statement are clean.
-/

namespace SqlDml

/-! ## Conditions at any depth -/

mutual

def Operand.conditions : Operand → List Condition
  | .field _ => []
  | .call c => c.conditions
  | .condition c => c.conditions
  | .query q => q.conditions
  | .list _ => []
termination_by structural operand => operand

def Call.conditions : Call → List Condition
  | ⟨_, arguments, _⟩ => Operand.conditionsOfAll arguments
termination_by structural call => call

def Operand.conditionsOfAll : List Operand → List Condition
  | [] => []
  | operand :: others => operand.conditions ++ Operand.conditionsOfAll others
termination_by structural operands => operands

def Operand.conditions? : Option Operand → List Condition
  | none => []
  | some operand => operand.conditions
termination_by structural operand => operand

/-- The condition itself and those within it. -/
def Condition.conditions : Condition → List Condition
  | ⟨left, operator, negated, right⟩ =>
    ⟨left, operator, negated, right⟩ :: Operand.conditions? left ++ Operand.conditions? right
termination_by structural condition => condition

def Condition.conditions? : Option Condition → List Condition
  | none => []
  | some condition => condition.conditions
termination_by structural condition => condition

def Condition.conditionsOfAll : List Condition → List Condition
  | [] => []
  | condition :: others => condition.conditions ++ Condition.conditionsOfAll others
termination_by structural conditions => conditions

def JoinCondition.conditions : JoinCondition → List Condition
  | ⟨.condition, condition, _⟩ => condition.conditions
  | ⟨.columns, _, _⟩ => []
termination_by structural joinCondition => joinCondition

def JoinCondition.conditions? : Option JoinCondition → List Condition
  | none => []
  | some joinCondition => joinCondition.conditions
termination_by structural joinCondition => joinCondition

def Table.conditions : Table → List Condition
  | ⟨_, _, _, joinCondition⟩ => JoinCondition.conditions? joinCondition
termination_by structural table => table

def Table.conditionsOfAll : List Table → List Condition
  | [] => []
  | table :: others => table.conditions ++ Table.conditionsOfAll others
termination_by structural tables => tables

def Item.conditions : Item → List Condition
  | .field _ => []
  | .call c => c.conditions
termination_by structural item => item

def Item.conditionsOfAll : List Item → List Condition
  | [] => []
  | item :: others => item.conditions ++ Item.conditionsOfAll others
termination_by structural items => items

def Select.conditions : Select → List Condition
  | ⟨tables, _, _, items, filter, _, having, _, _⟩ =>
    Item.conditionsOfAll items ++ Table.conditionsOfAll tables ++ Condition.conditions? filter ++
      Condition.conditionsOfAll having
termination_by structural query => query

end

def Statement.conditions : Statement → List Condition
  | .select s => s.conditions
  | .insert s => Table.conditionsOfAll s.tables
  | .update s => Table.conditionsOfAll s.tables ++ Condition.conditions? s.filter
  | .delete s => Table.conditionsOfAll s.tables ++ Condition.conditions? s.filter

/-! ## A text within a text -/

def Shows (text part : String) : Prop := part.toList <:+: text.toList

namespace Shows

variable {a b part : String}

theorem refl (a : String) : Shows a a := List.infix_rfl

theorem append_left (h : Shows a part) (b : String) : Shows (a ++ b) part := by
  unfold Shows
  rw [String.toList_append]
  exact List.IsInfix.trans h (List.prefix_append _ _).isInfix

theorem append_right (h : Shows b part) (a : String) : Shows (a ++ b) part := by
  unfold Shows
  rw [String.toList_append]
  exact List.IsInfix.trans h (List.suffix_append _ _).isInfix

theorem parenthesized (h : Shows a part) : Shows (parenthesized a) part :=
  (h.append_right "(").append_left ")"

theorem intercalate {sep : String} {texts : List String} (hm : a ∈ texts) (h : Shows a part) :
    Shows (sep.intercalate texts) part := by
  induction texts with
  | nil => cases hm
  | cons text texts ih =>
    cases texts with
    | nil =>
      rw [List.mem_singleton.1 hm] at h
      rwa [String.intercalate_singleton]
    | cons next texts =>
      rw [String.intercalate_cons_cons]
      rcases List.mem_cons.1 hm with rfl | hm
      · exact (h.append_left sep).append_left _
      · exact (ih hm).append_right _

theorem clause {lead : String} {o : Option String} (hm : a ∈ o) (h : Shows a part) :
    Shows (clause lead o) part := by
  cases hm
  exact h.append_right lead

theorem join {texts : List String} (hm : a ∈ texts) (h : Shows a part) :
    Shows (String.join texts) part := by
  induction texts with
  | nil => cases hm
  | cons text texts ih =>
    rw [String.join_cons]
    rcases List.mem_cons.1 hm with rfl | hm
    · exact h.append_left _
    · exact (ih hm).append_right _

end Shows

/-! ## Conditions within parts -/

/-- A condition of something that shows some texts. -/
structure Condition.Within (c : Condition) (clean : Prop) (texts : List String) : Prop where
  clean : clean → c.Clean
  shown : ∃ text ∈ texts, Shows text c.render

namespace Condition.Within

variable {c : Condition} {clean other : Prop} {texts others : List String}

/-- A condition of a part is one of the whole. -/
theorem mono (h : c.Within clean texts) (hc : other → clean)
    (hs : ∀ text ∈ texts, Shows text c.render → ∃ whole ∈ others, Shows whole c.render) :
    c.Within other others := by
  obtain ⟨text, hm, ht⟩ := h.shown
  exact ⟨fun ho => h.clean (hc ho), hs text hm ht⟩

theorem whole {whole : String} (h : c.Within clean texts) (hc : other → clean)
    (hs : ∀ text ∈ texts, Shows text c.render → Shows whole c.render) :
    c.Within other [whole] :=
  h.mono hc fun text hm ht => ⟨whole, List.mem_singleton_self whole, hs text hm ht⟩

theorem inside {text whole : String} (h : c.Within clean [text]) (hc : other → clean)
    (hs : Shows text c.render → Shows whole c.render) : c.Within other [whole] :=
  h.whole hc fun _ hm ht => hs (List.mem_singleton.1 hm ▸ ht)

theorem head {text : String} (h : c.Within clean [text]) :
    c.Within (clean ∧ other) (text :: texts) :=
  h.mono And.left fun _ hm ht => ⟨text, List.mem_cons_self, List.mem_singleton.1 hm ▸ ht⟩

theorem tail {text : String} (h : c.Within other texts) :
    c.Within (clean ∧ other) (text :: texts) :=
  h.mono And.right fun _ hm ht => ⟨_, List.mem_cons_of_mem text hm, ht⟩

theorem shows {whole : String} (h : c.Within clean [whole]) : Shows whole c.render := by
  obtain ⟨text, hm, ht⟩ := h.shown
  rwa [List.mem_singleton.1 hm] at ht

end Condition.Within

/-! ## Parts, given those within them -/

theorem Table.shows_assembleAll {tables : List Table} {t : Table} {part : String} (ht : t ∈ tables)
    (h : Shows t.render part) : Shows (renderTables tables) part := by
  rw [renderTables, Table.renderEach_eq_map]
  cases tables with
  | nil => cases ht
  | cons first others =>
    rw [List.map_cons, assembleAll]
    rcases List.mem_cons.1 ht with rfl | ht
    · exact h.append_left _
    · refine Shows.append_right (.join ?_ (h.append_right (if t.join.isSome then " " else ", "))) _
      rw [List.map_map]
      exact List.mem_map_of_mem (f := fun t => (if t.join.isSome then " " else ", ") ++ t.render) ht

theorem Condition.shows_conjunct (c : Condition) {text part : String} (h : Shows text part) :
    Shows (c.conjunct text) part := by
  unfold conjunct
  split
  · exact h.parenthesized
  · exact h

theorem Condition.shows_having {conditions : List Condition} {c : Condition} {part : String}
    (hc : c ∈ conditions) (h : Shows c.render part) :
    Shows (assembleHaving (renderEach conditions)) part := by
  match conditions with
  | [d] =>
    rw [List.mem_singleton.1 hc] at h
    exact h.append_right " HAVING "
  | d :: e :: others =>
    rw [assembleHaving_cons_cons]
    have hm := List.mem_map_of_mem (f := fun e => e.conjunct e.render) hc
    exact (Shows.intercalate hm (c.shows_conjunct h)).append_right " HAVING "

theorem Call.shows_assemble (call : Call) {arguments : List String} {text part : String}
    (ht : text ∈ arguments) (h : Shows text part) : Shows (call.assemble arguments) part := by
  have hlist : Shows (commaList arguments) part := .intercalate ht h
  have hbody := (hlist.append_right (if call.distinct then "DISTINCT " else "")).parenthesized
  exact ((hbody.append_right _).append_right _).append_left _

theorem Select.shows_items (q : Select) {text part : String} (ht : text ∈ Item.renderEach q.items)
    (h : Shows text part) : Shows q.render part := by
  obtain ⟨tables, placeholders, quantifier, items, filter, groupBy, having, orderBy, limit⟩ := q
  have hitems : Shows (if items.isEmpty then "" else " " ++ commaList (Item.renderEach items))
      part := by
    cases items with
    | nil => cases ht
    | cons item others => exact (Shows.intercalate ht h).append_right " "
  exact (((((((hitems.append_right _).append_left _).append_left _).append_left _).append_left
    _).append_left _).append_left _)

theorem Select.shows_tables (q : Select) {t : Table} {part : String} (ht : t ∈ q.tables)
    (h : Shows t.render part) : Shows q.render part := by
  obtain ⟨tables, placeholders, quantifier, items, filter, groupBy, having, orderBy, limit⟩ := q
  have htables : Shows (if tables.isEmpty then ""
      else " FROM " ++ Table.assembleAll (Table.renderEach tables)) part := by
    have hall := Table.shows_assembleAll ht h
    cases tables with
    | nil => cases ht
    | cons first others => exact hall.append_right " FROM "
  exact ((((((htables.append_right _).append_left _).append_left _).append_left _).append_left
    _).append_left _)

theorem Select.shows_filter (q : Select) {text part : String}
    (ht : text ∈ Condition.render? q.filter) (h : Shows text part) : Shows q.render part := by
  obtain ⟨tables, placeholders, quantifier, items, filter, groupBy, having, orderBy, limit⟩ := q
  have hfilter : Shows (clause " WHERE " (Condition.render? filter)) part := .clause ht h
  exact (((((hfilter.append_right _).append_left _).append_left _).append_left _).append_left _)

theorem Select.shows_having (q : Select) {c : Condition} {part : String} (hc : c ∈ q.having)
    (h : Shows c.render part) : Shows q.render part := by
  obtain ⟨tables, placeholders, quantifier, items, filter, groupBy, having, orderBy, limit⟩ := q
  have hhaving := Condition.shows_having hc h
  exact (((hhaving.append_right _).append_left _).append_left _)

/-! ## The whole recursion -/

mutual

theorem Operand.within : (operand : Operand) → ∀ c ∈ operand.conditions,
    c.Within operand.Clean [operand.render]
  | .field _ => fun _ hc => absurd hc List.not_mem_nil
  | .call k => k.within
  | .condition k => k.within
  | .query q => fun c hc => (q.within c hc).inside id .parenthesized
  | .list _ => fun _ hc => absurd hc List.not_mem_nil
termination_by structural operand => operand

theorem Call.within : (call : Call) → ∀ c ∈ call.conditions, c.Within call.Clean [call.render]
  | ⟨field, arguments, distinct⟩ => fun c hc =>
    (Operand.within_all arguments c hc).whole (fun h => h.2.2) fun _ hm ht =>
      Call.shows_assemble ⟨field, arguments, distinct⟩ hm ht
termination_by structural call => call

theorem Operand.within_all : (operands : List Operand) → ∀ c ∈ Operand.conditionsOfAll operands,
    c.Within (Operand.AllClean operands) (Operand.renderEach operands)
  | [] => fun _ hc => absurd hc List.not_mem_nil
  | operand :: others => fun c hc => by
    rcases List.mem_append.1 hc with hc | hc
    · exact (operand.within c hc).head
    · exact (Operand.within_all others c hc).tail
termination_by structural operands => operands

theorem Operand.within_option : (operand : Option Operand) → ∀ c ∈ Operand.conditions? operand,
    c.Within (Operand.Clean? operand) (Operand.renderOperand? operand).toList
  | none => fun _ hc => absurd hc List.not_mem_nil
  | some operand => fun c hc => (operand.within c hc).mono id fun text hm ht => by
    rw [List.mem_singleton.1 hm] at ht
    unfold Operand.renderOperand?
    split
    · exact ⟨_, List.mem_singleton_self _, ht.parenthesized⟩
    · exact ⟨_, List.mem_singleton_self _, ht⟩
termination_by structural operand => operand

theorem Condition.within : (condition : Condition) → ∀ c ∈ condition.conditions,
    c.Within condition.Clean [condition.render]
  | ⟨left, operator, negated, right⟩ => fun c hc => by
    rcases List.mem_cons.1 hc with rfl | hc
    · exact ⟨id, _, List.mem_singleton_self _, .refl _⟩
    rcases List.mem_append.1 hc with hc | hc
    · refine (Operand.within_option left c hc).whole And.left fun text hm ht => .intercalate ?_ ht
      exact List.mem_append_left _ (List.mem_append_left _ (List.mem_append_left _ hm))
    · exact (Operand.within_option right c hc).whole (fun h => h.2.2) fun text hm ht =>
        .intercalate (List.mem_append_right _ hm) ht
termination_by structural condition => condition

theorem Condition.within_option : (condition : Option Condition) →
    ∀ c ∈ Condition.conditions? condition,
      c.Within (Condition.Clean? condition) (Condition.render? condition).toList
  | none => fun _ hc => absurd hc List.not_mem_nil
  | some condition => condition.within
termination_by structural condition => condition

theorem Condition.within_all : (conditions : List Condition) →
    ∀ c ∈ Condition.conditionsOfAll conditions,
      c.Within (Condition.AllClean conditions) (conditions.map Condition.render)
  | [] => fun _ hc => absurd hc List.not_mem_nil
  | condition :: others => fun c hc => by
    rcases List.mem_append.1 hc with hc | hc
    · exact (condition.within c hc).head
    · exact (Condition.within_all others c hc).tail
termination_by structural conditions => conditions

theorem JoinCondition.within : (j : JoinCondition) → ∀ c ∈ j.conditions, c.Within j.Clean [j.render]
  | ⟨.condition, condition, _⟩ => fun c hc =>
    (condition.within c hc).inside id fun ht => ht.append_right " ON "
  | ⟨.columns, _, _⟩ => fun _ hc => absurd hc List.not_mem_nil
termination_by structural j => j

theorem JoinCondition.within_option : (j : Option JoinCondition) →
    ∀ c ∈ JoinCondition.conditions? j,
      c.Within (JoinCondition.Clean? j) [(JoinCondition.render? j).getD ""]
  | none => fun _ hc => absurd hc List.not_mem_nil
  | some j => j.within
termination_by structural j => j

theorem Table.within : (table : Table) → ∀ c ∈ table.conditions, c.Within table.Clean [table.render]
  | ⟨_, _, _, joinCondition⟩ => fun c hc =>
    (JoinCondition.within_option joinCondition c hc).inside (fun h => h.2.2.2) fun ht =>
      ht.append_right _
termination_by structural table => table

theorem Table.within_all : (tables : List Table) → ∀ c ∈ Table.conditionsOfAll tables,
    c.Within (Table.AllClean tables) (tables.map Table.render)
  | [] => fun _ hc => absurd hc List.not_mem_nil
  | table :: others => fun c hc => by
    rcases List.mem_append.1 hc with hc | hc
    · exact (table.within c hc).head
    · exact (Table.within_all others c hc).tail
termination_by structural tables => tables

theorem Item.within : (item : Item) → ∀ c ∈ item.conditions, c.Within item.Clean [item.render]
  | .field _ => fun _ hc => absurd hc List.not_mem_nil
  | .call k => k.within
termination_by structural item => item

theorem Item.within_all : (items : List Item) → ∀ c ∈ Item.conditionsOfAll items,
    c.Within (Item.AllClean items) (Item.renderEach items)
  | [] => fun _ hc => absurd hc List.not_mem_nil
  | item :: others => fun c hc => by
    rcases List.mem_append.1 hc with hc | hc
    · exact (item.within c hc).head
    · exact (Item.within_all others c hc).tail
termination_by structural items => items

theorem Select.within : (query : Select) → ∀ c ∈ query.conditions,
    c.Within query.Clean [query.render]
  | ⟨tables, placeholders, quantifier, items, filter, groupBy, having, orderBy, limit⟩ =>
    fun c hc => by
    let q : Select :=
      ⟨tables, placeholders, quantifier, items, filter, groupBy, having, orderBy, limit⟩
    rcases List.mem_append.1 hc with hc | hc
    · rcases List.mem_append.1 hc with hc | hc
      · rcases List.mem_append.1 hc with hc | hc
        · exact (Item.within_all items c hc).whole And.left fun _ hm ht => q.shows_items hm ht
        · refine (Table.within_all tables c hc).whole (fun h => h.2.1) fun _ hm ht => ?_
          obtain ⟨t, htm, rfl⟩ := List.mem_map.1 hm
          exact q.shows_tables htm ht
      · exact (Condition.within_option filter c hc).whole (fun h => h.2.2.1) fun _ hm ht =>
          q.shows_filter (Option.mem_toList.1 hm) ht
    · refine (Condition.within_all having c hc).whole (fun h => h.2.2.2.2.1) fun _ hm ht => ?_
      obtain ⟨d, hdm, rfl⟩ := List.mem_map.1 hm
      exact q.shows_having hdm ht
termination_by structural query => query

end

/-! ## Statements -/

theorem within_tables {tables : List Table} {c : Condition}
    (hc : c ∈ Table.conditionsOfAll tables) :
    c.Within (Table.AllClean tables) [renderTables tables] := by
  refine (Table.within_all tables c hc).whole id fun text hm ht => ?_
  obtain ⟨t, htm, rfl⟩ := List.mem_map.1 hm
  exact Table.shows_assembleAll htm ht

theorem within_filter {filter : Option Condition} {c : Condition}
    (hc : c ∈ Condition.conditions? filter) :
    c.Within (Condition.Clean? filter) [renderFilter filter] :=
  (Condition.within_option filter c hc).whole id fun _ hm ht => .clause (Option.mem_toList.1 hm) ht

theorem Insert.within {s : Insert} {c : Condition} (hc : c ∈ Table.conditionsOfAll s.tables) :
    c.Within s.Clean [s.render] := by
  refine (within_tables hc).inside And.left fun ht => ?_
  exact (ht.append_right "INSERT INTO ").append_left _

theorem Update.within {s : Update} {c : Condition}
    (hc : c ∈ Table.conditionsOfAll s.tables ++ Condition.conditions? s.filter) :
    c.Within s.Clean [s.render] := by
  rcases List.mem_append.1 hc with hc | hc
  · refine (within_tables hc).inside And.left fun ht => ?_
    exact ((((ht.append_right "UPDATE ").append_left _).append_left _).append_left _).append_left _
  · refine (within_filter hc).inside (fun h => h.2.2.1) fun ht => ?_
    exact ((ht.append_right _).append_left _).append_left _

theorem Delete.within {s : Delete} {c : Condition}
    (hc : c ∈ Table.conditionsOfAll s.tables ++ Condition.conditions? s.filter) :
    c.Within s.Clean [s.render] := by
  rcases List.mem_append.1 hc with hc | hc
  · refine (within_tables hc).inside And.left fun ht => ?_
    exact (ht.append_right "DELETE FROM ").append_left _
  · refine (within_filter hc).inside And.right fun ht => ?_
    exact ht.append_right _

theorem Statement.within_of_mem {s : Statement} {c : Condition} (hc : c ∈ s.conditions) :
    c.Within s.Clean [s.render] := by
  cases s with
  | select s => exact s.within c hc
  | insert s => exact Insert.within hc
  | update s => exact Update.within hc
  | delete s => exact Delete.within hc

end SqlDml
