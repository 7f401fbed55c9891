import SqlDml.Statement.Edit

/-!
# What edits can build

* `Statement.run`, `Statement.Leads` : the statement after some edits, and whether some edits make
  one statement of another;
* `Table.Made` : what holds of a table that edits have made;
* `Statement.made_apply` : an edit keeps the kind of a statement and what holds of its tables;
* `Statement.leads_tables`, `Statement.leads_of_made` : edits that make given tables, and then a
  whole statement;
* `Statement.leads_empty_iff` : the statements that edits can make are those of which each table
  is made so.

Operands are handed over whole, with the tables of their own queries as they are, so nothing is said
of those.
-/

namespace SqlDml

/-! ## Edits in turn -/

namespace Statement

/-- The statement after an edit; one that is refused changes nothing. -/
def step (s : Statement) (edit : Edit) : Statement :=
  match edit.apply s with
  | .ok (_, edited) => edited
  | .error _ => s

/-- The statement after some edits in turn. -/
def run (s : Statement) (edits : List Edit) : Statement := edits.foldl step s

/-- Some edits make `s'` of `s`. -/
def Leads (s s' : Statement) : Prop := ∃ edits, s.run edits = s'

theorem Leads.refl (s : Statement) : s.Leads s := ⟨[], rfl⟩

theorem Leads.trans {s s' s'' : Statement} (h : s.Leads s') (h' : s'.Leads s'') :
    s.Leads s'' := by
  obtain ⟨edits, rfl⟩ := h
  obtain ⟨others, rfl⟩ := h'
  exact ⟨edits ++ others, List.foldl_append⟩

instance : Trans Leads Leads Leads := ⟨Leads.trans⟩

theorem step_of_apply {s s' : Statement} {edit : Edit} {report : Edit.Report}
    (h : edit.apply s = .ok (report, s')) : s.step edit = s' := by
  rw [step, h]

theorem leads_of_apply {s s' : Statement} (edit : Edit) {report : Edit.Report}
    (h : edit.apply s = .ok (report, s')) : s.Leads s' := ⟨[edit], step_of_apply h⟩

end Statement

/-! ## What an edit ensures -/

namespace Edited

variable {α β : Type}

/-- The edited part has a property, unless the edit is refused. -/
def Ensures (P : α → Prop) (edited : Edited α) : Prop :=
  ∀ report part, edited = .ok (report, part) → P part

theorem ensures_ok {P : α → Prop} {report : Edit.Report} {part : α} (h : P part) :
    Ensures P (.ok (report, part)) := by
  rintro _ _ ⟨⟩
  exact h

theorem ensures_error {P : α → Prop} (refusal : Edit.Refusal) : Ensures P (.error refusal) := nofun

theorem ensures_within {P : β → Prop} {put : α → β} {edited : Edited α}
    (h : Ensures (fun part => P (put part)) edited) : Ensures P (within edited put) := by
  intro report whole he
  cases edited with
  | error refusal => cases he
  | ok pair =>
    cases he
    exact h _ _ rfl

theorem ensures_entry {P : α → Prop} {edit : α → Edited α} {entries : List α}
    (hs : ∀ part ∈ entries, P part) (h : ∀ part, P part → Ensures P (edit part)) (index : Nat) :
    Ensures (fun edited => ∀ part ∈ edited, P part) (entry edit entries index) := by
  unfold entry
  split
  · rename_i part hp
    refine ensures_within fun report edited he other ho => ?_
    rcases List.mem_or_eq_of_mem_set ho with ho | rfl
    · exact hs other ho
    · exact h part (hs part (List.mem_of_getElem? hp)) report other he
  · exact ensures_error _

theorem ensures_present {P : α → Prop} {edit : α → Edited α} {part? : Option α}
    (hs : ∀ part ∈ part?, P part) (h : ∀ part, P part → Ensures P (edit part)) :
    Ensures (fun edited => ∀ part ∈ edited, P part) (present edit part?) := by
  cases part? with
  | none => exact ensures_error _
  | some part =>
    refine ensures_within fun report edited he other ho => ?_
    cases ho
    exact h part (hs part rfl) report edited he

/-- An edit of the last of some entries. -/
theorem entry_concat {edit : α → Edited α} {part edited : α} {report : Edit.Report}
    (h : edit part = .ok (report, edited)) (before : List α) :
    entry edit (before ++ [part]) before.length = .ok (report, before ++ [edited]) := by
  simp [entry, h, within, Except.map]

end Edited

/-! ## Tables that edits have made -/

/-- A join that is stated by a condition names no columns. -/
def JoinCondition.Made (j : JoinCondition) : Prop := j.kind = .condition → j.columns = []

/-- The words that join a table are in lower case, and its join condition is made by edits. -/
structure Table.Made (t : Table) : Prop where
  lowered : ∀ join ∈ t.join, ∃ words, join = Text.lower words
  joined : ∀ j ∈ t.joinCondition, j.Made

theorem JoinCondition.Made.addColumn {j : JoinCondition} (h : j.Made) (name : String) :
    (j.addColumn name).Made := by
  unfold JoinCondition.addColumn
  split
  · rename_i hk
    intro hc
    rw [show j.kind = .condition from hc] at hk
    cases hk
  · exact h

namespace Statement

/-- A statement of the given kind whose tables are made by edits. -/
structure Made (command : Command) (s : Statement) : Prop where
  command_eq : s.command = command
  tables : ∀ t ∈ s.tables, t.Made

@[simp] theorem command_withTables (s : Statement) (tables : List Table) :
    (s.withTables tables).command = s.command := by cases s <;> rfl

@[simp] theorem tables_withTables (s : Statement) (tables : List Table) :
    (s.withTables tables).tables = tables := by cases s <;> rfl

@[simp] theorem withTables_withTables (s : Statement) (tables others : List Table) :
    (s.withTables tables).withTables others = s.withTables others := by cases s <;> rfl

@[simp] theorem command_withPlaceholders (s : Statement) (placeholders : List String) :
    (s.withPlaceholders placeholders).command = s.command := by cases s <;> rfl

@[simp] theorem tables_withPlaceholders (s : Statement) (placeholders : List String) :
    (s.withPlaceholders placeholders).tables = s.tables := by cases s <;> rfl

@[simp] theorem placeholders_withPlaceholders (s : Statement) (placeholders : List String) :
    (s.withPlaceholders placeholders).placeholders = placeholders := by cases s <;> rfl

@[simp] theorem withPlaceholders_withPlaceholders (s : Statement)
    (placeholders others : List String) :
    (s.withPlaceholders placeholders).withPlaceholders others = s.withPlaceholders others := by
  cases s <;> rfl

open Edited

section Steps

variable {command : Command} {s : Statement} (h : s.Made command)
include h

theorem Made.withTables {tables : List Table} (ht : ∀ t ∈ tables, t.Made) :
    (s.withTables tables).Made command :=
  ⟨(command_withTables s tables).trans h.command_eq, by rwa [tables_withTables]⟩

theorem Made.ensures_editTable {edit : Table → Edited Table}
    (he : ∀ t, t.Made → Ensures Table.Made (edit t)) (index : Nat) :
    Ensures (Made command) (s.editTable edit index) :=
  ensures_within fun report tables ht =>
    h.withTables (ensures_entry h.tables he index report tables ht)

theorem Made.ensures_editJoinCondition {edit : JoinCondition → Edited JoinCondition}
    (he : ∀ j, j.Made → Ensures JoinCondition.Made (edit j)) (index : Nat) :
    Ensures (Made command) (s.editJoinCondition edit index) := by
  refine h.ensures_editTable (fun t ht => ensures_within fun report joined hj => ?_) index
  exact ⟨ht.lowered, ensures_present ht.joined he report joined hj⟩

/-- An edit of a query that leaves its tables alone. -/
theorem Made.ensures_editSelect {edit : Select → Edited Select}
    (he : ∀ q, Ensures (fun edited => edited.tables = q.tables) (edit q)) :
    Ensures (Made command) (s.editSelect edit) := by
  cases s with
  | select q =>
    refine ensures_within fun report edited hq => ⟨h.command_eq, ?_⟩
    rw [Statement.tables, he q report edited hq]
    exact h.tables
  | insert | update | delete => exact ensures_error _

theorem Made.ensures_editFilter (edit : Option Condition → Edited (Option Condition)) :
    Ensures (Made command) (s.editFilter edit) := by
  cases s with
  | select | update | delete =>
    rw [editFilter]
    exact ensures_within fun _ _ _ => ⟨h.command_eq, h.tables⟩
  | insert => exact ensures_error _

theorem Made.ensures_editOrderBy (edit : List SortKey → Edited (List SortKey)) :
    Ensures (Made command) (s.editOrderBy edit) := by
  cases s with
  | select | update =>
    rw [editOrderBy]
    exact ensures_within fun _ _ _ => ⟨h.command_eq, h.tables⟩
  | insert | delete => exact ensures_error _

theorem Made.ensures_editLimit (edit : Option Limit → Edited (Option Limit)) :
    Ensures (Made command) (s.editLimit edit) := by
  cases s with
  | select | update =>
    rw [editLimit]
    exact ensures_within fun _ _ _ => ⟨h.command_eq, h.tables⟩
  | insert | delete => exact ensures_error _

theorem Made.ensures_editColumns (edit : List Column → Edited (List Column)) :
    Ensures (Made command) (s.editColumns edit) := by
  cases s with
  | insert | update =>
    rw [editColumns]
    exact ensures_within fun _ _ _ => ⟨h.command_eq, h.tables⟩
  | select | delete => exact ensures_error _

theorem Made.ensures_editCondition (edit : Condition → Edited Condition) (path : ConditionPath) :
    Ensures (Made command) (s.editCondition edit path) := by
  obtain ⟨root, sides⟩ := path
  cases root with
  | filter => exact h.ensures_editFilter _
  | having index => exact h.ensures_editSelect fun q => ensures_within fun _ _ _ => rfl
  | join index =>
    -- Only the condition of the join is another, not its kind or its columns.
    rw [editCondition]
    refine h.ensures_editJoinCondition (fun j hj => ensures_within fun _ _ _ => ?_) index
    exact hj
  | argument item index => exact h.ensures_editSelect fun q => ensures_within fun _ _ _ => rfl

/-- What one edit does: the kind of the statement stays, and its tables are made by edits. -/
theorem made_apply (edit : Edit) : Ensures (Made command) (edit.apply s) := by
  cases edit with
  | addTable name alias? =>
    refine ensures_ok (h.withTables fun t ht => ?_)
    rcases List.mem_append.1 ht with ht | ht
    · exact h.tables t ht
    · rw [List.mem_singleton.1 ht]
      exact ⟨nofun, nofun⟩
  | addPlaceholder spelling =>
    refine ensures_ok ⟨?_, ?_⟩
    · rw [command_withPlaceholders, h.command_eq]
    · rw [tables_withPlaceholders]
      exact h.tables
  | setTableName index name =>
    rw [Edit.apply]
    refine h.ensures_editTable (fun t ht => ensures_ok ?_) index
    exact ⟨ht.lowered, ht.joined⟩
  | setTableAlias index text =>
    rw [Edit.apply]
    refine h.ensures_editTable (fun t ht => ensures_ok ?_) index
    exact ⟨ht.lowered, ht.joined⟩
  | setTableJoin index join =>
    rw [Edit.apply]
    refine h.ensures_editTable (fun t ht => ensures_ok ?_) index
    refine ⟨?_, ht.joined⟩
    rintro _ ⟨⟩
    exact ⟨join, rfl⟩
  | setJoinCondition index kind =>
    rw [Edit.apply]
    refine h.ensures_editTable (fun t ht => ensures_ok ?_) index
    refine ⟨ht.lowered, ?_⟩
    rintro _ ⟨⟩ -
    rfl
  | addJoinColumn index name =>
    rw [Edit.apply]
    exact h.ensures_editJoinCondition (fun j hj => ensures_ok (hj.addColumn name)) index
  | changeCondition path change => exact h.ensures_editCondition _ path
  | setFilter condition =>
    rw [Edit.apply]
    exact h.ensures_editFilter _
  | addSortKey key =>
    rw [Edit.apply]
    exact h.ensures_editOrderBy _
  | setLimit limit =>
    rw [Edit.apply]
    exact h.ensures_editLimit _
  | setQuantifier quantifier => exact h.ensures_editSelect fun q => ensures_ok rfl
  | addItem item => exact h.ensures_editSelect fun q => ensures_ok rfl
  | changeField index change => exact h.ensures_editSelect fun q => ensures_within fun _ _ _ => rfl
  | changeCall index change => exact h.ensures_editSelect fun q => ensures_within fun _ _ _ => rfl
  | setGroupBy => exact h.ensures_editSelect fun q => ensures_ok rfl
  | addGroupByColumn name => exact h.ensures_editSelect fun q => ensures_within fun _ _ _ => rfl
  | addHaving => exact h.ensures_editSelect fun q => ensures_ok rfl
  | addColumn column =>
    rw [Edit.apply]
    exact h.ensures_editColumns _
  | changeColumn index change =>
    rw [Edit.apply]
    exact h.ensures_editColumns _

theorem Made.step (edit : Edit) : (s.step edit).Made command := by
  unfold Statement.step
  split
  · rename_i he
    exact made_apply h edit _ _ he
  · exact h

/-- What holds after any edits, by induction on them. -/
theorem Made.run (edits : List Edit) : (s.run edits).Made command := by
  induction edits generalizing s with
  | nil => exact h
  | cons edit edits ih => exact ih (h.step edit)

end Steps

theorem made_empty (command : Command) : (empty command).Made command := by
  cases command <;> exact ⟨rfl, nofun⟩

/-! ## Edits that make a given statement -/

/-- Entries that can be added one by one can be added all. -/
theorem leads_append {α : Type} (put : List α → Statement) {entries : List α}
    (h : ∀ before, ∀ entry ∈ entries, (put before).Leads (put (before ++ [entry])))
    (before : List α) : (put before).Leads (put (before ++ entries)) := by
  induction entries generalizing before with
  | nil =>
    rw [List.append_nil]
    exact .refl _
  | cons entry entries ih =>
    have hothers := ih (fun before other ho => h before other (List.mem_cons_of_mem _ ho))
      (before ++ [entry])
    rw [List.append_assoc] at hothers
    exact (h before entry List.mem_cons_self).trans hothers

/-- The same for a part that is there at most once. -/
theorem leads_option {α : Type} (put : Option α → Statement) {part? : Option α}
    (h : ∀ part ∈ part?, (put none).Leads (put (some part))) : (put none).Leads (put part?) := by
  cases part? with
  | none => exact .refl _
  | some part => exact h part rfl

end Statement

/-- A change that sets all parts of a condition. -/
def ConditionChange.whole (c : Condition) : ConditionChange :=
  ⟨c.left, some c.operator, some c.negated, c.right⟩

theorem ConditionChange.apply_whole (c : Condition) : (whole c).apply {} = c := by
  obtain ⟨left, operator, negated, right⟩ := c
  cases left <;> cases right <;> rfl

namespace Statement

/-! ### Tables -/

/-- An edit of the table that was added last. -/
theorem leads_editTable (edit : Edit) {change : Table → Edited Table} {t t' : Table}
    (before : List Table) (s : Statement)
    (he : ∀ s : Statement, edit.apply s = s.editTable change before.length)
    (hc : ∃ report, change t = .ok (report, t')) :
    (s.withTables (before ++ [t])).Leads (s.withTables (before ++ [t'])) := by
  obtain ⟨report, hc⟩ := hc
  have happly : edit.apply (s.withTables (before ++ [t])) =
      .ok (report, s.withTables (before ++ [t'])) := by
    rw [he, editTable, tables_withTables, Edited.entry_concat hc]
    simp [Edited.within, Except.map]
  exact leads_of_apply edit happly

/-- Any join condition made by edits can be given to the last table: its kind first, as that takes
away the rest. -/
theorem leads_joinCondition {name : String} {alias? join? : Option String} {j : JoinCondition}
    (h : j.Made) (before : List Table) (s : Statement) :
    (s.withTables (before ++ [⟨name, alias?, join?, none⟩])).Leads
      (s.withTables (before ++ [⟨name, alias?, join?, some j⟩])) := by
  obtain ⟨kind, condition, columns⟩ := j
  let put (j : JoinCondition) : Statement :=
    s.withTables (before ++ [⟨name, alias?, join?, some j⟩])
  have hkind :
      (s.withTables (before ++ [⟨name, alias?, join?, none⟩])).Leads (put ⟨kind, {}, []⟩) :=
    leads_editTable (.setJoinCondition before.length kind) before s (fun _ => rfl) ⟨_, rfl⟩
  have hcolumns : (put ⟨kind, {}, []⟩).Leads (put ⟨kind, {}, columns⟩) := by
    cases kind with
    | condition =>
      obtain rfl : columns = [] := h rfl
      exact .refl _
    | columns =>
      refine leads_append (fun columns => put ⟨.columns, {}, columns⟩) (fun named c _ => ?_) []
      exact leads_editTable (.addJoinColumn before.length c) before s (fun _ => rfl) ⟨_, rfl⟩
  have hcondition : (put ⟨kind, {}, columns⟩).Leads (put ⟨kind, condition, columns⟩) := by
    have hwhole := ConditionChange.apply_whole condition
    refine leads_editTable (.changeCondition ⟨.join before.length, []⟩ (.whole condition)) before s
      (fun _ => rfl) ⟨.condition condition.render condition.isGrouping, ?_⟩
    simp only [Edited.present, Edited.within, Condition.editAt, Except.map, hwhole]
  exact hkind.trans (hcolumns.trans hcondition)

/-- Any table made by edits can be added. -/
theorem leads_table {t : Table} (h : t.Made) (before : List Table) (s : Statement) :
    (s.withTables before).Leads (s.withTables (before ++ [t])) := by
  obtain ⟨name, alias?, join?, joined?⟩ := t
  let put (join? : Option String) (joined? : Option JoinCondition) : Statement :=
    s.withTables (before ++ [⟨name, alias?, join?, joined?⟩])
  have hadd : (s.withTables before).Leads (put none none) :=
    ⟨[.addTable name alias?], by simp [run, step, Edit.apply, put]⟩
  have hjoin : (put none none).Leads (put join? none) := by
    refine leads_option (fun join? => put join? none) fun join hj => ?_
    obtain ⟨words, rfl⟩ := h.lowered join hj
    exact leads_editTable (.setTableJoin before.length words) before s (fun _ => rfl) ⟨_, rfl⟩
  have hjoined : (put join? none).Leads (put join? joined?) := by
    refine leads_option (put join?) fun j hj => ?_
    exact leads_joinCondition (h.joined j hj) before s
  exact hadd.trans (hjoin.trans hjoined)

theorem leads_tables {tables : List Table} (h : ∀ t ∈ tables, t.Made) (s : Statement) :
    (s.withTables []).Leads (s.withTables tables) :=
  leads_append s.withTables (fun before t ht => leads_table (h t ht) before s) []

/-! ### Other parts -/

theorem leads_placeholders (placeholders : List String) (s : Statement) :
    (s.withPlaceholders []).Leads (s.withPlaceholders placeholders) := by
  refine leads_append s.withPlaceholders (fun before spelling _ => ?_) []
  exact ⟨[.addPlaceholder spelling], by simp [run, step, Edit.apply]⟩

/-- The tables and placeholders of a statement that has neither. -/
theorem leads_common {tables : List Table} (h : ∀ t ∈ tables, t.Made) (placeholders : List String)
    (command : Command) :
    (empty command).Leads (((empty command).withTables tables).withPlaceholders placeholders) := by
  have htables := leads_tables h (empty command)
  have hplaceholders := leads_placeholders placeholders ((empty command).withTables tables)
  have hnoTables : (empty command).withTables [] = empty command := by cases command <;> rfl
  have hnoPlaceholders : ((empty command).withTables tables).withPlaceholders [] =
      (empty command).withTables tables := by cases command <;> rfl
  rw [hnoTables] at htables
  rw [hnoPlaceholders] at hplaceholders
  exact htables.trans hplaceholders

/-- The clause is added empty, and then its columns. -/
theorem leads_groupBy (q : Select) (groupBy : Option GroupBy) :
    (select { q with groupBy := none }).Leads (select { q with groupBy }) := by
  refine leads_option (fun groupBy => select { q with groupBy }) fun g _ => ?_
  obtain ⟨columns⟩ := g
  have hclause : (select { q with groupBy := none }).Leads
      (select { q with groupBy := some ⟨[]⟩ }) := leads_of_apply .setGroupBy rfl
  refine hclause.trans ?_
  refine leads_append (fun columns => select { q with groupBy := some ⟨columns⟩ })
    (fun before name _ => ?_) []
  exact leads_of_apply (.addGroupByColumn name) rfl

/-- Conditions after HAVING are added empty, and then changed. -/
theorem leads_having (q : Select) (having : List Condition) :
    (select { q with having := [] }).Leads (select { q with having }) := by
  refine leads_append (fun having => select { q with having }) (fun before c _ => ?_) []
  have hadd : (select { q with having := before }).Leads
      (select { q with having := before ++ [{}] }) := leads_of_apply .addHaving rfl
  have hedit {change : Condition → Edited Condition} {report : Edit.Report}
      (hc : change {} = .ok (report, c)) :
      (select { q with having := before ++ [{}] }).editCondition change
        ⟨.having before.length, []⟩ = .ok (report, select { q with having := before ++ [c] }) := by
    simp only [editCondition, editSelect, Condition.editAt]
    rw [Edited.entry_concat hc]
    rfl
  refine hadd.trans (leads_of_apply (.changeCondition ⟨.having before.length, []⟩ (.whole c))
    (@hedit _ (.condition c.render c.isGrouping) ?_))
  rw [ConditionChange.apply_whole]

/-- Any statement whose tables are made by edits is made by edits from the empty one. -/
theorem leads_of_made {s : Statement} (h : ∀ t ∈ s.tables, t.Made) :
    (empty s.command).Leads s := by
  cases s with
  | select q =>
    obtain ⟨tables, placeholders, quantifier, items, filter, groupBy, having, orderBy, limit⟩ := q
    calc (empty .select).Leads (select { tables, placeholders }) :=
        leads_common h placeholders .select
      Leads _ (select { tables, placeholders, quantifier }) :=
        leads_option (fun quantifier => select { tables, placeholders, quantifier })
          fun given _ => leads_of_apply (.setQuantifier given) rfl
      Leads _ (select { tables, placeholders, quantifier, items }) :=
        leads_append (fun items => select { tables, placeholders, quantifier, items })
          (fun _ item _ => leads_of_apply (.addItem item) rfl) []
      Leads _ (select { tables, placeholders, quantifier, items, filter }) :=
        leads_option (fun filter => select { tables, placeholders, quantifier, items, filter })
          fun condition _ => leads_of_apply (.setFilter condition) rfl
      Leads _ (select { tables, placeholders, quantifier, items, filter, groupBy }) :=
        leads_groupBy { tables, placeholders, quantifier, items, filter } groupBy
      Leads _ (select { tables, placeholders, quantifier, items, filter, groupBy, having }) :=
        leads_having { tables, placeholders, quantifier, items, filter, groupBy } having
      Leads _ (select
          { tables, placeholders, quantifier, items, filter, groupBy, having, orderBy }) :=
        leads_append (fun orderBy => select
            { tables, placeholders, quantifier, items, filter, groupBy, having, orderBy })
          (fun _ key _ => leads_of_apply (.addSortKey key) rfl) []
      Leads _ (select
          { tables, placeholders, quantifier, items, filter, groupBy, having, orderBy, limit }) :=
        leads_option (fun limit => select
            { tables, placeholders, quantifier, items, filter, groupBy, having, orderBy, limit })
          fun given _ => leads_of_apply (.setLimit given) rfl
  | insert s =>
    obtain ⟨tables, placeholders, columns⟩ := s
    calc (empty .insert).Leads (insert { tables, placeholders }) :=
        leads_common h placeholders .insert
      Leads _ (insert { tables, placeholders, columns }) :=
        leads_append (fun columns => insert { tables, placeholders, columns })
          (fun _ column _ => leads_of_apply (.addColumn column) rfl) []
  | update s =>
    obtain ⟨tables, placeholders, columns, filter, orderBy, limit⟩ := s
    calc (empty .update).Leads (update { tables, placeholders }) :=
        leads_common h placeholders .update
      Leads _ (update { tables, placeholders, columns }) :=
        leads_append (fun columns => update { tables, placeholders, columns })
          (fun _ column _ => leads_of_apply (.addColumn column) rfl) []
      Leads _ (update { tables, placeholders, columns, filter }) :=
        leads_option (fun filter => update { tables, placeholders, columns, filter })
          fun condition _ => leads_of_apply (.setFilter condition) rfl
      Leads _ (update { tables, placeholders, columns, filter, orderBy }) :=
        leads_append (fun orderBy => update { tables, placeholders, columns, filter, orderBy })
          (fun _ key _ => leads_of_apply (.addSortKey key) rfl) []
      Leads _ (update { tables, placeholders, columns, filter, orderBy, limit }) :=
        leads_option (fun limit => update { tables, placeholders, columns, filter, orderBy, limit })
          fun given _ => leads_of_apply (.setLimit given) rfl
  | delete s =>
    obtain ⟨tables, placeholders, filter⟩ := s
    calc (empty .delete).Leads (delete { tables, placeholders }) :=
        leads_common h placeholders .delete
      Leads _ (delete { tables, placeholders, filter }) :=
        leads_option (fun filter => delete { tables, placeholders, filter })
          fun condition _ => leads_of_apply (.setFilter condition) rfl

/-- Edits make, of the empty statement of a kind, just the statements of that kind in whose tables
the words of each join are in lower case and each join by a condition names no columns. -/
theorem leads_empty_iff {command : Command} {s : Statement} :
    (empty command).Leads s ↔ s.command = command ∧
      ∀ t ∈ s.tables, (∀ join ∈ t.join, ∃ words, join = Text.lower words) ∧
        ∀ j ∈ t.joinCondition, j.kind = .condition → j.columns = [] := by
  constructor
  · rintro ⟨edits, rfl⟩
    have hmade := (made_empty command).run edits
    exact ⟨hmade.command_eq, fun t ht => ⟨(hmade.tables t ht).lowered, (hmade.tables t ht).joined⟩⟩
  · rintro ⟨rfl, h⟩
    exact leads_of_made fun t ht => ⟨(h t ht).1, (h t ht).2⟩

end Statement

end SqlDml
