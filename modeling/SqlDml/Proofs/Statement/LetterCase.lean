import SqlDml.Proofs.Lexeme.Form
import SqlDml.Proofs.Statement.Flatten
import SqlDml.Proofs.Text.Case

/-!
# Operators and joins in either case of their letters

* `Statement.lowerWords` and a `lowerWords` for each part : it with the ASCII letters of operators
  and joins in lower case, at any depth;
* `Condition.conjunct_lowerWords` : which conditions stand in parentheses after HAVING is the same;
* `Statement.render_lowerWords` and the like : so is the text;
* `render_eq_of_lowerWords_eq` : hence the text of statements that differ in that case only.

Operators and joins are shown in full upper case, which also changes letters beyond ASCII. The test
for OR looks at ASCII letters only. Neither tells the two cases of an ASCII letter apart.
-/

namespace SqlDml

/-! ## Operators and joins in lower case -/

mutual

def Operand.lowerWords : Operand → Operand
  | .field f => .field f
  | .call c => .call c.lowerWords
  | .condition c => .condition c.lowerWords
  | .query q => .query q.lowerWords
  | .list fs => .list fs
termination_by structural operand => operand

def Call.lowerWords : Call → Call
  | ⟨field, arguments, distinct⟩ => ⟨field, Operand.lowerWordsEach arguments, distinct⟩
termination_by structural call => call

def Operand.lowerWordsEach : List Operand → List Operand
  | [] => []
  | operand :: others => operand.lowerWords :: Operand.lowerWordsEach others
termination_by structural operands => operands

def Operand.lowerWords? : Option Operand → Option Operand
  | none => none
  | some operand => some operand.lowerWords
termination_by structural operand => operand

def Condition.lowerWords : Condition → Condition
  | ⟨left, operator, negated, right⟩ =>
    ⟨Operand.lowerWords? left, lowered operator.toList, negated, Operand.lowerWords? right⟩
termination_by structural condition => condition

def Condition.lowerWords? : Option Condition → Option Condition
  | none => none
  | some condition => some condition.lowerWords
termination_by structural condition => condition

def Condition.lowerWordsEach : List Condition → List Condition
  | [] => []
  | condition :: others => condition.lowerWords :: Condition.lowerWordsEach others
termination_by structural conditions => conditions

def JoinCondition.lowerWords : JoinCondition → JoinCondition
  | ⟨kind, condition, columns⟩ => ⟨kind, condition.lowerWords, columns⟩
termination_by structural joinCondition => joinCondition

def JoinCondition.lowerWords? : Option JoinCondition → Option JoinCondition
  | none => none
  | some joinCondition => some joinCondition.lowerWords
termination_by structural joinCondition => joinCondition

def Table.lowerWords : Table → Table
  | ⟨name, alias?, join, joinCondition⟩ =>
    ⟨name, alias?, join.map fun words => lowered words.toList,
      JoinCondition.lowerWords? joinCondition⟩
termination_by structural table => table

def Table.lowerWordsEach : List Table → List Table
  | [] => []
  | table :: others => table.lowerWords :: Table.lowerWordsEach others
termination_by structural tables => tables

def Item.lowerWords : Item → Item
  | .field f => .field f
  | .call c => .call c.lowerWords
termination_by structural item => item

def Item.lowerWordsEach : List Item → List Item
  | [] => []
  | item :: others => item.lowerWords :: Item.lowerWordsEach others
termination_by structural items => items

def Select.lowerWords : Select → Select
  | ⟨tables, placeholders, quantifier, items, filter, groupBy, having, orderBy, limit⟩ =>
    ⟨Table.lowerWordsEach tables, placeholders, quantifier, Item.lowerWordsEach items,
      Condition.lowerWords? filter, groupBy, Condition.lowerWordsEach having, orderBy, limit⟩
termination_by structural query => query

end

def Statement.lowerWords : Statement → Statement
  | select s => select s.lowerWords
  | insert s => insert { s with tables := Table.lowerWordsEach s.tables }
  | update s =>
    update
      { s with
        tables := Table.lowerWordsEach s.tables, filter := Condition.lowerWords? s.filter }
  | delete s =>
    delete
      { s with
        tables := Table.lowerWordsEach s.tables, filter := Condition.lowerWords? s.filter }

/-! ## Part by part -/

theorem Condition.lowerWordsEach_eq_map (conditions : List Condition) :
    Condition.lowerWordsEach conditions = conditions.map Condition.lowerWords := by
  induction conditions with
  | nil => rfl
  | cons condition others ih => rw [Condition.lowerWordsEach, ih, List.map_cons]

theorem Table.lowerWordsEach_eq_map (tables : List Table) :
    Table.lowerWordsEach tables = tables.map Table.lowerWords := by
  induction tables with
  | nil => rfl
  | cons table others ih => rw [Table.lowerWordsEach, ih, List.map_cons]

/-! ## Parts, given those within them -/

/-- The full upper case does not see the case of ASCII letters. -/
theorem upper_lowered (text : String) : Text.upper (lowered text.toList) = Text.upper text := by
  have hchar (c : Char) : Text.upperChar c.toLower = Text.upperChar c :=
    Text.apply_toLower Text.upperChar (by decide) c
  simp only [Text.upper, lowered, String.toList_ofList, List.flatMap_map, hchar]

theorem lowered_eq_empty_iff {text : String} : lowered text.toList = "" ↔ text = "" := by
  rw [lowered, String.ofList_eq_empty_iff, List.map_eq_nil_iff, String.toList_eq_nil_iff]

namespace Condition

/-- A condition shows no more of its operator than its upper case. -/
theorem assemble_lowerWords (c : Condition) (left right : Option String) :
    c.lowerWords.assemble left right = c.assemble left right := by
  obtain ⟨l, operator, negated, r⟩ := c
  have hshown : (if lowered operator.toList = "" then []
      else [Text.upper (lowered operator.toList)]) =
      if operator = "" then [] else [Text.upper operator] := by
    rw [upper_lowered]
    exact if_congr lowered_eq_empty_iff rfl rfl
  rw [assemble, assemble, lowerWords, hshown]

theorem isGrouping_lowerWords (c : Condition) : c.lowerWords.isGrouping = c.isGrouping := by
  have hoperand (operand : Option Operand) :
      (Operand.lowerWords? operand).any Operand.isCondition =
        operand.any Operand.isCondition := by
    rcases operand with _ | (_ | _ | _ | _ | _) <;> rfl
  obtain ⟨l, operator, negated, r⟩ := c
  simp only [isGrouping, lowerWords, hoperand]

theorem isDisjunction_lowerWords (c : Condition) :
    c.lowerWords.isDisjunction = c.isDisjunction := by
  obtain ⟨l, operator, negated, r⟩ := c
  simp only [isDisjunction, lowerWords, lowered, String.toList_ofList,
    Text.map_toLower_map_toLower]

/-- Whether AND would bind into a condition is not a matter of case. -/
theorem conjunct_lowerWords (c : Condition) (text : String) :
    c.lowerWords.conjunct text = c.conjunct text := by
  rw [conjunct, conjunct, isGrouping_lowerWords, isDisjunction_lowerWords]

/-- Of one condition the text stands there, of several their conjuncts. -/
theorem assembleHaving_lowerWords {conditions : List Condition}
    (h : ∀ c ∈ conditions, c.lowerWords.render = c.render) :
    assembleHaving (renderEach (lowerWordsEach conditions)) =
      assembleHaving (renderEach conditions) := by
  match conditions with
  | [] => rfl
  | [c] => exact congrArg (" HAVING " ++ ·) (h c List.mem_cons_self)
  | c :: d :: others =>
    have hconjuncts : (c :: d :: others).map (fun e => e.lowerWords.conjunct e.lowerWords.render) =
        (c :: d :: others).map fun e => e.conjunct e.render :=
      List.map_congr_left fun e he => by rw [conjunct_lowerWords, h e he]
    have heach := lowerWordsEach_eq_map (c :: d :: others)
    rw [List.map_cons, List.map_cons] at heach
    rw [heach, assembleHaving_cons_cons, assembleHaving_cons_cons, ← hconjuncts]
    simp only [List.map_cons, List.map_map, Function.comp_def]

end Condition

/-- A table shows no more of the words that join it than their upper case. -/
theorem Table.assemble_lowerWords (t : Table) (joinCondition : Option String) :
    t.lowerWords.assemble joinCondition = t.assemble joinCondition := by
  obtain ⟨name, alias?, join, condition⟩ := t
  simp only [assemble, lowerWords, Option.map_map, Function.comp_def, upper_lowered]

theorem Table.assembleAll_lowerWords {tables : List Table}
    (h : ∀ t ∈ tables, t.lowerWords.render = t.render) :
    assembleAll (renderEach (lowerWordsEach tables)) = assembleAll (renderEach tables) := by
  have hjoin (t : Table) : t.lowerWords.join.isSome = t.join.isSome := by
    obtain ⟨name, alias?, join, condition⟩ := t
    exact Option.isSome_map
  rw [lowerWordsEach_eq_map, renderEach_eq_map, renderEach_eq_map]
  cases tables with
  | nil => rfl
  | cons t others =>
    have hothers : others.map (fun u : Table =>
        (if u.lowerWords.join.isSome then " " else ", ") ++ u.lowerWords.render) =
        others.map fun u => (if u.join.isSome then " " else ", ") ++ u.render :=
      List.map_congr_left fun u hu => by rw [hjoin, h u (List.mem_cons_of_mem t hu)]
    simp only [List.map_cons, List.map_map, assembleAll, Function.comp_def, hothers,
      h t List.mem_cons_self]

/-! ## The whole recursion -/

mutual

theorem Operand.render_lowerWords : (operand : Operand) →
    operand.lowerWords.render = operand.render
  | .field _ => rfl
  | .call c => c.render_lowerWords
  | .condition c => c.render_lowerWords
  | .query q => congrArg parenthesized q.render_lowerWords
  | .list _ => rfl
termination_by structural operand => operand

theorem Call.render_lowerWords : (call : Call) → call.lowerWords.render = call.render
  | ⟨field, arguments, distinct⟩ => by
    rw [Call.lowerWords, Call.render, Call.render, Operand.renderEach_lowerWords arguments]
    rfl
termination_by structural call => call

theorem Operand.renderEach_lowerWords : (operands : List Operand) →
    Operand.renderEach (Operand.lowerWordsEach operands) = Operand.renderEach operands
  | [] => rfl
  | operand :: others =>
    congrArg₂ List.cons operand.render_lowerWords (Operand.renderEach_lowerWords others)
termination_by structural operands => operands

theorem Operand.renderOperand?_lowerWords : (operand : Option Operand) →
    Operand.renderOperand? (Operand.lowerWords? operand) = Operand.renderOperand? operand
  | none => rfl
  | some operand => by
    have hgrouping : operand.lowerWords.condition?.any Condition.isGrouping =
        operand.condition?.any Condition.isGrouping := by
      cases operand with
      | condition c => exact c.isGrouping_lowerWords
      | _ => rfl
    rw [Operand.lowerWords?, Operand.renderOperand?, Operand.renderOperand?, hgrouping,
      operand.render_lowerWords]
termination_by structural operand => operand

theorem Condition.render_lowerWords : (condition : Condition) →
    condition.lowerWords.render = condition.render
  | ⟨left, operator, negated, right⟩ => by
    have hassemble := Condition.assemble_lowerWords ⟨left, operator, negated, right⟩
    rw [Condition.lowerWords, Condition.render, Condition.render,
      Operand.renderOperand?_lowerWords left, Operand.renderOperand?_lowerWords right]
    exact hassemble _ _
termination_by structural condition => condition

theorem Condition.render?_lowerWords : (condition : Option Condition) →
    Condition.render? (Condition.lowerWords? condition) = Condition.render? condition
  | none => rfl
  | some condition => congrArg some condition.render_lowerWords
termination_by structural condition => condition

theorem Condition.render_lowerWords_each : (conditions : List Condition) →
    ∀ c ∈ conditions, c.lowerWords.render = c.render
  | [] => nofun
  | condition :: others =>
    List.forall_mem_cons.2 ⟨condition.render_lowerWords, Condition.render_lowerWords_each others⟩
termination_by structural conditions => conditions

theorem JoinCondition.render_lowerWords : (j : JoinCondition) → j.lowerWords.render = j.render
  | ⟨kind, condition, columns⟩ => by
    rw [JoinCondition.lowerWords, JoinCondition.render, JoinCondition.render,
      condition.render_lowerWords]
    rfl
termination_by structural j => j

theorem JoinCondition.render?_lowerWords : (j : Option JoinCondition) →
    JoinCondition.render? (JoinCondition.lowerWords? j) = JoinCondition.render? j
  | none => rfl
  | some j => congrArg some j.render_lowerWords
termination_by structural j => j

theorem Table.render_lowerWords : (table : Table) → table.lowerWords.render = table.render
  | ⟨name, alias?, join, joinCondition⟩ => by
    have hassemble := Table.assemble_lowerWords ⟨name, alias?, join, joinCondition⟩
    rw [Table.lowerWords, Table.render, Table.render,
      JoinCondition.render?_lowerWords joinCondition]
    exact hassemble _
termination_by structural table => table

theorem Table.render_lowerWords_each : (tables : List Table) →
    ∀ t ∈ tables, t.lowerWords.render = t.render
  | [] => nofun
  | table :: others =>
    List.forall_mem_cons.2 ⟨table.render_lowerWords, Table.render_lowerWords_each others⟩
termination_by structural tables => tables

theorem Item.render_lowerWords : (item : Item) → item.lowerWords.render = item.render
  | .field _ => rfl
  | .call c => c.render_lowerWords
termination_by structural item => item

theorem Item.renderEach_lowerWords : (items : List Item) →
    Item.renderEach (Item.lowerWordsEach items) = Item.renderEach items
  | [] => rfl
  | item :: others => congrArg₂ List.cons item.render_lowerWords (Item.renderEach_lowerWords others)
termination_by structural items => items

theorem Select.render_lowerWords : (query : Select) → query.lowerWords.render = query.render
  | ⟨tables, placeholders, quantifier, items, filter, groupBy, having, orderBy, limit⟩ => by
    have htables := Table.assembleAll_lowerWords (Table.render_lowerWords_each tables)
    have hhaving := Condition.assembleHaving_lowerWords (Condition.render_lowerWords_each having)
    have hitems : (Item.lowerWordsEach items).isEmpty = items.isEmpty := by cases items <;> rfl
    have hfrom : (Table.lowerWordsEach tables).isEmpty = tables.isEmpty := by cases tables <;> rfl
    rw [Select.lowerWords, Select.render, Select.render, Item.renderEach_lowerWords items,
      Condition.render?_lowerWords filter, htables, hhaving, hitems, hfrom]
termination_by structural query => query

end

/-! ## Statements -/

theorem renderTables_lowerWords (tables : List Table) :
    renderTables (Table.lowerWordsEach tables) = renderTables tables :=
  Table.assembleAll_lowerWords (Table.render_lowerWords_each tables)

theorem renderFilter_lowerWords (filter : Option Condition) :
    renderFilter (Condition.lowerWords? filter) = renderFilter filter :=
  congrArg (clause " WHERE ") (Condition.render?_lowerWords filter)

theorem Statement.render_lowerWords (s : Statement) : s.lowerWords.render = s.render := by
  cases s with
  | select s => exact s.render_lowerWords
  | insert s => simp only [lowerWords, render, Insert.render, renderTables_lowerWords]
  | update s =>
    simp only [lowerWords, render, Update.render, renderTables_lowerWords, renderFilter_lowerWords]
  | delete s =>
    simp only [lowerWords, render, Delete.render, renderTables_lowerWords, renderFilter_lowerWords]

/-- Statements that differ in the case of ASCII letters of operators and joins only, at any depth,
have the same text. So do conditions that differ so where they stand among several after HAVING, in
parentheses or not. -/
theorem render_eq_of_lowerWords_eq :
    (∀ s t : Statement, s.lowerWords = t.lowerWords → s.render = t.render) ∧
    ∀ c d : Condition, c.lowerWords = d.lowerWords →
      c.conjunct c.render = d.conjunct d.render := by
  constructor
  · intro s t h
    rw [← s.render_lowerWords, h, t.render_lowerWords]
  · intro c d h
    rw [← c.conjunct_lowerWords, ← c.render_lowerWords, h, d.conjunct_lowerWords,
      d.render_lowerWords]

/-- A query with words in an argument, in a join, in a query within it and after HAVING. -/
def wordedQuery (join operator connective : String) : Statement :=
  let comparison : Condition :=
    { left := some (.field (.ofName "x")), operator, right := some (.field (.ofName "y")) }
  let disjunction : Condition :=
    { left := some (.field (.ofName "p"))
      operator := connective
      right := some (.field (.ofName "q")) }
  .select
    { items := [.call { field := .ofName "f", arguments := [.condition disjunction] }]
      tables :=
        [{ name := "a" },
          { name := "b"
            join := some join
            joinCondition := some { kind := .condition, condition := comparison } }]
      having :=
        [disjunction,
          { left := some (.query { filter := some disjunction })
            operator
            right := some (.condition comparison) }] }

theorem lowerWords_wordedQuery (join operator connective : String) :
    (wordedQuery join operator connective).lowerWords =
      wordedQuery (lowered join.toList) (lowered operator.toList) (lowered connective.toList) :=
  rfl

/-- A small sharp s has no upper case of one character, and is left alone in lower case. -/
theorem render_eq_of_lowerWords_eq_mixed :
    let s := wordedQuery "Left Join" "LiKe ß" "oR"
    let t := wordedQuery "left JOIN" "like ß" "Or"
    s.lowerWords = t.lowerWords ∧ s.render = t.render ∧
      s.render = "SELECT f(p OR q) FROM a LEFT JOIN b ON x LIKE SS y HAVING (p OR q) AND " ++
        "((SELECT WHERE p OR q) LIKE SS x LIKE SS y)" := by
  intro s t
  have hjoin : lowered "Left Join".toList = lowered "left JOIN".toList := by decide
  have hoperator : lowered "LiKe ß".toList = lowered "like ß".toList := by decide
  have hconnective : lowered "oR".toList = lowered "Or".toList := by decide
  have h : s.lowerWords = t.lowerWords := by
    rw [lowerWords_wordedQuery, lowerWords_wordedQuery, hjoin, hoperator, hconnective]
  exact ⟨h, render_eq_of_lowerWords_eq.1 s t h, by decide +kernel⟩

end SqlDml
