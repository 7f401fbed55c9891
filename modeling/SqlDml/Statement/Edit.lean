import SqlDml.Statement.Render

/-!
# Building statements edit by edit

* `Edit` : one step in building a statement or changing it afterwards;
* `Edit.apply` : the statement after the step, with a report on the part that it touched;
* `Edit.Refusal` : why a step cannot be taken, in which case nothing changes;
* `ConditionPath` : the way from a statement to one of its conditions.

A step that the kind of statement does not have is refused before it is asked what the step points
at.
-/

namespace SqlDml

/-! ## Changes to single parts -/

/-- New values for some of a column's parts. -/
structure ColumnChange where
  name : Option String := none
  value : Option Literal := none
  kind : Option ValueKind := none
  deriving Inhabited

def ColumnChange.apply (change : ColumnChange) (column : Column) : Column where
  name := change.name.getD column.name
  value := change.value <|> column.value
  kind := change.kind <|> column.kind

structure FieldChange extends ColumnChange where
  table : Option String := none
  «alias» : Option String := none
  deriving Inhabited

def FieldChange.apply (change : FieldChange) (field : Field) : Field where
  toColumn := change.toColumnChange.apply field.toColumn
  table := change.table <|> field.table
  «alias» := change.alias <|> field.alias

/-- New values for some of a call's parts, and perhaps one more argument. -/
structure CallChange where
  distinct : Option Bool := none
  «alias» : Option String := none
  argument : Option Operand := none
  deriving Inhabited

def CallChange.apply (change : CallChange) (call : Call) : Call where
  field := { call.field with «alias» := change.alias <|> call.field.alias }
  arguments := call.arguments ++ change.argument.toList
  distinct := change.distinct.getD call.distinct

structure ConditionChange where
  left : Option Operand := none
  operator : Option String := none
  negated : Option Bool := none
  right : Option Operand := none
  deriving Inhabited

def ConditionChange.apply (change : ConditionChange) (condition : Condition) : Condition where
  left := change.left <|> condition.left
  operator := change.operator.getD condition.operator
  negated := change.negated.getD condition.negated
  right := change.right <|> condition.right

/-! ## Edits -/

/-- Where a condition hangs on a statement: after WHERE, after HAVING, at the join of a table, or
among the arguments of a call that is an entry of a query. -/
inductive ConditionRoot where
  | filter
  | having (index : Nat)
  | join (index : Nat)
  | argument (item index : Nat)
  deriving Repr, DecidableEq, Inhabited

inductive Side where
  | left
  | right
  deriving Repr, DecidableEq, Inhabited

/-- A condition of a statement: from a root on through operands that are conditions. -/
structure ConditionPath where
  root : ConditionRoot
  sides : List Side := []
  deriving Repr, DecidableEq, Inhabited

/-- A step in building a statement. The words that join a table are kept in lower case; a new join
condition or GROUP BY clause is empty, whatever was there before, and so is a condition added after
HAVING. -/
inductive Edit where
  | addTable (name : String) (alias? : Option String)
  | addPlaceholder (spelling : String)
  | setTableName (index : Nat) (name : String)
  | setTableAlias (index : Nat) (text : String)
  | setTableJoin (index : Nat) (join : String)
  | setJoinCondition (index : Nat) (kind : JoinKind)
  | addJoinColumn (index : Nat) (name : String)
  | changeCondition (path : ConditionPath) (change : ConditionChange)
  | setFilter (condition : Condition)
  | addSortKey (key : SortKey)
  | setLimit (limit : Limit)
  | setQuantifier (quantifier : Quantifier)
  | addItem (item : Item)
  | changeField (index : Nat) (change : FieldChange)
  | changeCall (index : Nat) (change : CallChange)
  | setGroupBy
  | addGroupByColumn (name : String)
  | addHaving
  | addColumn (column : Column)
  | changeColumn (index : Nat) (change : ColumnChange)
  deriving Inhabited

namespace Edit

/-- Why an edit cannot be made: what it points at is not there, or statements of this kind do not
have what it edits. -/
inductive Refusal where
  | noTarget
  | wrongStatement
  deriving Repr, DecidableEq, Inhabited

/-- What an edit tells of the part that it touched. A placeholder comes with how many there are. -/
inductive Report where
  | nothing
  | text (text : String)
  | columns (names : List String)
  | placeholder (spelling : String) (count : Nat)
  | condition (text : String) (isGrouping : Bool)
  deriving Repr, DecidableEq, Inhabited

end Edit

/-- A part after an edit, with the report on it, or a refusal. -/
abbrev Edited (α : Type) := Except Edit.Refusal (Edit.Report × α)

namespace Edited

/-- The edited part put back into a whole. -/
def within {α β : Type} (edited : Edited α) (put : α → β) : Edited β :=
  edited.map fun (report, part) => (report, put part)

def entry {α : Type} (edit : α → Edited α) (entries : List α) (index : Nat) : Edited (List α) :=
  match entries[index]? with
  | some part => within (edit part) fun part => entries.set index part
  | none => .error .noTarget

def present {α : Type} (edit : α → Edited α) : Option α → Edited (Option α)
  | some part => within (edit part) some
  | none => .error .noTarget

end Edited

/-! ## Parts of a statement -/

namespace Statement

def withTables (s : Statement) (tables : List Table) : Statement :=
  match s with
  | select s => select { s with tables }
  | insert s => insert { s with tables }
  | update s => update { s with tables }
  | delete s => delete { s with tables }

def withPlaceholders (s : Statement) (placeholders : List String) : Statement :=
  match s with
  | select s => select { s with placeholders }
  | insert s => insert { s with placeholders }
  | update s => update { s with placeholders }
  | delete s => delete { s with placeholders }

def editTable (edit : Table → Edited Table) (index : Nat) (s : Statement) : Edited Statement :=
  Edited.within (Edited.entry edit s.tables index) s.withTables

def editJoinCondition (edit : JoinCondition → Edited JoinCondition) (index : Nat)
    (s : Statement) : Edited Statement :=
  s.editTable (fun table => Edited.within (Edited.present edit table.joinCondition)
    fun joinCondition => { table with joinCondition }) index

def editSelect (edit : Select → Edited Select) : Statement → Edited Statement
  | select s => Edited.within (edit s) select
  | _ => .error .wrongStatement

def editFilter (edit : Option Condition → Edited (Option Condition)) :
    Statement → Edited Statement
  | select s => Edited.within (edit s.filter) fun filter => select { s with filter }
  | update s => Edited.within (edit s.filter) fun filter => update { s with filter }
  | delete s => Edited.within (edit s.filter) fun filter => delete { s with filter }
  | insert _ => .error .wrongStatement

def editOrderBy (edit : List SortKey → Edited (List SortKey)) : Statement → Edited Statement
  | select s => Edited.within (edit s.orderBy) fun orderBy => select { s with orderBy }
  | update s => Edited.within (edit s.orderBy) fun orderBy => update { s with orderBy }
  | insert _ | delete _ => .error .wrongStatement

def editLimit (edit : Option Limit → Edited (Option Limit)) : Statement → Edited Statement
  | select s => Edited.within (edit s.limit) fun limit => select { s with limit }
  | update s => Edited.within (edit s.limit) fun limit => update { s with limit }
  | insert _ | delete _ => .error .wrongStatement

def editColumns (edit : List Column → Edited (List Column)) : Statement → Edited Statement
  | insert s => Edited.within (edit s.columns) fun columns => insert { s with columns }
  | update s => Edited.within (edit s.columns) fun columns => update { s with columns }
  | select _ | delete _ => .error .wrongStatement

end Statement

/-! ## Conditions by their path -/

/-- An edit of an operand that is a condition. -/
def Operand.editCondition (edit : Condition → Edited Condition) : Operand → Edited Operand
  | .condition c => Edited.within (edit c) .condition
  | _ => .error .noTarget

/-- An edit of the condition that is reached through the given sides. -/
def Condition.editAt (edit : Condition → Edited Condition) (c : Condition) :
    List Side → Edited Condition
  | [] => edit c
  | .left :: sides =>
    Edited.within (Edited.present (Operand.editCondition (·.editAt edit sides)) c.left)
      fun left => { c with left }
  | .right :: sides =>
    Edited.within (Edited.present (Operand.editCondition (·.editAt edit sides)) c.right)
      fun right => { c with right }

/-- An edit of a condition that a call is given; a plain field is given none. -/
def Item.editArgument (edit : Condition → Edited Condition) (index : Nat) : Item → Edited Item
  | .field _ => .error .noTarget
  | .call c =>
    Edited.within (Edited.entry (Operand.editCondition edit) c.arguments index)
      fun arguments => .call { c with arguments }

def Statement.editCondition (edit : Condition → Edited Condition) (path : ConditionPath)
    (s : Statement) : Edited Statement :=
  let edit (c : Condition) := c.editAt edit path.sides
  match path.root with
  | .filter => s.editFilter (Edited.present edit)
  | .having index => s.editSelect fun q =>
    Edited.within (Edited.entry edit q.having index) fun having => { q with having }
  | .join index => s.editJoinCondition (fun j =>
    Edited.within (edit j.condition) fun condition => { j with condition }) index
  | .argument item index => s.editSelect fun q =>
    Edited.within (Edited.entry (Item.editArgument edit index) q.items item)
      fun items => { q with items }

/-! ## Edits at work -/

/-- A column more, if the join condition is stated by columns. -/
def JoinCondition.addColumn (j : JoinCondition) (name : String) : JoinCondition :=
  match j.kind with
  | .columns => { j with columns := j.columns ++ [name] }
  | .condition => j

def Item.changeField (change : FieldChange) : Item → Item
  | .field f => .field (change.apply f)
  | .call c => .call { c with field := change.apply c.field }

def Item.changeCall (change : CallChange) : Item → Edited Item
  | .field _ => .error .noTarget
  | .call c =>
    let report := (change.argument.map fun a => Edit.Report.text a.render).getD .nothing
    .ok (report, .call (change.apply c))

namespace Edit

def apply (s : Statement) : Edit → Edited Statement
  | addTable name alias? =>
    let table : Table := { name, «alias» := alias? }
    .ok (.text table.render, s.withTables (s.tables ++ [table]))
  | addPlaceholder spelling =>
    let placeholders := s.placeholders ++ [spelling]
    .ok (.placeholder spelling placeholders.length, s.withPlaceholders placeholders)
  | setTableName index name =>
    s.editTable (fun table => .ok (.nothing, { table with name })) index
  | setTableAlias index text =>
    s.editTable (fun table => .ok (.nothing, { table with «alias» := some text })) index
  | setTableJoin index join =>
    let lowered := Text.lower join
    s.editTable (fun table => .ok (.text lowered, { table with join := some lowered })) index
  | setJoinCondition index kind =>
    s.editTable (fun table =>
      .ok (.nothing, { table with joinCondition := some { kind, condition := {} } })) index
  | addJoinColumn index name =>
    s.editJoinCondition (fun j =>
      .ok (.columns (j.addColumn name).columns, j.addColumn name)) index
  | changeCondition path change =>
    s.editCondition (fun c =>
      .ok (.condition (change.apply c).render (change.apply c).isGrouping, change.apply c)) path
  | setFilter condition =>
    s.editFilter fun _ => .ok (.text condition.render, some condition)
  | addSortKey key => s.editOrderBy fun keys => .ok (.text key.render, keys ++ [key])
  | setLimit limit => s.editLimit fun _ => .ok (.text limit.render, some limit)
  | setQuantifier quantifier =>
    s.editSelect fun q => .ok (.nothing, { q with quantifier := some quantifier })
  | addItem item =>
    s.editSelect fun q => .ok (.text item.render, { q with items := q.items ++ [item] })
  | changeField index change =>
    s.editSelect fun q =>
      Edited.within (Edited.entry (fun item =>
        .ok (.text (item.changeField change).render, item.changeField change)) q.items index)
        fun items => { q with items }
  | changeCall index change =>
    s.editSelect fun q =>
      Edited.within (Edited.entry (Item.changeCall change) q.items index)
        fun items => { q with items }
  | setGroupBy => s.editSelect fun q => .ok (.nothing, { q with groupBy := some {} })
  | addGroupByColumn name =>
    s.editSelect fun q =>
      Edited.within (Edited.present (fun g =>
        let grown : GroupBy := ⟨g.columns ++ [name]⟩
        .ok (.text grown.render, grown)) q.groupBy) fun groupBy => { q with groupBy }
  | addHaving => s.editSelect fun q => .ok (.nothing, { q with having := q.having ++ [{}] })
  | addColumn column => s.editColumns fun columns => .ok (.nothing, columns ++ [column])
  | changeColumn index change =>
    s.editColumns fun columns =>
      Edited.entry (fun column => .ok (.nothing, change.apply column)) columns index

end Edit

end SqlDml
