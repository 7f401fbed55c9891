import SqlDml.Statement.Basic
import SqlDml.Text.Case

/-!
# The text of a statement

* `Statement.render` and a `render` for each of its parts : one line, keywords in upper case;
* `Condition.render` : operands that group conditions stand in parentheses;
* `Select.render` : of several conditions after HAVING, those that AND would bind into stand in
  parentheses.

An absent part leaves no trace, not even a blank. The functions on lists and options render part by
part (`renderEach_eq_map` and its like).
-/

namespace SqlDml

/-! ## Pieces -/

/-- Entries with a comma and a blank between them. -/
def commaList (entries : List String) : String := ", ".intercalate entries

def parenthesized (text : String) : String := "(" ++ text ++ ")"

/-- `lead` and the text, or nothing. -/
def clause (lead : String) : Option String → String
  | none => ""
  | some text => lead ++ text

/-! ## Clauses without conditions -/

def Column.renderValue (column : Column) : String :=
  match column.value, column.kind with
  | _, some .null => "NULL"
  | none, _ => "NULL"
  | some value, _ => value.render

def Column.renderAssignment (column : Column) : String :=
  column.name ++ " = " ++ column.renderValue

/-- What a field shows: null if that is its kind, else its value, else its name. -/
def Field.shown (field : Field) : String :=
  match field.value, field.kind with
  | _, some .null => "NULL"
  | some value, _ => value.render
  | none, _ => field.name

/-- `body` between the table that qualifies it and its alias. -/
def Field.dress (field : Field) (body : String) : String :=
  (field.table.map (· ++ ".")).getD "" ++ body ++ clause " AS " field.alias

def Field.render (field : Field) : String := field.dress field.shown

def GroupBy.render (groupBy : GroupBy) : String := commaList groupBy.columns

def Direction.render : Direction → String
  | .ascending => "ASC"
  | .descending => "DESC"

def SortKey.render (key : SortKey) : String := key.column ++ " " ++ key.direction.render

def Limit.render (limit : Limit) : String :=
  "LIMIT " ++ toString limit.rowCount.toNat ++
    if limit.offset = 0 then "" else " OFFSET " ++ toString limit.offset.toNat

def Quantifier.render : Quantifier → String
  | .distinct => "DISTINCT"
  | .all => "ALL"

def Command.render : Command → String
  | .select => "select"
  | .insert => "insert"
  | .update => "update"
  | .delete => "delete"

def renderOrderBy (keys : List SortKey) : String :=
  if keys.isEmpty then "" else " ORDER BY " ++ commaList (keys.map SortKey.render)

def renderLimit (limit : Option Limit) : String := clause " " (limit.map Limit.render)

/-! ## Conditions and tables, given the text of their parts -/

/-- Left operand, operator, NOT and right operand, those that are there, with a blank between. -/
def Condition.assemble (c : Condition) (left right : Option String) : String :=
  " ".intercalate
    (left.toList ++ (if c.operator = "" then [] else [Text.upper c.operator]) ++
      (if c.negated then ["NOT"] else []) ++ right.toList)

def JoinCondition.assemble (j : JoinCondition) (condition : String) : String :=
  match j.kind with
  | .condition => " ON " ++ condition
  | .columns => " USING " ++ parenthesized (commaList j.columns)

def Table.assemble (t : Table) (joinCondition : Option String) : String :=
  (t.join.map (Text.upper · ++ " ")).getD "" ++ t.name ++ clause " " t.alias ++
    joinCondition.getD ""

/-- Tables one after another: a comma before each, or a blank if it is joined. -/
def Table.assembleAll : List (Table × String) → String
  | [] => ""
  | (_, text) :: others =>
    text ++ String.join (others.map fun (t, text) => (if t.join.isSome then " " else ", ") ++ text)

/-- One of several conditions joined by AND, in parentheses if AND would bind into it. -/
def Condition.conjunct (c : Condition) (text : String) : String :=
  if c.isGrouping || c.isDisjunction then parenthesized text else text

def Condition.assembleHaving : List (Condition × String) → String
  | [] => ""
  | [(_, text)] => " HAVING " ++ text
  | conditions =>
    " HAVING " ++ " AND ".intercalate (conditions.map fun (c, text) => c.conjunct text)

def Call.assemble (call : Call) (arguments : List String) : String :=
  call.field.dress
    (call.field.name ++
      parenthesized ((if call.distinct then "DISTINCT " else "") ++ commaList arguments))

/-! ## The whole recursion -/

mutual

def Operand.render : Operand → String
  | .field f => f.render
  | .call c => c.render
  | .condition c => c.render
  | .query q => parenthesized q.render
  | .list fs => parenthesized (commaList (fs.map Field.render))
termination_by structural operand => operand

def Call.render : Call → String
  | ⟨field, arguments, distinct⟩ =>
    Call.assemble ⟨field, arguments, distinct⟩ (Operand.renderEach arguments)
termination_by structural call => call

def Operand.renderEach : List Operand → List String
  | [] => []
  | operand :: others => operand.render :: Operand.renderEach others
termination_by structural operands => operands

/-- The operands of a condition; a condition among them stands in parentheses if it groups. -/
def Operand.renderOperand? : Option Operand → Option String
  | none => none
  | some operand =>
    let text := operand.render
    if operand.condition?.any Condition.isGrouping then some (parenthesized text) else some text
termination_by structural operand => operand

def Condition.render : Condition → String
  | ⟨left, operator, negated, right⟩ =>
    Condition.assemble ⟨left, operator, negated, right⟩
      (Operand.renderOperand? left) (Operand.renderOperand? right)
termination_by structural condition => condition

def Condition.render? : Option Condition → Option String
  | none => none
  | some condition => some condition.render
termination_by structural condition => condition

def Condition.renderEach : List Condition → List (Condition × String)
  | [] => []
  | condition :: others => (condition, condition.render) :: Condition.renderEach others
termination_by structural conditions => conditions

def JoinCondition.render : JoinCondition → String
  | ⟨kind, condition, columns⟩ =>
    JoinCondition.assemble ⟨kind, condition, columns⟩ condition.render
termination_by structural joinCondition => joinCondition

def JoinCondition.render? : Option JoinCondition → Option String
  | none => none
  | some joinCondition => some joinCondition.render
termination_by structural joinCondition => joinCondition

def Table.render : Table → String
  | ⟨name, alias?, join, joinCondition⟩ =>
    Table.assemble ⟨name, alias?, join, joinCondition⟩ (JoinCondition.render? joinCondition)
termination_by structural table => table

def Table.renderEach : List Table → List (Table × String)
  | [] => []
  | table :: others => (table, table.render) :: Table.renderEach others
termination_by structural tables => tables

def Item.render : Item → String
  | .field f => f.render
  | .call c => c.render
termination_by structural item => item

def Item.renderEach : List Item → List String
  | [] => []
  | item :: others => item.render :: Item.renderEach others
termination_by structural items => items

def Select.render : Select → String
  | ⟨tables, _, quantifier, items, filter, groupBy, having, orderBy, limit⟩ =>
    "SELECT" ++ clause " " (quantifier.map Quantifier.render) ++
      (if items.isEmpty then "" else " " ++ commaList (Item.renderEach items)) ++
      (if tables.isEmpty then ""
        else " FROM " ++ Table.assembleAll (Table.renderEach tables)) ++
      clause " WHERE " (Condition.render? filter) ++
      clause " GROUP BY " ((groupBy.filter (!·.columns.isEmpty)).map GroupBy.render) ++
      Condition.assembleHaving (Condition.renderEach having) ++
      renderOrderBy orderBy ++ renderLimit limit
termination_by structural query => query

end

/-! ## Part by part -/

@[simp] theorem Operand.renderEach_eq_map (operands : List Operand) :
    Operand.renderEach operands = operands.map Operand.render := by
  induction operands with
  | nil => rfl
  | cons operand others ih => rw [Operand.renderEach, ih, List.map_cons]

@[simp] theorem Condition.renderEach_eq_map (conditions : List Condition) :
    Condition.renderEach conditions = conditions.map fun c => (c, c.render) := by
  induction conditions with
  | nil => rfl
  | cons condition others ih => rw [Condition.renderEach, ih, List.map_cons]

@[simp] theorem Table.renderEach_eq_map (tables : List Table) :
    Table.renderEach tables = tables.map fun t => (t, t.render) := by
  induction tables with
  | nil => rfl
  | cons table others ih => rw [Table.renderEach, ih, List.map_cons]

@[simp] theorem Item.renderEach_eq_map (items : List Item) :
    Item.renderEach items = items.map Item.render := by
  induction items with
  | nil => rfl
  | cons item others ih => rw [Item.renderEach, ih, List.map_cons]

@[simp] theorem Condition.render?_eq_map (condition : Option Condition) :
    Condition.render? condition = condition.map Condition.render := by
  cases condition <;> rfl

/-! ## Statements -/

def renderTables (tables : List Table) : String :=
  Table.assembleAll (Table.renderEach tables)

def renderFilter (filter : Option Condition) : String :=
  clause " WHERE " (Condition.render? filter)

def Insert.render (s : Insert) : String :=
  "INSERT INTO " ++ renderTables s.tables ++
    if s.columns.isEmpty then ""
    else " " ++ parenthesized (commaList (s.columns.map Column.name)) ++
      " VALUES " ++ parenthesized (commaList (s.columns.map Column.renderValue))

def Update.render (s : Update) : String :=
  "UPDATE " ++ renderTables s.tables ++
    (if s.columns.isEmpty then ""
      else " SET " ++ commaList (s.columns.map Column.renderAssignment)) ++
    renderFilter s.filter ++ renderOrderBy s.orderBy ++ renderLimit s.limit

def Delete.render (s : Delete) : String :=
  "DELETE FROM " ++ renderTables s.tables ++ renderFilter s.filter

def Statement.render : Statement → String
  | .select s => s.render
  | .insert s => s.render
  | .update s => s.render
  | .delete s => s.render

end SqlDml
