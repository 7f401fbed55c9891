import SqlDml.Literal

/-!
# Statements

* `Column`, `Field`, `Call`, `Item` : what a statement names or computes;
* `Condition`, `Operand` : conditions, which nest to any depth and may hold whole queries;
* `Table`, `JoinCondition` : tables and how they are joined;
* `Select`, `Insert`, `Update`, `Delete`, `Statement` : the four kinds of statement.

A part that is absent is `none`, and so is every part of which a statement of its kind is free.
-/

namespace SqlDml

/-! ## Columns and fields -/

/-- A column, with the value that it is set to, if any. The kind is stated by itself: nothing ties
it to the value. -/
structure Column where
  name : String
  value : Option Literal := none
  kind : Option ValueKind := none
  deriving Repr, Inhabited

/-- A column that is set to a value, of that value's kind. -/
def Column.ofValue (name : String) (value : Literal) : Column := ⟨name, some value, some value.kind⟩

/-- A column or a value in a list or condition, perhaps qualified by a table and renamed. -/
structure Field extends Column where
  table : Option String := none
  «alias» : Option String := none
  deriving Repr, Inhabited

namespace Field

def ofName (name : String) : Field := { name }

/-- A field without a name that stands for a value. -/
def ofLiteral (value : Literal) : Field := { Column.ofValue "" value with }

end Field

/-! ## Clauses -/

/-- What a join condition is stated by. -/
inductive JoinKind where
  /-- By a condition, after ON. -/
  | condition
  /-- By the columns that the tables share, after USING. -/
  | columns
  deriving Repr, DecidableEq, Inhabited

structure GroupBy where
  columns : List String := []
  deriving Repr, DecidableEq, Inhabited

inductive Direction where
  | ascending
  | descending
  deriving Repr, DecidableEq, Inhabited

/-- The direction that a canonical word names, in either case of its ASCII letters. -/
def Direction.ofWord? (word : String) : Option Direction :=
  let lowered := word.toList.map Char.toLower
  if lowered = ['a', 's', 'c'] then some .ascending
  else if lowered = ['d', 'e', 's', 'c'] then some .descending
  else none

/-- A column to sort by. -/
structure SortKey where
  column : String
  direction : Direction := .ascending
  deriving Repr, DecidableEq, Inhabited

/-- How many rows to give, and how many to leave out before them; none are left out at zero. -/
structure Limit where
  rowCount : UInt64 := 0
  offset : UInt64 := 0
  deriving Repr, DecidableEq, Inhabited

/-- Whether equal rows are given once or each time. -/
inductive Quantifier where
  | distinct
  | all
  deriving Repr, DecidableEq, Inhabited

inductive Command where
  | select
  | insert
  | update
  | delete
  deriving Repr, DecidableEq, Inhabited

/-! ## Conditions, tables and queries -/

mutual

/-- What a condition compares, or what a function is called with. -/
inductive Operand where
  | field (field : Field)
  | call (call : Call)
  | condition (condition : Condition)
  | query (query : Select)
  /-- A list of values, as IN takes it. -/
  | list (fields : List Field)

/-- A call of a function: the field gives its name, qualification and alias. -/
structure Call where
  field : Field
  arguments : List Operand := []
  distinct : Bool := false

/-- A condition: two operands, an operator between them and perhaps NOT before the second. Any part
may be left out. A compound condition has conditions as operands. -/
structure Condition where
  left : Option Operand := none
  operator : String := ""
  negated : Bool := false
  right : Option Operand := none

/-- What joins a table to those before it. -/
structure JoinCondition where
  kind : JoinKind
  condition : Condition
  columns : List String := []

/-- A table, with the words that join it to those before it, if any. -/
structure Table where
  name : String
  «alias» : Option String := none
  join : Option String := none
  joinCondition : Option JoinCondition := none

/-- An entry of the list of what a query gives. -/
inductive Item where
  | field (field : Field)
  | call (call : Call)

structure Select where
  tables : List Table := []
  placeholders : List String := []
  quantifier : Option Quantifier := none
  items : List Item := []
  filter : Option Condition := none
  groupBy : Option GroupBy := none
  having : List Condition := []
  orderBy : List SortKey := []
  limit : Option Limit := none

end

instance : Inhabited Condition := ⟨{}⟩
instance : Inhabited Select := ⟨{}⟩
instance : Inhabited Operand := ⟨.condition {}⟩
instance : Inhabited Call := ⟨{ field := default }⟩
instance : Inhabited JoinCondition := ⟨{ kind := default, condition := {} }⟩
instance : Inhabited Table := ⟨{ name := "" }⟩
instance : Inhabited Item := ⟨.field default⟩

namespace Operand

def isCondition : Operand → Bool
  | condition _ => true
  | _ => false

def condition? : Operand → Option Condition
  | condition c => some c
  | _ => none

end Operand

namespace Condition

/-- Whether an operand is a condition, so that this one groups others. -/
def isGrouping (c : Condition) : Bool :=
  c.left.any Operand.isCondition || c.right.any Operand.isCondition

/-- Whether the operator is OR, in either case of its letters. -/
def isDisjunction (c : Condition) : Bool := c.operator.toList.map Char.toLower == ['o', 'r']

end Condition

/-- The field part of an entry: that of a call names the function. -/
def Item.toField : Item → Field
  | .field f => f
  | .call c => c.field

/-! ## Statements -/

structure Insert where
  tables : List Table := []
  placeholders : List String := []
  columns : List Column := []
  deriving Inhabited

structure Update where
  tables : List Table := []
  placeholders : List String := []
  columns : List Column := []
  filter : Option Condition := none
  orderBy : List SortKey := []
  limit : Option Limit := none
  deriving Inhabited

structure Delete where
  tables : List Table := []
  placeholders : List String := []
  filter : Option Condition := none
  deriving Inhabited

inductive Statement where
  | select (s : Select)
  | insert (s : Insert)
  | update (s : Update)
  | delete (s : Delete)
  deriving Inhabited

namespace Statement

/-- The statement of a kind with nothing in it. -/
def empty : Command → Statement
  | .select => select {}
  | .insert => insert {}
  | .update => update {}
  | .delete => delete {}

def command : Statement → Command
  | select _ => .select
  | insert _ => .insert
  | update _ => .update
  | delete _ => .delete

def tables : Statement → List Table
  | select s => s.tables
  | insert s => s.tables
  | update s => s.tables
  | delete s => s.tables

def placeholders : Statement → List String
  | select s => s.placeholders
  | insert s => s.placeholders
  | update s => s.placeholders
  | delete s => s.placeholders

end Statement

end SqlDml
