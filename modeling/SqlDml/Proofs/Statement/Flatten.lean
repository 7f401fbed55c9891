import SqlDml.Proofs.Spelling.Literal
import SqlDml.Statement.Render

/-!
# The marks of a statement

* `Statement.flatten` and a `flatten` for each part : the marks that the tree calls for, in order;
* `Statement.Clean` and a `Clean` for each part : all that the statement shows can be read back.

A name must be one word or an asterisk, a qualified name one word with the table in it. An operator
or the words of a join must be words or comparisons in upper case. Counts must be 64-bit integers,
numbers finite, and placeholders those of some text.
-/

namespace SqlDml

/-! ## Lists and parentheses -/

namespace Mark

/-- Entries with a comma between them. -/
def commas (entries : List (List Mark)) : List Mark := [punctuation ','].intercalate entries

def parens (ms : List Mark) : List Mark := punctuation '(' :: ms ++ [punctuation ')']

/-- A keyword and what it leads, or nothing. -/
def led (lead : List Mark) : Option (List Mark) → List Mark
  | none => []
  | some ms => lead ++ ms

def names (texts : List String) : List Mark := commas (texts.map fun text => [name text])

end Mark

/-! ## Parts without conditions -/

def Column.valueMark (column : Column) : Mark :=
  match column.value, column.kind with
  | _, some .null => Mark.keyword "null"
  | none, _ => Mark.keyword "null"
  | some value, _ => value.mark

def Column.assignment (column : Column) : List Mark :=
  [Mark.name column.name, Mark.operator "=", column.valueMark]

/-- The name with the table that qualifies it. -/
def Field.fullName (field : Field) : String :=
  (field.table.map (· ++ ".")).getD "" ++ field.name

def Field.mark (field : Field) : Mark :=
  match field.value, field.kind with
  | _, some .null => Mark.keyword "null"
  | some value, _ => value.mark
  | none, _ => Mark.name field.fullName

def Field.aliasMarks (field : Field) : List Mark :=
  Mark.led [Mark.keyword "as"] (field.alias.map fun text => [Mark.name text])

def Field.flatten (field : Field) : List Mark := field.mark :: field.aliasMarks

def GroupBy.flatten (groupBy : GroupBy) : List Mark := Mark.names groupBy.columns

def Direction.mark : Direction → Mark
  | .ascending => Mark.keyword "asc"
  | .descending => Mark.keyword "desc"

def SortKey.flatten (key : SortKey) : List Mark := [Mark.name key.column, key.direction.mark]

def Limit.flatten (limit : Limit) : List Mark :=
  [Mark.keyword "limit", (.integer, .integer (.ofNat limit.rowCount.toNat))] ++
    if limit.offset = 0 then []
    else [Mark.keyword "offset", (.integer, .integer (.ofNat limit.offset.toNat))]

def Quantifier.mark : Quantifier → Mark
  | .distinct => Mark.keyword "distinct"
  | .all => Mark.keyword "all"

def flattenOrderBy (keys : List SortKey) : List Mark :=
  if keys.isEmpty then []
  else [Mark.keyword "order", Mark.keyword "by"] ++ Mark.commas (keys.map SortKey.flatten)

def flattenLimit (limit : Option Limit) : List Mark := Mark.led [] (limit.map Limit.flatten)

/-- One of several conditions after HAVING. -/
def Condition.conjunctMarks (c : Condition) (ms : List Mark) : List Mark :=
  if c.isGrouping || c.isDisjunction then Mark.parens ms else ms

def Condition.flattenHaving : List (Condition × List Mark) → List Mark
  | [] => []
  | [(_, ms)] => Mark.keyword "having" :: ms
  | conditions =>
    Mark.keyword "having" ::
      [Mark.keyword "and"].intercalate (conditions.map fun (c, ms) => c.conjunctMarks ms)

/-- Tables one after another: a comma before each that is not joined. -/
def Table.flattenAll : List (Table × List Mark) → List Mark
  | [] => []
  | (_, ms) :: others =>
    ms ++ others.flatMap fun (t, ms) => (if t.join.isSome then [] else [Mark.punctuation ',']) ++ ms

/-! ## The whole recursion -/

mutual

def Operand.flatten : Operand → List Mark
  | .field f => f.flatten
  | .call c => c.flatten
  | .condition c => c.flatten
  | .query q => Mark.parens q.flatten
  | .list fs => Mark.parens (Mark.commas (fs.map Field.flatten))
termination_by structural operand => operand

def Call.flatten : Call → List Mark
  | ⟨field, arguments, distinct⟩ =>
    Mark.name field.fullName ::
      Mark.parens ((if distinct then [Mark.keyword "distinct"] else []) ++
        Mark.commas (Operand.flattenEach arguments)) ++
      field.aliasMarks
termination_by structural call => call

def Operand.flattenEach : List Operand → List (List Mark)
  | [] => []
  | operand :: others => operand.flatten :: Operand.flattenEach others
termination_by structural operands => operands

/-- An operand of a condition: a condition among them stands in parentheses if it groups. -/
def Operand.flattenOperand? : Option Operand → List Mark
  | none => []
  | some operand =>
    if operand.condition?.any Condition.isGrouping then Mark.parens operand.flatten
    else operand.flatten
termination_by structural operand => operand

def Condition.flatten : Condition → List Mark
  | ⟨left, operator, negated, right⟩ =>
    Operand.flattenOperand? left ++ Mark.phrase (Text.upper operator) ++
      (if negated then [Mark.keyword "not"] else []) ++ Operand.flattenOperand? right
termination_by structural condition => condition

def Condition.flatten? : Option Condition → Option (List Mark)
  | none => none
  | some condition => some condition.flatten
termination_by structural condition => condition

def Condition.flattenEach : List Condition → List (Condition × List Mark)
  | [] => []
  | condition :: others => (condition, condition.flatten) :: Condition.flattenEach others
termination_by structural conditions => conditions

def JoinCondition.flatten : JoinCondition → List Mark
  | ⟨.condition, condition, _⟩ => Mark.keyword "on" :: condition.flatten
  | ⟨.columns, _, columns⟩ => Mark.keyword "using" :: Mark.parens (Mark.names columns)
termination_by structural joinCondition => joinCondition

def JoinCondition.flatten? : Option JoinCondition → List Mark
  | none => []
  | some joinCondition => joinCondition.flatten
termination_by structural joinCondition => joinCondition

def Table.flatten : Table → List Mark
  | ⟨name, alias?, join, joinCondition⟩ =>
    (join.map fun words => Mark.phrase (Text.upper words)).getD [] ++
      Mark.name name :: Mark.led [] (alias?.map fun text => [Mark.name text]) ++
      JoinCondition.flatten? joinCondition
termination_by structural table => table

def Table.flattenEach : List Table → List (Table × List Mark)
  | [] => []
  | table :: others => (table, table.flatten) :: Table.flattenEach others
termination_by structural tables => tables

def Item.flatten : Item → List Mark
  | .field f => f.flatten
  | .call c => c.flatten
termination_by structural item => item

def Item.flattenEach : List Item → List (List Mark)
  | [] => []
  | item :: others => item.flatten :: Item.flattenEach others
termination_by structural items => items

def Select.flatten : Select → List Mark
  | ⟨tables, _, quantifier, items, filter, groupBy, having, orderBy, limit⟩ =>
    [Mark.keyword "select"] ++ Mark.led [] (quantifier.map fun q => [q.mark]) ++
      Mark.commas (Item.flattenEach items) ++
      (if tables.isEmpty then []
        else Mark.keyword "from" :: Table.flattenAll (Table.flattenEach tables)) ++
      Mark.led [Mark.keyword "where"] (Condition.flatten? filter) ++
      Mark.led [Mark.keyword "group", Mark.keyword "by"]
        ((groupBy.filter (!·.columns.isEmpty)).map GroupBy.flatten) ++
      Condition.flattenHaving (Condition.flattenEach having) ++
      flattenOrderBy orderBy ++ flattenLimit limit
termination_by structural query => query

end

/-! ## Statements -/

def flattenTables (tables : List Table) : List Mark := Table.flattenAll (Table.flattenEach tables)

def flattenFilter (filter : Option Condition) : List Mark :=
  Mark.led [Mark.keyword "where"] (Condition.flatten? filter)

def Insert.flatten (s : Insert) : List Mark :=
  [Mark.keyword "insert", Mark.keyword "into"] ++ flattenTables s.tables ++
    if s.columns.isEmpty then []
    else Mark.parens (Mark.names (s.columns.map Column.name)) ++ Mark.keyword "values" ::
      Mark.parens (Mark.commas (s.columns.map fun column => [column.valueMark]))

def Update.flatten (s : Update) : List Mark :=
  Mark.keyword "update" :: flattenTables s.tables ++
    (if s.columns.isEmpty then []
      else Mark.keyword "set" :: Mark.commas (s.columns.map Column.assignment)) ++
    flattenFilter s.filter ++ flattenOrderBy s.orderBy ++ flattenLimit s.limit

def Delete.flatten (s : Delete) : List Mark :=
  [Mark.keyword "delete", Mark.keyword "from"] ++ flattenTables s.tables ++ flattenFilter s.filter

def Statement.flatten : Statement → List Mark
  | .select s => s.flatten
  | .insert s => s.flatten
  | .update s => s.flatten
  | .delete s => s.flatten

/-! ## What can be read back -/

def Column.ValueClean (column : Column) : Prop :=
  match column.value, column.kind with
  | _, some .null => True
  | none, _ => True
  | some value, _ => value.Clean

def Column.Clean (column : Column) : Prop := isName column.name ∧ column.ValueClean

def NamesClean (texts : List String) : Prop := ∀ text ∈ texts, isName text

/-- A value cannot be read back behind the table of its field. -/
def Field.ShownClean (field : Field) : Prop :=
  match field.value, field.kind with
  | _, some .null => field.table = none
  | some value, _ => field.table = none ∧ value.Clean
  | none, _ => isName field.fullName

def AliasClean (alias? : Option String) : Prop := ∀ text ∈ alias?, isName text

def Field.Clean (field : Field) : Prop := field.ShownClean ∧ AliasClean field.alias

def Limit.Clean (limit : Limit) : Prop :=
  limit.rowCount.toNat ≤ Int64.maxValue.toInt ∧ limit.offset.toNat ≤ Int64.maxValue.toInt

def OrderByClean (keys : List SortKey) : Prop := ∀ key ∈ keys, isName key.column

def LimitClean (limit : Option Limit) : Prop := ∀ l ∈ limit, l.Clean

mutual

def Operand.Clean : Operand → Prop
  | .field f => f.Clean
  | .call c => c.Clean
  | .condition c => c.Clean
  | .query q => q.Clean
  | .list fs => ∀ f ∈ fs, f.Clean
termination_by structural operand => operand

def Call.Clean : Call → Prop
  | ⟨field, arguments, _⟩ =>
    isName field.fullName ∧ AliasClean field.alias ∧ Operand.AllClean arguments
termination_by structural call => call

def Operand.AllClean : List Operand → Prop
  | [] => True
  | operand :: others => operand.Clean ∧ Operand.AllClean others
termination_by structural operands => operands

def Operand.Clean? : Option Operand → Prop
  | none => True
  | some operand => operand.Clean
termination_by structural operand => operand

def Condition.Clean : Condition → Prop
  | ⟨left, operator, _, right⟩ =>
    Operand.Clean? left ∧ isPhrase (Text.upper operator) ∧ Operand.Clean? right
termination_by structural condition => condition

def Condition.Clean? : Option Condition → Prop
  | none => True
  | some condition => condition.Clean
termination_by structural condition => condition

def Condition.AllClean : List Condition → Prop
  | [] => True
  | condition :: others => condition.Clean ∧ Condition.AllClean others
termination_by structural conditions => conditions

def JoinCondition.Clean : JoinCondition → Prop
  | ⟨.condition, condition, _⟩ => condition.Clean
  | ⟨.columns, _, columns⟩ => NamesClean columns
termination_by structural joinCondition => joinCondition

def JoinCondition.Clean? : Option JoinCondition → Prop
  | none => True
  | some joinCondition => joinCondition.Clean
termination_by structural joinCondition => joinCondition

def Table.Clean : Table → Prop
  | ⟨name, alias?, join, joinCondition⟩ =>
    isName name ∧ AliasClean alias? ∧ (∀ words ∈ join, isPhrase (Text.upper words)) ∧
      JoinCondition.Clean? joinCondition
termination_by structural table => table

def Table.AllClean : List Table → Prop
  | [] => True
  | table :: others => table.Clean ∧ Table.AllClean others
termination_by structural tables => tables

def Item.Clean : Item → Prop
  | .field f => f.Clean
  | .call c => c.Clean
termination_by structural item => item

def Item.AllClean : List Item → Prop
  | [] => True
  | item :: others => item.Clean ∧ Item.AllClean others
termination_by structural items => items

def Select.Clean : Select → Prop
  | ⟨tables, _, _, items, filter, groupBy, having, orderBy, limit⟩ =>
    Item.AllClean items ∧ Table.AllClean tables ∧ Condition.Clean? filter ∧
      (∀ g ∈ groupBy, NamesClean g.columns) ∧ Condition.AllClean having ∧
      OrderByClean orderBy ∧ LimitClean limit
termination_by structural query => query

end

def Insert.Clean (s : Insert) : Prop := Table.AllClean s.tables ∧ ∀ c ∈ s.columns, c.Clean

def Update.Clean (s : Update) : Prop :=
  Table.AllClean s.tables ∧ (∀ c ∈ s.columns, c.Clean) ∧ Condition.Clean? s.filter ∧
    OrderByClean s.orderBy ∧ LimitClean s.limit

def Delete.Clean (s : Delete) : Prop := Table.AllClean s.tables ∧ Condition.Clean? s.filter

def Statement.Clean : Statement → Prop
  | .select s => s.Clean
  | .insert s => s.Clean
  | .update s => s.Clean
  | .delete s => s.Clean

/-! ## Part by part -/

@[simp] theorem Operand.flattenEach_eq_map (operands : List Operand) :
    Operand.flattenEach operands = operands.map Operand.flatten := by
  induction operands with
  | nil => rfl
  | cons operand others ih => rw [Operand.flattenEach, ih, List.map_cons]

@[simp] theorem Condition.flattenEach_eq_map (conditions : List Condition) :
    Condition.flattenEach conditions = conditions.map fun c => (c, c.flatten) := by
  induction conditions with
  | nil => rfl
  | cons condition others ih => rw [Condition.flattenEach, ih, List.map_cons]

@[simp] theorem Table.flattenEach_eq_map (tables : List Table) :
    Table.flattenEach tables = tables.map fun t => (t, t.flatten) := by
  induction tables with
  | nil => rfl
  | cons table others ih => rw [Table.flattenEach, ih, List.map_cons]

@[simp] theorem Item.flattenEach_eq_map (items : List Item) :
    Item.flattenEach items = items.map Item.flatten := by
  induction items with
  | nil => rfl
  | cons item others ih => rw [Item.flattenEach, ih, List.map_cons]

@[simp] theorem Condition.flatten?_eq_map (condition : Option Condition) :
    Condition.flatten? condition = condition.map Condition.flatten := by
  cases condition <;> rfl

theorem Condition.assembleHaving_cons_cons (c d : Condition) (others : List Condition) :
    assembleHaving (renderEach (c :: d :: others)) =
      " HAVING " ++ " AND ".intercalate
        ((c :: d :: others).map fun e => e.conjunct e.render) := by
  rw [renderEach_eq_map]
  simp only [List.map_cons, assembleHaving, List.map_map]
  rfl

theorem Condition.flattenHaving_cons_cons (c d : Condition) (others : List Condition) :
    flattenHaving (flattenEach (c :: d :: others)) =
      Mark.keyword "having" :: [Mark.keyword "and"].intercalate
        ((c :: d :: others).map fun e => e.conjunctMarks e.flatten) := by
  rw [flattenEach_eq_map]
  simp only [List.map_cons, flattenHaving, List.map_map]
  rfl

end SqlDml
