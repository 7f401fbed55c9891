import SqlDml.Statement.Basic

/-!
# Equality of statements

* `==` on statements and their parts : the same parts in the same places, values compared as
  values.

So two nodes are equal if they differ in nothing but the sign of zeros, and a node that holds a NaN
equals nothing, itself included.
-/

namespace SqlDml

instance : BEq Column where
  beq a b := a.name == b.name && a.value == b.value && a.kind == b.kind

instance : BEq Field where
  beq a b := a.toColumn == b.toColumn && a.table == b.table && a.alias == b.alias

mutual

def Operand.eqv : Operand → Operand → Bool
  | .field a, .field b => a == b
  | .call a, .call b => a.eqv b
  | .condition a, .condition b => a.eqv b
  | .query a, .query b => a.eqv b
  | .list as, .list bs => as == bs
  | _, _ => false
termination_by structural a => a

def Call.eqv : Call → Call → Bool
  | ⟨field, arguments, distinct⟩, b =>
    field == b.field && Operand.eqvEach arguments b.arguments && distinct == b.distinct
termination_by structural a => a

def Operand.eqvEach : List Operand → List Operand → Bool
  | [], [] => true
  | a :: as, b :: bs => a.eqv b && Operand.eqvEach as bs
  | _, _ => false
termination_by structural as => as

def Operand.eqv? : Option Operand → Option Operand → Bool
  | none, none => true
  | some a, some b => a.eqv b
  | _, _ => false
termination_by structural a => a

def Condition.eqv : Condition → Condition → Bool
  | ⟨left, operator, negated, right⟩, b =>
    Operand.eqv? left b.left && Operand.eqv? right b.right && operator == b.operator &&
      negated == b.negated
termination_by structural a => a

def Condition.eqv? : Option Condition → Option Condition → Bool
  | none, none => true
  | some a, some b => a.eqv b
  | _, _ => false
termination_by structural a => a

def Condition.eqvEach : List Condition → List Condition → Bool
  | [], [] => true
  | a :: as, b :: bs => a.eqv b && Condition.eqvEach as bs
  | _, _ => false
termination_by structural as => as

def JoinCondition.eqv : JoinCondition → JoinCondition → Bool
  | ⟨kind, condition, columns⟩, b =>
    kind == b.kind && condition.eqv b.condition && columns == b.columns
termination_by structural a => a

def JoinCondition.eqv? : Option JoinCondition → Option JoinCondition → Bool
  | none, none => true
  | some a, some b => a.eqv b
  | _, _ => false
termination_by structural a => a

def Table.eqv : Table → Table → Bool
  | ⟨name, alias?, join, joinCondition⟩, b =>
    name == b.name && alias? == b.alias && join == b.join &&
      JoinCondition.eqv? joinCondition b.joinCondition
termination_by structural a => a

def Table.eqvEach : List Table → List Table → Bool
  | [], [] => true
  | a :: as, b :: bs => a.eqv b && Table.eqvEach as bs
  | _, _ => false
termination_by structural as => as

def Item.eqv : Item → Item → Bool
  | .field a, .field b => a == b
  | .call a, .call b => a.eqv b
  | _, _ => false
termination_by structural a => a

def Item.eqvEach : List Item → List Item → Bool
  | [], [] => true
  | a :: as, b :: bs => a.eqv b && Item.eqvEach as bs
  | _, _ => false
termination_by structural as => as

def Select.eqv : Select → Select → Bool
  | ⟨tables, placeholders, quantifier, items, filter, groupBy, having, orderBy, limit⟩, b =>
    Table.eqvEach tables b.tables && placeholders == b.placeholders &&
      quantifier == b.quantifier && Item.eqvEach items b.items &&
      Condition.eqv? filter b.filter && groupBy == b.groupBy &&
      Condition.eqvEach having b.having && orderBy == b.orderBy && limit == b.limit
termination_by structural a => a

end

instance : BEq Operand := ⟨Operand.eqv⟩
instance : BEq Call := ⟨Call.eqv⟩
instance : BEq Condition := ⟨Condition.eqv⟩
instance : BEq JoinCondition := ⟨JoinCondition.eqv⟩
instance : BEq Table := ⟨Table.eqv⟩
instance : BEq Item := ⟨Item.eqv⟩
instance : BEq Select := ⟨Select.eqv⟩

instance : BEq Insert where
  beq a b := a.tables == b.tables && a.placeholders == b.placeholders && a.columns == b.columns

instance : BEq Update where
  beq a b :=
    a.tables == b.tables && a.placeholders == b.placeholders && a.columns == b.columns &&
      a.filter == b.filter && a.orderBy == b.orderBy && a.limit == b.limit

instance : BEq Delete where
  beq a b := a.tables == b.tables && a.placeholders == b.placeholders && a.filter == b.filter

def Statement.eqv : Statement → Statement → Bool
  | .select a, .select b => a == b
  | .insert a, .insert b => a == b
  | .update a, .update b => a == b
  | .delete a, .delete b => a == b
  | _, _ => false

instance : BEq Statement := ⟨Statement.eqv⟩

end SqlDml
