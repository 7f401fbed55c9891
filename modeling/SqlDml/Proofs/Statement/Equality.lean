import SqlDml.Proofs.Binary64.Equality
import SqlDml.Statement.Equality
import SqlDml.Statement.Render

/-!
# When statements are equal

* `Statement.reals` and a `reals` for each part : the real numbers in it, at any depth;
* `Statement.mergeZeros` and a `mergeZeros` for each part : it with zero for every negative zero;
* `Compares` : how two nodes compare that hold given real numbers;
* `Statement.compares` and a `compares` for each part : nodes compare by their real numbers and by
  what they are with zeros merged;
* `equalUpToZero_nodes` : what equality therefore says of the nodes of each type.

All values count, also one that is not shown since the kind is null. How a node compares is put
together from how its parts do, in the order in which they stand.
-/

namespace SqlDml

/-! ## The real numbers in a node -/

namespace Literal

def reals : Literal → List Binary64
  | real x => [x]
  | _ => []

def mergeZeros : Literal → Literal
  | real x => real x.mergeZeros
  | literal => literal

end Literal

def Column.reals (column : Column) : List Binary64 := column.value.elim [] Literal.reals

def Column.mergeZeros (column : Column) : Column :=
  { column with value := column.value.map Literal.mergeZeros }

def Field.reals (field : Field) : List Binary64 := field.toColumn.reals

def Field.mergeZeros (field : Field) : Field :=
  { field with toColumn := field.toColumn.mergeZeros }

mutual

def Operand.reals : Operand → List Binary64
  | .field f => f.reals
  | .call c => c.reals
  | .condition c => c.reals
  | .query q => q.reals
  | .list fs => fs.flatMap Field.reals
termination_by structural operand => operand

def Call.reals : Call → List Binary64
  | ⟨field, arguments, _⟩ => field.reals ++ Operand.realsEach arguments
termination_by structural call => call

def Operand.realsEach : List Operand → List Binary64
  | [] => []
  | operand :: others => operand.reals ++ Operand.realsEach others
termination_by structural operands => operands

def Operand.reals? : Option Operand → List Binary64
  | none => []
  | some operand => operand.reals
termination_by structural operand => operand

def Condition.reals : Condition → List Binary64
  | ⟨left, _, _, right⟩ => Operand.reals? left ++ Operand.reals? right
termination_by structural condition => condition

def Condition.reals? : Option Condition → List Binary64
  | none => []
  | some condition => condition.reals
termination_by structural condition => condition

def Condition.realsEach : List Condition → List Binary64
  | [] => []
  | condition :: others => condition.reals ++ Condition.realsEach others
termination_by structural conditions => conditions

def JoinCondition.reals : JoinCondition → List Binary64
  | ⟨_, condition, _⟩ => condition.reals
termination_by structural joinCondition => joinCondition

def JoinCondition.reals? : Option JoinCondition → List Binary64
  | none => []
  | some joinCondition => joinCondition.reals
termination_by structural joinCondition => joinCondition

def Table.reals : Table → List Binary64
  | ⟨_, _, _, joinCondition⟩ => JoinCondition.reals? joinCondition
termination_by structural table => table

def Table.realsEach : List Table → List Binary64
  | [] => []
  | table :: others => table.reals ++ Table.realsEach others
termination_by structural tables => tables

def Item.reals : Item → List Binary64
  | .field f => f.reals
  | .call c => c.reals
termination_by structural item => item

def Item.realsEach : List Item → List Binary64
  | [] => []
  | item :: others => item.reals ++ Item.realsEach others
termination_by structural items => items

def Select.reals : Select → List Binary64
  | ⟨tables, _, _, items, filter, _, having, _, _⟩ =>
    Table.realsEach tables ++ Item.realsEach items ++ Condition.reals? filter ++
      Condition.realsEach having
termination_by structural query => query

end

mutual

def Operand.mergeZeros : Operand → Operand
  | .field f => .field f.mergeZeros
  | .call c => .call c.mergeZeros
  | .condition c => .condition c.mergeZeros
  | .query q => .query q.mergeZeros
  | .list fs => .list (fs.map Field.mergeZeros)
termination_by structural operand => operand

def Call.mergeZeros : Call → Call
  | ⟨field, arguments, distinct⟩ =>
    ⟨field.mergeZeros, Operand.mergeZerosEach arguments, distinct⟩
termination_by structural call => call

def Operand.mergeZerosEach : List Operand → List Operand
  | [] => []
  | operand :: others => operand.mergeZeros :: Operand.mergeZerosEach others
termination_by structural operands => operands

def Operand.mergeZeros? : Option Operand → Option Operand
  | none => none
  | some operand => some operand.mergeZeros
termination_by structural operand => operand

def Condition.mergeZeros : Condition → Condition
  | ⟨left, operator, negated, right⟩ =>
    ⟨Operand.mergeZeros? left, operator, negated, Operand.mergeZeros? right⟩
termination_by structural condition => condition

def Condition.mergeZeros? : Option Condition → Option Condition
  | none => none
  | some condition => some condition.mergeZeros
termination_by structural condition => condition

def Condition.mergeZerosEach : List Condition → List Condition
  | [] => []
  | condition :: others => condition.mergeZeros :: Condition.mergeZerosEach others
termination_by structural conditions => conditions

def JoinCondition.mergeZeros : JoinCondition → JoinCondition
  | ⟨kind, condition, columns⟩ => ⟨kind, condition.mergeZeros, columns⟩
termination_by structural joinCondition => joinCondition

def JoinCondition.mergeZeros? : Option JoinCondition → Option JoinCondition
  | none => none
  | some joinCondition => some joinCondition.mergeZeros
termination_by structural joinCondition => joinCondition

def Table.mergeZeros : Table → Table
  | ⟨name, alias?, join, joinCondition⟩ =>
    ⟨name, alias?, join, JoinCondition.mergeZeros? joinCondition⟩
termination_by structural table => table

def Table.mergeZerosEach : List Table → List Table
  | [] => []
  | table :: others => table.mergeZeros :: Table.mergeZerosEach others
termination_by structural tables => tables

def Item.mergeZeros : Item → Item
  | .field f => .field f.mergeZeros
  | .call c => .call c.mergeZeros
termination_by structural item => item

def Item.mergeZerosEach : List Item → List Item
  | [] => []
  | item :: others => item.mergeZeros :: Item.mergeZerosEach others
termination_by structural items => items

def Select.mergeZeros : Select → Select
  | ⟨tables, placeholders, quantifier, items, filter, groupBy, having, orderBy, limit⟩ =>
    ⟨Table.mergeZerosEach tables, placeholders, quantifier, Item.mergeZerosEach items,
      Condition.mergeZeros? filter, groupBy, Condition.mergeZerosEach having, orderBy, limit⟩
termination_by structural query => query

end

def Insert.reals (s : Insert) : List Binary64 :=
  s.tables.flatMap Table.reals ++ s.columns.flatMap Column.reals

def Insert.mergeZeros (s : Insert) : Insert :=
  { s with tables := s.tables.map Table.mergeZeros, columns := s.columns.map Column.mergeZeros }

def Update.reals (s : Update) : List Binary64 :=
  s.tables.flatMap Table.reals ++ s.columns.flatMap Column.reals ++
    s.filter.elim [] Condition.reals

def Update.mergeZeros (s : Update) : Update :=
  { s with
    tables := s.tables.map Table.mergeZeros
    columns := s.columns.map Column.mergeZeros
    filter := s.filter.map Condition.mergeZeros }

def Delete.reals (s : Delete) : List Binary64 :=
  s.tables.flatMap Table.reals ++ s.filter.elim [] Condition.reals

def Delete.mergeZeros (s : Delete) : Delete :=
  { s with
    tables := s.tables.map Table.mergeZeros, filter := s.filter.map Condition.mergeZeros }

namespace Statement

def reals : Statement → List Binary64
  | select s => s.reals
  | insert s => s.reals
  | update s => s.reals
  | delete s => s.reals

def mergeZeros : Statement → Statement
  | select s => select s.mergeZeros
  | insert s => insert s.mergeZeros
  | update s => update s.mergeZeros
  | delete s => delete s.mergeZeros

end Statement

/-! ## Comparing nodes by their real numbers -/

/-- How two nodes compare that hold the real numbers `xs` and `ys`: they are `equal` if neither
holds a NaN and they are one with zeros `merged`, and then the `same` if there is no zero. -/
structure Compares (equal : Prop) (xs ys : List Binary64) (same merged : Prop) : Prop where
  equal_iff : equal ↔ NaNFree xs ∧ NaNFree ys ∧ merged
  same_of_equal : equal → ZeroFree xs → same

namespace Compares

variable {equal equal' same same' merged merged' : Prop} {xs xs' ys ys' : List Binary64}

/-- Parts without real numbers are equal if they are the same. -/
theorem plain (p : Prop) : Compares p [] [] p p :=
  ⟨by simp [nanFree_nil], fun h _ => h⟩

theorem and (h : Compares equal xs ys same merged) (h' : Compares equal' xs' ys' same' merged') :
    Compares (equal ∧ equal') (xs ++ xs') (ys ++ ys') (same ∧ same') (merged ∧ merged') := by
  constructor
  · rw [h.equal_iff, h'.equal_iff, nanFree_append, nanFree_append]
    exact and_and_and_comm.trans (and_congr_right fun _ => and_and_and_comm)
  · rintro ⟨he, he'⟩ hz
    obtain ⟨hxs, hxs'⟩ := zeroFree_append.1 hz
    exact ⟨h.same_of_equal he hxs, h'.same_of_equal he' hxs'⟩

theorem andPlain (h : Compares equal xs ys same merged) (p : Prop) :
    Compares (equal ∧ p) xs ys (same ∧ p) (merged ∧ p) := by
  have hboth := h.and (plain p)
  rwa [List.append_nil, List.append_nil] at hboth

theorem of_iff (h : Compares equal xs ys same merged) (he : equal' ↔ equal) (hs : same' ↔ same)
    (hm : merged' ↔ merged) : Compares equal' xs ys same' merged' := by
  rwa [he, hs, hm]

/-- Nodes of one form compare as what that form holds. -/
theorem inj {α β : Type} {a b a' b' : α} {f : α → β}
    (h : Compares equal xs ys (a = b) (a' = b')) (hf : ∀ {a b}, f a = f b → a = b) :
    Compares equal xs ys (f a = f b) (f a' = f b') :=
  h.of_iff Iff.rfl ⟨hf, congrArg f⟩ ⟨hf, congrArg f⟩

/-- Nodes of different forms are not equal. -/
theorem never (he : ¬equal) (hm : ¬merged) : Compares equal xs ys same merged :=
  ⟨⟨fun h => absurd h he, fun h => absurd h.2.2 hm⟩, fun h => absurd h he⟩

/-- A node without real numbers equals itself. -/
theorem self {α : Type} {e : Bool} (he : e = true) (a : α) : Compares e [] [] (a = a) (a = a) :=
  (plain True).of_iff (by simp [he]) (by simp) (by simp)

theorem cons {α : Type} {e e' : Bool} {a b a' b' : α} {as bs as' bs' : List α}
    (h : Compares e xs ys (a = b) (a' = b')) (h' : Compares e' xs' ys' (as = bs) (as' = bs')) :
    Compares (e && e') (xs ++ xs') (ys ++ ys') (a :: as = b :: bs) (a' :: as' = b' :: bs') :=
  (h.and h').of_iff (by simp) (by simp) (by simp)

section

variable {α : Type} [BEq α] {reals : α → List Binary64} {mergeZeros : α → α}
  (h : ∀ a b, Compares (a == b) (reals a) (reals b) (a = b) (mergeZeros a = mergeZeros b))

include h

theorem list : ∀ as bs : List α,
    Compares (as == bs) (as.flatMap reals) (bs.flatMap reals) (as = bs)
      (as.map mergeZeros = bs.map mergeZeros)
  | [], [] => .self rfl _
  | a :: as, b :: bs => (h a b).cons (list as bs)
  | [], _ :: _ | _ :: _, [] => .never nofun nofun

theorem option : ∀ a b : Option α,
    Compares (a == b) (a.elim [] reals) (b.elim [] reals) (a = b)
      (a.map mergeZeros = b.map mergeZeros)
  | none, none => .self rfl _
  | some a, some b => (h a b).inj Option.some.inj
  | none, some _ | some _, none => .never nofun nofun

end

end Compares

theorem Binary64.compares (x y : Binary64) :
    Compares (x == y) [x] [y] (x = y) (x.mergeZeros = y.mergeZeros) := by
  constructor
  · rw [nanFree_singleton, nanFree_singleton, beq_iff]
  · exact fun h hz => eq_of_beq h (hz x (.head []))

theorem Literal.compares (v w : Literal) :
    Compares (v == w) v.reals w.reals (v = w) (v.mergeZeros = w.mergeZeros) := by
  cases v with
  | real x =>
    cases w with
    | real y => exact (x.compares y).inj real.inj
    | _ => exact .never nofun nofun
  | _ =>
    cases w with
    | real y => exact .never nofun nofun
    | _ =>
      refine (Compares.plain _).of_iff ?_ Iff.rfl Iff.rfl
      show eqv _ _ ↔ _
      simp [eqv]

theorem Column.compares : (a b : Column) →
    Compares (a == b) a.reals b.reals (a = b) (a.mergeZeros = b.mergeZeros)
  | ⟨name, value, kind⟩, ⟨name', value', kind'⟩ => by
    refine (((Compares.plain (name = name')).and
      (.option Literal.compares value value')).andPlain (kind = kind')).of_iff ?_ ?_ ?_
    · show (name == name' && value == value' && kind == kind') ↔ _
      simp
    · simp [and_assoc]
    · simp [mergeZeros, and_assoc]

theorem Field.compares : (a b : Field) →
    Compares (a == b) a.reals b.reals (a = b) (a.mergeZeros = b.mergeZeros)
  | ⟨column, table, alias?⟩, ⟨column', table', alias?'⟩ => by
    refine ((column.compares column').andPlain (table = table' ∧ alias? = alias?')).of_iff ?_ ?_ ?_
    · show (column == column' && table == table' && alias? == alias?') ↔ _
      simp [and_assoc]
    · simp
    · simp [mergeZeros]

/-! ## The whole recursion -/

mutual

theorem Operand.compares : (a b : Operand) →
    Compares (a.eqv b) a.reals b.reals (a = b) (a.mergeZeros = b.mergeZeros)
  | .field f, b => by
    cases b with
    | field g => exact (f.compares g).inj Operand.field.inj
    | _ => exact .never nofun nofun
  | .call f, b => by
    cases b with
    | call g => exact (f.compares g).inj Operand.call.inj
    | _ => exact .never nofun nofun
  | .condition c, b => by
    cases b with
    | condition d => exact (c.compares d).inj Operand.condition.inj
    | _ => exact .never nofun nofun
  | .query q, b => by
    cases b with
    | query r => exact (q.compares r).inj Operand.query.inj
    | _ => exact .never nofun nofun
  | .list fs, b => by
    cases b with
    | list gs => exact (Compares.list Field.compares fs gs).inj Operand.list.inj
    | _ => exact .never nofun nofun
termination_by structural a => a

theorem Call.compares : (a b : Call) →
    Compares (a.eqv b) a.reals b.reals (a = b) (a.mergeZeros = b.mergeZeros)
  | ⟨f, as, distinct⟩, ⟨g, bs, distinct'⟩ =>
    (((f.compares g).and (Operand.comparesEach as bs)).andPlain (distinct = distinct')).of_iff
      (by simp [Call.eqv]) (by simp [and_assoc]) (by simp [Call.mergeZeros, and_assoc])
termination_by structural a => a

theorem Operand.comparesEach : (as bs : List Operand) →
    Compares (Operand.eqvEach as bs) (Operand.realsEach as) (Operand.realsEach bs) (as = bs)
      (Operand.mergeZerosEach as = Operand.mergeZerosEach bs)
  | [], [] => .self rfl _
  | a :: as, b :: bs => (a.compares b).cons (Operand.comparesEach as bs)
  | [], _ :: _ | _ :: _, [] => .never nofun nofun
termination_by structural as => as

theorem Operand.compares? : (a b : Option Operand) →
    Compares (Operand.eqv? a b) (Operand.reals? a) (Operand.reals? b) (a = b)
      (Operand.mergeZeros? a = Operand.mergeZeros? b)
  | none, none => .self rfl _
  | some a, some b => (a.compares b).inj Option.some.inj
  | none, some _ | some _, none => .never nofun nofun
termination_by structural a => a

theorem Condition.compares : (a b : Condition) →
    Compares (a.eqv b) a.reals b.reals (a = b) (a.mergeZeros = b.mergeZeros)
  | ⟨left, operator, negated, right⟩, ⟨left', operator', negated', right'⟩ =>
    (((Operand.compares? left left').andPlain (operator = operator' ∧ negated = negated')).and
      (Operand.compares? right right')).of_iff
      -- Both operands are compared before what stands between them.
      (by simp [Condition.eqv, and_assoc, and_comm]) (by simp [and_assoc])
      (by simp [Condition.mergeZeros, and_assoc])
termination_by structural a => a

theorem Condition.compares? : (a b : Option Condition) →
    Compares (Condition.eqv? a b) (Condition.reals? a) (Condition.reals? b) (a = b)
      (Condition.mergeZeros? a = Condition.mergeZeros? b)
  | none, none => .self rfl _
  | some a, some b => (a.compares b).inj Option.some.inj
  | none, some _ | some _, none => .never nofun nofun
termination_by structural a => a

theorem Condition.comparesEach : (as bs : List Condition) →
    Compares (Condition.eqvEach as bs) (Condition.realsEach as) (Condition.realsEach bs) (as = bs)
      (Condition.mergeZerosEach as = Condition.mergeZerosEach bs)
  | [], [] => .self rfl _
  | a :: as, b :: bs => (a.compares b).cons (Condition.comparesEach as bs)
  | [], _ :: _ | _ :: _, [] => .never nofun nofun
termination_by structural as => as

theorem JoinCondition.compares : (a b : JoinCondition) →
    Compares (a.eqv b) a.reals b.reals (a = b) (a.mergeZeros = b.mergeZeros)
  | ⟨kind, condition, columns⟩, ⟨kind', condition', columns'⟩ =>
    (((Compares.plain (kind = kind')).and (condition.compares condition')).andPlain
      (columns = columns')).of_iff
      (by simp [JoinCondition.eqv]) (by simp [and_assoc])
      (by simp [JoinCondition.mergeZeros, and_assoc])
termination_by structural a => a

theorem JoinCondition.compares? : (a b : Option JoinCondition) →
    Compares (JoinCondition.eqv? a b) (JoinCondition.reals? a) (JoinCondition.reals? b) (a = b)
      (JoinCondition.mergeZeros? a = JoinCondition.mergeZeros? b)
  | none, none => .self rfl _
  | some a, some b => (a.compares b).inj Option.some.inj
  | none, some _ | some _, none => .never nofun nofun
termination_by structural a => a

theorem Table.compares : (a b : Table) →
    Compares (a.eqv b) a.reals b.reals (a = b) (a.mergeZeros = b.mergeZeros)
  | ⟨name, alias?, join, joinCondition⟩, ⟨name', alias?', join', joinCondition'⟩ =>
    ((Compares.plain (name = name' ∧ alias? = alias?' ∧ join = join')).and
      (JoinCondition.compares? joinCondition joinCondition')).of_iff
      (by simp [Table.eqv, and_assoc]) (by simp [and_assoc])
      (by simp [Table.mergeZeros, and_assoc])
termination_by structural a => a

theorem Table.comparesEach : (as bs : List Table) →
    Compares (Table.eqvEach as bs) (Table.realsEach as) (Table.realsEach bs) (as = bs)
      (Table.mergeZerosEach as = Table.mergeZerosEach bs)
  | [], [] => .self rfl _
  | a :: as, b :: bs => (a.compares b).cons (Table.comparesEach as bs)
  | [], _ :: _ | _ :: _, [] => .never nofun nofun
termination_by structural as => as

theorem Item.compares : (a b : Item) →
    Compares (a.eqv b) a.reals b.reals (a = b) (a.mergeZeros = b.mergeZeros)
  | .field f, b => by
    cases b with
    | field g => exact (f.compares g).inj Item.field.inj
    | _ => exact .never nofun nofun
  | .call f, b => by
    cases b with
    | call g => exact (f.compares g).inj Item.call.inj
    | _ => exact .never nofun nofun
termination_by structural a => a

theorem Item.comparesEach : (as bs : List Item) →
    Compares (Item.eqvEach as bs) (Item.realsEach as) (Item.realsEach bs) (as = bs)
      (Item.mergeZerosEach as = Item.mergeZerosEach bs)
  | [], [] => .self rfl _
  | a :: as, b :: bs => (a.compares b).cons (Item.comparesEach as bs)
  | [], _ :: _ | _ :: _, [] => .never nofun nofun
termination_by structural as => as

theorem Select.compares : (a b : Select) →
    Compares (a.eqv b) a.reals b.reals (a = b) (a.mergeZeros = b.mergeZeros)
  | ⟨tables, placeholders, quantifier, items, filter, groupBy, having, orderBy, limit⟩,
    ⟨tables', placeholders', quantifier', items', filter', groupBy', having', orderBy', limit'⟩ =>
    ((((((Table.comparesEach tables tables').andPlain
      (placeholders = placeholders' ∧ quantifier = quantifier')).and
      (Item.comparesEach items items')).and (Condition.compares? filter filter')).andPlain
      (groupBy = groupBy')).and (Condition.comparesEach having having')).andPlain
      (orderBy = orderBy' ∧ limit = limit') |>.of_iff
      (by simp [Select.eqv, and_assoc]) (by simp [and_assoc])
      (by simp [Select.mergeZeros, and_assoc])
termination_by structural a => a

end

/-! ## Statements -/

theorem Insert.compares : (a b : Insert) →
    Compares (a == b) a.reals b.reals (a = b) (a.mergeZeros = b.mergeZeros)
  | ⟨tables, placeholders, columns⟩, ⟨tables', placeholders', columns'⟩ => by
    refine (((Compares.list Table.compares tables tables').andPlain
      (placeholders = placeholders')).and (.list Column.compares columns columns')).of_iff ?_ ?_ ?_
    · show (tables == tables' && placeholders == placeholders' && columns == columns') ↔ _
      simp
    · simp [and_assoc]
    · simp [mergeZeros, and_assoc]

theorem Update.compares : (a b : Update) →
    Compares (a == b) a.reals b.reals (a = b) (a.mergeZeros = b.mergeZeros)
  | ⟨tables, placeholders, columns, filter, orderBy, limit⟩,
    ⟨tables', placeholders', columns', filter', orderBy', limit'⟩ => by
    refine ((((Compares.list Table.compares tables tables').andPlain
      (placeholders = placeholders')).and (.list Column.compares columns columns')).and
      (.option Condition.compares filter filter')).andPlain
      (orderBy = orderBy' ∧ limit = limit') |>.of_iff ?_ ?_ ?_
    · show (tables == tables' && placeholders == placeholders' && columns == columns' &&
        filter == filter' && orderBy == orderBy' && limit == limit') ↔ _
      simp [and_assoc]
    · simp [and_assoc]
    · simp [mergeZeros, and_assoc]

theorem Delete.compares : (a b : Delete) →
    Compares (a == b) a.reals b.reals (a = b) (a.mergeZeros = b.mergeZeros)
  | ⟨tables, placeholders, filter⟩, ⟨tables', placeholders', filter'⟩ => by
    refine (((Compares.list Table.compares tables tables').andPlain
      (placeholders = placeholders')).and (.option Condition.compares filter filter')).of_iff
      ?_ ?_ ?_
    · show (tables == tables' && placeholders == placeholders' && filter == filter') ↔ _
      simp
    · simp [and_assoc]
    · simp [mergeZeros, and_assoc]

theorem Statement.compares (a b : Statement) :
    Compares (a == b) a.reals b.reals (a = b) (a.mergeZeros = b.mergeZeros) := by
  cases a with
  | select s =>
    cases b with
    | select t => exact (s.compares t).inj select.inj
    | _ => exact .never nofun nofun
  | insert s =>
    cases b with
    | insert t => exact (s.compares t).inj insert.inj
    | _ => exact .never nofun nofun
  | update s =>
    cases b with
    | update t => exact (s.compares t).inj update.inj
    | _ => exact .never nofun nofun
  | delete s =>
    cases b with
    | delete t => exact (s.compares t).inj delete.inj
    | _ => exact .never nofun nofun

/-! ## Equality up to the sign of zero -/

/-- What equality says of the nodes of a type, given the real numbers in a node, the node with zeros
merged and its text. -/
structure EqualUpToZero {α : Type} [BEq α] (reals : α → List Binary64) (mergeZeros : α → α)
    (render : α → String) : Prop where
  /-- Nodes are equal if neither holds a NaN and they are one with zeros merged. -/
  beq_iff : ∀ a b : α,
    a == b ↔ NaNFree (reals a) ∧ NaNFree (reals b) ∧ mergeZeros a = mergeZeros b
  symm : ∀ a b : α, a == b → b == a
  trans : ∀ a b c : α, a == b → b == c → a == c
  /-- A node with a NaN does not equal itself. -/
  self_iff : ∀ a : α, a == a ↔ NaNFree (reals a)
  /-- Equal nodes are one if either is free of zeros. -/
  eq_of_zeroFree : ∀ a b : α, a == b → ZeroFree (reals a) → a = b
  render_eq : ∀ a b : α, a == b → ZeroFree (reals a) → render a = render b

theorem Compares.equalUpToZero {α : Type} [BEq α] {reals : α → List Binary64} {mergeZeros : α → α}
    (h : ∀ a b, Compares (a == b) (reals a) (reals b) (a = b) (mergeZeros a = mergeZeros b))
    (render : α → String) : EqualUpToZero reals mergeZeros render where
  beq_iff a b := (h a b).equal_iff
  symm a b hab := by
    obtain ⟨ha, hb, hm⟩ := (h a b).equal_iff.1 hab
    exact (h b a).equal_iff.2 ⟨hb, ha, hm.symm⟩
  trans a b c hab hbc := by
    obtain ⟨ha, -, hm⟩ := (h a b).equal_iff.1 hab
    obtain ⟨-, hc, hm'⟩ := (h b c).equal_iff.1 hbc
    exact (h a c).equal_iff.2 ⟨ha, hc, hm.trans hm'⟩
  self_iff a := (h a a).equal_iff.trans ⟨And.left, fun ha => ⟨ha, ha, rfl⟩⟩
  eq_of_zeroFree a b hab hz := (h a b).same_of_equal hab hz
  render_eq a b hab hz := congrArg render ((h a b).same_of_equal hab hz)

/-- Nodes of any type, however deep, are equal just if neither holds a NaN and they are one with
zeros merged. So equality is symmetric and transitive, only a NaN keeps a node from equalling
itself, and equal nodes without zeros have the same text. -/
theorem equalUpToZero_nodes :
    EqualUpToZero Literal.reals Literal.mergeZeros Literal.render ∧
    EqualUpToZero Column.reals Column.mergeZeros Column.renderAssignment ∧
    EqualUpToZero Field.reals Field.mergeZeros Field.render ∧
    EqualUpToZero Call.reals Call.mergeZeros Call.render ∧
    EqualUpToZero Item.reals Item.mergeZeros Item.render ∧
    EqualUpToZero Operand.reals Operand.mergeZeros Operand.render ∧
    EqualUpToZero Condition.reals Condition.mergeZeros Condition.render ∧
    EqualUpToZero JoinCondition.reals JoinCondition.mergeZeros JoinCondition.render ∧
    EqualUpToZero Table.reals Table.mergeZeros Table.render ∧
    EqualUpToZero Select.reals Select.mergeZeros Select.render ∧
    EqualUpToZero Insert.reals Insert.mergeZeros Insert.render ∧
    EqualUpToZero Update.reals Update.mergeZeros Update.render ∧
    EqualUpToZero Delete.reals Delete.mergeZeros Delete.render ∧
    EqualUpToZero Statement.reals Statement.mergeZeros Statement.render :=
  ⟨Compares.equalUpToZero Literal.compares _, Compares.equalUpToZero Column.compares _,
    Compares.equalUpToZero Field.compares _, Compares.equalUpToZero Call.compares _,
    Compares.equalUpToZero Item.compares _, Compares.equalUpToZero Operand.compares _,
    Compares.equalUpToZero Condition.compares _, Compares.equalUpToZero JoinCondition.compares _,
    Compares.equalUpToZero Table.compares _, Compares.equalUpToZero Select.compares _,
    Compares.equalUpToZero Insert.compares _, Compares.equalUpToZero Update.compares _,
    Compares.equalUpToZero Delete.compares _, Compares.equalUpToZero Statement.compares _⟩

/-- The two zeros are equal, but their texts are not. -/
example : Literal.real ⟨0⟩ == Literal.real ⟨0x8000000000000000⟩ ∧
    Literal.render (.real ⟨0⟩) = "0.0" ∧ Literal.render (.real ⟨0x8000000000000000⟩) = "-0.0" := by
  decide +kernel

end SqlDml
