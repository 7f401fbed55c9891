import SqlDml.Proofs.Statement.Flatten

/-!
# Parentheses in the marks of a statement

* `Mark.outer` : the marks that stand outside all parentheses;
* `Mark.Balanced` : marks whose parentheses match;
* `Balanced.outer_append`, `Balanced.outer_parens` : parentheses that match leave the depth as it
  was, and nothing between them is outside;
* `Condition.balanced_flatten` and the like : the marks of every part are balanced.
-/

namespace SqlDml

namespace Mark

/-! ## Depth -/

/-- The marks outside all parentheses, where `depth` of them are open. -/
def outer (depth : Nat) : List Mark → List Mark
  | [] => []
  | m :: ms =>
    if m = punctuation '(' then outer (depth + 1) ms
    else if m = punctuation ')' then outer (depth - 1) ms
    else if depth = 0 then m :: outer depth ms
    else outer depth ms

def isParen (m : Mark) : Bool := m = punctuation '(' || m = punctuation ')'

inductive Balanced : List Mark → Prop where
  | nil : Balanced []
  | mark {m : Mark} (h : m.isParen = false) : Balanced [m]
  | append {ms ns : List Mark} (left : Balanced ms) (right : Balanced ns) : Balanced (ms ++ ns)
  | parens {ms : List Mark} (inner : Balanced ms) : Balanced (parens ms)

theorem outer_open (depth : Nat) (ms : List Mark) :
    outer depth (punctuation '(' :: ms) = outer (depth + 1) ms := by
  rw [outer, if_pos rfl]

theorem outer_close (depth : Nat) (ms : List Mark) :
    outer (depth + 1) (punctuation ')' :: ms) = outer depth ms := by
  rw [outer, if_neg (by decide), if_pos rfl, Nat.add_sub_cancel]

theorem outer_cons {m : Mark} (h : m.isParen = false) (depth : Nat) (ms : List Mark) :
    outer depth (m :: ms) = if depth = 0 then m :: outer depth ms else outer depth ms := by
  simp only [isParen, Bool.or_eq_false_iff, decide_eq_false_iff_not] at h
  rw [outer, if_neg h.1, if_neg h.2]

namespace Balanced

variable {ms : List Mark}

/-- Balanced marks leave the depth as it was, and none of them is outside what is open before. -/
theorem outer_both (h : Balanced ms) :
    (∀ depth ns, outer depth (ms ++ ns) = outer depth ms ++ outer depth ns) ∧
      ∀ depth, outer (depth + 1) ms = [] := by
  induction h with
  | nil => exact ⟨fun _ _ => rfl, fun _ => rfl⟩
  | mark h =>
    constructor
    · intro depth ns
      rw [List.singleton_append, outer_cons h, outer_cons h]
      split <;> rfl
    · intro depth
      rw [outer_cons h, if_neg (Nat.succ_ne_zero depth)]
      rfl
  | append _ _ ihl ihr =>
    constructor
    · intro depth ks
      rw [List.append_assoc, ihl.1, ihr.1, ihl.1, List.append_assoc]
    · intro depth
      rw [ihl.1, ihl.2, ihr.2]
      rfl
  | @parens ms _ ih =>
    have hp (depth : Nat) (ns : List Mark) :
        outer depth (Mark.parens ms ++ ns) = outer depth ns := by
      rw [Mark.parens, List.cons_append, List.cons_append, List.append_assoc, outer_open, ih.1,
        ih.2, List.singleton_append, outer_close]
      rfl
    have hnil (depth : Nat) : outer depth (Mark.parens ms) = [] := by
      rw [← List.append_nil (Mark.parens ms), hp]
      rfl
    constructor
    · intro depth ns
      rw [hp, hnil]
      rfl
    · intro depth
      exact hnil (depth + 1)

theorem outer_append (h : Balanced ms) (depth : Nat) (ns : List Mark) :
    outer depth (ms ++ ns) = outer depth ms ++ outer depth ns := h.outer_both.1 depth ns

theorem outer_parens (h : Balanced ms) : outer 0 (Mark.parens ms) = [] := by
  rw [Mark.parens, List.cons_append, outer_open, h.outer_append, h.outer_both.2, outer_close]
  rfl

/-! ## Lists -/

theorem of_forall (h : ∀ m ∈ ms, m.isParen = false) : Balanced ms := by
  induction ms with
  | nil => exact .nil
  | cons m ms ih =>
    have hm := Balanced.mark (h m List.mem_cons_self)
    exact hm.append (ih fun n hn => h n (List.mem_cons_of_mem m hn))

theorem cons {m : Mark} (hm : m.isParen = false) (h : Balanced ms) : Balanced (m :: ms) :=
  (Balanced.mark hm).append h

theorem ite {b : Bool} (h : Balanced ms) : Balanced (if b then ms else []) := by
  cases b with
  | true => exact h
  | false => exact .nil

theorem intercalate {l : List (List Mark)} (hs : Balanced ms) (h : ∀ x ∈ l, Balanced x) :
    Balanced (ms.intercalate l) := by
  induction l with
  | nil => exact .nil
  | cons x l ih =>
    have hx := h x List.mem_cons_self
    cases l with
    | nil => simpa using hx
    | cons y l =>
      rw [List.intercalate_cons_cons]
      exact (hx.append hs).append (ih fun z hz => h z (List.mem_cons_of_mem x hz))

theorem commas {l : List (List Mark)} (h : ∀ x ∈ l, Balanced x) : Balanced (Mark.commas l) :=
  intercalate (.mark rfl) h

theorem commas_map {α : Type} {l : List α} {f : α → List Mark} (h : ∀ x ∈ l, Balanced (f x)) :
    Balanced (Mark.commas (l.map f)) := by
  refine commas fun y hy => ?_
  obtain ⟨x, hx, rfl⟩ := List.mem_map.1 hy
  exact h x hx

theorem flatMap {α : Type} {l : List α} {f : α → List Mark} (h : ∀ x ∈ l, Balanced (f x)) :
    Balanced (l.flatMap f) := by
  induction l with
  | nil => exact .nil
  | cons x l ih =>
    rw [List.flatMap_cons]
    exact (h x List.mem_cons_self).append (ih fun y hy => h y (List.mem_cons_of_mem x hy))

theorem led {α : Type} {o : Option α} {f : α → List Mark} (hl : Balanced ms)
    (h : ∀ x ∈ o, Balanced (f x)) : Balanced (Mark.led ms (o.map f)) := by
  cases o with
  | none => exact .nil
  | some x => exact hl.append (h x rfl)

end Balanced

/-! ## Single marks -/

theorem isParen_keyword (word : String) : (keyword word).isParen = false := by
  simp [isParen, keyword, punctuation]

theorem isParen_word (cs : List Char) : (word cs).isParen = false := by
  rw [word]
  split
  · exact isParen_keyword _
  · simp [isParen, punctuation]

theorem isParen_name (text : String) : (name text).isParen = false := by
  rw [name]
  split
  · decide
  · exact isParen_word _

theorem isParen_literal (l : Literal) : l.mark.isParen = false := by
  cases l <;> simp [Literal.mark, isParen, keyword, punctuation]

theorem balanced_phrase (text : String) : Balanced (phrase text) := by
  refine .of_forall fun m hm => ?_
  obtain ⟨chunk, -, hm⟩ := List.mem_flatMap.1 hm
  unfold ofChunk at hm
  split at hm
  · cases hm
  split at hm
  · rw [List.mem_singleton.1 hm]
    simp [isParen, operator, punctuation]
  · rw [List.mem_singleton.1 hm]
    exact isParen_word chunk

theorem balanced_names (texts : List String) : Balanced (names texts) :=
  .commas_map fun text _ => .mark (isParen_name text)

end Mark

open Mark

/-! ## Parts of statements -/

theorem Field.balanced_alias (field : Field) : Balanced field.aliasMarks := by
  exact .led (.mark (isParen_keyword _)) fun text _ => .mark (isParen_name text)

theorem Field.balanced_flatten (field : Field) : Balanced field.flatten := by
  have hm : field.mark.isParen = false := by
    unfold mark
    split
    · exact isParen_keyword _
    · exact isParen_literal _
    · exact isParen_name _
  exact .cons hm field.balanced_alias

theorem SortKey.balanced_flatten (key : SortKey) : Balanced key.flatten := by
  refine .cons (isParen_name _) (.mark ?_)
  cases key.direction <;> exact isParen_keyword _

theorem Limit.balanced_flatten (limit : Limit) : Balanced limit.flatten := by
  refine .of_forall fun m hm => ?_
  rw [flatten] at hm
  split at hm <;> simp only [List.append_nil, List.cons_append, List.nil_append, List.mem_cons,
    List.not_mem_nil, or_false] at hm
  · rcases hm with rfl | rfl <;> simp [isParen, keyword, punctuation]
  · rcases hm with rfl | rfl | rfl | rfl <;> simp [isParen, keyword, punctuation]

theorem balanced_orderBy (keys : List SortKey) : Balanced (flattenOrderBy keys) := by
  rw [flattenOrderBy]
  split
  · exact .nil
  · exact .cons (isParen_keyword _) (.cons (isParen_keyword _)
      (.commas_map fun key _ => key.balanced_flatten))

theorem Condition.balanced_having {conditions : List Condition}
    (h : ∀ c ∈ conditions, Balanced c.flatten) :
    Balanced (flattenHaving (flattenEach conditions)) := by
  match conditions with
  | [] => exact .nil
  | [c] => exact .cons (isParen_keyword _) (h c List.mem_cons_self)
  | c :: d :: others =>
    rw [flattenHaving_cons_cons]
    refine .cons (isParen_keyword _) (.intercalate (.mark (isParen_keyword _)) fun ms hm => ?_)
    obtain ⟨e, he, rfl⟩ := List.mem_map.1 hm
    unfold conjunctMarks
    split
    · exact .parens (h e he)
    · exact h e he

theorem Table.balanced_all {tables : List Table} (h : ∀ t ∈ tables, Balanced t.flatten) :
    Balanced (flattenAll (flattenEach tables)) := by
  rw [flattenEach_eq_map]
  cases tables with
  | nil => exact .nil
  | cons t others =>
    refine (h t List.mem_cons_self).append (.flatMap fun p hp => ?_)
    obtain ⟨u, hu, rfl⟩ := List.mem_map.1 hp
    have hcomma : Balanced (if u.join.isSome then [] else [punctuation ',']) := by
      split
      · exact .nil
      · exact .mark rfl
    exact hcomma.append (h u (List.mem_cons_of_mem t hu))

theorem Select.balanced_assemble (q : Select) (hi : ∀ item ∈ q.items, Balanced item.flatten)
    (ht : ∀ t ∈ q.tables, Balanced t.flatten) (hf : ∀ c ∈ q.filter, Balanced c.flatten)
    (hh : ∀ c ∈ q.having, Balanced c.flatten) : Balanced q.flatten := by
  obtain ⟨tables, placeholders, quantifier, items, filter, groupBy, having, orderBy, limit⟩ := q
  have hquantifier : Balanced (led [] (quantifier.map fun q => [q.mark])) := by
    refine .led .nil fun word _ => .mark ?_
    cases word <;> exact isParen_keyword _
  have hitems : Balanced (Mark.commas (Item.flattenEach items)) := by
    rw [Item.flattenEach_eq_map]
    exact .commas_map hi
  have htables : Balanced (if tables.isEmpty then []
      else keyword "from" :: Table.flattenAll (Table.flattenEach tables)) := by
    split
    · exact .nil
    · exact .cons (isParen_keyword _) (Table.balanced_all ht)
  have hfilter : Balanced (led [keyword "where"] (Condition.flatten? filter)) := by
    rw [Condition.flatten?_eq_map]
    exact .led (.mark (isParen_keyword _)) hf
  have hgroupBy : Balanced (led [keyword "group", keyword "by"]
      ((groupBy.filter (!·.columns.isEmpty)).map GroupBy.flatten)) :=
    .led (.cons (isParen_keyword _) (.mark (isParen_keyword _)))
      fun g _ => balanced_names g.columns
  have hlimit : Balanced (flattenLimit limit) := .led .nil fun l _ => l.balanced_flatten
  exact ((((((((Balanced.mark (isParen_keyword _)).append hquantifier).append hitems).append
    htables).append hfilter).append hgroupBy).append (Condition.balanced_having hh)).append
    (balanced_orderBy orderBy)).append hlimit

/-! ## The whole recursion -/

mutual

theorem Operand.balanced_flatten : (operand : Operand) → Balanced operand.flatten
  | .field f => f.balanced_flatten
  | .call c => c.balanced_flatten
  | .condition c => c.balanced_flatten
  | .query q => .parens q.balanced_flatten
  | .list _ => .parens (.commas_map fun f _ => f.balanced_flatten)
termination_by structural operand => operand

theorem Call.balanced_flatten : (call : Call) → Balanced call.flatten
  | ⟨field, arguments, distinct⟩ => by
    have hargs : Balanced (Mark.commas (Operand.flattenEach arguments)) := by
      rw [Operand.flattenEach_eq_map]
      exact .commas_map (Operand.balanced_each arguments)
    have hdistinct : Balanced (if distinct then [keyword "distinct"] else []) :=
      .ite (.mark (isParen_keyword _))
    exact (Balanced.cons (isParen_name _) (.parens (hdistinct.append hargs))).append
      field.balanced_alias
termination_by structural call => call

theorem Operand.balanced_each : (operands : List Operand) →
    ∀ operand ∈ operands, Balanced operand.flatten
  | [] => fun _ h => absurd h List.not_mem_nil
  | operand :: others =>
    List.forall_mem_cons.2 ⟨operand.balanced_flatten, Operand.balanced_each others⟩
termination_by structural operands => operands

theorem Operand.balanced_operand? : (operand : Option Operand) →
    Balanced (Operand.flattenOperand? operand)
  | none => .nil
  | some operand => by
    have ho := operand.balanced_flatten
    unfold Operand.flattenOperand?
    split
    · exact .parens ho
    · exact ho
termination_by structural operand => operand

theorem Condition.balanced_flatten : (condition : Condition) → Balanced condition.flatten
  | ⟨left, operator, negated, right⟩ => by
    have hleft := Operand.balanced_operand? left
    have hright := Operand.balanced_operand? right
    have hnot : Balanced (if negated then [keyword "not"] else []) :=
      .ite (.mark (isParen_keyword _))
    exact ((hleft.append (balanced_phrase _)).append hnot).append hright
termination_by structural condition => condition

theorem Condition.balanced_option : (condition : Option Condition) →
    ∀ c ∈ condition, Balanced c.flatten
  | none => fun _ h => absurd h (Option.not_mem_none _)
  | some condition => by
    rintro c ⟨⟩
    exact condition.balanced_flatten
termination_by structural condition => condition

theorem Condition.balanced_each : (conditions : List Condition) →
    ∀ condition ∈ conditions, Balanced condition.flatten
  | [] => fun _ h => absurd h List.not_mem_nil
  | condition :: others =>
    List.forall_mem_cons.2 ⟨condition.balanced_flatten, Condition.balanced_each others⟩
termination_by structural conditions => conditions

theorem JoinCondition.balanced_flatten : (j : JoinCondition) → Balanced j.flatten
  | ⟨.condition, condition, _⟩ => .cons (isParen_keyword _) condition.balanced_flatten
  | ⟨.columns, _, columns⟩ => .cons (isParen_keyword _) (.parens (balanced_names columns))
termination_by structural j => j

theorem JoinCondition.balanced_option : (j : Option JoinCondition) →
    Balanced (JoinCondition.flatten? j)
  | none => .nil
  | some j => j.balanced_flatten
termination_by structural j => j

theorem Table.balanced_flatten : (table : Table) → Balanced table.flatten
  | ⟨name, alias?, join, joinCondition⟩ => by
    have hj : Balanced ((join.map fun words => phrase (Text.upper words)).getD []) := by
      cases join with
      | none => exact .nil
      | some words =>
        rw [Option.map_some, Option.getD_some]
        exact balanced_phrase (Text.upper words)
    have ha : Balanced (led [] (alias?.map fun text => [Mark.name text])) :=
      .led .nil fun text _ => .mark (isParen_name text)
    have hc := JoinCondition.balanced_option joinCondition
    exact (hj.append (.cons (isParen_name _) ha)).append hc
termination_by structural table => table

theorem Table.balanced_each : (tables : List Table) → ∀ table ∈ tables, Balanced table.flatten
  | [] => fun _ h => absurd h List.not_mem_nil
  | table :: others =>
    List.forall_mem_cons.2 ⟨table.balanced_flatten, Table.balanced_each others⟩
termination_by structural tables => tables

theorem Item.balanced_flatten : (item : Item) → Balanced item.flatten
  | .field f => f.balanced_flatten
  | .call c => c.balanced_flatten
termination_by structural item => item

theorem Item.balanced_each : (items : List Item) → ∀ item ∈ items, Balanced item.flatten
  | [] => fun _ h => absurd h List.not_mem_nil
  | item :: others =>
    List.forall_mem_cons.2 ⟨item.balanced_flatten, Item.balanced_each others⟩
termination_by structural items => items

theorem Select.balanced_flatten : (query : Select) → Balanced query.flatten
  | ⟨tables, placeholders, quantifier, items, filter, groupBy, having, orderBy, limit⟩ => by
    have hitems := Item.balanced_each items
    have htables := Table.balanced_each tables
    have hfilter := Condition.balanced_option filter
    have hhaving := Condition.balanced_each having
    exact Select.balanced_assemble
      ⟨tables, placeholders, quantifier, items, filter, groupBy, having, orderBy, limit⟩
      hitems htables hfilter hhaving
termination_by structural query => query

end

end SqlDml
