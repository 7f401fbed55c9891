import Mathlib.Data.List.Chain
import SqlDml.Proofs.Spelling.Number
import SqlDml.Proofs.Text.Case
import SqlDml.Statement.Render

/-!
# Spaces in conditions

* `Spaced` : a text with no space at its ends and no two in a row; `Block` : one that is not empty;
* `Spaced.append`, `Block.space` : two texts one after the other, without a space and with one;
* `Condition.Solid` and a `Solid` for each part : names, operators and texts have no space in them,
  and nothing that is shown within the condition is empty;
* `Condition.spaced_render` : the text of a solid condition is spaced, whichever parts it has.

A condition within another has to show something, as a space is put before it or behind it. What it
shows is a block again, since its own parts are.
-/

namespace SqlDml

/-! ## Texts -/

structure Spaced (text : String) : Prop where
  head : text.toList.head? ≠ some ' '
  last : text.toList.getLast? ≠ some ' '
  apart : text.toList.IsChain fun c d => ¬(c = ' ' ∧ d = ' ')

/-- A text that a space may be put before and behind. -/
structure Block (text : String) : Prop extends Spaced text where
  ne_empty : text ≠ ""

theorem spaced_of_notMem {text : String} (h : ' ' ∉ text.toList) : Spaced text where
  head hh := h (List.mem_of_head? hh)
  last hl := h (List.mem_of_getLast? hl)
  apart := List.isChain_iff_getElem.2 fun _ _ hc => h (hc.1 ▸ List.getElem_mem _)

theorem spaced_empty : Spaced "" := spaced_of_notMem List.not_mem_nil

variable {a b : String}

theorem Spaced.append (ha : Spaced a) (hb : Spaced b) : Spaced (a ++ b) where
  head := by
    rw [String.toList_append, List.head?_append]
    have hhead := ha.head
    cases hh : a.toList.head? with
    | none => exact hb.head
    | some c => rwa [hh] at hhead
  last := by
    rw [String.toList_append, List.getLast?_append]
    have hlast := hb.last
    cases hl : b.toList.getLast? with
    | none => exact ha.last
    | some c => rwa [hl] at hlast
  apart := by
    rw [String.toList_append, List.isChain_append]
    refine ⟨ha.apart, hb.apart, fun c hc d _ hspaces => ha.last ?_⟩
    rw [← hspaces.1]
    exact hc

theorem Block.append_spaced (ha : Block a) (hb : Spaced b) : Block (a ++ b) :=
  ⟨ha.toSpaced.append hb, fun h => ha.ne_empty (String.append_eq_empty_iff.1 h).1⟩

theorem Spaced.append_block (ha : Spaced a) (hb : Block b) : Block (a ++ b) :=
  ⟨ha.append hb.toSpaced, fun h => hb.ne_empty (String.append_eq_empty_iff.1 h).2⟩

/-- A space between two blocks has no space beside it. -/
theorem Block.space (ha : Block a) (hb : Block b) : Block (a ++ " " ++ b) := by
  have hane : a.toList ≠ [] := mt String.toList_eq_nil_iff.1 ha.ne_empty
  have hbne : b.toList ≠ [] := mt String.toList_eq_nil_iff.1 hb.ne_empty
  have htext : (a ++ " " ++ b).toList = a.toList ++ ([' '] ++ b.toList) := by simp
  refine ⟨⟨?_, ?_, ?_⟩, fun h => hb.ne_empty (String.append_eq_empty_iff.1 h).2⟩
  · rw [htext, List.head?_append_of_ne_nil _ hane]
    exact ha.head
  · rw [htext, ← List.append_assoc, List.getLast?_append_of_ne_nil _ hbne]
    exact hb.last
  · rw [htext, List.isChain_append, List.isChain_append]
    refine ⟨ha.apart, ⟨List.isChain_singleton ' ', hb.apart, ?_⟩, ?_⟩
    · exact fun _ _ d hd hspaces => hb.head (hspaces.2 ▸ hd)
    · exact fun c hc _ _ hspaces => ha.last (hspaces.1 ▸ hc)

theorem Spaced.parenthesized (h : Spaced a) : Block (parenthesized a) := by
  have hopen : Block "(" := ⟨spaced_of_notMem (by decide), by decide⟩
  exact (hopen.append_spaced h).append_spaced (spaced_of_notMem (by decide))

/-- Blocks with a separator between them that ends with a space. -/
theorem Block.intercalate {mark : String} {texts : List String} (hm : Spaced mark)
    (hne : texts ≠ []) (h : ∀ text ∈ texts, Block text) :
    Block ((mark ++ " ").intercalate texts) := by
  induction texts with
  | nil => exact absurd rfl hne
  | cons text texts ih =>
    have ht := h text List.mem_cons_self
    cases texts with
    | nil => simpa using ht
    | cons next texts =>
      have hi := ih (List.cons_ne_nil next texts) fun x hx => h x (List.mem_cons_of_mem text hx)
      rw [String.intercalate_cons_cons, ← String.append_assoc]
      exact (ht.append_spaced hm).space hi

theorem spaced_commaList {texts : List String} (h : ∀ text ∈ texts, Block text) :
    Spaced (commaList texts) := by
  cases texts with
  | nil => exact spaced_empty
  | cons text texts =>
    have hcomma : Spaced "," := spaced_of_notMem (by decide)
    exact (Block.intercalate hcomma (List.cons_ne_nil text texts) h).toSpaced

/-! ## Words, numbers and literals -/

/-- A text of some characters, none of which is a space. -/
structure IsSolid (cs : List Char) : Prop where
  ne_nil : cs ≠ []
  space_notMem : ' ' ∉ cs

theorem IsSolid.block {text : String} (h : IsSolid text.toList) : Block text :=
  ⟨spaced_of_notMem h.space_notMem, mt String.toList_eq_nil_iff.2 h.ne_nil⟩

theorem IsSolid.append {cs ds : List Char} (h : IsSolid cs) (hd : ' ' ∉ ds) : IsSolid (cs ++ ds) :=
  ⟨List.append_ne_nil_of_left_ne_nil h.ne_nil ds, List.not_mem_append h.space_notMem hd⟩

theorem IsSolid.behind {cs ds : List Char} (h : IsSolid cs) (hd : ' ' ∉ ds) : IsSolid (ds ++ cs) :=
  ⟨List.append_ne_nil_of_right_ne_nil ds h.ne_nil, List.not_mem_append hd h.space_notMem⟩

theorem isSolid_upper {text : String} (h : IsSolid text.toList) :
    IsSolid (Text.upper text).toList := by
  have hne : text ≠ "" := mt String.toList_eq_nil_iff.2 h.ne_nil
  exact ⟨mt String.toList_eq_nil_iff.1 (Text.upper_ne_empty hne h.space_notMem),
    Text.space_notMem_upper h.space_notMem⟩

theorem space_notMem_signText (negative : Bool) : ' ' ∉ signText negative := by
  cases negative <;> decide

theorem isSolid_digitText (n : Nat) : IsSolid (digitText n) where
  ne_nil := digitText_ne_nil n
  space_notMem hm := absurd (List.all_eq_true.1 (all_isDigit_digitText n) ' ' hm) (by decide)

theorem isSolid_pointed {digits : List Char} (h : ' ' ∉ digits) (places : Nat) :
    IsSolid (Decimal.pointed digits places) := by
  obtain ⟨whole, fraction, zeros, hp, hne, -, hsum⟩ := Decimal.pointed_eq digits places
  have hboth : ' ' ∉ whole ++ fraction := by
    rw [hsum]
    exact List.not_mem_append (by simp [List.mem_replicate]) h
  rw [List.mem_append, not_or] at hboth
  have hwhole : IsSolid whole := ⟨hne, hboth.1⟩
  rw [hp]
  exact hwhole.append (by simpa using hboth.2)

theorem isSolid_decimal (d : Decimal) : IsSolid d.text := by
  have hdigits := isSolid_digitText d.digits
  refine IsSolid.behind ?_ (space_notMem_signText d.negative)
  split
  · exact hdigits.append (by simp [List.mem_replicate])
  · exact isSolid_pointed hdigits.space_notMem _

theorem isSolid_realText (x : Binary64) : IsSolid (Literal.realText x) := by
  have hsign := space_notMem_signText x.negative
  have hones := isSolid_digitText (x.units / Binary64.unitsPerOne)
  unfold Literal.realText
  split
  · exact (hones.behind hsign).append (by decide)
  unfold Binary64.text
  split
  · exact ⟨by decide, by decide⟩
  split
  · exact isSolid_decimal x.shortest
  · exact IsSolid.behind ⟨by decide, by decide⟩ hsign

theorem space_notMem_quotedBody {s : List Char} (h : ' ' ∉ s) : ' ' ∉ Literal.quotedBody s := by
  fun_induction Literal.quotedBody s with
  | case1 => exact List.not_mem_nil
  | case2 => decide
  | case3 c cs _ ih =>
    rw [List.mem_cons, not_or] at h
    have hc : ' ' ∉ Literal.quotedChar c := by
      unfold Literal.quotedChar
      split <;> simpa using h.1
    exact List.not_mem_append hc (ih h.2)

/-- A text within quotes may be empty, a placeholder not. -/
def Literal.Solid : Literal → Prop
  | text s => ' ' ∉ s.toList
  | placeholder spelling => IsSolid spelling.toList
  | _ => True

theorem Literal.block_render {l : Literal} (h : l.Solid) : Block l.render := by
  refine IsSolid.block ?_
  cases l with
  | integer n =>
    rw [render, String.toList_ofList]
    exact (isSolid_digitText _).behind (space_notMem_signText _)
  | real x =>
    rw [render, String.toList_ofList]
    exact isSolid_realText x
  | text s =>
    have hbody := space_notMem_quotedBody h
    rw [render, String.toList_ofList]
    exact ⟨List.cons_ne_nil _ _, by simp [quotedText, hbody]⟩
  | placeholder spelling => exact h
  | null => exact ⟨by decide, by decide⟩

/-! ## Solid conditions -/

/-- What a field shows of its name and value. -/
def Field.ShownSolid (field : Field) : Prop :=
  match field.value, field.kind with
  | _, some .null => True
  | some value, _ => value.Solid
  | none, _ => IsSolid field.name.toList

/-- The table may be empty, as a point stands behind it, but not the alias. -/
def Field.DressSolid (field : Field) : Prop :=
  (∀ table ∈ field.table, ' ' ∉ table.toList) ∧ ∀ text ∈ field.alias, IsSolid text.toList

def Field.Solid (field : Field) : Prop := field.ShownSolid ∧ field.DressSolid

/-- Whether no part of the condition is there. -/
def Condition.isEmpty (c : Condition) : Bool :=
  c.left.isNone && c.operator == "" && !c.negated && c.right.isNone

mutual

/-- A condition within another has a part, and no query is within one. -/
def Operand.Solid : Operand → Prop
  | .field f => f.Solid
  | .call c => c.Solid
  | .condition c => c.isEmpty = false ∧ c.Solid
  | .query _ => False
  | .list fs => ∀ f ∈ fs, f.Solid
termination_by structural operand => operand

/-- The name of a function may even be empty, as its parentheses stand behind it. -/
def Call.Solid : Call → Prop
  | ⟨field, arguments, _⟩ =>
    ' ' ∉ field.name.toList ∧ field.DressSolid ∧ Operand.AllSolid arguments
termination_by structural call => call

def Operand.AllSolid : List Operand → Prop
  | [] => True
  | operand :: others => operand.Solid ∧ Operand.AllSolid others
termination_by structural operands => operands

def Operand.Solid? : Option Operand → Prop
  | none => True
  | some operand => operand.Solid
termination_by structural operand => operand

def Condition.Solid : Condition → Prop
  | ⟨left, operator, _, right⟩ =>
    Operand.Solid? left ∧ ' ' ∉ operator.toList ∧ Operand.Solid? right
termination_by structural condition => condition

end

/-! ## Parts, given those within them -/

/-- What stands between a table and an alias. -/
theorem Field.block_dress {field : Field} {body : String} (h : field.DressSolid)
    (hb : Block body) : Block (field.dress body) := by
  have htable : Spaced ((field.table.map (· ++ ".")).getD "") := by
    cases ht : field.table with
    | none => exact spaced_empty
    | some table => exact (spaced_of_notMem (h.1 table ht)).append (spaced_of_notMem (by decide))
  have hbody := htable.append_block hb
  unfold dress
  cases ha : field.alias with
  | none => simpa [clause] using hbody
  | some text =>
    have has : Block "AS" := ⟨spaced_of_notMem (by decide), by decide⟩
    have hclause := (hbody.space has).space (h.2 text ha).block
    simpa [clause, String.append_assoc] using hclause

theorem Field.block_render {field : Field} (h : field.Solid) : Block field.render := by
  obtain ⟨hs, hd⟩ := h
  refine block_dress hd ?_
  have hnull : Block "NULL" := ⟨spaced_of_notMem (by decide), by decide⟩
  obtain ⟨⟨name, value, kind⟩, table, alias?⟩ := field
  rcases value with _ | value <;> rcases kind with _ | (_ | _ | _ | _ | _)
  all_goals first
    | exact hnull
    | exact Literal.block_render hs
    | exact IsSolid.block hs

/-- With DISTINCT and no argument, its space stands before the closing parenthesis. -/
theorem Call.block_assemble (call : Call) {arguments : List String}
    (hn : ' ' ∉ call.field.name.toList) (hd : call.field.DressSolid)
    (hargs : ∀ text ∈ arguments, Block text) : Block (call.assemble arguments) := by
  have hlist := spaced_commaList hargs
  refine Field.block_dress hd ((spaced_of_notMem hn).append_block ?_)
  cases call.distinct with
  | false =>
    rw [if_neg Bool.false_ne_true, String.empty_append]
    exact hlist.parenthesized
  | true =>
    have hopen : Block "(DISTINCT" := ⟨spaced_of_notMem (by decide), by decide⟩
    have hclose : Block ")" := ⟨spaced_of_notMem (by decide), by decide⟩
    have hinner := hopen.space (hlist.append_block hclose)
    rwa [← String.append_assoc] at hinner

/-- Whichever parts a condition has, there is a space between two of them and no other. -/
theorem Condition.block_assemble (c : Condition) {left right : Option String}
    (hl : ∀ text ∈ left, Block text) (ho : ' ' ∉ c.operator.toList)
    (hr : ∀ text ∈ right, Block text) (hleft : left.isNone = c.left.isNone)
    (hright : right.isNone = c.right.isNone) (hne : c.isEmpty = false) :
    Block (c.assemble left right) := by
  have hoperator : ∀ text ∈ (if c.operator = "" then [] else [Text.upper c.operator]),
      Block text := by
    split
    · exact nofun
    · rename_i hne
      have hsolid : IsSolid c.operator.toList := ⟨mt String.toList_eq_nil_iff.1 hne, ho⟩
      exact List.forall_mem_singleton.2 (isSolid_upper hsolid).block
  have hnot : ∀ text ∈ (if c.negated then ["NOT"] else []), Block text := by
    split
    · exact List.forall_mem_singleton.2 ⟨spaced_of_notMem (by decide), by decide⟩
    · exact nofun
  refine Block.intercalate spaced_empty ?_ ?_
  · intro hnil
    simp only [List.append_eq_nil_iff, Option.toList_eq_nil_iff, ite_eq_left_iff,
      ite_eq_right_iff, List.cons_ne_nil, imp_false, not_not] at hnil
    obtain ⟨⟨⟨hl, hop⟩, hneg⟩, hr⟩ := hnil
    rw [isEmpty, ← hleft, ← hright, hl, hr, hop, Bool.eq_false_iff.2 hneg] at hne
    cases hne
  · simp only [List.forall_mem_append, Option.mem_toList]
    exact ⟨⟨⟨hl, hoperator⟩, hnot⟩, hr⟩

theorem Operand.isNone_renderOperand? (operand : Option Operand) :
    (Operand.renderOperand? operand).isNone = operand.isNone := by
  cases operand with
  | none => rfl
  | some operand =>
    rw [renderOperand?]
    split <;> rfl

/-! ## The whole recursion -/

mutual

theorem Operand.block_render : (operand : Operand) → operand.Solid → Block operand.render
  | .field _, h => Field.block_render h
  | .call c, h => c.block_render h
  | .condition c, h => c.block_render h.2 h.1
  | .query _, h => h.elim
  | .list fs, h => by
    have hall : ∀ text ∈ fs.map Field.render, Block text := by
      intro text ht
      obtain ⟨f, hf, rfl⟩ := List.mem_map.1 ht
      exact Field.block_render (h f hf)
    exact (spaced_commaList hall).parenthesized
termination_by structural operand => operand

theorem Call.block_render : (call : Call) → call.Solid → Block call.render
  | ⟨field, arguments, distinct⟩, ⟨hn, hd, hargs⟩ =>
    Call.block_assemble ⟨field, arguments, distinct⟩ hn hd (Operand.block_each arguments hargs)
termination_by structural call => call

theorem Operand.block_each : (operands : List Operand) → Operand.AllSolid operands →
    ∀ text ∈ Operand.renderEach operands, Block text
  | [], _ => nofun
  | operand :: others, ⟨h, ho⟩ =>
    List.forall_mem_cons.2 ⟨operand.block_render h, Operand.block_each others ho⟩
termination_by structural operands => operands

theorem Operand.block_operand? : (operand : Option Operand) → Operand.Solid? operand →
    ∀ text ∈ Operand.renderOperand? operand, Block text
  | none, _ => nofun
  | some operand, h => by
    have ho := operand.block_render h
    intro text ht
    unfold Operand.renderOperand? at ht
    dsimp only at ht
    split at ht
    · cases ht
      exact ho.toSpaced.parenthesized
    · cases ht
      exact ho
termination_by structural operand => operand

theorem Condition.block_render : (condition : Condition) → condition.Solid →
    condition.isEmpty = false → Block condition.render
  | ⟨left, operator, negated, right⟩, ⟨hl, ho, hr⟩, hne =>
    Condition.block_assemble ⟨left, operator, negated, right⟩ (Operand.block_operand? left hl) ho
      (Operand.block_operand? right hr) (Operand.isNone_renderOperand? left)
      (Operand.isNone_renderOperand? right) hne
termination_by structural condition => condition

end

/-- The text of a condition neither begins nor ends with a space and has no two spaces in a row,
whichever of its parts are there, as long as no condition within it is empty and no name, operator
or text in it holds a space. -/
theorem Condition.spaced_render {c : Condition} (h : c.Solid) : Spaced c.render := by
  by_cases hne : c.isEmpty
  · obtain ⟨left, operator, negated, right⟩ := c
    simp only [isEmpty, Bool.and_eq_true, Option.isNone_iff_eq_none, beq_iff_eq,
      Bool.not_eq_true'] at hne
    obtain ⟨⟨⟨rfl, rfl⟩, rfl⟩, rfl⟩ := hne
    exact spaced_empty
  · exact (c.block_render h (Bool.eq_false_iff.2 hne)).toSpaced

/-- A call with DISTINCT and an alias, NOT on both sides, an operator alone and an empty list. -/
def partialCondition : Condition where
  left := some (.call
    { field := { name := "f", table := some "t", «alias» := some "g" }
      distinct := true
      arguments := [
        .condition { negated := true },
        .list [.ofLiteral (.text ""), .ofLiteral (.integer (-1))]] })
  operator := "like"
  negated := true
  right := some (.condition
    { left := some (.condition { operator := "or" })
      right := some (.list []) })

theorem Condition.spaced_render_partial :
    partialCondition.Solid ∧
      partialCondition.render = "t.f(DISTINCT NOT, ('', -1)) AS g LIKE NOT (OR ())" ∧
      Spaced partialCondition.render := by
  have halias : IsSolid ['g'] := ⟨by decide, by decide⟩
  have h : partialCondition.Solid := by
    simp +decide [partialCondition, Condition.Solid, Operand.Solid?, Operand.Solid, Call.Solid,
      Operand.AllSolid, Field.Solid, Field.ShownSolid, Field.DressSolid, Literal.Solid,
      Field.ofLiteral, Column.ofValue, Literal.kind, halias]
  exact ⟨h, by decide +kernel, Condition.spaced_render h⟩

end SqlDml
