import SqlDml.Proofs.Statement.Conditions
import SqlDml.Proofs.Statement.Nesting
import SqlDml.Proofs.Statement.Relex

/-!
# Conditions joined by OR under AND

* `Exposes` : a text has an OR outside all parentheses, where an AND beside the text binds into it;
* `Condition.exposes_operandText` : an OR that is an operand is exposed unless it groups conditions;
* `conjunction_exposes_iff` : so it is under every AND of a statement;
* `mixedCondition` : the OR of two columns under AND stands without parentheses.

After HAVING each OR is put in parentheses, whatever its operands are; an operand is only if it
groups conditions.
-/

namespace SqlDml

/-- Whether an OR stands outside all parentheses of a text. -/
def Exposes (text : String) : Prop :=
  Mark.keyword "or" ∈ Mark.outer 0 ((tokenize text).map Token.mark)

namespace Condition

/-- Whether the operator is AND, in either case of its letters. -/
def isConjunction (c : Condition) : Bool := c.operator.toList.map Char.toLower == ['a', 'n', 'd']

theorem upper_of_isConjunction {c : Condition} (h : c.isConjunction) :
    Text.upper c.operator = "AND" := by
  have hl : c.operator.toList.map Char.toLower = ['a', 'n', 'd'] := beq_iff_eq.1 h
  have hu := Text.upper_eq_of_toLower hl (by decide)
  exact String.toList_inj.1 hu

theorem phrase_of_isDisjunction {c : Condition} (h : c.isDisjunction) :
    Mark.phrase (Text.upper c.operator) = [Mark.keyword "or"] := by
  have hl : c.operator.toList.map Char.toLower = "or".toList := beq_iff_eq.1 h
  exact (phrase_upper_of_operator hl (by decide)).2

/-! ## The marks of an OR -/

theorem or_mem_outer_flatten {d : Condition} (h : d.isDisjunction) (ms : List Mark) :
    Mark.keyword "or" ∈ Mark.outer 0 (d.flatten ++ ms) := by
  have hp := phrase_of_isDisjunction h
  have hb := d.balanced_flatten
  obtain ⟨left, operator, negated, right⟩ := d
  have hl := Operand.balanced_operand? left
  rw [hb.outer_append]
  refine List.mem_append_left _ ?_
  show _ ∈ Mark.outer 0 (Operand.flattenOperand? left ++ Mark.phrase (Text.upper operator) ++
    (if negated then [Mark.keyword "not"] else []) ++ Operand.flattenOperand? right)
  rw [hp, List.append_assoc, List.append_assoc, hl.outer_append, List.singleton_append,
    Mark.outer_cons (Mark.isParen_keyword "or"), if_pos rfl]
  exact List.mem_append_right _ List.mem_cons_self

theorem exposes_render {d : Condition} (hd : d.Clean) (h : d.isDisjunction) :
    Exposes d.render := by
  unfold Exposes
  rw [(d.spells_render hd).tokenize.1]
  exact or_mem_outer_flatten h _

theorem not_exposes_parenthesized {d : Condition} (hd : d.Clean) :
    ¬Exposes (parenthesized d.render) := by
  unfold Exposes
  have hs := (closed_parens (d.spells_render hd)).spells
  rw [hs.tokenize.1, (Mark.Balanced.parens d.balanced_flatten).outer_append,
    d.balanced_flatten.outer_parens]
  decide

/-! ## An OR as an operand -/

/-- The text of a condition as an operand of another. -/
def operandText (d : Condition) : String :=
  if d.isGrouping then parenthesized d.render else d.render

theorem renderOperand?_condition (d : Condition) :
    Operand.renderOperand? (some (.condition d)) = some d.operandText := by
  show (if d.isGrouping then some (parenthesized d.render) else some d.render) = _
  unfold operandText
  split <;> rfl

theorem operandText_eq_parenthesized {d : Condition} :
    d.operandText = parenthesized d.render ↔ d.isGrouping := by
  unfold operandText
  by_cases hg : d.isGrouping
  · simp [hg]
  · rw [if_neg hg]
    refine ⟨fun h => ?_, fun h => absurd h hg⟩
    have hlen := congrArg (fun text => text.toList.length) h
    simp only [parenthesized, String.toList_append, List.length_append] at hlen
    have hopen : "(".toList.length = 1 := rfl
    omega

theorem exposes_operandText {d : Condition} (hd : d.Clean) (h : d.isDisjunction) :
    Exposes d.operandText ↔ ¬d.isGrouping := by
  unfold operandText
  by_cases hg : d.isGrouping
  · rw [if_pos hg]
    exact ⟨fun he => absurd he (not_exposes_parenthesized hd), fun hn => absurd hg hn⟩
  · rw [if_neg hg]
    exact ⟨fun _ => hg, fun _ => exposes_render hd h⟩

def HasOperand (c d : Condition) : Prop :=
  c.left = some (.condition d) ∨ c.right = some (.condition d)

theorem Clean.of_hasOperand {c d : Condition} (hc : c.Clean) (h : c.HasOperand d) : d.Clean := by
  obtain ⟨left, operator, negated, right⟩ := c
  rcases h with h | h
  · obtain rfl : left = some (.condition d) := h
    exact hc.1
  · obtain rfl : right = some (.condition d) := h
    exact hc.2.2

theorem flattenOperand?_condition {d : Condition} (hg : ¬d.isGrouping) :
    Operand.flattenOperand? (some (.condition d)) = d.flatten := by
  show (if d.isGrouping then Mark.parens d.flatten else d.flatten) = _
  rw [if_neg hg]

/-- An OR that is an operand and groups no conditions is exposed in the text of the whole. -/
theorem exposes_of_hasOperand {c d : Condition} (hc : c.Clean) (h : c.HasOperand d)
    (hor : d.isDisjunction) (hg : ¬d.isGrouping) : Exposes c.render := by
  unfold Exposes
  rw [(c.spells_render hc).tokenize.1]
  obtain ⟨left, operator, negated, right⟩ := c
  have hleft := Operand.balanced_operand? left
  have hmiddle : Mark.Balanced (if negated then [Mark.keyword "not"] else []) :=
    .ite (.mark (Mark.isParen_keyword "not"))
  show _ ∈ Mark.outer 0 (Operand.flattenOperand? left ++ Mark.phrase (Text.upper operator) ++
    (if negated then [Mark.keyword "not"] else []) ++ Operand.flattenOperand? right ++ [Mark.last])
  rcases h with h | h
  · obtain rfl : left = some (.condition d) := h
    rw [flattenOperand?_condition hg, List.append_assoc, List.append_assoc, List.append_assoc]
    exact or_mem_outer_flatten hor _
  · obtain rfl : right = some (.condition d) := h
    have hbefore := (hleft.append (Mark.balanced_phrase (Text.upper operator))).append hmiddle
    rw [flattenOperand?_condition hg, List.append_assoc _ d.flatten, hbefore.outer_append]
    exact List.mem_append_right _ (or_mem_outer_flatten hor _)

theorem render_of_isConjunction {c : Condition} (h : c.isConjunction) :
    c.render = " ".intercalate
      ((Operand.renderOperand? c.left).toList ++ ["AND"] ++ (if c.negated then ["NOT"] else []) ++
        (Operand.renderOperand? c.right).toList) := by
  have hu := upper_of_isConjunction h
  have hne : c.operator ≠ "" := by
    intro he
    rw [isConjunction, he] at h
    cases h
  obtain ⟨left, operator, negated, right⟩ := c
  show Condition.assemble _ _ _ = _
  rw [assemble, if_neg hne, hu]

end Condition

/-- An OR under an AND of a statement stands in parentheses exactly if it groups conditions. One
that does not is exposed, in its own text and in that of the AND, which then binds into it. -/
theorem conjunction_exposes_iff {s : Statement} {c d : Condition} (hc : c ∈ s.conditions)
    (hand : c.isConjunction) (hd : c.HasOperand d) (hor : d.isDisjunction) :
    Shows s.render c.render ∧
      c.render = " ".intercalate
        ((Operand.renderOperand? c.left).toList ++ ["AND"] ++
          (if c.negated then ["NOT"] else []) ++ (Operand.renderOperand? c.right).toList) ∧
      Operand.renderOperand? (some (.condition d)) = some d.operandText ∧
      (d.operandText = parenthesized d.render ↔ d.isGrouping) ∧
      (s.Clean → (Exposes d.operandText ↔ ¬d.isGrouping) ∧
        (¬d.isGrouping → Exposes c.render)) := by
  have hw := Statement.within_of_mem hc
  refine ⟨hw.shows, Condition.render_of_isConjunction hand, d.renderOperand?_condition,
    Condition.operandText_eq_parenthesized, fun hs => ?_⟩
  have hclean := hw.clean hs
  exact ⟨Condition.exposes_operandText (hclean.of_hasOperand hd) hor,
    Condition.exposes_of_hasOperand hclean hd hor⟩

/-! ## An OR that AND binds into -/

/-- The OR of two columns. -/
def looseCondition : Condition :=
  { left := some (.field (.ofName "a"))
    operator := "or"
    right := some (.field (.ofName "b")) }

/-- That OR, and a third column. -/
def mixedCondition : Condition :=
  { left := some (.condition looseCondition)
    operator := "and"
    right := some (.field (.ofName "c")) }

theorem render_mixedCondition :
    mixedCondition.isConjunction ∧ mixedCondition.HasOperand looseCondition ∧
      looseCondition.isDisjunction ∧ mixedCondition.render = "a OR b AND c" ∧
      Operand.renderOperand? (some (.condition looseCondition)) ≠
        some (parenthesized looseCondition.render) := by
  refine ⟨by decide, .inl rfl, by decide, by decide +kernel, ?_⟩
  decide +kernel

theorem conjunction_exposes_iff_mixed :
    ∃ s : Statement, s.Clean ∧ mixedCondition ∈ s.conditions ∧ mixedCondition.isConjunction ∧
      mixedCondition.HasOperand looseCondition ∧ looseCondition.isDisjunction ∧
      s.render = "SELECT x FROM t WHERE a OR b AND c" ∧ looseCondition.operandText = "a OR b" ∧
      Exposes "a OR b" ∧ Exposes mixedCondition.render := by
  have hmem : mixedCondition ∈ Statement.conditions (.select
      { items := [.field (.ofName "x")], tables := [{ name := "t" }]
        filter := some mixedCondition }) := List.mem_cons_self
  have hand : mixedCondition.isConjunction := by decide
  have hor : looseCondition.isDisjunction := by decide
  have hloose : ¬looseCondition.isGrouping := by decide
  have htext : looseCondition.operandText = "a OR b" := by decide +kernel
  have hclean : Statement.Clean (.select
      { items := [.field (.ofName "x")], tables := [{ name := "t" }]
        filter := some mixedCondition }) := by
    simp +decide [mixedCondition, looseCondition, Statement.Clean, Select.Clean, Item.AllClean,
      Item.Clean, Table.AllClean, Table.Clean, JoinCondition.Clean?, Condition.AllClean,
      Condition.Clean?, Condition.Clean, Operand.Clean?, Operand.Clean, Field.Clean,
      Field.ShownClean, AliasClean, OrderByClean, LimitClean, Field.ofName]
  obtain ⟨-, -, -, -, hexposes⟩ := conjunction_exposes_iff hmem hand (.inl rfl) hor
  obtain ⟨hoperand, hwhole⟩ := hexposes hclean
  refine ⟨_, hclean, hmem, hand, .inl rfl, hor, by decide +kernel, htext, ?_, hwhole hloose⟩
  exact htext ▸ hoperand.2 hloose

end SqlDml
