import SqlDml.Proofs.Statement.Limit
import SqlDml.Proofs.Statement.Outline
import SqlDml.Proofs.Statement.Relex

/-!
# Where an OR can stand in a condition

* `Condition.Proper` and a `Proper` for each part : what is shown can be read, whatever the counts
  of limits are, and no name of a field is OR;
* `Condition.IsBare` : a condition that is no OR and groups none;
* `Condition.outlined_render` and the like : the parentheses of a proper part match, and a bare
  condition has no OR outside them;
* `Condition.outlined_conjunct` : as one of several conditions no condition has.

An OR can stand in a condition at any depth: in the arguments of a function, in a query, in an
operand or as the operator itself. The first two bring their parentheses with them. Where it may
stand outside parentheses the condition is an OR or groups conditions, as the operands of one that
does neither are fields, functions, queries and lists.
-/

namespace SqlDml

variable {bare : Prop}

/-! ## What can be read -/

/-- A name that is not OR in either case of its letters. -/
def isFieldName (text : String) : Bool :=
  isName text && text.toList.map Char.toLower != ['o', 'r']

/-- The name that is shown, and the table that qualifies it. -/
def Field.NameProper (field : Field) : Prop :=
  isFieldName field.name ∧ ∀ text ∈ field.table, isName text

def Field.ShownProper (field : Field) : Prop :=
  match field.value, field.kind with
  | _, some .null => field.table = none
  | some value, _ => field.table = none ∧ value.Clean
  | none, _ => field.NameProper

def AliasProper (alias? : Option String) : Prop := ∀ text ∈ alias?, isFieldName text

def Field.Proper (field : Field) : Prop := field.ShownProper ∧ AliasProper field.alias

/-- No operator, or one of the dialect in either case of its letters. -/
def OperatorProper (operator : String) : Prop :=
  operator = "" ∨ Dialect.isOperator (String.ofList (operator.toList.map Char.toLower))

mutual

def Operand.Proper : Operand → Prop
  | .field f => f.Proper
  | .call c => c.Proper
  | .condition c => c.Proper
  | .query q => q.Proper
  | .list fs => ∀ f ∈ fs, f.Proper
termination_by structural operand => operand

def Call.Proper : Call → Prop
  | ⟨field, arguments, _⟩ =>
    field.NameProper ∧ AliasProper field.alias ∧ Operand.AllProper arguments
termination_by structural call => call

def Operand.AllProper : List Operand → Prop
  | [] => True
  | operand :: others => operand.Proper ∧ Operand.AllProper others
termination_by structural operands => operands

def Operand.Proper? : Option Operand → Prop
  | none => True
  | some operand => operand.Proper
termination_by structural operand => operand

def Condition.Proper : Condition → Prop
  | ⟨left, operator, _, right⟩ =>
    Operand.Proper? left ∧ OperatorProper operator ∧ Operand.Proper? right
termination_by structural condition => condition

def Condition.Proper? : Option Condition → Prop
  | none => True
  | some condition => condition.Proper
termination_by structural condition => condition

def Condition.AllProper : List Condition → Prop
  | [] => True
  | condition :: others => condition.Proper ∧ Condition.AllProper others
termination_by structural conditions => conditions

def JoinCondition.Proper : JoinCondition → Prop
  | ⟨.condition, condition, _⟩ => condition.Proper
  | ⟨.columns, _, columns⟩ => NamesClean columns
termination_by structural joinCondition => joinCondition

def JoinCondition.Proper? : Option JoinCondition → Prop
  | none => True
  | some joinCondition => joinCondition.Proper
termination_by structural joinCondition => joinCondition

def Table.Proper : Table → Prop
  | ⟨name, alias?, join, joinCondition⟩ =>
    isName name ∧ AliasClean alias? ∧ (∀ words ∈ join, isPhrase (Text.upper words)) ∧
      JoinCondition.Proper? joinCondition
termination_by structural table => table

def Table.AllProper : List Table → Prop
  | [] => True
  | table :: others => table.Proper ∧ Table.AllProper others
termination_by structural tables => tables

def Item.Proper : Item → Prop
  | .field f => f.Proper
  | .call c => c.Proper
termination_by structural item => item

def Item.AllProper : List Item → Prop
  | [] => True
  | item :: others => item.Proper ∧ Item.AllProper others
termination_by structural items => items

def Select.Proper : Select → Prop
  | ⟨tables, _, _, items, filter, groupBy, having, orderBy, _⟩ =>
    Item.AllProper items ∧ Table.AllProper tables ∧ Condition.Proper? filter ∧
      (∀ g ∈ groupBy, NamesClean g.columns) ∧ Condition.AllProper having ∧ OrderByClean orderBy
termination_by structural query => query

end

/-! ## Names -/

theorem isWordChar_of_startsWord {c : Char} (h : Lexeme.startsWord c) : Lexeme.isWordChar c := by
  simp only [Lexeme.startsWord, Bool.or_eq_true, beq_iff_eq] at h
  rcases h with (ha | rfl) | rfl
  · simp [Lexeme.isWordChar, Char.isAlphanum, ha]
  · decide
  · decide

theorem all_isWordChar_of_isName {text : String} (h : isName text) :
    text.toList.all Lexeme.isWordChar := by
  simp only [isName, Bool.or_eq_true, beq_iff_eq] at h
  rcases h with rfl | h
  · decide
  · cases ht : text.toList with
    | nil => rfl
    | cons c cs =>
      rw [ht, isWord, Bool.and_eq_true] at h
      rw [List.all_cons, isWordChar_of_startsWord h.1, h.2]
      rfl

theorem outlined_name {text : String} (h : isFieldName text) : Outlined bare text := by
  rw [isFieldName, Bool.and_eq_true, bne_iff_ne] at h
  refine .of_flat (spells_name h.1) ?_
  rw [List.all_cons, Mark.isFlat_name h.2]
  rfl

/-- A point that neither a digit nor a point follows stands by itself. -/
theorem read_point {c : Char} {cs : List Char} (hd : c.isDigit = false) (hp : c ≠ '.') :
    Lexeme.read '.' (c :: cs) = Lexeme.single '.' (c :: cs) := by
  have hdots : ¬∃ ds, c :: cs = '.' :: '.' :: ds := by
    rintro ⟨ds, hds⟩
    exact hp (List.cons.inj hds).1
  simp [Lexeme.read, Lexeme.startsWord, Numeral.starts_cons, Numeral.startsUnsigned_cons, hd,
    Lexeme.dots_eq_single hdots]

/-- A name begins with no digit and no point. -/
theorem exists_cons_of_isName {text : String} (h : isName text) :
    ∃ c cs, text.toList = c :: cs ∧ c.isDigit = false ∧ c ≠ '.' := by
  rcases Bool.or_eq_true_iff.1 h with ha | hw
  · rw [beq_iff_eq.1 ha]
    exact ⟨'*', [], rfl, by decide, by decide⟩
  · cases ht : text.toList with
    | nil =>
      rw [ht] at hw
      cases hw
    | cons c cs =>
      rw [ht, isWord, Bool.and_eq_true] at hw
      refine ⟨c, cs, rfl, Bool.eq_false_iff.2 fun hd => ?_, ne_of_pred hw.1 (by decide)⟩
      have hs := hw.1
      rw [Lexeme.startsWord, isAlpha_of_isDigit hd] at hs
      simp only [Bool.false_or, Bool.or_eq_true, beq_iff_eq] at hs
      rcases hs with rfl | rfl <;> cases hd

theorem outlined_point_name {text : String} (h : isFieldName text) :
    Outlined bare ("." ++ text) := by
  have hname : Outlined bare text := outlined_name h
  obtain ⟨c, cs, ht, hd, hp⟩ := exists_cons_of_isName (Bool.and_eq_true_iff.1 h).1
  have hreads : Reads ("." ++ text) (Mark.punctuation '.' :: ownMarks text) := by
    intro rest hr
    have hrest := hname.reads rest hr
    rw [ht, List.cons_append] at hrest
    rw [String.toList_append, ht, List.append_assoc, List.cons_append]
    show marks ('.' :: c :: (cs ++ rest)) = _
    rw [marks_cons rfl rfl, read_point hd hp]
    exact congrArg _ hrest
  refine .of_reads hreads (.cons rfl hname.balanced) fun hbare hm => ?_
  rw [Mark.outer_cons rfl, if_pos rfl] at hm
  rcases List.mem_cons.1 hm with hm | hm
  · exact absurd hm (by decide)
  · exact hname.outer hbare hm

/-- A word, a point and a name are one word, and not OR. -/
theorem isFieldName_qualified {table name : String} (ht : isWord table.toList) (hn : isName name) :
    isFieldName (table ++ "." ++ name) := by
  have htext : (table ++ "." ++ name).toList = table.toList ++ '.' :: name.toList := by simp
  rw [isFieldName, isName, htext, Bool.and_eq_true, Bool.or_eq_true, bne_iff_ne]
  constructor
  · right
    cases hc : table.toList with
    | nil =>
      rw [hc] at ht
      cases ht
    | cons c cs =>
      rw [hc, isWord, Bool.and_eq_true] at ht
      rw [List.cons_append, isWord, ht.1, List.all_append, ht.2, List.all_cons,
        all_isWordChar_of_isName hn]
      rfl
  · intro hor
    have hpoint : '.' ∈ (table.toList ++ '.' :: name.toList).map Char.toLower :=
      List.mem_map.2 ⟨'.', by simp, by decide⟩
    rw [hor] at hpoint
    exact absurd hpoint (by decide)

/-- A qualified name is one word, or an asterisk, a point and a name. -/
theorem Field.outlined_fullName {field : Field} (h : field.NameProper) :
    Outlined bare field.fullName := by
  obtain ⟨hname, htable⟩ := h
  rw [fullName]
  cases ht : field.table with
  | none =>
    rw [Option.map_none, Option.getD_none, String.empty_append]
    exact outlined_name hname
  | some table =>
    rw [Option.map_some, Option.getD_some]
    rcases Bool.or_eq_true_iff.1 (htable table ht) with ha | hw
    · have hclosed : Closed "*" [Mark.punctuation '*'] := closed_sign (c := '*') rfl
      rw [beq_iff_eq.1 ha, String.append_assoc]
      exact (outlined_point_name hname).behind hclosed (by decide)
    · exact outlined_name (isFieldName_qualified hw (Bool.and_eq_true_iff.1 hname).1)

/-! ## Parts, given those within them -/

theorem hangs_alias {field : Field} (h : AliasProper field.alias) :
    Hangs bare (clause " AS " field.alias) := by
  have hnames : ∀ text ∈ field.alias, Outlined bare text := fun text ht => outlined_name (h text ht)
  have ha := hangs_clause (f := id) lead_as (by decide) hnames
  rwa [Option.map_id] at ha

theorem Field.outlined_render {field : Field} (h : field.Proper) : Outlined bare field.render := by
  obtain ⟨hs, ha⟩ := h
  have hbody : Outlined bare ((field.table.map (· ++ ".")).getD "" ++ field.shown) := by
    obtain ⟨⟨name, value, kind⟩, table, alias?⟩ := field
    have hnull (hn : table = none) : Outlined bare ((table.map (· ++ ".")).getD "" ++ "NULL") := by
      subst hn
      exact .of_flat spells_null (by decide)
    have hvalue {value : Literal} (hv : table = none ∧ value.Clean) :
        Outlined bare ((table.map (· ++ ".")).getD "" ++ value.render) := by
      obtain ⟨rfl, hv⟩ := hv
      rw [Option.map_none, Option.getD_none, String.empty_append]
      exact .of_flat (spells_literal hv) (by simp [Mark.isFlat_literal])
    rcases value with _ | value <;> rcases kind with _ | (_ | _ | _ | _ | _)
    all_goals first
      | exact hnull hs
      | exact hvalue hs
      | exact outlined_fullName hs
  exact hbody.append_hangs (hangs_alias ha)

theorem Call.outlined_assemble (call : Call) {arguments : List String}
    (hn : call.field.NameProper) (ha : AliasProper call.field.alias)
    (hargs : Outlined False (commaList arguments)) : Outlined bare (call.assemble arguments) := by
  have hinner := hargs.behind call.closed_distinct (by cases call.distinct <;> decide)
  have hname : Outlined bare call.field.fullName := Field.outlined_fullName hn
  have hbody := hname.append hinner.parenthesized (stops_parenthesized _)
  rw [Field.fullName, String.append_assoc] at hbody
  exact hbody.append_hangs (hangs_alias ha)

/-- An operator keeps to itself unless it is OR. -/
theorem Condition.outlined_operator {operator : String} (h : OperatorProper operator)
    (ho : bare → operator.toList.map Char.toLower ≠ ['o', 'r']) :
    Outlined bare (Text.upper operator) := by
  have hflat : ∀ word ∈ Dialect.operators, word.toList ≠ ['o', 'r'] →
      (Mark.ofOperator word).isFlat := by decide
  rcases h with rfl | h
  · exact outlined_empty
  · have hl := (String.toList_ofList (l := operator.toList.map Char.toLower)).symm
    obtain ⟨hphrase, hmark⟩ := phrase_upper_of_operator hl h
    refine .of_reads (spells_phrase hphrase).reads (Mark.balanced_phrase _) fun hbare => ?_
    have hone := hflat _ (List.contains_iff_mem.1 h) (by rw [← hl]; exact ho hbare)
    rw [hmark]
    exact Mark.or_notMem_of_flat (by rw [List.all_cons, hone]; rfl)

/-- The condition is no OR and groups none. -/
def Condition.IsBare (c : Condition) : Prop := c.isGrouping = false ∧ c.isDisjunction = false

theorem Condition.outlined_assemble {c : Condition} {left right : Option String}
    (hl : ∀ text ∈ left, Outlined bare text) (ho : OperatorProper c.operator)
    (hor : bare → c.isDisjunction = false) (hr : ∀ text ∈ right, Outlined bare text) :
    Outlined bare (c.assemble left right) := by
  have hop : ∀ text ∈ (if c.operator = "" then [] else [Text.upper c.operator]),
      Outlined bare text := by
    have hlower (hbare : bare) : c.operator.toList.map Char.toLower ≠ ['o', 'r'] :=
      beq_eq_false_iff_ne.1 (hor hbare)
    split
    · exact nofun
    · exact List.forall_mem_singleton.2 (outlined_operator ho hlower)
  have hnot : ∀ text ∈ (if c.negated then ["NOT"] else []), Outlined bare text := by
    have hword : Spells "NOT" [Mark.keyword "not"] := spells_words "NOT" (by decide)
    split
    · exact List.forall_mem_singleton.2 (.of_flat hword (by decide))
    · exact nofun
  refine .intercalate lead_blank rfl ?_
  simp only [List.forall_mem_append, Option.mem_toList]
  exact ⟨⟨⟨hl, hop⟩, hnot⟩, hr⟩

/-- What AND would bind into stands in parentheses as a conjunct. -/
theorem Condition.outlined_conjunct {c : Condition} {text : String} (h : Outlined c.IsBare text) :
    Outlined bare (c.conjunct text) := by
  rw [conjunct]
  split
  · exact h.parenthesized
  · rename_i hbare
    rw [Bool.or_eq_true, not_or, Bool.not_eq_true, Bool.not_eq_true] at hbare
    exact h.mono fun _ => hbare

theorem Condition.reads_conjunct (c : Condition) {text : String} {ms : List Mark}
    (h : Reads text ms) : Reads (c.conjunct text) (c.conjunctMarks ms) := by
  rw [conjunct, conjunctMarks]
  split
  · exact h.parenthesized
  · exact h

theorem Condition.hangs_conjunction (c d : Condition) (others : List Condition)
    (h : ∀ e ∈ c :: d :: others, Outlined e.IsBare e.render) :
    Hangs bare (assembleHaving (renderEach (c :: d :: others))) := by
  rw [assembleHaving_cons_cons]
  have hconjuncts : ∀ text ∈ (c :: d :: others).map fun e => e.conjunct e.render,
      Outlined bare text := by
    intro text ht
    obtain ⟨e, he, rfl⟩ := List.mem_map.1 ht
    exact outlined_conjunct (h e he)
  exact (Outlined.intercalate lead_and (by decide) hconjuncts).hangs lead_having (by decide)

theorem Condition.hangs_having {conditions : List Condition}
    (h : ∀ c ∈ conditions, Outlined c.IsBare c.render) :
    Hangs False (assembleHaving (renderEach conditions)) := by
  match conditions with
  | [] => exact hangs_empty
  | [c] => exact ((h c List.mem_cons_self).mono False.elim).hangs lead_having (by decide)
  | c :: d :: others => exact hangs_conjunction c d others h

/-- A table is as it is without a join condition, and that behind it. -/
theorem Table.outlined_assemble {t : Table} {joinCondition : Option String}
    (hn : isName t.name) (ha : AliasClean t.alias)
    (hj : ∀ words ∈ t.join, isPhrase (Text.upper words))
    (hc : Hangs False (joinCondition.getD "")) : Outlined False (t.assemble joinCondition) := by
  have hclean : Table.Clean ⟨t.name, t.alias, t.join, none⟩ := ⟨hn, ha, hj, trivial⟩
  have halone : Outlined False (t.assemble none) :=
    .of_balanced (Table.spells_render _ hclean).reads (Table.balanced_flatten _)
  have hsplit : t.assemble joinCondition = t.assemble none ++ joinCondition.getD "" := by
    rw [assemble, assemble, Option.getD_none, String.append_empty]
  rw [hsplit]
  exact halone.append_hangs hc

theorem Table.outlined_assembleAll {tables : List Table}
    (h : ∀ t ∈ tables, Outlined False t.render) :
    Outlined False (assembleAll (renderEach tables)) := by
  have hothers {others : List Table} (ho : ∀ t ∈ others, Outlined False t.render) :
      Hangs False (String.join
        (others.map fun t => (if t.join.isSome then " " else ", ") ++ t.render)) := by
    induction others with
    | nil => exact hangs_empty
    | cons t others ih =>
      have hseparator : ((if t.join.isSome then [] else [Mark.punctuation ',']) :
          List Mark).all Mark.isFlat := by
        split <;> decide
      have ht := (ho t List.mem_cons_self).hangs t.lead_separator hseparator
      rw [List.map_cons, String.join_cons]
      exact ht.append (ih fun u hu => ho u (List.mem_cons_of_mem t hu))
  rw [renderEach_eq_map]
  cases tables with
  | nil => exact outlined_empty
  | cons t others =>
    simp only [List.map_cons, assembleAll, List.map_map]
    exact (h t List.mem_cons_self).append_hangs
      (hothers fun u hu => h u (List.mem_cons_of_mem t hu))

theorem Limit.outlined_render (limit : Limit) : Outlined False limit.render := by
  refine .of_balanced limit.reads_render (.of_forall fun m hm => ?_)
  have hcount (n : Nat) : (Mark.count n).isParen = false := by
    rw [Mark.count]
    split <;> simp [Mark.isParen, Mark.punctuation]
  rw [marks] at hm
  split at hm <;> simp only [List.append_nil, List.cons_append, List.nil_append, List.mem_cons,
    List.not_mem_nil, or_false] at hm
  · rcases hm with rfl | rfl <;> simp only [Mark.isParen_keyword, hcount]
  · rcases hm with rfl | rfl | rfl | rfl <;> simp only [Mark.isParen_keyword, hcount]

theorem Select.outlined_assemble (q : Select) (hi : ∀ item ∈ q.items, Outlined False item.render)
    (ht : ∀ t ∈ q.tables, Outlined False t.render)
    (hf : ∀ c ∈ q.filter, Outlined c.IsBare c.render)
    (hg : ∀ g ∈ q.groupBy, NamesClean g.columns)
    (hh : ∀ c ∈ q.having, Outlined c.IsBare c.render) (ho : OrderByClean q.orderBy) :
    Outlined False q.render := by
  obtain ⟨tables, placeholders, quantifier, items, filter, groupBy, having, orderBy, limit⟩ := q
  have hselect : Outlined False "SELECT" := by
    have hword : Spells "SELECT" [Mark.keyword "select"] := spells_words "SELECT" (by decide)
    exact .of_flat hword (by decide)
  have hquantifier : Hangs False (clause " " (quantifier.map Quantifier.render)) := by
    refine hangs_clause lead_blank rfl fun word _ => .of_flat word.spells_render ?_
    cases word <;> decide
  have hitems : Hangs False (if items.isEmpty then ""
      else " " ++ commaList (Item.renderEach items)) := by
    rw [Item.renderEach_eq_map]
    split
    · exact hangs_empty
    · exact (outlined_commas hi).hangs lead_blank rfl
  have htables : Hangs False (if tables.isEmpty then ""
      else " FROM " ++ Table.assembleAll (Table.renderEach tables)) := by
    split
    · exact hangs_empty
    · exact (Table.outlined_assembleAll ht).hangs lead_from (by decide)
  have hfilter : Hangs False (clause " WHERE " (Condition.render? filter)) := by
    rw [Condition.render?_eq_map]
    exact hangs_clause lead_where (by decide) fun c hc => (hf c hc).mono False.elim
  have hgroupBy := (trails_groupBy hg).hangs
    (.led (.cons (Mark.isParen_keyword _) (.mark (Mark.isParen_keyword _)))
      fun g _ => Mark.balanced_names g.columns)
  have horderBy := (trails_orderBy ho).hangs (balanced_orderBy orderBy)
  have hlimit : Hangs False (renderLimit limit) :=
    hangs_clause lead_blank rfl fun l _ => l.outlined_render
  exact (((((((hselect.append_hangs hquantifier).append_hangs hitems).append_hangs
    htables).append_hangs hfilter).append_hangs hgroupBy).append_hangs
    (Condition.hangs_having hh)).append_hangs horderBy).append_hangs hlimit

/-! ## The whole recursion -/

mutual

theorem Operand.outlined_render : (operand : Operand) → operand.Proper →
    Outlined (operand.isCondition = false) operand.render
  | .field _, h => Field.outlined_render h
  | .call c, h => (c.outlined_render h).mono fun _ => trivial
  | .condition c, h => (c.outlined_render h).mono nofun
  | .query q, h => (q.outlined_render h).parenthesized
  | .list fs, h => by
    have hall : ∀ f ∈ fs, Outlined False f.render := fun f hf => Field.outlined_render (h f hf)
    exact (outlined_commas hall).parenthesized
termination_by structural operand => operand

theorem Call.outlined_render : (call : Call) → call.Proper → Outlined True call.render
  | ⟨field, arguments, distinct⟩, ⟨hn, ha, hargs⟩ => by
    have hall := Operand.outlined_each arguments hargs
    have hlist := outlined_commas fun operand ho => (hall operand ho).mono False.elim
    rw [← Operand.renderEach_eq_map] at hlist
    exact Call.outlined_assemble ⟨field, arguments, distinct⟩ hn ha hlist
termination_by structural call => call

theorem Operand.outlined_each : (operands : List Operand) → Operand.AllProper operands →
    ∀ operand ∈ operands, Outlined (operand.isCondition = false) operand.render
  | [], _ => fun _ h => absurd h List.not_mem_nil
  | operand :: others, ⟨h, ho⟩ =>
    List.forall_mem_cons.2 ⟨operand.outlined_render h, Operand.outlined_each others ho⟩
termination_by structural operands => operands

theorem Operand.outlined_operand? : (operand : Option Operand) → Operand.Proper? operand →
    ∀ text ∈ Operand.renderOperand? operand,
      Outlined (operand.any Operand.isCondition = false) text
  | none, _ => fun _ h => absurd h (Option.not_mem_none _)
  | some operand, h => by
    have ho := operand.outlined_render h
    intro text ht
    unfold Operand.renderOperand? at ht
    dsimp only at ht
    split at ht
    · cases ht
      exact ho.parenthesized
    · cases ht
      exact ho
termination_by structural operand => operand

theorem Condition.outlined_render : (condition : Condition) → condition.Proper →
    Outlined condition.IsBare condition.render
  | ⟨left, operator, negated, right⟩, ⟨hl, ho, hr⟩ => by
    have hleft := Operand.outlined_operand? left hl
    have hright := Operand.outlined_operand? right hr
    refine Condition.outlined_assemble (c := ⟨left, operator, negated, right⟩)
      (fun text ht => (hleft text ht).mono fun hbare => ?_) ho And.right
      (fun text ht => (hright text ht).mono fun hbare => ?_)
    · exact (Bool.or_eq_false_iff.1 hbare.1).1
    · exact (Bool.or_eq_false_iff.1 hbare.1).2
termination_by structural condition => condition

theorem Condition.outlined_each : (conditions : List Condition) → Condition.AllProper conditions →
    ∀ condition ∈ conditions, Outlined condition.IsBare condition.render
  | [], _ => fun _ h => absurd h List.not_mem_nil
  | condition :: others, ⟨h, ho⟩ =>
    List.forall_mem_cons.2 ⟨condition.outlined_render h, Condition.outlined_each others ho⟩
termination_by structural conditions => conditions

theorem Condition.outlined_option : (condition : Option Condition) → Condition.Proper? condition →
    ∀ c ∈ condition, Outlined c.IsBare c.render
  | none, _ => fun _ h => absurd h (Option.not_mem_none _)
  | some condition, h => by
    rintro c ⟨⟩
    exact condition.outlined_render h
termination_by structural condition => condition

theorem JoinCondition.hangs_render : (j : JoinCondition) → j.Proper → Hangs False j.render
  | ⟨.condition, condition, _⟩, h =>
    ((condition.outlined_render h).mono False.elim).hangs lead_on (by decide)
  | ⟨.columns, _, columns⟩, h => by
    have hnames := Outlined.of_balanced (spells_names h).reads (Mark.balanced_names columns)
    exact hnames.parenthesized.hangs lead_using (by decide)
termination_by structural j => j

theorem JoinCondition.hangs_option : (j : Option JoinCondition) → JoinCondition.Proper? j →
    Hangs False ((JoinCondition.render? j).getD "")
  | none, _ => hangs_empty
  | some j, h => j.hangs_render h
termination_by structural j => j

theorem Table.outlined_render : (table : Table) → table.Proper → Outlined False table.render
  | ⟨name, alias?, join, joinCondition⟩, ⟨hn, ha, hj, hc⟩ => by
    have hcondition := JoinCondition.hangs_option joinCondition hc
    exact Table.outlined_assemble (t := ⟨name, alias?, join, joinCondition⟩) hn ha hj hcondition
termination_by structural table => table

theorem Table.outlined_each : (tables : List Table) → Table.AllProper tables →
    ∀ table ∈ tables, Outlined False table.render
  | [], _ => fun _ h => absurd h List.not_mem_nil
  | table :: others, ⟨h, ho⟩ =>
    List.forall_mem_cons.2 ⟨table.outlined_render h, Table.outlined_each others ho⟩
termination_by structural tables => tables

theorem Item.outlined_render : (item : Item) → item.Proper → Outlined False item.render
  | .field _, h => Field.outlined_render h
  | .call c, h => (c.outlined_render h).mono fun _ => trivial
termination_by structural item => item

theorem Item.outlined_each : (items : List Item) → Item.AllProper items →
    ∀ item ∈ items, Outlined False item.render
  | [], _ => fun _ h => absurd h List.not_mem_nil
  | item :: others, ⟨h, ho⟩ =>
    List.forall_mem_cons.2 ⟨item.outlined_render h, Item.outlined_each others ho⟩
termination_by structural items => items

theorem Select.outlined_render : (query : Select) → query.Proper → Outlined False query.render
  | ⟨tables, placeholders, quantifier, items, filter, groupBy, having, orderBy, limit⟩,
      ⟨hi, ht, hf, hg, hh, ho⟩ => by
    have hitems := Item.outlined_each items hi
    have htables := Table.outlined_each tables ht
    have hfilter := Condition.outlined_option filter hf
    have hhaving := Condition.outlined_each having hh
    exact Select.outlined_assemble
      ⟨tables, placeholders, quantifier, items, filter, groupBy, having, orderBy, limit⟩
      hitems htables hfilter hg hhaving ho
termination_by structural query => query

end

end SqlDml
