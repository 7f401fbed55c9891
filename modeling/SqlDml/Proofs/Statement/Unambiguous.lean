import SqlDml.Proofs.Statement.Relex
import SqlDml.Statement.Edit

/-!
# The text of a condition determines it

* `Field.Plain`, `Operand.Plain` : names, values and lists of these;
* `Condition.Simple` : comparisons of these, joined by AND and OR to any depth;
* `Distinct` : things whose marks can be told apart, whatever follows;
* `Condition.render_injective` : simple conditions with the same text are the same.

The tree is found again from the marks of the text. A comparison begins with a field and a condition
that joins others with a parenthesis or with a comparison, so it is the marks of an operand, with
the parentheses around it, that can be told from what follows, and the induction is on operands.
-/

namespace SqlDml

/-! ## Conditions of comparisons -/

/-- A bare name that is no symbol of the dialect in either case of its letters, or a value. -/
inductive Field.Plain : Field → Prop where
  | name {word : String} : isWord word.toList →
    Dialect.isSymbol (String.ofList (word.toList.map Char.toLower)) = false → Plain (.ofName word)
  | value {value : Literal} : value.Clean → Plain (.ofLiteral value)

/-- What a comparison compares a field with. -/
inductive Operand.Plain : Operand → Prop where
  | field {field : Field} : field.Plain → Plain (.field field)
  | list {fields : List Field} : (∀ field ∈ fields, field.Plain) → Plain (.list fields)

namespace Condition

/-- The operators of comparisons. -/
def comparisonOperators : List String :=
  ["=", "!=", "<>", "<", "<=", ">", ">=", "like", "clike", "slike", "is", "in", "between"]

/-- The operators that join conditions. -/
def connectives : List String := ["and", "or"]

inductive Simple : Condition → Prop where
  | comparison {field : Field} {operator : String} {negated : Bool} {operand : Operand} :
    field.Plain → operator ∈ comparisonOperators → operand.Plain →
    Simple ⟨some (.field field), operator, negated, some operand⟩
  | connective {left right : Condition} {operator : String} {negated : Bool} :
    operator ∈ connectives → Simple left → Simple right →
    Simple ⟨some (.condition left), operator, negated, some (.condition right)⟩

end Condition

/-! ## Marks of fields -/

/-- The marks that a plain field can have. -/
def Mark.IsPlain (m : Mark) : Prop := m.1 = .identifier ∨ m.1.isValue

theorem Mark.IsPlain.ne_punctuation {m : Mark} (h : m.IsPlain) (c : Char) :
    m ≠ Mark.punctuation c := by
  rintro rfl
  rcases h with h | h <;> cases h

theorem Mark.IsPlain.ne_not {m : Mark} (h : m.IsPlain) : m ≠ Mark.keyword "not" := by
  rintro rfl
  rcases h with h | h <;> cases h

theorem Literal.isPlain_mark (value : Literal) : value.mark.IsPlain := by
  cases value <;> exact .inr rfl

theorem Literal.mark_injective {v w : Literal} (h : v.mark = w.mark) : v = w := by
  cases v <;> cases w <;> cases h <;> rfl

theorem Field.mark_ofLiteral (value : Literal) : (Field.ofLiteral value).mark = value.mark := by
  cases value <;> rfl

theorem Field.mark_ofName {word : String} (h : isWord word.toList)
    (hs : Dialect.isSymbol (String.ofList (word.toList.map Char.toLower)) = false) :
    (Field.ofName word).mark = (.identifier, .text word) := by
  have hne : word ≠ "*" := by
    rintro rfl
    cases h
  have hfull : (Field.ofName word).fullName = word := String.empty_append
  show Mark.name (Field.ofName word).fullName = _
  rw [hfull, Mark.name, if_neg hne, Mark.word, hs, String.ofList_toList]
  rfl

namespace Field.Plain

variable {f g : Field}

theorem flatten_eq (h : f.Plain) : f.flatten = [f.mark] := by
  cases h <;> rfl

theorem isPlain_mark (h : f.Plain) : f.mark.IsPlain := by
  cases h with
  | name hw hs =>
    rw [mark_ofName hw hs]
    exact .inl rfl
  | value _ =>
    rw [mark_ofLiteral]
    exact Literal.isPlain_mark _

/-- No punctuation is taken for a field. -/
theorem flatten_append_ne (h : f.Plain) (c : Char) (ms ns : List Mark) :
    f.flatten ++ ms ≠ Mark.punctuation c :: ns := by
  intro he
  rw [h.flatten_eq] at he
  exact h.isPlain_mark.ne_punctuation c (List.cons.inj he).1

theorem eq_of_mark (hf : f.Plain) (hg : g.Plain) (h : f.mark = g.mark) : f = g := by
  cases hf with
  | name hw hs =>
    rw [mark_ofName hw hs] at h
    cases hg with
    | name hw' hs' =>
      rw [mark_ofName hw' hs'] at h
      cases h
      rfl
    | @value v _ =>
      rw [mark_ofLiteral] at h
      cases v <;> cases h
  | @value v _ =>
    rw [mark_ofLiteral] at h
    cases hg with
    | name hw' hs' =>
      rw [mark_ofName hw' hs'] at h
      cases v <;> cases h
    | value _ =>
      rw [mark_ofLiteral] at h
      rw [Literal.mark_injective h]

theorem clean (h : f.Plain) : f.Clean := by
  refine ⟨?_, by cases h <;> exact nofun⟩
  cases h with
  | @name word hw hs =>
    have hfull : (Field.ofName word).fullName = word := String.empty_append
    show isName (Field.ofName word).fullName
    rw [hfull, isName, hw, Bool.or_true]
  | @value v hv =>
    cases v with
    | null => rfl
    | integer n => exact ⟨rfl, hv⟩
    | real x => exact ⟨rfl, hv⟩
    | text s => exact ⟨rfl, hv⟩
    | placeholder spelling => exact ⟨rfl, hv⟩

end Field.Plain

theorem Operand.Plain.clean {operand : Operand} (h : operand.Plain) : operand.Clean := by
  cases h with
  | field hf => exact hf.clean
  | list hf => exact fun f hm => (hf f hm).clean

theorem Operand.Plain.head_flatten {operand : Operand} (h : operand.Plain) (rest : List Mark) :
    (operand.flatten ++ rest).head? ≠ some (Mark.keyword "not") := by
  intro hn
  cases h with
  | @field f hf =>
    rw [show (Operand.field f).flatten = f.flatten from rfl, hf.flatten_eq] at hn
    exact hf.isPlain_mark.ne_not (Option.some.inj hn)
  | list _ => exact absurd (Option.some.inj hn) (by decide)

/-! ## Telling marks apart -/

/-- Things with `P` can be told apart from their marks, whatever follows these. -/
def Distinct {α : Type} (P : α → Prop) (f : α → List Mark) : Prop :=
  ∀ {a b : α} {rest others : List Mark}, P a → P b → f a ++ rest = f b ++ others →
    a = b ∧ rest = others

theorem distinct_field : Distinct Field.Plain Field.flatten := by
  intro f g rest others hf hg h
  rw [hf.flatten_eq, hg.flatten_eq, List.singleton_append, List.singleton_append,
    List.cons.injEq] at h
  exact ⟨hf.eq_of_mark hg h.1, h.2⟩

/-- The entries of a list behind its first, each with the comma before it. -/
def Mark.entries (fields : List Field) : List Mark :=
  fields.flatMap fun field => Mark.punctuation ',' :: field.flatten

theorem Mark.commas_cons (field : Field) (fields : List Field) :
    Mark.commas ((field :: fields).map Field.flatten) = field.flatten ++ entries fields := by
  induction fields generalizing field with
  | nil => simp [commas, entries]
  | cons next fields ih =>
    have hnext := ih next
    simp only [commas, List.map_cons, entries, List.flatMap_cons] at hnext ⊢
    rw [List.intercalate_cons_cons, hnext]
    simp

theorem Mark.entries_cons (field : Field) (fields : List Field) :
    entries (field :: fields) = Mark.punctuation ',' :: (field.flatten ++ entries fields) := rfl

theorem Mark.comma_ne_close : Mark.punctuation ',' ≠ Mark.punctuation ')' := by decide

theorem distinct_entries {fs gs : List Field} {rest others : List Mark}
    (hf : ∀ f ∈ fs, f.Plain) (hg : ∀ g ∈ gs, g.Plain)
    (h : Mark.entries fs ++ Mark.punctuation ')' :: rest =
      Mark.entries gs ++ Mark.punctuation ')' :: others) : fs = gs ∧ rest = others := by
  induction fs generalizing gs with
  | nil =>
    cases gs with
    | nil => exact ⟨rfl, (List.cons.inj h).2⟩
    | cons g gs => exact absurd (List.cons.inj h).1.symm Mark.comma_ne_close
  | cons f fs ih =>
    cases gs with
    | nil => exact absurd (List.cons.inj h).1 Mark.comma_ne_close
    | cons g gs =>
      obtain ⟨hf, hfs⟩ := List.forall_mem_cons.1 hf
      obtain ⟨hg, hgs⟩ := List.forall_mem_cons.1 hg
      rw [Mark.entries_cons, Mark.entries_cons, List.cons_append, List.cons_append,
        List.cons.injEq, List.append_assoc, List.append_assoc] at h
      obtain ⟨rfl, hbehind⟩ := distinct_field hf hg h.2
      obtain ⟨rfl, hrest⟩ := ih hfs hgs hbehind
      exact ⟨rfl, hrest⟩

/-- The marks of a list up to and with its closing parenthesis. -/
theorem distinct_list {fs gs : List Field} {rest others : List Mark}
    (hf : ∀ f ∈ fs, f.Plain) (hg : ∀ g ∈ gs, g.Plain)
    (h : Mark.commas (fs.map Field.flatten) ++ Mark.punctuation ')' :: rest =
      Mark.commas (gs.map Field.flatten) ++ Mark.punctuation ')' :: others) :
    fs = gs ∧ rest = others := by
  cases fs with
  | nil =>
    cases gs with
    | nil => exact ⟨rfl, (List.cons.inj h).2⟩
    | cons g gs =>
      rw [Mark.commas_cons, List.append_assoc] at h
      exact absurd h.symm ((hg g List.mem_cons_self).flatten_append_ne ')' _ _)
  | cons f fs =>
    rw [Mark.commas_cons, List.append_assoc] at h
    cases gs with
    | nil => exact absurd h ((hf f List.mem_cons_self).flatten_append_ne ')' _ _)
    | cons g gs =>
      obtain ⟨hf, hfs⟩ := List.forall_mem_cons.1 hf
      obtain ⟨hg, hgs⟩ := List.forall_mem_cons.1 hg
      rw [Mark.commas_cons, List.append_assoc] at h
      obtain ⟨rfl, hbehind⟩ := distinct_field hf hg h
      obtain ⟨rfl, hrest⟩ := distinct_entries hfs hgs hbehind
      exact ⟨rfl, hrest⟩

theorem Mark.parens_append (ms rest : List Mark) :
    parens ms ++ rest = punctuation '(' :: (ms ++ punctuation ')' :: rest) := by
  simp [parens]

theorem distinct_operand : Distinct Operand.Plain Operand.flatten := by
  intro x y rest others hx hy h
  cases hx with
  | field hf =>
    cases hy with
    | field hg =>
      obtain ⟨rfl, hrest⟩ := distinct_field hf hg h
      exact ⟨rfl, hrest⟩
    | list _ => exact absurd h (hf.flatten_append_ne '(' _ _)
  | list hf =>
    cases hy with
    | field hg => exact absurd h.symm (hg.flatten_append_ne '(' _ _)
    | list hg =>
      rw [Operand.flatten, Operand.flatten, Mark.parens_append, Mark.parens_append,
        List.cons.injEq] at h
      obtain ⟨rfl, hrest⟩ := distinct_list hf hg h.2
      exact ⟨rfl, hrest⟩

/-- What stands behind an operator: NOT, if there, and an operand that does not begin with it. -/
theorem distinct_negated {m n : Bool} {xs ys : List Mark}
    (hx : xs.head? ≠ some (Mark.keyword "not")) (hy : ys.head? ≠ some (Mark.keyword "not"))
    (h : (if m then [Mark.keyword "not"] else []) ++ xs =
      (if n then [Mark.keyword "not"] else []) ++ ys) : m = n ∧ xs = ys := by
  cases m <;> cases n
  · exact ⟨rfl, h⟩
  · exact absurd (congrArg List.head? h) hx
  · exact absurd (congrArg List.head? h).symm hy
  · exact ⟨rfl, (List.cons.inj h).2⟩

namespace Condition

theorem ofOperator_injective {s t : String} (hs : s ∈ comparisonOperators ++ connectives)
    (ht : t ∈ comparisonOperators ++ connectives) (h : Mark.ofOperator s = Mark.ofOperator t) :
    s = t := by
  have hall : ∀ s ∈ comparisonOperators ++ connectives, ∀ t ∈ comparisonOperators ++ connectives,
      Mark.ofOperator s = Mark.ofOperator t → s = t := by decide
  exact hall s hs t ht h

theorem phrase_upper {operator : String} (h : operator ∈ comparisonOperators ++ connectives) :
    isPhrase (Text.upper operator) ∧
      Mark.phrase (Text.upper operator) = [Mark.ofOperator operator] := by
  have hall : ∀ operator ∈ comparisonOperators ++ connectives,
      operator.toList.map Char.toLower = operator.toList ∧ Dialect.isOperator operator := by
    decide
  exact phrase_upper_of_operator (hall operator h).1 (hall operator h).2

/-- The marks of a condition where it is an operand. -/
def operandMarks (c : Condition) : List Mark := Operand.flattenOperand? (some (.condition c))

/-- An operator, perhaps NOT, and the marks of the operand behind them. -/
def behind (operator : String) (negated : Bool) (right : List Mark) : List Mark :=
  Mark.ofOperator operator :: ((if negated then [Mark.keyword "not"] else []) ++ right)

theorem distinct_behind {s t : String} {m n : Bool} {xs ys : List Mark}
    (hs : s ∈ comparisonOperators ++ connectives) (ht : t ∈ comparisonOperators ++ connectives)
    (hx : xs.head? ≠ some (Mark.keyword "not")) (hy : ys.head? ≠ some (Mark.keyword "not"))
    (h : behind s m xs = behind t n ys) : s = t ∧ m = n ∧ xs = ys := by
  rw [behind, behind, List.cons.injEq] at h
  exact ⟨ofOperator_injective hs ht h.1, distinct_negated hx hy h.2⟩

section Flatten

variable {field : Field} {operator : String} {operand : Operand} {left right : Condition}

theorem flatten_comparison (hf : field.Plain) (ho : operator ∈ comparisonOperators)
    (hp : operand.Plain) (negated : Bool) (rest : List Mark) :
    flatten ⟨some (.field field), operator, negated, some operand⟩ ++ rest =
      field.mark :: behind operator negated (operand.flatten ++ rest) := by
  have hoperand : Operand.flattenOperand? (some operand) = operand.flatten := by
    cases hp <;> rfl
  have hfield : Operand.flattenOperand? (some (.field field)) = field.flatten := rfl
  rw [flatten, hoperand, hfield, hf.flatten_eq, (phrase_upper (List.mem_append_left _ ho)).2]
  simp [behind]

theorem flatten_connective (ho : operator ∈ connectives) (negated : Bool) (rest : List Mark) :
    flatten ⟨some (.condition left), operator, negated, some (.condition right)⟩ ++ rest =
      left.operandMarks ++ behind operator negated (right.operandMarks ++ rest) := by
  rw [flatten, (phrase_upper (List.mem_append_right _ ho)).2]
  simp [behind, operandMarks]

theorem operandMarks_comparison (hp : operand.Plain) (negated : Bool) :
    operandMarks ⟨some (.field field), operator, negated, some operand⟩ =
      flatten ⟨some (.field field), operator, negated, some operand⟩ := by
  cases hp <;> rfl

theorem operandMarks_connective (negated : Bool) :
    operandMarks ⟨some (.condition left), operator, negated, some (.condition right)⟩ =
      Mark.parens
        (flatten ⟨some (.condition left), operator, negated, some (.condition right)⟩) := rfl

end Flatten

/-- An operand of a simple condition begins with a plain mark or a parenthesis. -/
theorem Simple.head_operandMarks {c : Condition} (h : c.Simple) (rest : List Mark) :
    (c.operandMarks ++ rest).head? ≠ some (Mark.keyword "not") := by
  cases h with
  | comparison hf ho hp =>
    rw [operandMarks_comparison hp, flatten_comparison hf ho hp]
    intro h
    exact hf.isPlain_mark.ne_not (Option.some.inj h)
  | connective _ _ _ =>
    rw [operandMarks_connective]
    intro h
    exact absurd (Option.some.inj h) (by decide)

/-- The induction is on the first of the two; parentheses tell whether it joins others. -/
theorem distinct_condition : Distinct Simple operandMarks := by
  intro c d rest others hc hd h
  induction hc generalizing d rest others with
  | comparison hf ho hp =>
    rw [operandMarks_comparison hp, flatten_comparison hf ho hp] at h
    cases hd with
    | comparison hg ho' hp' =>
      rw [operandMarks_comparison hp', flatten_comparison hg ho' hp', List.cons.injEq] at h
      obtain ⟨rfl, rfl, hright⟩ := distinct_behind (List.mem_append_left _ ho)
        (List.mem_append_left _ ho') (hp.head_flatten rest) (hp'.head_flatten others) h.2
      obtain ⟨rfl, hrest⟩ := distinct_operand hp hp' hright
      obtain rfl := hf.eq_of_mark hg h.1
      exact ⟨rfl, hrest⟩
    | connective _ _ _ =>
      rw [operandMarks_connective] at h
      exact absurd (List.cons.inj h).1 (hf.isPlain_mark.ne_punctuation '(')
  | connective ho hl hr ihl ihr =>
    cases hd with
    | comparison hg ho' hp' =>
      rw [operandMarks_connective, operandMarks_comparison hp', flatten_comparison hg ho' hp'] at h
      exact absurd (List.cons.inj h).1.symm (hg.isPlain_mark.ne_punctuation '(')
    | connective ho' hl' hr' =>
      rw [operandMarks_connective, operandMarks_connective, Mark.parens_append, Mark.parens_append,
        List.cons.injEq, flatten_connective ho, flatten_connective ho'] at h
      obtain ⟨rfl, hbehind⟩ := ihl hl' h.2
      obtain ⟨rfl, rfl, hright⟩ := distinct_behind (List.mem_append_right _ ho)
        (List.mem_append_right _ ho') (hr.head_operandMarks _) (hr'.head_operandMarks _) hbehind
      obtain ⟨rfl, hrest⟩ := ihr hr' hright
      exact ⟨rfl, (List.cons.inj hrest).2⟩

/-- A comparison is no beginning of a condition that joins others: its marks end where an operator
would have to stand. -/
theorem flatten_ne_connective {c left right : Condition} {operator : String} {negated : Bool}
    (hc : c.Simple) (hm : c.operandMarks = c.flatten) (ho : operator ∈ connectives)
    (hl : left.Simple) :
    c.flatten ≠ flatten ⟨some (.condition left), operator, negated, some (.condition right)⟩ := by
  intro h
  have hbody := @flatten_connective operator left right ho negated []
  rw [List.append_nil, ← h, ← hm] at hbody
  rw [← List.append_nil c.operandMarks] at hbody
  cases (distinct_condition hc hl hbody).2

theorem flatten_injective {c d : Condition} (hc : c.Simple) (hd : d.Simple)
    (h : c.flatten = d.flatten) : c = d := by
  have hsame (hm : c.operandMarks = d.operandMarks) : c = d := by
    have hmarks := congrArg (· ++ ([] : List Mark)) hm
    exact (distinct_condition hc hd hmarks).1
  cases hc with
  | comparison hf ho hp =>
    cases hd with
    | comparison hg ho' hp' =>
      apply hsame
      rw [operandMarks_comparison hp, operandMarks_comparison hp', h]
    | connective ho' hl' hr' =>
      exact absurd h (flatten_ne_connective (.comparison hf ho hp) (operandMarks_comparison hp _)
        ho' hl')
  | connective ho hl hr =>
    cases hd with
    | comparison hg ho' hp' =>
      exact absurd h.symm (flatten_ne_connective (.comparison hg ho' hp')
        (operandMarks_comparison hp' _) ho hl)
    | connective ho' hl' hr' =>
      apply hsame
      rw [operandMarks_connective, operandMarks_connective, h]

/-! ## Texts -/

theorem Simple.clean {c : Condition} (h : c.Simple) : c.Clean := by
  induction h with
  | comparison hf ho hp => exact ⟨hf.clean, (phrase_upper (List.mem_append_left _ ho)).1, hp.clean⟩
  | connective ho _ _ ihl ihr => exact ⟨ihl, (phrase_upper (List.mem_append_right _ ho)).1, ihr⟩

/-- Simple conditions are found again from their text: how they are grouped, the order of their
operands, each NOT, each operator and each value. -/
theorem render_injective {c d : Condition} (hc : c.Simple) (hd : d.Simple)
    (h : c.render = d.render) : c = d := by
  have hmarks {e : Condition} (he : e.Simple) :
      (tokenize e.render).map Token.mark = e.flatten ++ [Mark.last] :=
    (spells_render e he.clean).tokenize.1
  apply flatten_injective hc hd
  have hboth := (hmarks hc).symm.trans (h ▸ hmarks hd)
  exact List.append_cancel_right hboth

/-- A comparison with a text that looks like more of the condition. -/
def likeNote : Condition where
  left := some (.field (.ofName "note"))
  operator := "like"
  right := some (.field (.ofLiteral (.text "x' AND (y")))

def nullNotInList : Condition where
  left := some (.field (.ofLiteral .null))
  operator := "in"
  negated := true
  right := some (.list [.ofLiteral (.integer 1), .ofLiteral (.text "")])

def likeOrNotInList : Condition where
  left := some (.condition likeNote)
  operator := "or"
  right := some (.condition nullNotInList)

/-- An operator that is changed and changed back. -/
theorem render_injective_changed :
    likeOrNotInList.Simple ∧
      ConditionChange.apply { operator := some "or" } { likeOrNotInList with operator := "and" } =
        likeOrNotInList := by
  have hnote : (Field.ofName "note").Plain := .name (by decide) (by decide)
  have hlist : ∀ field ∈ [Field.ofLiteral (.integer 1), Field.ofLiteral (.text "")],
      field.Plain := by
    intro field h
    simp only [List.mem_cons, List.not_mem_nil, or_false] at h
    rcases h with rfl | rfl
    · exact .value trivial
    · exact .value trivial
  have hleft : likeNote.Simple := .comparison hnote (by decide) (.field (.value trivial))
  have hright : nullNotInList.Simple := .comparison (.value trivial) (by decide) (.list hlist)
  have hsimple : likeOrNotInList.Simple := .connective (by decide) hleft hright
  exact ⟨hsimple, render_injective hsimple hsimple rfl⟩

end Condition

end SqlDml
