import SqlDml.Proofs.Statement.Precedence
import SqlDml.Proofs.Statement.Proper

/-!
# Several conditions after HAVING

* `Select.havingText`, `Select.conjuncts` : the clause of a query, and the marks of its conditions;
* `having_conjunction` : the conditions are joined by AND and nothing else;
* `disjointQuery` : conditions with an OR in each place where one can stand.

With two conditions or more, each is put in parentheses if AND would bind into it. With one there is
no AND, and its OR stands as it is.
-/

namespace SqlDml

namespace Select

/-- The clause with the conditions, and HAVING before them. -/
def havingText (q : Select) : String := Condition.assembleHaving (Condition.renderEach q.having)

/-- The marks of each condition after HAVING, in parentheses if AND would bind into it. -/
def conjuncts (q : Select) : List (List Mark) :=
  q.having.map fun c => c.conjunctMarks (ownMarks c.render)

/-- The clause stands between what comes before HAVING and what comes behind. -/
theorem render_eq_havingText (q : Select) :
    q.render = ({ q with having := [], orderBy := [], limit := none } : Select).render ++
      q.havingText ++ renderOrderBy q.orderBy ++ renderLimit q.limit := by
  obtain ⟨tables, placeholders, quantifier, items, filter, groupBy, having, orderBy, limit⟩ := q
  have hhaving : Condition.assembleHaving (Condition.renderEach []) = "" := rfl
  have horderBy : renderOrderBy [] = "" := rfl
  have hlimit : renderLimit none = "" := rfl
  simp only [render, havingText, hhaving, horderBy, hlimit, String.append_empty]

end Select

theorem Outlined.not_exposes {text : String} (h : Outlined True text) : ¬Exposes text := by
  unfold Exposes
  rw [h.reads.tokenize, h.balanced.outer_append]
  exact List.not_mem_append (h.outer trivial) (by decide)

/-- Several conditions after HAVING: the clause is HAVING and the conjuncts in order, with AND
between them. No OR of it stands outside parentheses, in the whole or in a conjunct, and the
parentheses of each conjunct match. -/
theorem having_conjunction {q : Select} (hmany : 2 ≤ q.having.length)
    (h : ∀ c ∈ q.having, c.Proper) :
    q.render = ({ q with having := [], orderBy := [], limit := none } : Select).render ++
        q.havingText ++ renderOrderBy q.orderBy ++ renderLimit q.limit ∧
      (tokenize q.havingText).map Token.mark =
        Mark.keyword "having" :: [Mark.keyword "and"].intercalate q.conjuncts ++ [Mark.last] ∧
      ¬Exposes q.havingText ∧
      ∀ ms ∈ q.conjuncts, Mark.Balanced ms ∧ Mark.keyword "or" ∉ Mark.outer 0 ms := by
  have hall : ∀ c ∈ q.having, Outlined c.IsBare c.render := fun c hc => c.outlined_render (h c hc)
  obtain ⟨c, d, others, hq⟩ : ∃ c d others, q.having = c :: d :: others := by
    match hq : q.having with
    | [] | [_] =>
      rw [hq] at hmany
      simp at hmany
    | c :: d :: others => exact ⟨c, d, others, rfl⟩
  refine ⟨q.render_eq_havingText, ?_, ?_, fun ms hms => ?_⟩
  · have hreads := lead_having.closed.append_reads
      (Reads.intercalate lead_and fun e he => Condition.reads_conjunct e (hall e he).reads)
    rw [Select.havingText, Select.conjuncts, hq, Condition.assembleHaving_cons_cons, ← hq]
    exact hreads.tokenize
  · rw [Select.havingText, hq]
    exact (Condition.hangs_conjunction c d others (hq ▸ hall)).outlined.not_exposes
  · obtain ⟨e, he, rfl⟩ := List.mem_map.1 hms
    have hconjunct : Outlined True (e.conjunct e.render) := Condition.outlined_conjunct (hall e he)
    have hown := (e.reads_conjunct (hall e he).reads).ownMarks_eq
    have hbalanced := hconjunct.balanced
    have houter := hconjunct.outer trivial
    rw [hown] at hbalanced houter
    exact ⟨hbalanced, houter⟩

/-- An OR in an argument of a function, one in a query with a limit that is out of range, one that
is the operator, and a condition that is nothing but a text that looks like more of the clause. -/
def disjointQuery : Select where
  items := [.field (.ofName "x")]
  having := [
    { left := some (.call
        { field := .ofName "count", distinct := true
          arguments := [.condition
            { left := some (.field (.ofName "a"))
              operator := "or"
              right := some (.field (.ofName "b")) }] })
      operator := ">"
      right := some (.query
        { items := [.field (.ofName "y")]
          filter := some
            { operator := "OR"
              right := some (.field { name := "z", table := some "t" }) }
          limit := some { rowCount := 9223372036854775808 } }) },
    { left := some (.field (.ofName "c"))
      operator := "oR"
      negated := true
      right := some (.list [.ofLiteral (.integer 1), .ofLiteral .null]) },
    { right := some (.field (.ofLiteral (.text ") or ("))) }]

open Mark in
theorem having_conjunction_disjointQuery :
    2 ≤ disjointQuery.having.length ∧ (∀ c ∈ disjointQuery.having, c.Proper) ∧
      disjointQuery.render = "SELECT x HAVING count(DISTINCT a OR b) > " ++
        "(SELECT y WHERE OR t.z LIMIT 9223372036854775808) AND (c OR NOT (1, NULL)) AND ') or ('" ∧
      (tokenize disjointQuery.havingText).map Token.mark =
        [keyword "having", keyword "count", punctuation '(', keyword "distinct", name "a",
          keyword "or", name "b", punctuation ')', operator ">", punctuation '(', keyword "select",
          name "y", keyword "where", keyword "or", name "t.z", keyword "limit",
          (.invalid .malformedNumber, .text "9223372036854775808"), punctuation ')',
          keyword "and", punctuation '(', name "c", keyword "or", keyword "not",
          punctuation '(', (.integer, .integer 1), punctuation ',', keyword "null",
          punctuation ')', punctuation ')',
          keyword "and", (.text, .text ") or ("), last] ∧
      ¬Exposes disjointQuery.havingText := by
  have hproper : ∀ c ∈ disjointQuery.having, c.Proper := by
    simp +decide [disjointQuery, Condition.Proper, Condition.Proper?, Condition.AllProper,
      Operand.Proper?, Operand.Proper, Operand.AllProper, Call.Proper, Select.Proper,
      Item.AllProper, Item.Proper, Table.AllProper, Field.Proper, Field.ShownProper,
      Field.NameProper, AliasProper, OperatorProper, Literal.Clean, OrderByClean,
      Field.ofName, Field.ofLiteral, Column.ofValue, Literal.kind]
  obtain ⟨-, hmarks, hexposes, -⟩ := @having_conjunction disjointQuery (by decide) hproper
  exact ⟨by decide, hproper, by decide +kernel, hmarks.trans (by decide +kernel), hexposes⟩

end SqlDml
