import SqlDml.Proofs.Spelling.Word
import SqlDml.Proofs.Statement.Limit

/-!
# Statements are read back

* `Condition.spells_render`, `Select.spells_render` and the like : the text of a part spells the
  marks of that part, whatever nests in it;
* `tokenize_render` : the tokens of the text of a clean statement.
-/

namespace SqlDml

/-! ## Parts without conditions -/

theorem Column.spells_renderValue {column : Column} (h : column.ValueClean) :
    Spells column.renderValue [column.valueMark] := by
  obtain ⟨name, value, kind⟩ := column
  rcases value with _ | value <;> rcases kind with _ | (_ | _ | _ | _ | _)
  all_goals first
    | exact spells_null
    | exact spells_literal h

theorem Column.spells_renderAssignment {column : Column} (h : column.Clean) :
    Spells column.renderAssignment column.assignment := by
  have he : Lead " = " [Mark.operator "="] := lead_words " =" (by decide) rfl
  exact ((spells_name h.1).append_lead he).append (spells_renderValue h.2)

theorem Field.trails_aliasMarks {field : Field} (h : AliasClean field.alias) :
    Trails (clause " AS " field.alias) field.aliasMarks := trails_alias lead_as h

theorem Field.spells_render {field : Field} (h : field.Clean) :
    Spells field.render field.flatten := by
  obtain ⟨hs, ha⟩ := h
  have hbody : Spells ((field.table.map (· ++ ".")).getD "" ++ field.shown) [field.mark] := by
    obtain ⟨⟨name, value, kind⟩, table, alias?⟩ := field
    have hnull (hn : table = none) :
        Spells ((table.map (· ++ ".")).getD "" ++ "NULL") [Mark.keyword "null"] := by
      subst hn
      exact spells_null
    have hvalue {value : Literal} (hv : table = none ∧ value.Clean) :
        Spells ((table.map (· ++ ".")).getD "" ++ value.render) [value.mark] := by
      obtain ⟨rfl, hv⟩ := hv
      have hl := spells_literal hv
      rwa [← String.empty_append (s := value.render)] at hl
    rcases value with _ | value <;> rcases kind with _ | (_ | _ | _ | _ | _)
    all_goals first
      | exact hnull hs
      | exact hvalue hs
      | exact spells_name hs
  exact hbody.append_trails (trails_aliasMarks ha)

theorem GroupBy.spells_render {groupBy : GroupBy} (h : NamesClean groupBy.columns) :
    Spells groupBy.render groupBy.flatten := spells_names h

theorem Direction.spells_render (direction : Direction) :
    Spells direction.render [direction.mark] := by
  cases direction with
  | ascending => exact spells_words "ASC" (by decide)
  | descending => exact spells_words "DESC" (by decide)

theorem SortKey.spells_render {key : SortKey} (h : isName key.column) :
    Spells key.render key.flatten :=
  ((spells_name h).append_lead lead_blank).append key.direction.spells_render

theorem Quantifier.spells_render (quantifier : Quantifier) :
    Spells quantifier.render [quantifier.mark] := by
  cases quantifier with
  | distinct => exact spells_words "DISTINCT" (by decide)
  | all => exact spells_words "ALL" (by decide)

theorem trails_orderBy {keys : List SortKey} (h : OrderByClean keys) :
    Trails (renderOrderBy keys) (flattenOrderBy keys) := by
  have ho : Lead " ORDER BY " [Mark.keyword "order", Mark.keyword "by"] :=
    lead_words " ORDER BY" (by decide) rfl
  rw [renderOrderBy, flattenOrderBy]
  split
  · exact trails_empty
  · exact ho.append (spells_commas fun key hk => SortKey.spells_render (h key hk))

theorem trails_limit {limit : Option Limit} (h : LimitClean limit) :
    Trails (renderLimit limit) (flattenLimit limit) :=
  trails_clause lead_blank fun l hl => Limit.spells_render (h l hl)

/-! ## Conditions and tables, given their parts -/

theorem Condition.spells_assemble {c : Condition} {left right : Option String}
    {ms ns : List Mark} (hl : SpellsEach left.toList ms) (ho : isPhrase (Text.upper c.operator))
    (hr : SpellsEach right.toList ns) :
    Spells (c.assemble left right)
      (ms ++ Mark.phrase (Text.upper c.operator) ++
        (if c.negated then [Mark.keyword "not"] else []) ++ ns) := by
  have hop : SpellsEach (if c.operator = "" then [] else [Text.upper c.operator])
      (Mark.phrase (Text.upper c.operator)) := by
    by_cases he : c.operator = ""
    · rw [if_pos he, he]
      exact .nil
    · rw [if_neg he]
      exact .single (spells_phrase ho)
  have hnot : SpellsEach (if c.negated then ["NOT"] else [])
      (if c.negated then [Mark.keyword "not"] else []) := by
    cases c.negated with
    | true => exact .single (spells_words "NOT" (by decide))
    | false => exact .nil
  exact (((hl.append hop).append hnot).append hr).spells_blanks

theorem Condition.spells_conjunct (c : Condition) {text : String} {ms : List Mark}
    (h : Spells text ms) : Spells (c.conjunct text) (c.conjunctMarks ms) := by
  rw [conjunct, conjunctMarks]
  split
  · exact (closed_parens h).spells
  · exact h

theorem Condition.trails_having {conditions : List Condition}
    (h : ∀ c ∈ conditions, Spells c.render c.flatten) :
    Trails (assembleHaving (renderEach conditions)) (flattenHaving (flattenEach conditions)) := by
  match conditions with
  | [] => exact trails_empty
  | [c] => exact lead_having.append (h c List.mem_cons_self)
  | c :: d :: others =>
    rw [assembleHaving_cons_cons, flattenHaving_cons_cons]
    exact lead_having.append (spells_intercalate lead_and fun e he => spells_conjunct e (h e he))

theorem Table.spells_assemble {t : Table} {joinCondition : Option String} {ms : List Mark}
    (hn : isName t.name) (ha : AliasClean t.alias)
    (hj : ∀ words ∈ t.join, isPhrase (Text.upper words))
    (hc : Trails (joinCondition.getD "") ms) :
    Spells (t.assemble joinCondition)
      ((t.join.map fun words => Mark.phrase (Text.upper words)).getD [] ++
        Mark.name t.name :: Mark.led [] (t.alias.map fun text => [Mark.name text]) ++ ms) := by
  have hjoin : Closed ((t.join.map (Text.upper · ++ " ")).getD "")
      ((t.join.map fun words => Mark.phrase (Text.upper words)).getD []) := by
    cases hw : t.join with
    | none => exact closed_empty
    | some words =>
      rw [Option.map_some, Option.map_some, Option.getD_some, Option.getD_some]
      exact closed_phrase (hj words hw)
  have halias := trails_alias lead_blank ha
  have hname := ((hjoin.append (spells_name hn)).append_trails halias).append_trails hc
  rw [List.append_assoc _ [Mark.name t.name], List.singleton_append] at hname
  exact hname

/-- What stands before a table that is not the first. -/
theorem Table.lead_separator (t : Table) :
    Lead (if t.join.isSome then " " else ", ")
      (if t.join.isSome then [] else [Mark.punctuation ',']) := by
  split
  · exact lead_blank
  · exact lead_comma

theorem Table.trails_others {tables : List Table} (h : ∀ t ∈ tables, Spells t.render t.flatten) :
    Trails
      (String.join (tables.map fun t => (if t.join.isSome then " " else ", ") ++ t.render))
      (tables.flatMap fun t =>
        (if t.join.isSome then [] else [Mark.punctuation ',']) ++ t.flatten) := by
  induction tables with
  | nil => exact trails_empty
  | cons t others ih =>
    have ht := t.lead_separator.append (h t List.mem_cons_self)
    have ho := ih fun u hu => h u (List.mem_cons_of_mem t hu)
    rw [List.map_cons, String.join_cons, List.flatMap_cons]
    exact ht.append ho

theorem Table.spells_assembleAll {tables : List Table}
    (h : ∀ t ∈ tables, Spells t.render t.flatten) :
    Spells (assembleAll (renderEach tables)) (flattenAll (flattenEach tables)) := by
  rw [renderEach_eq_map, flattenEach_eq_map]
  cases tables with
  | nil => exact closed_empty.spells
  | cons t others =>
    have ht := h t List.mem_cons_self
    have ho := trails_others fun u hu => h u (List.mem_cons_of_mem t hu)
    simp only [List.map_cons, assembleAll, flattenAll, List.map_map, List.flatMap_map]
    exact ht.append_trails ho

theorem Call.closed_distinct (call : Call) :
    Closed (if call.distinct then "DISTINCT " else "")
      (if call.distinct then [Mark.keyword "distinct"] else []) := by
  cases call.distinct with
  | true => exact closed_words "DISTINCT" (by decide)
  | false => exact closed_empty

theorem Call.spells_assemble (call : Call) {arguments : List String} {ms : List Mark}
    (hn : isName call.field.fullName) (ha : AliasClean call.field.alias)
    (hargs : Spells (commaList arguments) ms) :
    Spells (call.assemble arguments)
      (Mark.name call.field.fullName ::
        Mark.parens ((if call.distinct then [Mark.keyword "distinct"] else []) ++ ms) ++
        call.field.aliasMarks) := by
  have hinner := call.closed_distinct.append hargs
  have hbody := ((spells_name hn).append_lead (lead_parens hinner)).spells
  rw [Field.fullName, String.append_assoc] at hbody
  exact hbody.append_trails (Field.trails_aliasMarks ha)

theorem trails_items {items : List Item} (h : ∀ item ∈ items, Spells item.render item.flatten) :
    Trails (if items.isEmpty then "" else " " ++ commaList (Item.renderEach items))
      (Mark.commas (Item.flattenEach items)) := by
  rw [Item.renderEach_eq_map, Item.flattenEach_eq_map]
  cases items with
  | nil => exact trails_empty
  | cons item others => exact lead_blank.append (spells_commas h)

theorem trails_from {tables : List Table} (h : ∀ t ∈ tables, Spells t.render t.flatten) :
    Trails (if tables.isEmpty then "" else " FROM " ++ Table.assembleAll (Table.renderEach tables))
      (if tables.isEmpty then []
        else Mark.keyword "from" :: Table.flattenAll (Table.flattenEach tables)) := by
  split
  · exact trails_empty
  · exact lead_from.append (Table.spells_assembleAll h)

theorem trails_filter {filter : Option Condition} (h : ∀ c ∈ filter, Spells c.render c.flatten) :
    Trails (renderFilter filter) (flattenFilter filter) := by
  rw [renderFilter, flattenFilter, Condition.render?_eq_map, Condition.flatten?_eq_map]
  exact trails_clause lead_where h

theorem trails_groupBy {groupBy : Option GroupBy} (h : ∀ g ∈ groupBy, NamesClean g.columns) :
    Trails (clause " GROUP BY " ((groupBy.filter (!·.columns.isEmpty)).map GroupBy.render))
      (Mark.led [Mark.keyword "group", Mark.keyword "by"]
        ((groupBy.filter (!·.columns.isEmpty)).map GroupBy.flatten)) := by
  have hg : Lead " GROUP BY " [Mark.keyword "group", Mark.keyword "by"] :=
    lead_words " GROUP BY" (by decide) rfl
  exact trails_clause hg fun g hm =>
    GroupBy.spells_render (h g (Option.mem_filter_iff.1 hm).1)

theorem Select.spells_assemble (q : Select) (hi : ∀ item ∈ q.items, Spells item.render item.flatten)
    (ht : ∀ t ∈ q.tables, Spells t.render t.flatten)
    (hf : ∀ c ∈ q.filter, Spells c.render c.flatten)
    (hg : ∀ g ∈ q.groupBy, NamesClean g.columns)
    (hh : ∀ c ∈ q.having, Spells c.render c.flatten) (ho : OrderByClean q.orderBy)
    (hl : LimitClean q.limit) : Spells q.render q.flatten := by
  obtain ⟨tables, placeholders, quantifier, items, filter, groupBy, having, orderBy, limit⟩ := q
  have hselect : Spells "SELECT" [Mark.keyword "select"] := spells_words "SELECT" (by decide)
  have hquantifier := trails_clause lead_blank
    fun word (_ : word ∈ quantifier) => word.spells_render
  exact (((((((hselect.append_trails hquantifier).append_trails (trails_items hi)).append_trails
    (trails_from ht)).append_trails (trails_filter hf)).append_trails
    (trails_groupBy hg)).append_trails (Condition.trails_having hh)).append_trails
    (trails_orderBy ho)).append_trails (trails_limit hl)

/-! ## The whole recursion -/

mutual

theorem Operand.spells_render : (operand : Operand) → operand.Clean →
    Spells operand.render operand.flatten
  | .field _, h => Field.spells_render h
  | .call c, h => c.spells_render h
  | .condition c, h => c.spells_render h
  | .query q, h => (closed_parens (q.spells_render h)).spells
  | .list _, h => (closed_parens (spells_commas fun f hf => Field.spells_render (h f hf))).spells
termination_by structural operand => operand

theorem Call.spells_render : (call : Call) → call.Clean → Spells call.render call.flatten
  | ⟨field, arguments, distinct⟩, ⟨hn, ha, hargs⟩ => by
    have hall := Operand.spells_each arguments hargs
    have hlist := spells_commas hall
    rw [← Operand.renderEach_eq_map, ← Operand.flattenEach_eq_map] at hlist
    exact Call.spells_assemble ⟨field, arguments, distinct⟩ hn ha hlist
termination_by structural call => call

theorem Operand.spells_each : (operands : List Operand) → Operand.AllClean operands →
    ∀ operand ∈ operands, Spells operand.render operand.flatten
  | [], _ => fun _ h => absurd h List.not_mem_nil
  | operand :: others, ⟨h, ho⟩ =>
    List.forall_mem_cons.2 ⟨operand.spells_render h, Operand.spells_each others ho⟩
termination_by structural operands => operands

theorem Operand.spells_operand? : (operand : Option Operand) → Operand.Clean? operand →
    SpellsEach (Operand.renderOperand? operand).toList (Operand.flattenOperand? operand)
  | none, _ => .nil
  | some operand, h => by
    have hs := operand.spells_render h
    unfold Operand.renderOperand? Operand.flattenOperand?
    dsimp only
    split
    · exact .single (closed_parens hs).spells
    · exact .single hs
termination_by structural operand => operand

theorem Condition.spells_render : (condition : Condition) → condition.Clean →
    Spells condition.render condition.flatten
  | ⟨left, operator, negated, right⟩, ⟨hl, ho, hr⟩ => by
    have hleft := Operand.spells_operand? left hl
    have hright := Operand.spells_operand? right hr
    exact Condition.spells_assemble (c := ⟨left, operator, negated, right⟩) hleft ho hright
termination_by structural condition => condition

theorem Condition.spells_each : (conditions : List Condition) → Condition.AllClean conditions →
    ∀ condition ∈ conditions, Spells condition.render condition.flatten
  | [], _ => fun _ h => absurd h List.not_mem_nil
  | condition :: others, ⟨h, ho⟩ =>
    List.forall_mem_cons.2 ⟨condition.spells_render h, Condition.spells_each others ho⟩
termination_by structural conditions => conditions

theorem Condition.spells_option : (condition : Option Condition) → Condition.Clean? condition →
    ∀ c ∈ condition, Spells c.render c.flatten
  | none, _ => fun _ h => absurd h (Option.not_mem_none _)
  | some condition, h => by
    rintro c ⟨⟩
    exact condition.spells_render h
termination_by structural condition => condition

theorem JoinCondition.trails_render : (j : JoinCondition) → j.Clean → Trails j.render j.flatten
  | ⟨.condition, condition, _⟩, h => lead_on.append (condition.spells_render h)
  | ⟨.columns, _, _⟩, h => lead_using.append (closed_parens (spells_names h)).spells
termination_by structural j => j

theorem JoinCondition.trails_option : (j : Option JoinCondition) → JoinCondition.Clean? j →
    Trails ((JoinCondition.render? j).getD "") (JoinCondition.flatten? j)
  | none, _ => trails_empty
  | some j, h => j.trails_render h
termination_by structural j => j

theorem Table.spells_render : (table : Table) → table.Clean → Spells table.render table.flatten
  | ⟨name, alias?, join, joinCondition⟩, ⟨hn, ha, hj, hc⟩ => by
    have hcondition := JoinCondition.trails_option joinCondition hc
    exact Table.spells_assemble (t := ⟨name, alias?, join, joinCondition⟩) hn ha hj hcondition
termination_by structural table => table

theorem Table.spells_each : (tables : List Table) → Table.AllClean tables →
    ∀ table ∈ tables, Spells table.render table.flatten
  | [], _ => fun _ h => absurd h List.not_mem_nil
  | table :: others, ⟨h, ho⟩ =>
    List.forall_mem_cons.2 ⟨table.spells_render h, Table.spells_each others ho⟩
termination_by structural tables => tables

theorem Item.spells_render : (item : Item) → item.Clean → Spells item.render item.flatten
  | .field _, h => Field.spells_render h
  | .call c, h => c.spells_render h
termination_by structural item => item

theorem Item.spells_each : (items : List Item) → Item.AllClean items →
    ∀ item ∈ items, Spells item.render item.flatten
  | [], _ => fun _ h => absurd h List.not_mem_nil
  | item :: others, ⟨h, ho⟩ =>
    List.forall_mem_cons.2 ⟨item.spells_render h, Item.spells_each others ho⟩
termination_by structural items => items

theorem Select.spells_render : (query : Select) → query.Clean →
    Spells query.render query.flatten
  | ⟨tables, placeholders, quantifier, items, filter, groupBy, having, orderBy, limit⟩,
      ⟨hi, ht, hf, hg, hh, ho, hl⟩ => by
    have hitems := Item.spells_each items hi
    have htables := Table.spells_each tables ht
    have hfilter := Condition.spells_option filter hf
    have hhaving := Condition.spells_each having hh
    exact Select.spells_assemble
      ⟨tables, placeholders, quantifier, items, filter, groupBy, having, orderBy, limit⟩
      hitems htables hfilter hg hhaving ho hl
termination_by structural query => query

end

/-! ## Statements -/

theorem spells_tables {tables : List Table} (h : Table.AllClean tables) :
    Spells (renderTables tables) (flattenTables tables) :=
  Table.spells_assembleAll (Table.spells_each tables h)

theorem Insert.spells_render {s : Insert} (h : s.Clean) : Spells s.render s.flatten := by
  obtain ⟨ht, hc⟩ := h
  have hi : Closed "INSERT INTO " [Mark.keyword "insert", Mark.keyword "into"] :=
    closed_words "INSERT INTO" (by decide)
  have hv : Lead " VALUES " [Mark.keyword "values"] := lead_words " VALUES" (by decide) rfl
  have htables := hi.append (spells_tables ht)
  rw [render, flatten]
  by_cases he : s.columns.isEmpty
  · rw [if_pos he, if_pos he]
    exact htables.append_trails trails_empty
  · rw [if_neg he, if_neg he]
    have hnames : NamesClean (s.columns.map Column.name) := by
      intro text hm
      obtain ⟨c, hcm, rfl⟩ := List.mem_map.1 hm
      exact (hc c hcm).1
    have hvalues := spells_commas fun c hm => Column.spells_renderValue (hc c hm).2
    have hcolumns := lead_blank.append (closed_parens (spells_names hnames)).spells
    have hlast := hv.append (closed_parens hvalues).spells
    have hboth := hcolumns.append hlast
    rw [← String.append_assoc] at hboth
    exact htables.append_trails hboth

theorem Update.spells_render {s : Update} (h : s.Clean) : Spells s.render s.flatten := by
  obtain ⟨ht, hc, hf, ho, hl⟩ := h
  have hu : Closed "UPDATE " [Mark.keyword "update"] := closed_words "UPDATE" (by decide)
  have hset : Lead " SET " [Mark.keyword "set"] := lead_words " SET" (by decide) rfl
  have hcolumns : Trails
      (if s.columns.isEmpty then ""
        else " SET " ++ commaList (s.columns.map Column.renderAssignment))
      (if s.columns.isEmpty then []
        else Mark.keyword "set" :: Mark.commas (s.columns.map Column.assignment)) := by
    split
    · exact trails_empty
    · exact hset.append (spells_commas fun c hm => Column.spells_renderAssignment (hc c hm))
  have hfilter := trails_filter (Condition.spells_option s.filter hf)
  exact ((((hu.append (spells_tables ht)).append_trails hcolumns).append_trails
    hfilter).append_trails (trails_orderBy ho)).append_trails (trails_limit hl)

theorem Delete.spells_render {s : Delete} (h : s.Clean) : Spells s.render s.flatten := by
  obtain ⟨ht, hf⟩ := h
  have hd : Closed "DELETE FROM " [Mark.keyword "delete", Mark.keyword "from"] :=
    closed_words "DELETE FROM" (by decide)
  have hfilter := trails_filter (Condition.spells_option s.filter hf)
  exact (hd.append (spells_tables ht)).append_trails hfilter

theorem Statement.spells_render {s : Statement} (h : s.Clean) : Spells s.render s.flatten := by
  cases s with
  | select s => exact s.spells_render h
  | insert s => exact Insert.spells_render h
  | update s => exact Update.spells_render h
  | delete s => exact Delete.spells_render h

/-- The tokens of the text of a statement are those that its tree calls for. -/
theorem tokenize_render {s : Statement} (h : s.Clean) :
    (tokenize s.render).map Token.mark = s.flatten ++ [Mark.last] ∧
      ∀ token ∈ tokenize s.render, token.kind.isInvalid = false :=
  (Statement.spells_render h).tokenize

/-- A query with a join, a query within a condition, and literals that need their quotes. -/
def sampleQuery : Statement := .select
  { quantifier := some .distinct
    items := [
      .field { name := "name", table := some "u", «alias» := some "n" },
      .call { field := .ofName "count", arguments := [.field (.ofName "*")] }]
    tables := [
      { name := "users", «alias» := some "u" },
      { name := "orders", join := some "left outer join"
        joinCondition := some { kind := .columns, condition := {}, columns := ["id"] } }]
    filter := some
      { left := some (.condition
          { left := some (.condition
              { left := some (.field (.ofName "note"))
                operator := "Like"
                right := some (.field (.ofLiteral (.text "it's 5%s"))) })
            operator := "or"
            right := some (.condition
              { left := some (.field (.ofName "id"))
                operator := "in"
                right := some (.query
                  { items := [.field (.ofLiteral (.integer (-1)))] }) }) })
        operator := "and"
        right := some (.field (.ofLiteral .null)) }
    having := [
      { left := some (.field (.ofName "total"))
        operator := "<="
        right := some (.field (.ofLiteral (.real ⟨0x3FF8000000000000⟩))) },
      { left := some (.field (.ofName "a"))
        operator := "OR"
        negated := true
        right := some (.field (.ofLiteral (.placeholder "'%s'"))) }]
    limit := some { rowCount := 10 } }

open Mark in
theorem tokenize_render_sampleQuery :
    sampleQuery.Clean ∧
      (tokenize sampleQuery.render).map Token.mark =
        [keyword "select", keyword "distinct", name "u.name", keyword "as", name "n",
          punctuation ',', name "count", punctuation '(', name "*", punctuation ')',
          keyword "from", name "users", name "u",
          keyword "left", keyword "outer", keyword "join", name "orders",
          keyword "using", punctuation '(', name "id", punctuation ')',
          keyword "where", punctuation '(', name "note", keyword "like", (.text, .text "it's 5%s"),
          keyword "or", name "id", keyword "in", punctuation '(', keyword "select",
          (.integer, .integer (-1)), punctuation ')', punctuation ')',
          keyword "and", keyword "null",
          keyword "having", name "total", operator "<=", (.real, .real ⟨0x3FF8000000000000⟩),
          keyword "and", punctuation '(', name "a", keyword "or", keyword "not",
          (.placeholder, .text "'%s'"), punctuation ')',
          keyword "limit", (.integer, .integer 10), last] ∧
      ∀ token ∈ tokenize sampleQuery.render, token.kind.isInvalid = false := by
  have hp : IsPlaceholder "'%s'" :=
    @isPlaceholder_of_read _ '\'' ['%', 's', '\''] rfl rfl (by decide +kernel)
  have hclean : sampleQuery.Clean := by
    simp +decide [sampleQuery, Statement.Clean, Select.Clean, Item.AllClean, Item.Clean,
      Table.AllClean, Table.Clean, JoinCondition.Clean?, JoinCondition.Clean, NamesClean,
      Condition.AllClean, Condition.Clean?, Condition.Clean, Operand.AllClean, Operand.Clean?,
      Operand.Clean, Call.Clean, Field.Clean, Field.ShownClean, AliasClean, Literal.Clean,
      OrderByClean, LimitClean, Limit.Clean, Field.ofName, Field.ofLiteral, Column.ofValue,
      Literal.kind, hp]
  obtain ⟨hmarks, hvalid⟩ := tokenize_render hclean
  exact ⟨hclean, hmarks.trans (by decide +kernel), hvalid⟩

end SqlDml
