import QueryTree.Proofs.Occurrence
import QueryTree.Proofs.Outcome
/-!
# Assembly — the fragment of a node, without its compiler

Compilers build the parts of a node in their own order and keep what they
built. This file says what comes of it as functions of the node: `check`
is what making a compiler refuses, and `fragment` is what building gives,
put together in the order of the text. Both go through the tree once and
keep nothing. That the compilers do the same is shown elsewhere; a
property of the built text is a property of these functions. What the
checks of a query let through is said clause by clause by `Query.Checked`.
-/

namespace QueryTree

namespace Fragment

/-- An expression cast to a type, if there is one. -/
def castTo (cast : Option String) (expression : Fragment) : Fragment :=
  match cast with
  | none => expression
  | some cast => expression ++ .ofText ("::" ++ cast)

/-- An expression under an alias, if there is one. -/
def under (aliasName : Option String) (expression : Fragment) : Fragment :=
  match aliasName with
  | none => expression
  | some name => expression ++ .ofText " AS " ++ .ofAlias name

/-- A call of a function. -/
def call (name : String) (parameters : List Fragment) : Fragment :=
  .ofText (name ++ "(") ++ .joined ", " parameters ++ .ofText ")"

end Fragment

/-! ## Columns -/

/-- The rules for some columns, in order. -/
def Column.checkAll : List Column → Except Violation Unit
  | [] => .ok ()
  | column :: columns => do
    column.check
    checkAll columns

mutual

/-- **The fragment of a column.** The parameters of a function are checked
all before the first of them is built. -/
def Column.fragment : Column → Bool → Except Violation Fragment
  | .named column, showAlias =>
    .ok (.under (if showAlias then column.aliasName else none)
      (.castTo column.cast (.identifier column.column)))
  | .function ⟨name, parameters, aliasName⟩, showAlias => do
    Column.checkAll parameters
    let fragments ← Column.fragments parameters false
    .ok (.under (if showAlias then aliasName else none) (.call name fragments))
  | .value literal, showAlias => do
    let param ← literal.value.toParam
    .ok (.under (if showAlias then literal.aliasName else none)
      (.castTo literal.cast (.ofParam param)))

/-- The fragments of some columns, in order. -/
def Column.fragments : List Column → Bool → Except Violation (List Fragment)
  | [], _ => .ok []
  | column :: columns, showAlias => do
    let fragment ← Column.fragment column showAlias
    let fragments ← Column.fragments columns showAlias
    .ok (fragment :: fragments)

end

/-! ## Filters -/

namespace ComparisonFilter

/-- The rule for the right side of a comparison. -/
def checkOperand (filter : ComparisonFilter) : Except Violation Unit :=
  match filter.value, filter.rightColumn with
  | some value, none => value.toParam.map fun _ => ()
  | none, some column => column.check
  | _, _ => .error .comparisonOperand

/-- The rules for a comparison. -/
def check (filter : ComparisonFilter) : Except Violation Unit :=
  match Operator.ofText? filter.operator with
  | none => .error (.unsupportedOperator filter.operator)
  | some _ => do
    filter.checkOperand
    filter.column.toColumn.check

/-- The fragment of the right side of a comparison. -/
def operandFragment (filter : ComparisonFilter) : Except Violation Fragment :=
  match filter.value, filter.rightColumn with
  | some value, none => value.toParam.map .ofParam
  | none, some column => column.fragment false
  | _, _ => .error .comparisonOperand

/-- **The fragment of a comparison.** -/
def fragment (filter : ComparisonFilter) : Except Violation Fragment := do
  let left ← filter.column.toColumn.fragment false
  let right ← filter.operandFragment
  .ok (left ++ .ofText (" " ++ filter.operator ++ " ") ++ right)

end ComparisonFilter

/-- **The fragment of a membership.** -/
def InFilter.fragment (filter : InFilter) : Except Violation Fragment := do
  let column ← filter.column.toColumn.fragment false
  let params ← paramsOf filter.values
  .ok (column ++ .ofText " IN (" ++ .joined ", " (params.map .ofParam) ++ .ofText ")")

/-- **The fragment of a match.** -/
def LikeFilter.fragment (filter : LikeFilter) : Except Violation Fragment := do
  let column ← filter.column.toColumn.fragment false
  let pattern ← filter.pattern.toParam
  .ok (column ++ .ofText " LIKE " ++ .ofParam pattern)

/-- **The fragment of a test for null.** -/
def IsNullFilter.fragment (filter : IsNullFilter) : Except Violation Fragment := do
  let column ← filter.column.toColumn.fragment false
  .ok (column ++ .ofText (if filter.isNull then " IS NULL" else " IS NOT NULL"))

/-- Whether a filter is a group of conditions. -/
def Filter.isGroup : Filter → Bool
  | .and _ | .or _ => true
  | _ => false

mutual

/-- The rules for a filter, through the whole tree. -/
def Filter.check : Filter → Except Violation Unit
  | .comparison filter => filter.check
  | .membership filter => do
    if filter.values.isEmpty then .error (.emptyList "in")
    filter.column.toColumn.check
    (paramsOf filter.values).map fun _ => ()
  | .like filter => do
    filter.column.toColumn.check
    filter.pattern.toParam.map fun _ => ()
  | .isNull filter => filter.column.toColumn.check
  | .and operands => do
    if operands.isEmpty then .error (.emptyList "and")
    Filter.checkAll operands
  | .or operands => do
    if operands.isEmpty then .error (.emptyList "or")
    Filter.checkAll operands
  | .not operand => Filter.check operand

/-- The rules for some filters, in order. -/
def Filter.checkAll : List Filter → Except Violation Unit
  | [] => .ok ()
  | filter :: filters => do
    Filter.check filter
    Filter.checkAll filters

end

mutual

/-- **The fragment of a filter.** -/
def Filter.fragment : Filter → Except Violation Fragment
  | .comparison filter => filter.fragment
  | .membership filter => filter.fragment
  | .like filter => filter.fragment
  | .isNull filter => filter.fragment
  | .and operands => (Filter.operandFragments operands).map (.joined " AND ")
  | .or operands => (Filter.operandFragments operands).map (.joined " OR ")
  | .not operand =>
    (Filter.fragment operand).map fun fragment => .ofText "NOT (" ++ fragment ++ .ofText ")"

/-- The fragments of the operands of a group: those that are groups are in
parentheses. -/
def Filter.operandFragments : List Filter → Except Violation (List Fragment)
  | [] => .ok []
  | filter :: filters => do
    let fragment ← Filter.fragment filter
    let fragments ← Filter.operandFragments filters
    .ok ((if filter.isGroup then fragment.parenthesized else fragment) :: fragments)

end

/-! ## Orderings -/

namespace OrderByElement

/-- The rules for an element of an ordering. -/
def check (element : OrderByElement) : Except Violation Unit := do
  element.column.toColumn.check
  element.directionOf.map fun _ => ()

/-- The fragment of an element. -/
def fragment (element : OrderByElement) : Except Violation Fragment := do
  let direction ← element.directionOf
  let column ← element.column.toColumn.fragment false
  .ok (column.appendText direction.keyword)

/-- The rules for an ordering. -/
def checkAll (elements : List OrderByElement) : Except Violation Unit := do
  if elements.isEmpty then .error (.emptyList "order_by")
  elements.forM check

/-- **The fragment of an ordering.** -/
def joinedFragment (elements : List OrderByElement) : Except Violation Fragment :=
  (elements.mapM fragment).map (.joined ", ")

end OrderByElement

/-! ## Joins -/

/-- A table as a source of rows, given what becomes of a query there. -/
def Table.source (sub : Query → Except Violation Fragment) (aliasName : Option String) :
    Table Query → Except Violation Source
  | .name n => .ok (.table n aliasName)
  | .query inner => (sub inner).map (.subquery · aliasName)

namespace Join

/-- The rules for the table of a join, given those for a query there. -/
def checkTable (sub : Query → Except Violation Unit) (join : Join Query) :
    Except Violation Unit :=
  match join.table with
  | none => .error .missingJoinTable
  | some (.name name) => checkName "join table" name
  | some (.query query) => sub query

/-- The rules for the condition of a join. -/
def checkCondition (kind : JoinKind) (join : Join Query) : Except Violation Unit :=
  match kind, join.condition with
  | .cross, none => .ok ()
  | .cross, some _ => .error .unexpectedCondition
  | _, none => .error (.missingCondition join.kind)
  | _, some filter => filter.check

/-- The rules for a join, given those for a query that is its table. -/
def check (sub : Query → Except Violation Unit) (join : Join Query) : Except Violation Unit :=
  match JoinKind.ofName? join.kind with
  | none => .error (.invalidJoinKind join.kind)
  | some kind => do
    join.checkTable sub
    join.checkCondition kind
    checkAlias "join alias" join.aliasName

/-- The alias of the table of a join. -/
def sourceAlias (join : Join Query) : Option String :=
  match join.table with
  | some (.query query) => join.aliasName <|> query.aliasName
  | _ => join.aliasName

/-- The kind of a join. -/
def kindOf (join : Join Query) : Except Violation JoinKind :=
  match JoinKind.ofName? join.kind with
  | none => .error (.invalidJoinKind join.kind)
  | some kind => .ok kind

/-- The source of the rows of a join. -/
def source (sub : Query → Except Violation Fragment) (join : Join Query) :
    Except Violation Source :=
  match join.table with
  | none => .error .missingJoinTable
  | some table => table.source sub join.sourceAlias

/-- **The fragment of a join,** given that of a query that is its table. -/
def fragment (sub : Query → Except Violation Fragment) (join : Join Query) :
    Except Violation Fragment := do
  let kind ← join.kindOf
  let source ← join.source sub
  let condition ← join.condition.mapM Filter.fragment
  .ok (joinFragment kind source condition)

end Join

namespace Select

theorem selectList_of_none {select : Select} (h : select.distinct = none) :
    select.selectList =
      if select.columns.isEmpty then .ofText "*" else .joined ", " select.columns := by
  rw [selectList, h]
  rfl

theorem selectList_of_some {select : Select} {distinct : Fragment}
    (h : select.distinct = some distinct) :
    select.selectList =
      if select.columns.isEmpty then distinct
      else distinct.appendText ", " ++ .joined ", " select.columns := by
  rw [selectList, h]
  rfl

theorem ordering_of_none {select : Select} (h : select.orderBy = none) :
    select.ordering = .empty := by
  rw [ordering, h]

theorem ordering_of_some {select : Select} {elements : Fragment}
    (h : select.orderBy = some elements) :
    select.ordering = if elements.isEmpty then .empty else .ofText " ORDER BY " ++ elements := by
  rw [ordering, h]

/-- The joins of a statement are a list with blanks between and before. -/
theorem joinList_eq (select : Select) :
    select.joinList = .joinedAfter " " .empty select.joins := by
  unfold joinList
  -- whatever comes before the joins
  generalize Fragment.empty = fragment
  induction select.joins generalizing fragment with
  | nil => rfl
  | cons join joins ih => exact ih _

end Select

/-! ## Queries -/

namespace Distinct

/-- The rules for a distinct clause. -/
def check (distinct : Distinct) : Except Violation Unit := do
  if distinct.columns.isEmpty then .error (.emptyList "distinct.columns")
  distinct.key.forM Column.check
  Column.checkAll distinct.columns

/-- **The fragment of a distinct clause.** The columns are built first. -/
def fragment (distinct : Distinct) : Except Violation Fragment := do
  let columns ← Column.fragments distinct.columns true
  let key ← distinct.key.mapM (Column.fragment · false)
  match key with
  | some key => .ok (.ofText "DISTINCT ON (" ++ key ++ .ofText ") " ++ .joined ", " columns)
  | none => .ok (.ofText "DISTINCT " ++ .joined ", " columns)

end Distinct

namespace Query

/-- The rules for the table of a query, given those for a query there. -/
def checkTable (sub : Query → Except Violation Unit) (query : Query) : Except Violation Unit :=
  match query.table with
  | none => .error .missingTable
  | some (.name name) => if name.isEmpty then .error .missingTable else .ok ()
  | some (.query inner) => sub inner

/-- The rules for a query, save those for its select list, given the rules
for a query that is a table of it. -/
def checkWith (sub : Query → Except Violation Unit) (query : Query) : Except Violation Unit := do
  query.checkTable sub
  checkAlias "query alias" query.aliasName
  query.joins.forM (Join.check sub)
  query.filter.forM Filter.check
  Column.checkAll (query.groupBy.getD [])
  query.having.forM Filter.check
  query.orderBy.forM OrderByElement.checkAll
  query.distinct.forM Distinct.check

/-- The alias of the table of a query, which only a query brings. -/
def tableAlias (query : Query) : Option String :=
  match query.table with
  | some (.query inner) => inner.aliasName
  | _ => none

/-- The source of the rows of a query. -/
def source (sub : Query → Except Violation Fragment) (query : Query) : Except Violation Source :=
  match query.table with
  | none => .error .missingTable
  | some table => table.source sub query.tableAlias

/-- The clauses of a query as fragments, in the order they are built in. -/
def select (sub : Query → Except Violation Fragment) (dialect : Dialect) (query : Query) :
    Except Violation Select := do
  -- where several clauses break a rule, the first of these is refused
  let columns ← Column.fragments query.selectedColumns true
  let distinct ← query.distinct.mapM Distinct.fragment
  let source ← query.source sub
  let joins ← query.joins.mapM (Join.fragment sub)
  let filter ← query.filter.mapM Filter.fragment
  let groupBy ← Column.fragments (query.groupBy.getD []) false
  let having ← query.having.mapM Filter.fragment
  let orderBy ← query.orderBy.mapM OrderByElement.joinedFragment
  .ok {
    distinct, columns, source := some source, joins, filter, groupBy, having, orderBy
    limit := dialect.limit (QueryState.positive? query.limit) (QueryState.positive? query.offset) }

/-- The clauses of a query and what follows them, without the record
between. -/
theorem select_map_toFragment (sub : Query → Except Violation Fragment) (dialect : Dialect)
    (query : Query) :
    (query.select sub dialect).map Select.toFragment = (do
      let columns ← Column.fragments query.selectedColumns true
      let distinct ← query.distinct.mapM Distinct.fragment
      let source ← query.source sub
      let joins ← query.joins.mapM (Join.fragment sub)
      let filter ← query.filter.mapM Filter.fragment
      let groupBy ← Column.fragments (query.groupBy.getD []) false
      let having ← query.having.mapM Filter.fragment
      let orderBy ← query.orderBy.mapM OrderByElement.joinedFragment
      .ok (Select.toFragment {
        distinct, columns, source := some source, joins, filter, groupBy, having, orderBy
        limit := dialect.limit (QueryState.positive? query.limit)
          (QueryState.positive? query.offset) })) := by
  simp only [select, map_eq_bind, bind_assoc]
  rfl

/-- The fragment of a query, given that of a query that is a table of it.
The select list is checked before anything is built. -/
def fragmentWith (sub : Query → Except Violation Fragment) (dialect : Dialect) (query : Query) :
    Except Violation Fragment := do
  Column.checkAll query.selectedColumns
  (query.select sub dialect).map Select.toFragment

/-- The rules for a query that is a table. -/
def nestedCheck (query : Query) : Except Violation Unit := query.checkWith refuse

/-- The fragment of a query that is a table. -/
def nestedFragment (dialect : Dialect) (query : Query) : Except Violation Fragment :=
  query.fragmentWith refuse dialect

/-- **The rules for a query at the top.** -/
def check (query : Query) : Except Violation Unit :=
  match query.action.bind Action.ofName? with
  | none => .error (.invalidAction query.action)
  | some action => query.checkWith (if action.isNested then refuse else nestedCheck)

/-- **The fragment of a query at the top.** -/
def fragment (dialect : Dialect) (query : Query) : Except Violation Fragment :=
  query.fragmentWith (nestedFragment dialect) dialect

/-- **What a query becomes:** a fragment, or the first rule it breaks. -/
def outcome (dialect : Dialect) (query : Query) : Except Violation Fragment := do
  query.check
  query.fragment dialect

end Query

/-! ## What the checks let through -/

section Checked

variable {sub : Query → Except Violation Unit}

/-- **What a join is that keeps the rules,** clause by clause. -/
structure Join.Checked (sub : Query → Except Violation Unit) (join : Join Query) : Prop where
  kind : ∃ kind, join.kindOf = .ok kind
  hasTable : join.table.isSome = true
  queries : ∀ inner ∈ Table.queries join.table, sub inner = .ok ()
  condition : ∀ filter ∈ join.condition, filter.check = .ok ()

theorem Join.check_of_mem_condition {kind : JoinKind} {join : Join Query}
    (h : join.checkCondition kind = .ok ()) : ∀ filter ∈ join.condition, filter.check = .ok () := by
  obtain ⟨name, table, aliasName, _ | filter⟩ := join
  · exact fun _ hf => (nomatch hf)
  · rintro _ ⟨⟩
    cases kind <;> first | exact h | cases h

theorem Join.checked_of_check {join : Join Query} (h : join.check sub = .ok ()) :
    join.Checked sub := by
  unfold check at h
  cases hkind : JoinKind.ofName? join.kind with
  | none =>
    rw [hkind] at h
    cases h
  | some kind =>
    rw [hkind] at h
    obtain ⟨_, htable, h⟩ := bind_eq_ok.mp h
    obtain ⟨_, hcondition, -⟩ := bind_eq_ok.mp h
    refine ⟨⟨kind, by rw [kindOf, hkind]⟩, ?_, ?_, check_of_mem_condition hcondition⟩
    · unfold checkTable at htable
      cases hjoin : join.table with
      | none =>
        rw [hjoin] at htable
        cases htable
      | some table => rfl
    · unfold checkTable at htable
      rcases hjoin : join.table with _ | name | inner
      · exact fun _ hi => (nomatch hi)
      · exact fun _ hi => (nomatch hi)
      · rw [hjoin] at htable
        intro other hother
        rw [List.mem_singleton.mp hother]
        exact htable

theorem Join.Checked.mono {strict : Query → Except Violation Unit} {join : Join Query}
    (h : join.Checked strict) (hsub : ∀ inner, strict inner = .ok () → sub inner = .ok ()) :
    join.Checked sub :=
  { h with queries := fun inner hinner => hsub inner (h.queries inner hinner) }

/-- **What a query is that keeps the rules,** clause by clause. -/
structure Query.Checked (sub : Query → Except Violation Unit) (query : Query) : Prop where
  hasTable : query.table.isSome = true
  queries : ∀ inner ∈ Table.queries query.table, sub inner = .ok ()
  joins : ∀ join ∈ query.joins, join.Checked sub
  filter : ∀ filter ∈ query.filter, filter.check = .ok ()
  groupBy : Column.checkAll (query.groupBy.getD []) = .ok ()
  having : ∀ having ∈ query.having, having.check = .ok ()
  orderBy : ∀ elements ∈ query.orderBy, OrderByElement.checkAll elements = .ok ()
  distinct : ∀ distinct ∈ query.distinct, distinct.check = .ok ()

namespace Query

theorem checked_of_checkWith {query : Query} (h : query.checkWith sub = .ok ()) :
    query.Checked sub := by
  unfold checkWith at h
  obtain ⟨_, htable, h⟩ := bind_eq_ok.mp h
  obtain ⟨_, -, h⟩ := bind_eq_ok.mp h
  obtain ⟨_, hjoins, h⟩ := bind_eq_ok.mp h
  obtain ⟨_, hfilter, h⟩ := bind_eq_ok.mp h
  obtain ⟨_, hgroupBy, h⟩ := bind_eq_ok.mp h
  obtain ⟨_, hhaving, h⟩ := bind_eq_ok.mp h
  obtain ⟨_, horderBy, hdistinct⟩ := bind_eq_ok.mp h
  unfold checkTable at htable
  have hquery : query.table.isSome = true ∧
      ∀ inner ∈ Table.queries query.table, sub inner = .ok () := by
    rcases hquery : query.table with _ | name | inner
    · rw [hquery] at htable
      cases htable
    · exact ⟨rfl, fun _ hi => (nomatch hi)⟩
    · rw [hquery] at htable
      refine ⟨rfl, fun other hother => ?_⟩
      rw [List.mem_singleton.mp hother]
      exact htable
  exact {
    hasTable := hquery.1, queries := hquery.2
    joins := fun join hj => Join.checked_of_check (eq_ok_of_forM hjoins join hj)
    filter := eq_ok_of_option_forM hfilter, groupBy := hgroupBy
    having := eq_ok_of_option_forM hhaving, orderBy := eq_ok_of_option_forM horderBy
    distinct := eq_ok_of_option_forM hdistinct }

/-- What holds of a query under stricter rules for the queries that it
reads from. -/
theorem Checked.mono {strict : Query → Except Violation Unit} {query : Query}
    (h : query.Checked strict) (hsub : ∀ inner, strict inner = .ok () → sub inner = .ok ()) :
    query.Checked sub :=
  { h with
    queries := fun inner hinner => hsub inner (h.queries inner hinner)
    joins := fun join hj => (h.joins join hj).mono hsub }

/-- The queries that a query reads from keep the rules too. -/
theorem Checked.sources {query : Query} (h : query.Checked sub) :
    ∀ inner ∈ query.sources, sub inner = .ok () := by
  refine List.forall_mem_append.mpr ⟨h.queries, fun inner hinner => ?_⟩
  obtain ⟨join, hj, hinner⟩ := List.mem_flatMap.mp hinner
  exact (h.joins join hj).queries inner hinner

/-- Where no query may be, there is none. -/
theorem Checked.sources_eq_nil {query : Query} (h : query.Checked refuse) :
    query.sources = [] := by
  refine List.eq_nil_iff_forall_not_mem.mpr fun inner hinner => ?_
  cases h.sources inner hinner

/-- **What a query at the top is that keeps the rules:** those it reads from,
if any, keep the rules for queries that are tables. -/
theorem checked_of_check {query : Query} (h : query.check = .ok ()) :
    query.Checked nestedCheck := by
  unfold check at h
  cases haction : query.action.bind Action.ofName? with
  | none =>
    rw [haction] at h
    cases h
  | some action =>
    rw [haction] at h
    refine (checked_of_checkWith h).mono fun inner hinner => ?_
    cases hnested : action.isNested with
    | true =>
      rw [hnested] at hinner
      cases hinner
    | false =>
      rw [hnested] at hinner
      exact hinner

/-- A query without queries that it reads from has none inside. -/
theorem inside_eq_nil_of_sources {query : Query} (h : query.sources = []) : query.inside = [] := by
  rw [inside_eq_flatMap, h, List.flatMap_nil]

end Query

end Checked

end QueryTree
