import QueryTree.Proofs.Blanking
import QueryTree.Proofs.QueryTracking
/-!
# Shapes — literals do not reach the text of a statement

What a node without its literals becomes is what the node becomes, without
its parameters: for every kind of node, for what is refused as well as for
what is built. So queries that are the same without their literals have
the same text, or are refused for the same rule
(`toStatement_of_blanked_eq`).
-/

namespace QueryTree

/-! ## Columns -/

/-- **A literal is refused or not whatever it is,** as long as it can be a
parameter. -/
theorem Json.toParam_blanked (value : Json) :
    value.blanked.toParam = value.toParam.map fun _ => .null := by
  cases value with
  | number n =>
    cases n with
    | int n =>
      -- whether it fits 64 bits decides the parameter, and not whether there is one
      rw [toParam]
      split <;> rfl
    | float x => rfl
  | _ => rfl

namespace Column

theorem blankedAll_eq_map (columns : List Column) : blankedAll columns = columns.map blanked := by
  induction columns with
  | nil => rfl
  | cons column columns ih => rw [blankedAll, ih, List.map_cons]

theorem check_blanked (column : Column) : column.blanked.check = column.check := by
  match column with
  | .named column => rfl
  | .function ⟨name, parameters, aliasName⟩ => rfl
  | .value literal =>
    simp only [blanked, check, Json.toParam_blanked, bind_of_map]
    rfl

theorem checkAll_blanked (columns : List Column) :
    checkAll (columns.map blanked) = checkAll columns := by
  induction columns with
  | nil => rfl
  | cons column columns ih => rw [List.map_cons, checkAll, check_blanked, ih, checkAll]

mutual

/-- **A column without its literals becomes the fragment without its
parameters.** -/
theorem fragment_blanked : ∀ (column : Column) (showAlias : Bool),
    column.blanked.fragment showAlias = (column.fragment showAlias).map Fragment.blanked
  | .named column, showAlias => by
    simp [blanked, fragment, Except.map]
  | .function ⟨name, parameters, aliasName⟩, showAlias => by
    rw [blanked, fragment, fragment, fragments_blanked parameters false, blankedAll_eq_map,
      checkAll_blanked]
    simp only [bind_of_map, map_of_bind]
    simp [Except.map]
  | .value literal, showAlias => by
    rw [blanked, fragment, fragment, Json.toParam_blanked]
    simp only [bind_of_map, map_of_bind]
    simp [Except.map]

theorem fragments_blanked : ∀ (columns : List Column) (showAlias : Bool),
    fragments (blankedAll columns) showAlias =
      (fragments columns showAlias).map (List.map Fragment.blanked)
  | [], _ => rfl
  | column :: columns, showAlias => by
    rw [blankedAll, fragments, fragments, fragment_blanked column, fragments_blanked columns]
    simp only [bind_of_map, map_of_bind]
    rfl

end

end Column

theorem ColumnRef.toColumn_blanked (ref : ColumnRef) :
    ref.blanked.toColumn = ref.toColumn.blanked := by
  cases ref <;> rfl

/-! ## Filters -/

theorem paramsOf_blanked (values : List Json) :
    paramsOf (values.map Json.blanked) = (paramsOf values).map (List.map fun _ => .null) := by
  induction values with
  | nil => rfl
  | cons value values ih =>
    rw [List.map_cons, paramsOf, paramsOf, Json.toParam_blanked, ih]
    simp only [bind_of_map, map_of_bind]
    rfl

namespace ComparisonFilter

theorem checkOperand_blanked (filter : ComparisonFilter) :
    filter.blanked.checkOperand = filter.checkOperand := by
  obtain ⟨column, operator, _ | value, _ | right⟩ := filter
  · rfl
  · exact right.check_blanked
  · unfold checkOperand
    simp only [blanked, Option.map_some, Option.map_none, Json.toParam_blanked, map_of_map]
  · rfl

theorem check_blanked (filter : ComparisonFilter) : filter.blanked.check = filter.check := by
  rw [check, check, checkOperand_blanked]
  simp only [blanked, ColumnRef.toColumn_blanked, Column.check_blanked]

theorem operandFragment_blanked (filter : ComparisonFilter) :
    filter.blanked.operandFragment = filter.operandFragment.map Fragment.blanked := by
  obtain ⟨column, operator, _ | value, _ | right⟩ := filter
  · rfl
  · exact right.fragment_blanked false
  · unfold operandFragment
    simp only [blanked, Option.map_some, Option.map_none, Json.toParam_blanked, map_of_map]
    rfl
  · rfl

theorem fragment_blanked (filter : ComparisonFilter) :
    filter.blanked.fragment = filter.fragment.map Fragment.blanked := by
  rw [fragment, fragment, operandFragment_blanked]
  simp only [blanked, ColumnRef.toColumn_blanked, Column.fragment_blanked, bind_of_map, map_of_bind]
  simp [Except.map]

end ComparisonFilter

theorem InFilter.fragment_blanked (filter : InFilter) :
    filter.blanked.fragment = filter.fragment.map Fragment.blanked := by
  unfold fragment
  simp only [blanked, ColumnRef.toColumn_blanked, Column.fragment_blanked, paramsOf_blanked,
    bind_of_map, map_of_bind]
  simp [Except.map, Function.comp_def]

theorem LikeFilter.fragment_blanked (filter : LikeFilter) :
    filter.blanked.fragment = filter.fragment.map Fragment.blanked := by
  unfold fragment
  simp only [blanked, ColumnRef.toColumn_blanked, Column.fragment_blanked, Json.toParam_blanked,
    bind_of_map, map_of_bind]
  simp [Except.map]

theorem IsNullFilter.fragment_blanked (filter : IsNullFilter) :
    filter.blanked.fragment = filter.fragment.map Fragment.blanked := by
  obtain ⟨column, isNull⟩ := filter
  unfold fragment
  simp only [blanked, ColumnRef.toColumn_blanked, Column.fragment_blanked, bind_of_map, map_of_bind]
  cases isNull <;> simp [Except.map]

namespace Filter

theorem isGroup_blanked (filter : Filter) : filter.blanked.isGroup = filter.isGroup := by
  cases filter <;> rfl

theorem isEmpty_blankedAll (filters : List Filter) :
    (blankedAll filters).isEmpty = filters.isEmpty := by
  cases filters <;> rfl

mutual

theorem check_blanked : ∀ filter : Filter, filter.blanked.check = filter.check
  | .comparison filter => filter.check_blanked
  | .membership filter => by
    simp only [blanked, check, InFilter.blanked, List.isEmpty_map, ColumnRef.toColumn_blanked,
      Column.check_blanked, paramsOf_blanked, map_of_map]
  | .like filter => by
    simp only [blanked, check, LikeFilter.blanked, ColumnRef.toColumn_blanked,
      Column.check_blanked, Json.toParam_blanked, map_of_map]
  | .isNull filter => by
    simp only [blanked, check, IsNullFilter.blanked, ColumnRef.toColumn_blanked,
      Column.check_blanked]
  | .and operands => by
    simp only [blanked, check, isEmpty_blankedAll, checkAll_blanked operands]
  | .or operands => by
    simp only [blanked, check, isEmpty_blankedAll, checkAll_blanked operands]
  | .not operand => by
    simp only [blanked, check, check_blanked operand]

theorem checkAll_blanked : ∀ filters : List Filter,
    checkAll (blankedAll filters) = checkAll filters
  | [] => rfl
  | filter :: filters => by
    simp only [blankedAll, checkAll, check_blanked filter, checkAll_blanked filters]

end

mutual

/-- **A filter without its literals becomes the fragment without its
parameters.** -/
theorem fragment_blanked : ∀ filter : Filter,
    filter.blanked.fragment = filter.fragment.map Fragment.blanked
  | .comparison filter => filter.fragment_blanked
  | .membership filter => filter.fragment_blanked
  | .like filter => filter.fragment_blanked
  | .isNull filter => filter.fragment_blanked
  | .and operands => by
    simp [blanked, fragment, operandFragments_blanked operands, map_of_map]
  | .or operands => by
    simp [blanked, fragment, operandFragments_blanked operands, map_of_map]
  | .not operand => by
    simp [blanked, fragment, fragment_blanked operand, map_of_map]

theorem operandFragments_blanked : ∀ filters : List Filter,
    operandFragments (blankedAll filters) =
      (operandFragments filters).map (List.map Fragment.blanked)
  | [] => rfl
  | filter :: filters => by
    rw [blankedAll, operandFragments, operandFragments, fragment_blanked filter,
      operandFragments_blanked filters, isGroup_blanked]
    simp only [bind_of_map, map_of_bind]
    cases filter.isGroup <;> simp [Except.map]

end

end Filter

/-! ## Clauses -/

namespace OrderByElement

theorem check_blanked (element : OrderByElement) : element.blanked.check = element.check := by
  unfold check
  simp only [blanked, ColumnRef.toColumn_blanked, Column.check_blanked]
  rfl

theorem fragment_blanked (element : OrderByElement) :
    element.blanked.fragment = element.fragment.map Fragment.blanked := by
  have hdirection : element.blanked.directionOf = element.directionOf := rfl
  unfold fragment
  rw [hdirection]
  simp only [blanked, ColumnRef.toColumn_blanked, Column.fragment_blanked, bind_of_map, map_of_bind]
  simp [Except.map]

theorem checkAll_blanked (elements : List OrderByElement) :
    checkAll (elements.map blanked) = checkAll elements := by
  rw [checkAll, checkAll, List.isEmpty_map, forM_map_eq elements check_blanked]

theorem joinedFragment_blanked (elements : List OrderByElement) :
    joinedFragment (elements.map blanked) = (joinedFragment elements).map Fragment.blanked := by
  rw [joinedFragment, joinedFragment, mapM_map_eq elements fragment_blanked]
  simp [map_of_map]

end OrderByElement

namespace Distinct

theorem check_blanked (distinct : Distinct) : distinct.blanked.check = distinct.check := by
  unfold check
  simp only [blanked, List.isEmpty_map, Column.checkAll_blanked,
    forM_option_map_eq distinct.key Column.check_blanked]

theorem fragment_blanked (distinct : Distinct) :
    distinct.blanked.fragment = distinct.fragment.map Fragment.blanked := by
  have hkey : (distinct.key.map Column.blanked).mapM (Column.fragment · false) =
      (distinct.key.mapM (Column.fragment · false)).map (Option.map Fragment.blanked) :=
    mapM_option_map_eq distinct.key fun column => column.fragment_blanked false
  unfold fragment
  simp only [blanked, ← Column.blankedAll_eq_map, Column.fragments_blanked, hkey, bind_of_map,
    map_of_bind]
  refine bind_congr fun columns => bind_congr fun key => ?_
  cases key <;> simp [Except.map]

end Distinct

section Subqueries

variable {checked : Query → Except Violation Unit}
variable {fragment : Query → Except Violation Fragment}

theorem Table.source_blanked
    (hsub : ∀ query, fragment query.blanked = (fragment query).map Fragment.blanked)
    (table : Table Query) (aliasName : Option String) :
    table.blanked.source fragment aliasName =
      (table.source fragment aliasName).map Source.blanked := by
  cases table with
  | name n => rfl
  | query inner =>
    rw [blanked, source, source, hsub, map_of_map, map_of_map]
    rfl

namespace Join

theorem checkTable_blanked (hsub : ∀ query, checked query.blanked = checked query)
    (join : Join Query) : join.blanked.checkTable checked = join.checkTable checked := by
  obtain ⟨kind, _ | name | inner, aliasName, condition⟩ := join
  · rfl
  · rfl
  · exact hsub inner

theorem checkCondition_blanked (kind : JoinKind) (join : Join Query) :
    join.blanked.checkCondition kind = join.checkCondition kind := by
  obtain ⟨name, table, aliasName, _ | filter⟩ := join
  · cases kind <;> rfl
  · cases kind with
    | cross => rfl
    | _ => exact filter.check_blanked

theorem check_blanked (hsub : ∀ query, checked query.blanked = checked query)
    (join : Join Query) : join.blanked.check checked = join.check checked := by
  rw [check, check, checkTable_blanked hsub]
  simp only [checkCondition_blanked]
  obtain ⟨name, table, aliasName, condition⟩ := join
  rfl

theorem sourceAlias_blanked (join : Join Query) : join.blanked.sourceAlias = join.sourceAlias := by
  obtain ⟨kind, _ | name | ⟨_, _, _, _⟩, aliasName, condition⟩ := join <;> rfl

theorem source_blanked
    (hsub : ∀ query, fragment query.blanked = (fragment query).map Fragment.blanked)
    (join : Join Query) :
    join.blanked.source fragment = (join.source fragment).map Source.blanked := by
  rw [source, source, sourceAlias_blanked]
  obtain ⟨kind, _ | table, aliasName, condition⟩ := join
  · rfl
  · exact table.source_blanked hsub _

theorem fragment_blanked
    (hsub : ∀ query, fragment query.blanked = (fragment query).map Fragment.blanked)
    (join : Join Query) :
    join.blanked.fragment fragment = (join.fragment fragment).map Fragment.blanked := by
  have hcondition : join.blanked.condition = join.condition.map Filter.blanked := by
    obtain ⟨_, _, _, _⟩ := join
    rfl
  have hkind : join.blanked.kindOf = join.kindOf := by
    obtain ⟨_, _, _, _⟩ := join
    rfl
  rw [Join.fragment, Join.fragment, source_blanked hsub, hcondition, hkind,
    mapM_option_map_eq join.condition Filter.fragment_blanked]
  simp only [bind_of_map, map_of_bind, joinFragment_blanked]
  rfl

end Join

/-! ## Queries -/

namespace Query

theorem checkTable_blanked (hsub : ∀ query, checked query.blanked = checked query)
    (query : Query) : query.blanked.checkTable checked = query.checkTable checked := by
  obtain ⟨_, _ | name | inner, _⟩ := query
  · rfl
  · rfl
  · exact hsub inner

theorem source_blanked
    (hsub : ∀ query, fragment query.blanked = (fragment query).map Fragment.blanked)
    (query : Query) :
    query.blanked.source fragment = (query.source fragment).map Source.blanked := by
  obtain ⟨_, _ | name | inner, _⟩ := query
  · rfl
  · rfl
  · obtain ⟨_, _, aliasName, _⟩ := inner
    exact Table.source_blanked hsub (.query _) aliasName

theorem joins_blanked (query : Query) : query.blanked.joins = query.joins.map Join.blanked := by
  have hlist (joins : List (Join Query)) : Join.listBlanked joins = joins.map Join.blanked := by
    induction joins with
    | nil => rfl
    | cons join joins ih => rw [Join.listBlanked, ih, List.map_cons]
  obtain ⟨_, _, _, _, _, _ | join | joins, _⟩ := query
  · rfl
  · rfl
  · exact hlist joins

theorem selectedColumns_blanked (query : Query) :
    query.blanked.selectedColumns = query.selectedColumns.map Column.blanked := by
  obtain ⟨_, _, _, _ | columns, _, _, _, _, _, _, _, _ | distinct⟩ := query <;> rfl

theorem getD_groupBy_blanked (query : Query) :
    query.blanked.groupBy.getD [] = (query.groupBy.getD []).map Column.blanked := by
  obtain ⟨_, _, _, _, _, _, _ | groupBy, _⟩ := query <;> rfl

/-- **The rules do not look at literals.** -/
theorem checkWith_blanked (hsub : ∀ query, checked query.blanked = checked query)
    (query : Query) : query.blanked.checkWith checked = query.checkWith checked := by
  have hfilter := forM_option_map_eq query.filter Filter.check_blanked
  have hhaving := forM_option_map_eq query.having Filter.check_blanked
  have horder := forM_option_map_eq query.orderBy OrderByElement.checkAll_blanked
  have hdistinct := forM_option_map_eq query.distinct Distinct.check_blanked
  rw [checkWith, checkWith, checkTable_blanked hsub, joins_blanked,
    forM_map_eq query.joins (Join.check_blanked hsub), getD_groupBy_blanked,
    Column.checkAll_blanked, ← hfilter, ← hhaving, ← horder, ← hdistinct]
  obtain ⟨_, _, _, _⟩ := query
  rfl

theorem select_blanked
    (hsub : ∀ query, fragment query.blanked = (fragment query).map Fragment.blanked)
    (dialect : Dialect) (query : Query) :
    query.blanked.select fragment dialect = (query.select fragment dialect).map Select.blanked := by
  have hdistinct := mapM_option_map_eq query.distinct Distinct.fragment_blanked
  have hjoins := mapM_map_eq query.joins (Join.fragment_blanked hsub)
  have hfilter := mapM_option_map_eq query.filter Filter.fragment_blanked
  have hhaving := mapM_option_map_eq query.having Filter.fragment_blanked
  have horder := mapM_option_map_eq query.orderBy OrderByElement.joinedFragment_blanked
  have hcolumns (columns : List Column) (showAlias : Bool) :
      Column.fragments (columns.map Column.blanked) showAlias =
        (Column.fragments columns showAlias).map (List.map Fragment.blanked) := by
    rw [← Column.blankedAll_eq_map, Column.fragments_blanked]
  have hclauses : query.blanked.distinct = query.distinct.map Distinct.blanked ∧
      query.blanked.filter = query.filter.map Filter.blanked ∧
      query.blanked.having = query.having.map Filter.blanked ∧
      query.blanked.orderBy = query.orderBy.map (List.map OrderByElement.blanked) ∧
      query.blanked.limit = query.limit ∧ query.blanked.offset = query.offset := by
    obtain ⟨_, _, _, _⟩ := query
    exact ⟨rfl, rfl, rfl, rfl, rfl, rfl⟩
  obtain ⟨hd, hf, hh, ho, hlimit, hoffset⟩ := hclauses
  -- each clause without its literals is built of the same clause of the query
  rw [select, select, selectedColumns_blanked, source_blanked hsub, joins_blanked,
    getD_groupBy_blanked, hcolumns, hcolumns, hd, hf, hh, ho, hlimit, hoffset, hdistinct, hjoins,
    hfilter, hhaving, horder]
  simp only [bind_of_map, map_of_bind]
  rfl

theorem fragmentWith_blanked
    (hsub : ∀ query, fragment query.blanked = (fragment query).map Fragment.blanked)
    (dialect : Dialect) (query : Query) :
    query.blanked.fragmentWith fragment dialect =
      (query.fragmentWith fragment dialect).map Fragment.blanked := by
  rw [fragmentWith, fragmentWith, selectedColumns_blanked, Column.checkAll_blanked,
    select_blanked hsub, map_of_bind]
  simp only [map_of_map, Select.toFragment_blanked]

end Query

end Subqueries

namespace Query

theorem check_blanked (query : Query) : query.blanked.check = query.check := by
  have haction : query.blanked.action = query.action := by
    obtain ⟨_, _, _, _⟩ := query
    rfl
  have hnested (inner : Query) : inner.blanked.nestedCheck = inner.nestedCheck :=
    inner.checkWith_blanked fun _ => rfl
  rw [check, check, haction]
  cases query.action.bind Action.ofName? with
  | none => rfl
  | some action =>
    refine query.checkWith_blanked fun inner => ?_
    cases action.isNested with
    | true => rfl
    | false => exact hnested inner

/-- **What becomes of a query without its literals** is what becomes of the
query, without its parameters. -/
theorem outcome_blanked (dialect : Dialect) (query : Query) :
    query.blanked.outcome dialect = (query.outcome dialect).map Fragment.blanked := by
  have hnested (inner : Query) : inner.blanked.nestedFragment dialect =
      (inner.nestedFragment dialect).map Fragment.blanked :=
    inner.fragmentWith_blanked (fun _ => rfl) dialect
  rw [outcome, outcome, check_blanked, map_of_bind]
  exact bind_congr fun _ => query.fragmentWith_blanked hnested dialect

end Query

/-! ## Statements -/

namespace Statement

/-- **What may be seen of a statement without its parameters:** its text,
and how many parameters there are. -/
def shape (statement : Statement) : String × Nat := (statement.sql, statement.params.length)

theorem shape_appendPart_blanked {dialect : Dialect} {first second : Statement}
    (h : first.shape = second.shape) (part : Part) :
    (appendPart dialect first part.blanked).shape = (appendPart dialect second part).shape := by
  obtain ⟨hsql, hlength⟩ := Prod.mk.inj h
  cases part with
  | text text => simp [shape, Part.blanked, appendPart, appendText, hsql, hlength]
  | identifier name =>
    simp [shape, Part.blanked, appendPart, appendIdentifier, appendText, hsql, hlength]
  | aliasName name =>
    simp [shape, Part.blanked, appendPart, appendAlias, appendText, hsql, hlength]
  | param p => simp [shape, Part.blanked, appendPart, appendParam, hsql, hlength]

/-- Parts written after statements of one shape give statements of one
shape. -/
theorem shape_foldl_blanked {dialect : Dialect} (parts : List Part) {first second : Statement}
    (h : first.shape = second.shape) :
    ((parts.map Part.blanked).foldl (appendPart dialect) first).shape =
      (parts.foldl (appendPart dialect) second).shape := by
  induction parts generalizing first second with
  | nil => exact h
  | cons part parts ih => exact ih (shape_appendPart_blanked h part)

end Statement

namespace Query

theorem shape_toStatement_blanked (dialect : Dialect) (query : Query) :
    (query.blanked.toStatement dialect).map Statement.shape =
      (query.toStatement dialect).map Statement.shape := by
  have hrender (fragment : Fragment) :
      (fragment.blanked.render dialect).shape = (fragment.render dialect).shape :=
    Statement.shape_foldl_blanked fragment.parts rfl
  rw [toStatement_eq, toStatement_eq, outcome_blanked, map_of_map, map_of_map, ← map_mapError,
    map_of_map]
  simp only [hrender]

/-- **Literals never reach the text of a statement.** Two queries that
differ only in their literals are refused with the same error, or become
statements with the same text and equally many parameters. -/
theorem toStatement_of_blanked_eq {first second : Query} (h : first.blanked = second.blanked)
    (dialect : Dialect) :
    (first.toStatement dialect).map Statement.shape =
      (second.toStatement dialect).map Statement.shape := by
  rw [← shape_toStatement_blanked, h, shape_toStatement_blanked]

/-- A query with one literal in several places. -/
def withLiteral (literal : Json) : Query where
  action := some "query"
  table := some (.name "t")
  columns := some [.function { function := "LOWER", parameters := [.value { value := literal }] }]
  filter := some (.or [
    .comparison { column := .name "a", operator := "=", value := some literal },
    .membership { column := .name "b", values := [literal, literal] }])

theorem shape_withLiteral :
    (withLiteral .null).blanked = (withLiteral (.string "?' OR $1")).blanked ∧
      ((withLiteral .null).toStatement .postgres).map Statement.shape =
        ((withLiteral (.string "?' OR $1")).toStatement .postgres).map Statement.shape := by
  have hblanked : (withLiteral .null).blanked = (withLiteral (.string "?' OR $1")).blanked := rfl
  exact ⟨hblanked, toStatement_of_blanked_eq hblanked .postgres⟩

end Query

end QueryTree
