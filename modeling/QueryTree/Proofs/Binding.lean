import QueryTree.Proofs.Collecting
import QueryTree.Proofs.QueryTracking
import QueryTree.Proofs.Rendering
/-!
# Binding — the parameters of a statement are the literals of its query

`literals` reads the literals off a node in the order of the text, and
`Fragment.Binds` says that the parameters of a fragment are some literals,
converted one by one. Every fragment binds the literals of its node, in
the order of the text and whatever order it was built in; for statements
this is `params_of_toStatement`.
-/

namespace QueryTree

open Fragment

/-! ## The literals of a node -/

mutual

/-- **The literals of a column,** those of a function's parameters in
order. -/
def Column.literals : Column → List Json
  | .named _ => []
  | .function ⟨_, parameters, _⟩ => Column.literalsAll parameters
  | .value literal => [literal.value]

/-- The literals of some columns, in order. -/
def Column.literalsAll : List Column → List Json
  | [] => []
  | column :: columns => Column.literals column ++ Column.literalsAll columns

end

/-- The literals of a comparison: those of the left column and then the
value, or those of the right column. -/
def ComparisonFilter.literals (filter : ComparisonFilter) : List Json :=
  filter.column.toColumn.literals ++ filter.value.toList ++
    filter.rightColumn.elim [] Column.literals

mutual

/-- **The literals of a filter,** those of its operands in order. -/
def Filter.literals : Filter → List Json
  | .comparison filter => filter.literals
  | .membership filter => filter.column.toColumn.literals ++ filter.values
  | .like filter => filter.column.toColumn.literals ++ [filter.pattern]
  | .isNull filter => filter.column.toColumn.literals
  | .and operands => Filter.literalsAll operands
  | .or operands => Filter.literalsAll operands
  | .not operand => Filter.literals operand

/-- The literals of some filters, in order. -/
def Filter.literalsAll : List Filter → List Json
  | [] => []
  | filter :: filters => Filter.literals filter ++ Filter.literalsAll filters

end

/-- The literals of an ordering. -/
def OrderByElement.literalsAll (elements : List OrderByElement) : List Json :=
  elements.flatMap fun element => element.column.toColumn.literals

/-- The literals of a distinct clause: those of the key come first. -/
def Distinct.literals (distinct : Distinct) : List Json :=
  distinct.key.elim [] Column.literals ++ Column.literalsAll distinct.columns

mutual

/-- **The literals of a query** in the order of its text, through all
queries in it. -/
def Query.literals : Query → List Json
  | ⟨_, table, _, columns, filter, join, groupBy, having, orderBy, _, _, distinct⟩ =>
    distinct.elim [] Distinct.literals ++ columns.elim [] Column.literalsAll ++
      Table.optionLiterals table ++ Join.optionLiterals join ++ filter.elim [] Filter.literals ++
      groupBy.elim [] Column.literalsAll ++ having.elim [] Filter.literals ++
      orderBy.elim [] OrderByElement.literalsAll

/-- The literals of a table that is a query. -/
def Table.literals : Table Query → List Json
  | .name _ => []
  | .query inner => Query.literals inner

/-- The literals of a table that may be missing. -/
def Table.optionLiterals : Option (Table Query) → List Json
  | none => []
  | some table => Table.literals table

/-- The literals of a join: those of its table and then those of its
condition. -/
def Join.literals : Join Query → List Json
  | ⟨_, table, _, condition⟩ =>
    Table.optionLiterals table ++ condition.elim [] Filter.literals

/-- The literals of some joins, in order. -/
def Join.listLiterals : List (Join Query) → List Json
  | [] => []
  | join :: joins => Join.literals join ++ Join.listLiterals joins

/-- The literals of one join or of a list of them. -/
def Join.singleOrListLiterals : SingleOrList (Join Query) → List Json
  | .single join => Join.literals join
  | .list joins => Join.listLiterals joins

/-- The literals of joins that may be missing. -/
def Join.optionLiterals : Option (SingleOrList (Join Query)) → List Json
  | none => []
  | some joins => Join.singleOrListLiterals joins

end

theorem Column.literalsAll_eq_flatMap (columns : List Column) :
    literalsAll columns = columns.flatMap literals := by
  induction columns with
  | nil => rfl
  | cons column columns ih => rw [literalsAll, ih, List.flatMap_cons]

theorem Filter.literalsAll_eq_flatMap (filters : List Filter) :
    literalsAll filters = filters.flatMap literals := by
  induction filters with
  | nil => rfl
  | cons filter filters ih => rw [literalsAll, ih, List.flatMap_cons]

theorem Join.listLiterals_eq_flatMap (joins : List (Join Query)) :
    listLiterals joins = joins.flatMap literals := by
  induction joins with
  | nil => rfl
  | cons join joins ih => rw [listLiterals, ih, List.flatMap_cons]

namespace Query

/-- A select list that is missing has no literals, whatever stands for
it. -/
theorem literals_selectedColumns (query : Query) :
    Column.literalsAll query.selectedColumns = query.columns.elim [] Column.literalsAll := by
  unfold selectedColumns
  cases query.columns <;> cases query.distinct <;> rfl

theorem literals_groupBy (query : Query) :
    Column.literalsAll (query.groupBy.getD []) = query.groupBy.elim [] Column.literalsAll := by
  cases query.groupBy <;> rfl

theorem literals_joins (query : Query) :
    query.joins.flatMap Join.literals = Join.optionLiterals query.join := by
  rw [joins, ← Join.listLiterals_eq_flatMap]
  rcases query.join with _ | join | joins
  · rfl
  · exact List.append_nil _
  · rfl

/-- The literals of a query, clause by clause, as its fragment is put
together. -/
theorem literals_eq (query : Query) :
    query.literals =
      query.distinct.elim [] Distinct.literals ++ Column.literalsAll query.selectedColumns ++
        query.table.elim [] Table.literals ++ query.joins.flatMap Join.literals ++
        query.filter.elim [] Filter.literals ++ Column.literalsAll (query.groupBy.getD []) ++
        query.having.elim [] Filter.literals ++
        query.orderBy.elim [] OrderByElement.literalsAll := by
  rw [literals_selectedColumns, literals_groupBy, literals_joins]
  obtain ⟨_, _ | _, _⟩ := query <;> rfl

end Query

/-! ## Fragments that bind literals -/

namespace Fragment

/-- **The parameters of a fragment are some literals,** converted one by
one and in order. -/
def Binds (literals : List Json) (fragment : Fragment) : Prop :=
  List.Forall₂ (fun literal param => literal.toParam = .ok param) literals fragment.params

variable {first second : List Json} {fragment other : Fragment}

theorem binds_ofText (text : String) : Binds [] (ofText text) := by
  rw [Binds, ofText, params_appendText]
  exact .nil

theorem binds_identifier (name : String) : Binds [] (identifier name) := .nil

theorem binds_ofAlias (name : String) : Binds [] (ofAlias name) := .nil

theorem binds_ofParam {literal : Json} {param : Param} (h : literal.toParam = .ok param) :
    Binds [literal] (ofParam param) := .cons h .nil

/-- **Literals are collected along fragments,** one after the other. -/
theorem collecting_binds : Collecting Binds where
  ofText := binds_ofText
  append hf hs := by
    rw [Binds, params_append]
    exact List.rel_append hf hs
  eq_nil h := List.forall₂_nil_right_iff.mp h

theorem binds_ofParams {values : List Json} {params : List Param}
    (h : paramsOf values = .ok params) (separator : String) :
    (joined separator (params.map ofParam)).Binds values := by
  have hvalues : List.Forall₂ (fun value fragment => Binds [value] fragment) values
      (params.map ofParam) := by
    induction values generalizing params with
    | nil =>
      cases h
      exact .nil
    | cons value values ih =>
      obtain ⟨param, hparam, h⟩ := bind_eq_ok.mp h
      obtain ⟨rest, hrest, h⟩ := bind_eq_ok.mp h
      cases h
      exact .cons (binds_ofParam hparam) (ih hrest)
  simpa using collecting_binds.joined hvalues separator

theorem Binds.under (h : fragment.Binds first) (aliasName : Option String) :
    (fragment.under aliasName).Binds first := by
  cases aliasName with
  | none => exact h
  | some name =>
    have happended := collecting_binds.append_ofText h " AS "
    have hshown := collecting_binds.append happended (binds_ofAlias name)
    rwa [List.append_nil] at hshown

end Fragment

/-! ## Columns and filters -/

mutual

/-- **A column binds its literals.** -/
theorem Column.binds_fragment : ∀ (column : Column) (showAlias : Bool),
    Yields (Binds column.literals) (column.fragment showAlias)
  | .named column, showAlias => by
    unfold Column.fragment Column.literals
    exact yields_ok ((collecting_binds.castTo (binds_identifier _) _).under _)
  | .function ⟨name, parameters, aliasName⟩, showAlias => by
    rw [Column.fragment, Column.literals, Column.literalsAll_eq_flatMap]
    refine (yields_self (Column.checkAll parameters)).bind fun _ _ => ?_
    refine (Column.binds_fragments parameters false).bind fun fragments h => ?_
    have hlist := collecting_binds.joined h ", "
    exact yields_ok ((collecting_binds.call hlist name).under _)
  | .value literal, showAlias => by
    unfold Column.fragment Column.literals
    refine (yields_self literal.value.toParam).bind fun param hparam => ?_
    have hvalue := binds_ofParam hparam
    exact yields_ok ((collecting_binds.castTo hvalue _).under _)

/-- Columns bind their literals one by one. -/
theorem Column.binds_fragments : ∀ (columns : List Column) (showAlias : Bool),
    Yields (List.Forall₂ (fun column fragment => fragment.Binds (Column.literals column)) columns)
      (Column.fragments columns showAlias)
  | [], _ => yields_ok .nil
  | column :: columns, showAlias => by
    unfold Column.fragments
    refine (Column.binds_fragment column showAlias).bind fun fragment h => ?_
    refine (Column.binds_fragments columns showAlias).bind fun fragments hs => ?_
    exact yields_ok (.cons h hs)

end

theorem ComparisonFilter.binds_operandFragment (filter : ComparisonFilter) :
    Yields
      (Binds (filter.value.toList ++ filter.rightColumn.elim [] Column.literals))
      filter.operandFragment := by
  obtain ⟨column, operator, _ | value, _ | right⟩ := filter
  · exact yields_error _
  · exact right.binds_fragment false
  · exact (yields_self value.toParam).map fun _ hparam => binds_ofParam hparam
  · exact yields_error _

theorem ComparisonFilter.binds_fragment (filter : ComparisonFilter) :
    Yields (Binds filter.literals) filter.fragment := by
  rw [fragment, literals, List.append_assoc]
  refine (filter.column.toColumn.binds_fragment false).bind fun left hleft => ?_
  refine filter.binds_operandFragment.bind fun right hright => ?_
  exact yields_ok (collecting_binds.append (collecting_binds.append_ofText hleft _) hright)

theorem InFilter.binds_fragment (filter : InFilter) :
    Yields (Binds (filter.column.toColumn.literals ++ filter.values))
      filter.fragment := by
  refine (filter.column.toColumn.binds_fragment false).bind fun column hcolumn => ?_
  refine (yields_self (paramsOf filter.values)).bind fun params hparams => ?_
  have hopening := collecting_binds.append_ofText hcolumn " IN ("
  have hlist := collecting_binds.append hopening (binds_ofParams hparams ", ")
  exact yields_ok (collecting_binds.append_ofText hlist ")")

theorem LikeFilter.binds_fragment (filter : LikeFilter) :
    Yields (Binds (filter.column.toColumn.literals ++ [filter.pattern]))
      filter.fragment := by
  refine (filter.column.toColumn.binds_fragment false).bind fun column hcolumn => ?_
  refine (yields_self filter.pattern.toParam).bind fun param hparam => ?_
  have hopening := collecting_binds.append_ofText hcolumn " LIKE "
  exact yields_ok (collecting_binds.append hopening (binds_ofParam hparam))

theorem IsNullFilter.binds_fragment (filter : IsNullFilter) :
    Yields (Binds filter.column.toColumn.literals) filter.fragment := by
  refine (filter.column.toColumn.binds_fragment false).bind fun column hcolumn => ?_
  exact yields_ok (collecting_binds.append_ofText hcolumn _)

mutual

/-- **A filter binds its literals.** -/
theorem Filter.binds_fragment : ∀ filter : Filter,
    Yields (Binds filter.literals) filter.fragment
  | .comparison filter => filter.binds_fragment
  | .membership filter => filter.binds_fragment
  | .like filter => filter.binds_fragment
  | .isNull filter => filter.binds_fragment
  | .and operands => by
    rw [Filter.literals, Filter.literalsAll_eq_flatMap]
    refine (Filter.binds_operandFragments operands).map fun fragments h => ?_
    exact collecting_binds.joined h _
  | .or operands => by
    rw [Filter.literals, Filter.literalsAll_eq_flatMap]
    refine (Filter.binds_operandFragments operands).map fun fragments h => ?_
    exact collecting_binds.joined h _
  | .not operand => by
    refine (Filter.binds_fragment operand).map fun fragment h => ?_
    exact collecting_binds.append_ofText (collecting_binds.ofText_append h "NOT (") ")"

/-- Operands bind their literals one by one; parentheses bind nothing. -/
theorem Filter.binds_operandFragments : ∀ filters : List Filter,
    Yields (List.Forall₂ (fun filter fragment => fragment.Binds (Filter.literals filter)) filters)
      (Filter.operandFragments filters)
  | [] => yields_ok .nil
  | filter :: filters => by
    unfold Filter.operandFragments
    refine (Filter.binds_fragment filter).bind fun fragment h => ?_
    refine (Filter.binds_operandFragments filters).bind fun fragments hs => ?_
    refine yields_ok (.cons ?_ hs)
    split
    · exact collecting_binds.parenthesized h
    · exact h

end

/-! ## Clauses -/

theorem OrderByElement.binds_joinedFragment (elements : List OrderByElement) :
    Yields (Binds (literalsAll elements)) (joinedFragment elements) := by
  have helement (element : OrderByElement) :
      Yields (Binds element.column.toColumn.literals) element.fragment := by
    refine (yields_self element.directionOf).bind fun direction _ => ?_
    refine (element.column.toColumn.binds_fragment false).bind fun column hcolumn => ?_
    exact yields_ok (collecting_binds.appendText hcolumn _)
  refine (yields_each elements helement).map fun fragments h => ?_
  exact collecting_binds.joined h ", "

theorem Distinct.binds_fragment (distinct : Distinct) :
    Yields (Binds distinct.literals) distinct.fragment := by
  obtain ⟨columns, key⟩ := distinct
  -- the columns are built before the key, and stand after it
  refine (Column.binds_fragments columns true).bind fun fragments hcolumns => ?_
  have hlist := collecting_binds.joined hcolumns ", "
  rw [← Column.literalsAll_eq_flatMap] at hlist
  refine (yields_optional key (Column.binds_fragment · false)).bind fun _ hkey => ?_
  cases hkey with
  | none => exact yields_ok (collecting_binds.ofText_append hlist _)
  | some hkey =>
    have hopening := collecting_binds.ofText_append hkey "DISTINCT ON ("
    exact yields_ok (collecting_binds.append (collecting_binds.append_ofText hopening ") ") hlist)

theorem Source.binds_aliasFragment (aliasName : Option String) :
    (aliasFragment aliasName).Binds [] := by
  cases aliasName with
  | none => exact collecting_binds.empty
  | some name => exact collecting_binds.ofText_append (binds_ofAlias name) " AS "

section Subqueries

variable {fragment : Query → Except Violation Fragment}

theorem Table.binds_source (hsub : ∀ query, Yields (Binds query.literals) (fragment query))
    (table : Table Query) (aliasName : Option String) :
    Yields (fun source => source.toFragment.Binds table.literals)
      (table.source fragment aliasName) := by
  have halias := Source.binds_aliasFragment aliasName
  cases table with
  | name n => exact yields_ok (collecting_binds.append (binds_identifier n) halias)
  | query inner =>
    refine (hsub inner).map fun inner hinner => ?_
    have hsource := collecting_binds.append (collecting_binds.parenthesized hinner) halias
    rwa [List.append_nil] at hsource

/-- **A join binds its literals.** -/
theorem Join.binds_fragment (hsub : ∀ query, Yields (Binds query.literals) (fragment query))
    (join : Join Query) : Yields (Binds join.literals) (join.fragment fragment) := by
  have hsource : Yields (fun source => source.toFragment.Binds (Table.optionLiterals join.table))
      (join.source fragment) := by
    unfold source
    rcases join.table with _ | table
    · exact yields_error _
    · exact table.binds_source hsub join.sourceAlias
  have hliterals : join.literals =
      Table.optionLiterals join.table ++ join.condition.elim [] Filter.literals := by
    obtain ⟨kind, table, aliasName, condition⟩ := join
    rfl
  rw [hliterals]
  refine (yields_self join.kindOf).bind fun kind _ => ?_
  refine hsource.bind fun source hs => ?_
  refine (yields_optional join.condition Filter.binds_fragment).bind fun condition hc => ?_
  exact yields_ok (collecting_binds.joinFragment kind hs hc)

/-! ## Queries -/

/-- **The clauses of a query bind its literals in the order of the text,**
which is not the order they are built in: the select list is built before
what makes its rows distinct. -/
theorem Query.binds_fragmentWith
    (hsub : ∀ query, Yields (Binds query.literals) (fragment query)) (dialect : Dialect)
    (query : Query) : Yields (Binds query.literals) (query.fragmentWith fragment dialect) := by
  have hsource : Yields (fun source => source.toFragment.Binds (query.table.elim [] Table.literals))
      (query.source fragment) := by
    unfold source
    rcases query.table with _ | table
    · exact yields_error _
    · exact table.binds_source hsub query.tableAlias
  rw [literals_eq, Column.literalsAll_eq_flatMap, Column.literalsAll_eq_flatMap]
  exact collecting_binds.fragmentWith dialect (fun _ => Column.binds_fragments _ true)
    (fun distinct _ => distinct.binds_fragment) hsource (fun join _ => join.binds_fragment hsub)
    (fun filter _ => filter.binds_fragment) (Column.binds_fragments _ false)
    (fun having _ => having.binds_fragment) (fun elements _ =>
      OrderByElement.binds_joinedFragment elements)

/-- **The parameters of a fragment are the literals of its query.** -/
theorem Query.binds_outcome (dialect : Dialect) (query : Query) :
    Yields (Binds query.literals) (query.outcome dialect) := by
  have hnested (inner : Query) :
      Yields (Binds inner.literals) (inner.nestedFragment dialect) :=
    inner.binds_fragmentWith (fun _ => yields_error _) dialect
  refine (yields_self query.check).bind fun _ _ => ?_
  exact query.binds_fragmentWith hnested dialect

end Subqueries

/-! ## Statements -/

/-- **The parameters of a statement are the literals of its query,**
converted one by one: none is lost, none comes twice, and they come in the
order of the text. -/
theorem Query.params_of_toStatement {dialect : Dialect} {query : Query} {statement : Statement}
    (h : query.toStatement dialect = .ok statement) :
    List.Forall₂ (fun literal param => literal.toParam = .ok param) query.literals
      statement.params := by
  obtain ⟨_, fragment, -, -, houtcome, rfl⟩ := built_of_toStatement h
  rw [Fragment.params_render]
  exact query.binds_outcome dialect fragment houtcome

/-- A query with a literal in every clause, each one different. -/
def Query.everyClause : Query where
  action := some "query"
  table := some (.query {
    table := some (.name "t")
    aliasName := some "s"
    filter := some (.membership { column := .name "id", values := [.number (.int 3), .null] }) })
  columns := some [.function {
    function := "COALESCE"
    parameters := [.named { column := "a.b" }, .value { value := .number (.int 2) }] }]
  distinct := some {
    columns := [.value { value := .number (.int 1), aliasName := some "one" }]
    key := some (.value { value := .number (.int 0) }) }
  join := some (.single {
    kind := "inner"
    table := some (.name "u")
    condition := some (.like { column := .name "name", pattern := .string "4%" }) })
  filter := some (.comparison {
    column := .name "age"
    operator := ">="
    value := some (.number (.int 5)) })
  groupBy := some [.value { value := .number (.int 6) }]
  having := some (.not (.comparison {
    column := .column (.value { value := .bool true })
    operator := "="
    rightColumn := some (.value { value := .number (.int 7) }) }))
  orderBy := some [{ column := .column (.value { value := .number (.int 8) }) }]

theorem Query.params_everyClause :
    ∃ statement, everyClause.toStatement .mysql = .ok statement ∧
      statement.params = [.int 0, .int 1, .int 2, .int 3, .null, .string "4%", .int 5, .int 6,
        .bool true, .int 7, .int 8] ∧
      List.Forall₂ (fun literal param => literal.toParam = .ok param) everyClause.literals
        statement.params := by
  have hsql : (everyClause.toStatement .mysql).toOption = some {
      sql := "SELECT DISTINCT ON (?) ? AS `one`, COALESCE(`a`.`b`, ?) " ++
        "FROM (SELECT * FROM `t` WHERE `id` IN (?, ?)) AS `s` " ++
        "INNER JOIN `u` ON `name` LIKE ? WHERE `age` >= ? GROUP BY ? " ++
        "HAVING NOT (? = ?) ORDER BY ? ASC"
      params := [.int 0, .int 1, .int 2, .int 3, .null, .string "4%", .int 5, .int 6,
        .bool true, .int 7, .int 8] } := by decide +kernel
  have hstatement := eq_ok_of_toOption hsql
  exact ⟨_, hstatement, rfl, params_of_toStatement hstatement⟩

end QueryTree
