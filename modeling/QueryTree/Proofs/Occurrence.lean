import QueryTree.Compile.Query
/-!
# Occurrence — what stands in a query

A rule may be broken, and a text come from the caller, anywhere in the
tree of a query. This file lists what stands where: the parameters inside
a column, the filters inside a filter, the queries inside a query, and the
columns of each clause. Only these three lists go down the tree; what is
said of all columns or all queries is said of their members.
-/

namespace QueryTree

/-- What stands in a clause that may be missing. -/
theorem forall_mem_elim {ν α : Type} {node : Option ν} {f : ν → List α} {p : α → Prop} :
    (∀ a ∈ node.elim [] f, p a) ↔ ∀ n ∈ node, ∀ a ∈ f n, p a := by
  cases node <;> simp

/-- What is listed of a clause that may be missing. -/
theorem flatMap_elim {ν α β : Type} (node : Option ν) (f : ν → List α) (g : α → List β) :
    (node.elim [] f).flatMap g = node.elim [] fun n => (f n).flatMap g := by
  cases node <;> rfl

/-! ## Columns -/

mutual

/-- **The columns inside a column:** the parameters of a function and, to
any depth, the columns inside them. -/
def Column.inside : Column → List Column
  | .named _ => []
  | .function ⟨_, parameters, _⟩ => Column.insideAll parameters
  | .value _ => []

/-- Some columns and the columns inside them. -/
def Column.insideAll : List Column → List Column
  | [] => []
  | column :: columns => column :: (Column.inside column ++ Column.insideAll columns)

end

namespace Column

/-- The type that a column is cast to, if it is. -/
def cast : Column → Option String
  | named column => column.cast
  | function _ => none
  | value literal => literal.cast

/-- **The types that are cast to** in a column. -/
def casts (column : Column) : List String := (column :: column.inside).filterMap cast

theorem insideAll_eq_flatMap (columns : List Column) :
    insideAll columns = columns.flatMap fun column => column :: column.inside := by
  induction columns with
  | nil => rfl
  | cons column columns ih => rw [insideAll, ih, List.flatMap_cons, List.cons_append]

theorem inside_function (call : FunctionColumn Column) :
    (function call).inside = call.parameters.flatMap fun column => column :: column.inside := by
  rw [← insideAll_eq_flatMap]
  rfl

theorem casts_function (call : FunctionColumn Column) :
    (function call).casts = call.parameters.flatMap casts := by
  rw [casts, List.filterMap_cons_none rfl, inside_function, List.filterMap_flatMap]
  rfl

end Column

/-! ## Filters -/

mutual

/-- **The filters inside a filter,** itself first: the operands of groups
and of negations, to any depth. -/
def Filter.parts : Filter → List Filter
  | .comparison filter => [.comparison filter]
  | .membership filter => [.membership filter]
  | .like filter => [.like filter]
  | .isNull filter => [.isNull filter]
  | .and operands => .and operands :: Filter.partsAll operands
  | .or operands => .or operands :: Filter.partsAll operands
  | .not operand => .not operand :: Filter.parts operand

/-- The filters inside some filters. -/
def Filter.partsAll : List Filter → List Filter
  | [] => []
  | filter :: filters => Filter.parts filter ++ Filter.partsAll filters

end

namespace Filter

/-- The columns that a filter itself looks at. -/
def sides : Filter → List Column
  | comparison filter => filter.column.toColumn :: filter.rightColumn.toList
  | membership filter => [filter.column.toColumn]
  | like filter => [filter.column.toColumn]
  | isNull filter => [filter.column.toColumn]
  | _ => []

/-- **The columns of a filter.** -/
def columns (filter : Filter) : List Column := filter.parts.flatMap sides

/-- A filter that is the only one of its tree. -/
theorem columns_of_parts {filter : Filter} (h : filter.parts = [filter]) :
    filter.columns = filter.sides := by
  rw [columns, h, List.flatMap_singleton]

theorem partsAll_eq_flatMap (filters : List Filter) :
    partsAll filters = filters.flatMap parts := by
  induction filters with
  | nil => rfl
  | cons filter filters ih => rw [partsAll, ih, List.flatMap_cons]

theorem flatMap_parts_and {α : Type} (f : Filter → List α) (operands : List Filter) :
    (and operands).parts.flatMap f =
      f (and operands) ++ operands.flatMap fun operand => operand.parts.flatMap f := by
  rw [parts, partsAll_eq_flatMap, List.flatMap_cons, List.flatMap_assoc]

theorem flatMap_parts_or {α : Type} (f : Filter → List α) (operands : List Filter) :
    (or operands).parts.flatMap f =
      f (or operands) ++ operands.flatMap fun operand => operand.parts.flatMap f := by
  rw [parts, partsAll_eq_flatMap, List.flatMap_cons, List.flatMap_assoc]

theorem flatMap_parts_not {α : Type} (f : Filter → List α) (operand : Filter) :
    (not operand).parts.flatMap f = f (not operand) ++ operand.parts.flatMap f := by
  rw [parts, List.flatMap_cons]

theorem columns_and (operands : List Filter) :
    (and operands).columns = operands.flatMap columns := flatMap_parts_and sides operands

theorem columns_or (operands : List Filter) :
    (or operands).columns = operands.flatMap columns := flatMap_parts_or sides operands

theorem columns_not (operand : Filter) : (not operand).columns = operand.columns :=
  flatMap_parts_not sides operand

end Filter

/-! ## Queries -/

/-- The columns of a distinct clause. -/
def Distinct.allColumns (distinct : Distinct) : List Column :=
  distinct.columns ++ distinct.key.toList

/-- The columns of an ordering. -/
def OrderByElement.columns (elements : List OrderByElement) : List Column :=
  elements.map fun element => element.column.toColumn

/-- The columns of a join. -/
def Join.columns (join : Join Query) : List Column := join.condition.elim [] Filter.columns

mutual

/-- **The queries inside a query,** to any depth: its table and those of its
joins, where they are queries, and the queries inside these. -/
def Query.inside : Query → List Query
  | ⟨_, table, _, _, _, join, _, _, _, _, _, _⟩ =>
    Table.optionInside table ++ Join.optionInside join

/-- The query that a table is and the queries inside it. -/
def Table.inside : Table Query → List Query
  | .name _ => []
  | .query inner => inner :: Query.inside inner

/-- The same for a table that may be missing. -/
def Table.optionInside : Option (Table Query) → List Query
  | none => []
  | some table => Table.inside table

/-- The queries inside a join. -/
def Join.inside : Join Query → List Query
  | ⟨_, table, _, _⟩ => Table.optionInside table

/-- The queries inside some joins. -/
def Join.listInside : List (Join Query) → List Query
  | [] => []
  | join :: joins => Join.inside join ++ Join.listInside joins

/-- The queries inside one join or a list of them. -/
def Join.singleOrListInside : SingleOrList (Join Query) → List Query
  | .single join => Join.inside join
  | .list joins => Join.listInside joins

/-- The queries inside joins that may be missing. -/
def Join.optionInside : Option (SingleOrList (Join Query)) → List Query
  | none => []
  | some joins => Join.singleOrListInside joins

end

/-- The query that a table is, if it is one. -/
def Table.queries : Option (Table Query) → List Query
  | some (.query inner) => [inner]
  | _ => []

theorem Table.optionInside_eq_flatMap (table : Option (Table Query)) :
    optionInside table = (queries table).flatMap fun inner => inner :: inner.inside := by
  rcases table with _ | name | inner
  · rfl
  · rfl
  · exact (List.append_nil _).symm

theorem Join.listInside_eq_flatMap (joins : List (Join Query)) :
    listInside joins = joins.flatMap inside := by
  induction joins with
  | nil => rfl
  | cons join joins ih => rw [listInside, ih, List.flatMap_cons]

namespace Query

/-- **The queries that a query reads from:** its table and those of its
joins, where they are queries. -/
def sources (query : Query) : List Query :=
  Table.queries query.table ++ query.joins.flatMap fun join => Table.queries join.table

theorem mem_sources_of_table {query inner : Query} (h : inner ∈ Table.queries query.table) :
    inner ∈ query.sources := List.mem_append_left _ h

theorem mem_sources_of_join {query inner : Query} {join : Join Query} (hj : join ∈ query.joins)
    (h : inner ∈ Table.queries join.table) : inner ∈ query.sources :=
  List.mem_append_right _ (List.mem_flatMap.mpr ⟨join, hj, h⟩)

/-- The queries inside a query are those it reads from and the ones inside
these. -/
theorem inside_eq_flatMap (query : Query) :
    query.inside = query.sources.flatMap fun inner => inner :: inner.inside := by
  have hjoin : Join.inside = fun join => (Table.queries join.table).flatMap
      fun inner => inner :: inner.inside := by
    funext ⟨kind, table, aliasName, condition⟩
    exact Table.optionInside_eq_flatMap table
  have hjoins : Join.optionInside query.join = query.joins.flatMap Join.inside := by
    rw [joins, ← Join.listInside_eq_flatMap]
    rcases query.join with _ | join | joins
    · rfl
    · exact (List.append_nil _).symm
    · rfl
  have hquery : query.inside = Table.optionInside query.table ++ Join.optionInside query.join := by
    cases query
    rfl
  rw [hquery, hjoins, hjoin, sources, List.flatMap_append, List.flatMap_assoc,
    Table.optionInside_eq_flatMap]

/-- The columns of the clauses of a query, save its select list. -/
def clauseColumns (query : Query) : List Column :=
  query.joins.flatMap Join.columns ++ query.filter.elim [] Filter.columns ++
    query.groupBy.getD [] ++ query.having.elim [] Filter.columns ++
    query.orderBy.elim [] OrderByElement.columns ++ query.distinct.elim [] Distinct.allColumns

/-- The select list to write where there is none: all columns, unless there
are distinct columns, which are written anyway. -/
def defaultColumns (query : Query) : List Column :=
  if query.distinct.isSome then [] else [.star]

/-- What a missing select list stands for depends on nothing but whether the
rows are distinct. -/
theorem selectedColumns_eq (query : Query) :
    query.selectedColumns = query.columns.getD query.defaultColumns := by
  obtain ⟨_, _, _, _ | columns, _, _, _, _, _, _, _, _ | distinct⟩ := query <;> rfl

/-- **The columns of a query.** Those of the queries inside it are not among
them. -/
def allColumns (query : Query) : List Column :=
  query.columns.getD query.defaultColumns ++ query.clauseColumns

theorem allColumns_eq (query : Query) :
    query.allColumns = query.selectedColumns ++ query.clauseColumns := by
  rw [allColumns, selectedColumns_eq]

/-- **The types that are cast to** anywhere in a query. -/
def casts (query : Query) : List String :=
  (query :: query.inside).flatMap fun inner => inner.allColumns.flatMap Column.casts

end Query

end QueryTree
