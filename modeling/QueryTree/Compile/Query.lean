import QueryTree.Compile.Join
import QueryTree.Compile.OrderBy
import QueryTree.Sql.Statement
/-!
# Compiling queries

A query and everything below it is checked when its compiler is made,
save its select list, which is checked when the query is prepared, and
the parameters of functions.

Queries nest to one level: the query at the top may read from queries,
and those may not. So a compiler of a query is made over the type of its
subqueries, which has no members for a query that is nested.
-/

namespace QueryTree

variable {Sub : Type}

/-- **What a query is for.** -/
inductive Action where
  | query
  | subquery
  | temporaryTable
deriving DecidableEq, Repr

namespace Action

/-- The action of a name. -/
def ofName? (name : String) : Option Action :=
  match name with
  | "query" => some query
  | "subquery" => some subquery
  | "temporary_table" => some temporaryTable
  | _ => none

/-- Whether a query for this is a table of another query. -/
def isNested (action : Action) : Bool := action ≠ query

end Action

/-- The compilers of a distinct clause. -/
structure DistinctState where
  key : Option ColumnCompiler
  columns : List ColumnCompiler

/-- What the compiler of a query keeps. -/
structure QueryState (Sub : Type) where
  action : Action
  table : Table Sub
  /-- The alias of the query that is the table, if a query is. -/
  tableAlias : Option String
  /-- The alias of the query itself. -/
  aliasName : Option String
  /-- The columns of the select list. -/
  columnNodes : List Column
  /-- The compilers of the select list, once the query is prepared. -/
  columns : Option (List ColumnCompiler)
  distinct : Option DistinctState
  joins : List (JoinCompiler Sub)
  filter : Option FilterCompiler
  groupBy : List ColumnCompiler
  having : Option FilterCompiler
  orderBy : Option OrderByCompiler
  limit : Option UInt64
  offset : Option UInt64

/-- Compilers for some columns, in order. -/
def Column.compilersWith (showAlias : Bool) :
    List Column → Except Violation (List ColumnCompiler)
  | [] => .ok []
  | column :: columns => do
    let compiler ← column.compilerWith showAlias
    let rest ← compilersWith showAlias columns
    .ok (compiler :: rest)

namespace DistinctState

/-- The fragment of a distinct clause. The columns are built before the
key that stands before them. -/
def build (dialect : Dialect) : Step DistinctState Fragment := do
  let columns ← Step.on columns (fun columns state => { state with columns })
    (Step.each (ColumnCompiler.build dialect))
  let key ← Step.on key (fun key state => { state with key })
    (Step.optional (ColumnCompiler.build dialect))
  let columns := Fragment.joined ", " columns
  match key with
  | some key => Step.ofTemplate (Template.fill "DISTINCT ON (?) ?" [key, columns])
  | none => Step.ofTemplate (Template.fill "DISTINCT ?" [columns])

end DistinctState

namespace QueryState

/-- The compilers for the select list. -/
def prepare : Step (QueryState Sub) Unit := fun state =>
  match Column.compilersWith true state.columnNodes with
  | .ok columns => (.ok (), { state with columns := some columns })
  | .error violation => (.error (.violation violation), state)

/-- The fragments of the select list, once there are compilers for it. -/
def buildColumns (dialect : Dialect) : Step (Option (List ColumnCompiler)) (List Fragment)
  | none => (.error (.misuse (.notPrepared "columns")), none)
  | some columns =>
    match Step.each (ColumnCompiler.build dialect) columns with
    | (result, columns) => (result, some columns)

/-- **The fragment of the distinct clause** of a query that has one. -/
def buildDistinct (dialect : Dialect) : Step (QueryState Sub) Fragment := do
  let fragment ← Step.on distinct (fun distinct state => { state with distinct })
    (Step.optional (DistinctState.build dialect))
  match fragment with
  | some fragment => Step.answer fragment
  | none => Step.fail (.misuse (.missingClause "distinct"))

/-- The fragment of the distinct clause, if there is one. -/
def buildDistinct? (dialect : Dialect) : Step (QueryState Sub) (Option Fragment) :=
  Step.on distinct (fun distinct state => { state with distinct })
    (Step.optional (DistinctState.build dialect))

/-- A number of rows that limits or skips any. -/
def positive? (count : Option UInt64) : Option UInt64 := count.filter (0 < ·)

/-- **The fragment of a query,** given how a subquery is built. A subquery
is built where it stands, so its parameters come before those of the
clauses after it. -/
def compile (sub : Dialect → Step Sub Fragment) (dialect : Dialect) :
    Step (QueryState Sub) Fragment := fun state => (do
  -- the select list and the distinct clause are built in this order and written in the other
  let columns ← Step.on columns (fun columns state => { state with columns })
    (buildColumns dialect)
  let distinct ← buildDistinct? dialect
  let source ← Step.on table (fun table state => { state with table })
    (Table.buildSource (sub dialect) state.tableAlias)
  let joins ← Step.on joins (fun joins state => { state with joins })
    (Step.each (Compiler.build (JoinState.stages sub) dialect))
  let filter ← Step.on filter (fun filter state => { state with filter })
    (Step.optional (FilterCompiler.build dialect))
  let groupBy ← Step.on groupBy (fun groupBy state => { state with groupBy })
    (Step.each (ColumnCompiler.build dialect))
  let having ← Step.on having (fun having state => { state with having })
    (Step.optional (FilterCompiler.build dialect))
  let orderBy ← Step.on orderBy (fun orderBy state => { state with orderBy })
    (Step.optional (Compiler.build OrderByState.stages dialect))
  let limit := dialect.limit (positive? state.limit) (positive? state.offset)
  let select : Select :=
    { distinct, columns, source := some source, joins, filter, groupBy, having, orderBy, limit }
  pure select.toFragment : Step (QueryState Sub) Fragment) state

/-- The stages of a query, given how a subquery is built. -/
def stages (sub : Dialect → Step Sub Fragment) : Stages (QueryState Sub) where
  prepare := prepare
  compile := compile sub

end QueryState

/-- **A compiler of a query.** -/
abbrev QueryCompiler (Sub : Type) := Compiler (QueryState Sub)

/-! ## Making compilers -/

namespace Query

/-- The compilers of a distinct clause, which must have a column. -/
def distinctState (distinct : Distinct) : Except Violation DistinctState := do
  if distinct.columns.isEmpty then .error (.emptyList "distinct.columns")
  let key ← match distinct.key with
    | none => .ok none
    | some column => column.nestedCompiler.map some
  let columns ← Column.compilersWith true distinct.columns
  .ok { key, columns }

/-- The table of a query and the alias that it brings, given how a query
is made a subquery. -/
def tableOf (sub : Query → Except Violation Sub) (query : Query) :
    Except Violation (Table Sub × Option String) :=
  match query.table with
  | none => .error .missingTable
  | some (.name name) =>
    -- a name that is empty is no name
    if name.isEmpty then .error .missingTable else .ok (.name name, none)
  | some (.query inner) => do
    let compiler ← sub inner
    .ok (.query compiler, inner.aliasName)

/-- The columns that a select list stands for: all of them where it is
missing, unless the distinct columns take their place. -/
def selectedColumns (query : Query) : List Column :=
  match query.columns, query.distinct with
  | some columns, _ => columns
  | none, some _ => []
  | none, none => [.star]

/-- A compiler for a query with a given action, given how a query is made
a subquery. -/
def compilerWith (sub : Query → Except Violation Sub) (action : Action) (query : Query) :
    Except Violation (QueryCompiler Sub) := do
  let (table, tableAlias) ← query.tableOf sub
  checkAlias "query alias" query.aliasName
  let joins ← Join.compilers sub query.joins
  let filter ← Filter.compiler? query.filter
  let groupBy ← Column.compilersWith false (query.groupBy.getD [])
  let having ← Filter.compiler? query.having
  let orderBy ← match query.orderBy with
    | none => .ok none
    | some elements => (OrderByElement.compiler elements).map some
  let distinct ← match query.distinct with
    | none => .ok none
    | some distinct => (distinctState distinct).map some
  .ok ⟨{
    action, table, tableAlias, aliasName := query.aliasName,
    columnNodes := query.selectedColumns, columns := none, distinct, joins, filter, groupBy,
    having, orderBy, limit := query.limit, offset := query.offset }, .constructed⟩

/-- A query where no query may be. -/
def refuse {α : Type} (_ : Query) : Except Violation α := .error .nestedTooDeep

end Query

/-- A compiler of a query without subqueries. -/
abbrev NestedCompiler := QueryCompiler Empty

/-- A compiler of a query that may have subqueries. -/
abbrev TopCompiler := QueryCompiler NestedCompiler

namespace NestedCompiler

/-- The stages of a query without subqueries. -/
def stages : Stages (QueryState Empty) := QueryState.stages fun _ none => none.elim

/-- Build a query without subqueries. -/
def build (dialect : Dialect) : Step NestedCompiler Fragment := Compiler.build stages dialect

end NestedCompiler

namespace TopCompiler

/-- The stages of a query that may have subqueries. -/
def stages : Stages (QueryState NestedCompiler) := QueryState.stages NestedCompiler.build

/-- Build a query that may have subqueries. -/
def build (dialect : Dialect) : Step TopCompiler Fragment := Compiler.build stages dialect

end TopCompiler

namespace Query

/-- **A compiler for a query that is the table of another query or of a
join.** Its own action does not count. -/
def nestedCompiler (query : Query) : Except Violation NestedCompiler :=
  query.compilerWith refuse .temporaryTable

/-- **A compiler for a query at the top.** Unless its action is `query` it
is meant to be a table itself, and may not have subqueries. -/
def compiler (query : Query) : Except Violation TopCompiler :=
  match query.action.bind Action.ofName? with
  | none => .error (.invalidAction query.action)
  | some action =>
    query.compilerWith (if action.isNested then refuse else nestedCompiler) action

/-- **The statement of a query in a dialect.** -/
def toStatement (dialect : Dialect) (query : Query) : Except CompileError Statement :=
  match query.compiler with
  | .error violation => .error (.violation violation)
  | .ok compiler => (TopCompiler.build dialect compiler).1.map (Fragment.render dialect)

end Query

end QueryTree
