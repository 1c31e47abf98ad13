import QueryTree.Compile.Filter
import QueryTree.Node.Query
import QueryTree.Sql.Select
/-!
# Compiling joins

A join with a query needs a compiler for that query. What kind of
compiler it is does not matter here, so joins are compiled over any type
of subqueries; where a query must not contain queries, that type is
empty.
-/

namespace QueryTree

variable {Sub : Type}

/-- What the compiler of a join keeps. -/
structure JoinState (Sub : Type) where
  kind : JoinKind
  table : Table Sub
  aliasName : Option String
  condition : Option FilterCompiler

namespace Table

/-- A table as a source of rows, with a query as a subquery. -/
def buildSource (sub : Step Sub Fragment) (aliasName : Option String) : Step (Table Sub) Source
  | name n => (.ok (.table n aliasName), name n)
  | query compiler =>
    match sub compiler with
    | (result, compiler) => (result.map (.subquery · aliasName), query compiler)

end Table

namespace JoinState

/-- The stages of a join, given how a subquery is built. -/
def stages (sub : Dialect → Step Sub Fragment) : Stages (JoinState Sub) where
  compile dialect := fun state => Step.andThen
    (Step.on table (fun table state => { state with table })
      (Table.buildSource (sub dialect) state.aliasName))
    (fun source => Step.andThen
      (Step.on condition (fun condition state => { state with condition })
        (Step.optional (FilterCompiler.build dialect)))
      fun condition => Step.answer (joinFragment state.kind source condition))
    state

end JoinState

/-- **A compiler of a join.** -/
abbrev JoinCompiler (Sub : Type) := Compiler (JoinState Sub)

namespace Join

/-- The table of a join and its alias, given how a query is made a
subquery. A query brings its own alias, which that of the join replaces. -/
def tableOf (sub : Query → Except Violation Sub) (join : Join Query) :
    Except Violation (Table Sub × Option String) :=
  match join.table with
  | none => .error .missingJoinTable
  | some (.name name) => do
    checkName "join table" name
    .ok (.name name, join.aliasName)
  | some (.query query) => do
    let compiler ← sub query
    .ok (.query compiler, join.aliasName <|> query.aliasName)

/-- The condition of a join, which only a cross join does without. -/
def conditionOf (kind : JoinKind) (join : Join Query) : Except Violation (Option FilterCompiler) :=
  match kind, join.condition with
  | .cross, none => .ok none
  | .cross, some _ => .error .unexpectedCondition
  | _, none => .error (.missingCondition join.kind)
  | _, some filter => filter.compiler.map some

/-- **A compiler for a join,** given how a query is made a subquery. -/
def compiler (sub : Query → Except Violation Sub) (join : Join Query) :
    Except Violation (JoinCompiler Sub) :=
  match JoinKind.ofName? join.kind with
  | none => .error (.invalidJoinKind join.kind)
  | some kind => do
    let (table, aliasName) ← join.tableOf sub
    let condition ← join.conditionOf kind
    checkAlias "join alias" join.aliasName
    .ok ⟨{ kind, table, aliasName, condition }, .constructed⟩

/-- Compilers for some joins, in order. -/
def compilers (sub : Query → Except Violation Sub) :
    List (Join Query) → Except Violation (List (JoinCompiler Sub))
  | [] => .ok []
  | join :: joins => do
    let compiler ← join.compiler sub
    let rest ← compilers sub joins
    .ok (compiler :: rest)

end Join

end QueryTree
