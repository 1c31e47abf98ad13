import QueryTree.Compile.Compiler
import QueryTree.Compile.Name
import QueryTree.Node.Column
/-!
# Compiling columns

A column of a select list shows its alias; anywhere else the alias is
dropped. The parameters of a function get compilers of their own, and are
checked, only when the function is prepared.
-/

namespace QueryTree

/-- The names and the literal of a column must keep the rules. Its
parameters are not looked at. -/
def Column.check (column : Column) : Except Violation Unit := do
  match column with
  | .named c => do
    checkName "column" c.column
    checkCastType c.cast
  | .function call => checkFunctionName call.function
  | .value literal => do
    let _ ← literal.value.toParam
    checkCastType literal.cast
  checkAlias "column alias" column.aliasName

/-- **What a column's compiler keeps:** the compilers of the parameters,
of which there are none before it is prepared. -/
structure ColumnCache where
  parameters : List (Compiler ColumnCache) := []

/-- An expression with a cast, if there is one. -/
def withCast (cast : Option String) (expression : Fragment) : Except TemplateError Fragment :=
  match cast with
  | none => .ok expression
  | some cast => Template.fill s!"?::{cast}" [expression]

/-- An expression with an alias, if there is one. -/
def withAlias (aliasName : Option String) (expression : Fragment) :
    Except TemplateError Fragment :=
  match aliasName with
  | none => .ok expression
  | some name => Template.fill "? AS ?" [expression, .ofAlias name]

/-- So many holes with commas between them. -/
def holeList (count : Nat) : String := ", ".intercalate (List.replicate count "?")

/-- The compilers for some parameters, which must all keep the rules. -/
def Column.prepareAll : List Column → Except Violation (List (Compiler ColumnCache))
  | [] => .ok []
  | column :: columns => do
    column.check
    let compilers ← prepareAll columns
    .ok (⟨{}, .constructed⟩ :: compilers)

mutual

/-- **The stages of a column.** -/
def Column.stages : Column → Bool → Stages ColumnCache
  | .named column, showAlias => {
      compile := fun _ => do
        let expression ← Step.ofTemplate (withCast column.cast (.identifier column.column))
        Step.ofTemplate (withAlias (if showAlias then column.aliasName else none) expression) }
  | .function ⟨name, parameters, aliasName⟩, showAlias => {
      prepare := do
        -- all are checked before any of them is kept
        let compilers ← Step.ofCheck (Column.prepareAll parameters)
        Step.on ColumnCache.parameters (fun compilers _ => ⟨compilers⟩) fun _ =>
          (.ok (), compilers)
      compile := fun dialect => do
        let fragments ← Step.on ColumnCache.parameters (fun compilers _ => ⟨compilers⟩)
          (Column.buildAll parameters dialect)
        let call := s!"{name}({holeList fragments.length})"
        let expression ← Step.ofTemplate (Template.fill call fragments)
        Step.ofTemplate (withAlias (if showAlias then aliasName else none) expression) }
  | .value literal, showAlias => {
      compile := fun _ => do
        let param ← Step.ofCheck literal.value.toParam
        let expression ← Step.ofTemplate (withCast literal.cast (.ofParam param))
        Step.ofTemplate (withAlias (if showAlias then literal.aliasName else none) expression) }

/-- Build the compilers of some parameters, as far as there are any. -/
def Column.buildAll : List Column → Dialect → Step (List (Compiler ColumnCache)) (List Fragment)
  | [], _ => Step.answer []
  | column :: columns, dialect => fun
    | [] => (.ok [], [])
    | compiler :: compilers =>
      match Compiler.build (Column.stages column false) dialect compiler with
      | (.error error, compiler) => (.error error, compiler :: compilers)
      | (.ok fragment, compiler) =>
        match Column.buildAll columns dialect compilers with
        | (result, compilers) => (result.map (fragment :: ·), compiler :: compilers)

end

/-- A column with what its compiler keeps. -/
structure ColumnState where
  column : Column
  /-- Whether the alias is shown. -/
  showAlias : Bool
  cache : ColumnCache := {}

namespace ColumnState

/-- A step on what the compiler of a column keeps. -/
def onCache {α : Type} (step : ColumnState → Step ColumnCache α) : Step ColumnState α :=
  fun state => Step.on cache (fun cache state => { state with cache }) (step state) state

/-- The stages of a column that comes with its state. -/
def stages : Stages ColumnState where
  prepare := onCache fun state => (state.column.stages state.showAlias).prepare
  compile dialect := onCache fun state => (state.column.stages state.showAlias).compile dialect

end ColumnState

/-- **A compiler of a column.** -/
abbrev ColumnCompiler := Compiler ColumnState

namespace ColumnCompiler

/-- Build a column. -/
def build (dialect : Dialect) : Step ColumnCompiler Fragment :=
  Compiler.build ColumnState.stages dialect

end ColumnCompiler

namespace Column

/-- **A compiler for a column,** which shows the alias, as in a select list,
or drops it. -/
def compilerWith (showAlias : Bool) (column : Column) : Except Violation ColumnCompiler := do
  column.check
  .ok ⟨{ column, showAlias }, .constructed⟩

/-- **A compiler for a column inside another expression.** -/
def nestedCompiler : Column → Except Violation ColumnCompiler := compilerWith false

end Column

end QueryTree
