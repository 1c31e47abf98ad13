import QueryTree.Compile.Column
import QueryTree.Node.Query
import QueryTree.Sql.Select
/-!
# Compiling orderings
-/

namespace QueryTree

/-- What the compiler of an ordering keeps. -/
structure OrderByState where
  elements : List (ColumnCompiler × Direction)

namespace OrderByState

/-- An element with its direction. -/
def buildElement (dialect : Dialect) : Step (ColumnCompiler × Direction) Fragment
  | (compiler, direction) =>
    match ColumnCompiler.build dialect compiler with
    | (result, compiler) =>
      (result.map fun fragment => fragment.appendText direction.keyword, (compiler, direction))

/-- The stages of an ordering. -/
def stages : Stages OrderByState where
  compile dialect := do
    let elements ← Step.on elements (fun elements _ => ⟨elements⟩)
      (Step.each (buildElement dialect))
    pure (.joined ", " elements)

end OrderByState

/-- **A compiler of an ordering.** -/
abbrev OrderByCompiler := Compiler OrderByState

namespace OrderByElement

/-- The direction of an element, ascending where it names none. -/
def directionOf (element : OrderByElement) : Except Violation Direction :=
  match element.direction with
  | none => .ok .ascending
  | some name =>
    match Direction.ofName? name with
    | none => .error (.invalidDirection name)
    | some direction => .ok direction

/-- The compilers and directions of some elements, in order. -/
def compilers : List OrderByElement → Except Violation (List (ColumnCompiler × Direction))
  | [] => .ok []
  | element :: elements => do
    let column ← element.column.toColumn.nestedCompiler
    let direction ← element.directionOf
    let rest ← compilers elements
    .ok ((column, direction) :: rest)

/-- **A compiler for an ordering,** which must have an element. -/
def compiler (elements : List OrderByElement) : Except Violation OrderByCompiler := do
  if elements.isEmpty then .error (.emptyList "order_by")
  let elements ← compilers elements
  .ok ⟨⟨elements⟩, .constructed⟩

end OrderByElement

end QueryTree
