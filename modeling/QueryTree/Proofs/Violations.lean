import QueryTree.Proofs.Occurrence
/-!
# Violations — all the rules that a query breaks

A query is refused for the first broken rule that is found. This file
lists all of them, node by node, each as the error it deserves, and tells
those that are found when a query is given a compiler
(`Query.earlyViolations`) from those that are found when it is built
(`Query.lateViolations`): the rules for the columns of select lists and
for what is inside columns. Nothing here stops at the first one, and
nothing depends on the order in which nodes are looked at.
-/

namespace QueryTree

/-- The violation of a rule, if the rule is broken. -/
def Violation.unless (violation : Violation) (rule : Bool) : List Violation :=
  if rule then [] else [violation]

/-! ## Names and literals -/

/-- A name must not be empty. -/
def nameViolations (context name : String) : List Violation :=
  (Violation.emptyName context).unless (name ≠ "")

/-- An alias must not be empty, if there is one. -/
def aliasViolations (context : String) (aliasName : Option String) : List Violation :=
  aliasName.elim [] (nameViolations context)

/-- What is cast to must be a type, if there is a cast. -/
def castViolations (cast : Option String) : List Violation :=
  cast.elim [] fun type => (Violation.invalidCastType type).unless (isCastType type)

namespace Json

/-- Whether a value is neither a list nor an object. -/
def isScalar : Json → Bool
  | array _ | object _ => false
  | _ => true

/-- A literal must be a scalar. -/
def violations (value : Json) : List Violation :=
  (Violation.unsupportedValue value.compact).unless value.isScalar

end Json

/-! ## Columns -/

namespace Column

/-- **The rules that a column breaks by itself.** Those for the columns
inside it are not among them. -/
def violations (column : Column) : List Violation :=
  (match column with
    | named column => nameViolations "column" column.column ++ castViolations column.cast
    | function call =>
      (Violation.invalidFunctionName call.function).unless (isFunctionName call.function)
    | value literal => literal.value.violations ++ castViolations literal.cast) ++
    aliasViolations "column alias" column.aliasName

/-- The rules that are broken inside a column. -/
def insideViolations (column : Column) : List Violation := column.inside.flatMap violations

end Column

/-! ## Filters -/

namespace Filter

/-- The rules that one filter of a tree breaks, apart from its columns. -/
def ownViolations : Filter → List Violation
  | comparison filter =>
    (Violation.unsupportedOperator filter.operator).unless
        (Operator.ofText? filter.operator).isSome ++
      Violation.comparisonOperand.unless (filter.value.isSome ≠ filter.rightColumn.isSome) ++
      filter.value.elim [] Json.violations
  | membership filter =>
    (Violation.emptyList "in").unless (!filter.values.isEmpty) ++
      filter.values.flatMap Json.violations
  | like filter => filter.pattern.violations
  | isNull _ => []
  | and operands => (Violation.emptyList "and").unless (!operands.isEmpty)
  | or operands => (Violation.emptyList "or").unless (!operands.isEmpty)
  | not _ => []

/-- The rules that one filter of a tree breaks, its columns among them. -/
def stepViolations (filter : Filter) : List Violation :=
  filter.ownViolations ++ filter.sides.flatMap Column.violations

/-- **The rules that a filter breaks,** through the whole tree. -/
def violations (filter : Filter) : List Violation := filter.parts.flatMap stepViolations

/-- A filter that is the only one of its tree. -/
theorem violations_of_parts {filter : Filter} (h : filter.parts = [filter]) :
    filter.violations = filter.stepViolations := by
  rw [violations, h, List.flatMap_singleton]

theorem violations_and (operands : List Filter) :
    (and operands).violations =
      (Violation.emptyList "and").unless (!operands.isEmpty) ++ operands.flatMap violations := by
  rw [violations, flatMap_parts_and]
  exact congrArg (· ++ _) (List.append_nil _)

theorem violations_or (operands : List Filter) :
    (or operands).violations =
      (Violation.emptyList "or").unless (!operands.isEmpty) ++ operands.flatMap violations := by
  rw [violations, flatMap_parts_or]
  exact congrArg (· ++ _) (List.append_nil _)

theorem violations_not (operand : Filter) : (not operand).violations = operand.violations := by
  rw [violations, flatMap_parts_not]
  rfl

end Filter

/-! ## Clauses -/

namespace Join

/-- There must be a table, with a name if it is no query. -/
def tableViolations (join : Join Query) : List Violation :=
  match join.table with
  | none => [.missingJoinTable]
  | some (.name name) => nameViolations "join table" name
  | some (.query _) => []

/-- There must be a condition, save for a cross join, which takes none. -/
def conditionViolations (join : Join Query) : List Violation :=
  match JoinKind.ofName? join.kind, join.condition with
  | some .cross, none => []
  | some .cross, some _ => [.unexpectedCondition]
  | _, none => [.missingCondition join.kind]
  | _, some _ => []

/-- **The rules that a join breaks.** Those for a query that is its table
are not among them. -/
def violations (join : Join Query) : List Violation :=
  (Violation.invalidJoinKind join.kind).unless (JoinKind.ofName? join.kind).isSome ++
    join.tableViolations ++ join.conditionViolations ++
    join.condition.elim [] Filter.violations ++ aliasViolations "join alias" join.aliasName

end Join

namespace OrderByElement

/-- A direction must be one, if it is named. -/
def directionViolations (element : OrderByElement) : List Violation :=
  element.direction.elim [] fun name =>
    (Violation.invalidDirection name).unless (Direction.ofName? name).isSome

/-- **The rules that an ordering breaks.** -/
def violations (elements : List OrderByElement) : List Violation :=
  (Violation.emptyList "order_by").unless (!elements.isEmpty) ++
    elements.flatMap fun element =>
      element.column.toColumn.violations ++ element.directionViolations

end OrderByElement

/-- **The rules that a distinct clause breaks.** -/
def Distinct.violations (distinct : Distinct) : List Violation :=
  (Violation.emptyList "distinct.columns").unless (!distinct.columns.isEmpty) ++
    distinct.key.elim [] Column.violations ++ distinct.columns.flatMap Column.violations

/-! ## Queries -/

namespace Query

/-- There must be a table. -/
def tableViolations (query : Query) : List Violation :=
  match query.table with
  | none => [.missingTable]
  | some (.name name) => Violation.missingTable.unless (name ≠ "")
  | some (.query _) => []

/-- **The rules that a query breaks in its clauses,** save its select list. -/
def ownViolations (query : Query) : List Violation :=
  query.tableViolations ++ aliasViolations "query alias" query.aliasName ++
    query.joins.flatMap Join.violations ++ query.filter.elim [] Filter.violations ++
    (query.groupBy.getD []).flatMap Column.violations ++
    query.having.elim [] Filter.violations ++
    query.orderBy.elim [] OrderByElement.violations ++ query.distinct.elim [] Distinct.violations

/-- Where no query may be, there must be none. -/
def nestingViolations (query : Query) : List Violation :=
  Violation.nestedTooDeep.unless query.sources.isEmpty

/-- The rules that a query breaks where no query may be. -/
def nestedViolations (query : Query) : List Violation :=
  query.ownViolations ++ query.nestingViolations

/-- **The rules that a query breaks in its select list,** if it has one, **and
inside its columns,** whichever clause these are in. -/
def columnViolations (query : Query) : List Violation :=
  (query.columns.getD []).flatMap Column.violations ++
    query.allColumns.flatMap Column.insideViolations

/-- **The violations that are found when a query is given a compiler.** The
action counts at the top only, and only there, for the action `query`, may
there be queries. -/
def earlyViolations (query : Query) : List Violation :=
  (Violation.invalidAction query.action).unless
      (query.action ∈ [some "query", some "subquery", some "temporary_table"]) ++
    query.ownViolations ++
    (if query.action = some "query" then [] else query.nestingViolations) ++
    query.inside.flatMap nestedViolations

/-- **The violations that are found when a query is built,** in the queries
inside it too. -/
def lateViolations (query : Query) : List Violation :=
  (query :: query.inside).flatMap columnViolations

end Query

end QueryTree
