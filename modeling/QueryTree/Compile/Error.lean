import QueryTree.Sql.Template
/-!
# Errors — what keeps a query from becoming a statement

A query that breaks a rule is refused with the rule it breaks. The other
errors are misuses of the compilers, which no query can cause.
-/

namespace QueryTree

/-- **A rule that a query breaks.** -/
inductive Violation where
  | invalidAction (action : Option String)
  | missingTable
  | missingJoinTable
  | nestedTooDeep
  | unsupportedOperator (operator : String)
  /-- A comparison with neither or both of its operands. -/
  | comparisonOperand
  | emptyList (field : String)
  | invalidDirection (direction : String)
  | invalidJoinKind (kind : String)
  | missingCondition (kind : String)
  /-- A cross join with a condition. -/
  | unexpectedCondition
  | invalidFunctionName (name : String)
  | invalidCastType (cast : String)
  | emptyName (context : String)
  /-- A literal that is a list or an object; its JSON text is kept. -/
  | unsupportedValue (value : String)
deriving DecidableEq, Repr

/-- The words for a broken rule. -/
def Violation.message : Violation → String
  | invalidAction action =>
    s!"query does not contains valid action, got {Text.shownOption action}."
  | missingTable => "table is required in the query."
  | missingJoinTable => "table is required in a join."
  | nestedTooDeep => "only 1 level deep query allowed"
  | unsupportedOperator operator => s!"filter operator \"{operator}\" is not supported."
  | comparisonOperand => "a comparison needs exactly one of \"value\" or \"rightColumn\"."
  | emptyList field => s!"\"{field}\" must not be an empty list."
  | invalidDirection direction =>
    s!"order by direction \"{direction}\" is not supported, expected \"asc\" or \"desc\"."
  | invalidJoinKind kind => s!"join type \"{kind}\" is not supported."
  | missingCondition kind => s!"a {kind} join requires an \"on\" filter."
  | unexpectedCondition => "a cross join does not take an \"on\" filter."
  | invalidFunctionName name => s!"\"{name}\" is not a valid function name."
  | invalidCastType cast => s!"\"{cast}\" is not a valid type to cast to."
  | emptyName context => s!"identifiers and aliases must not be empty, found one in {context}."
  | unsupportedValue value => s!"{value} is not a supported literal value."

/-- **A wrong use of a compiler.** -/
inductive Misuse where
  /-- A clause was asked for that the query does not have. -/
  | missingClause (clause : String)
  | notPrepared (what : String)
  | template (error : TemplateError)
deriving DecidableEq, Repr

/-- The words for a misuse. -/
def Misuse.message : Misuse → String
  | missingClause clause => s!"{clause} must be defined when calling this function"
  | notPrepared what => s!"{what} was compiled before it was prepared"
  | template error => s!"failed to render SQL: {error.message}"

/-- **What keeps a node from becoming SQL.** -/
inductive CompileError where
  | violation (violation : Violation)
  | misuse (misuse : Misuse)
deriving DecidableEq, Repr

/-- The words for an error. -/
def CompileError.message : CompileError → String
  | .violation v => v.message
  | .misuse m => m.message

end QueryTree
