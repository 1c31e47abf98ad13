import QueryTree.Compile.Column
import QueryTree.Node.Filter
/-!
# Compiling filters

The whole tree of a filter is checked when its compiler is made. A group
of conditions inside another group is put in parentheses, and so is what
a negation negates, so that the text has the structure of the tree.
-/

namespace QueryTree

/-! ## Comparisons -/

/-- **The operator of a comparison.** -/
inductive Operator where
  | equal
  | notEqual
  | lessOrGreater
  | less
  | lessOrEqual
  | greater
  | greaterOrEqual
deriving DecidableEq, Repr

namespace Operator

/-- An operator as SQL. -/
def text : Operator → String
  | equal => "="
  | notEqual => "!="
  | lessOrGreater => "<>"
  | less => "<"
  | lessOrEqual => "<="
  | greater => ">"
  | greaterOrEqual => ">="

/-- All operators. -/
def all : List Operator :=
  [equal, notEqual, lessOrGreater, less, lessOrEqual, greater, greaterOrEqual]

/-- The operator of a text. -/
def ofText? (text : String) : Option Operator := all.find? fun operator => operator.text = text

end Operator

/-- The right side of a comparison. -/
inductive Operand where
  | value (param : Param)
  | column (compiler : ColumnCompiler)

/-- What the compiler of a comparison keeps. -/
structure ComparisonState where
  left : ColumnCompiler
  operator : Operator
  right : Operand

namespace Operand

/-- The fragment of an operand. -/
def build (dialect : Dialect) : Step Operand Fragment
  | value param => (.ok (.ofParam param), value param)
  | column compiler =>
    match ColumnCompiler.build dialect compiler with
    | (result, compiler) => (result, column compiler)

end Operand

namespace ComparisonState

/-- The stages of a comparison. -/
def stages : Stages ComparisonState where
  compile dialect := fun state => Step.andThen
    (Step.on left (fun left state => { state with left }) (ColumnCompiler.build dialect))
    (fun left => Step.andThen
      (Step.on right (fun right state => { state with right }) (Operand.build dialect))
      fun right => Step.ofTemplate (Template.fill s!"? {state.operator.text} ?" [left, right]))
    state

end ComparisonState

/-- **A compiler of a comparison.** -/
abbrev ComparisonCompiler := Compiler ComparisonState

/-- The right side of a comparison, of which there must be exactly one. -/
def ComparisonFilter.operand (filter : ComparisonFilter) : Except Violation Operand :=
  match filter.value, filter.rightColumn with
  | some value, none => value.toParam.map .value
  | none, some column => column.nestedCompiler.map .column
  | _, _ => .error .comparisonOperand

/-- **A compiler for a comparison.** -/
def ComparisonFilter.compiler (filter : ComparisonFilter) : Except Violation ComparisonCompiler :=
  match Operator.ofText? filter.operator with
  | none => .error (.unsupportedOperator filter.operator)
  | some operator => do
    -- the right side is checked first
    let right ← filter.operand
    let left ← filter.column.toColumn.nestedCompiler
    .ok ⟨⟨left, operator, right⟩, .constructed⟩

/-! ## Conditions -/

/-- What the compiler of a filter keeps. -/
inductive FilterState where
  | comparison (compiler : ComparisonCompiler)
  | membership (column : ColumnCompiler) (values : List Param)
  | like (column : ColumnCompiler) (pattern : Param)
  | isNull (column : ColumnCompiler) (isNull : Bool)
  | and (operands : List (Compiler FilterState))
  | or (operands : List (Compiler FilterState))
  | not (operand : Compiler FilterState)

namespace FilterState

/-- Whether a filter is a group of conditions. -/
def isGroup : FilterState → Bool
  | and _ | or _ => true
  | _ => false

/-- A column with other fragments in the holes of a template. -/
def fillAfter (dialect : Dialect) (template : String) (others : List Fragment) :
    Step ColumnCompiler Fragment := do
  let fragment ← ColumnCompiler.build dialect
  Step.ofTemplate (Template.fill template (fragment :: others))

/-- A fragment as an operand of a group, in parentheses if it is a group
itself. -/
def inGroup (state : FilterState) (fragment : Fragment) : Fragment :=
  if state.isGroup then .parenthesized fragment else fragment

/-- The negation of a fragment. -/
def negation (fragment : Fragment) : Except CompileError Fragment :=
  (Template.fill "NOT (?)" [fragment]).mapError fun error => .misuse (.template error)

mutual

/-- The fragment of a filter. -/
def compile (dialect : Dialect) : Step FilterState Fragment
  | comparison compiler =>
    match Compiler.build ComparisonState.stages dialect compiler with
    | (result, compiler) => (result, comparison compiler)
  | membership column values =>
    match fillAfter dialect s!"? IN ({holeList values.length})" (values.map .ofParam) column with
    | (result, column) => (result, membership column values)
  | like column pattern =>
    match fillAfter dialect "? LIKE ?" [.ofParam pattern] column with
    | (result, column) => (result, like column pattern)
  | isNull column positive =>
    match fillAfter dialect (if positive then "? IS NULL" else "? IS NOT NULL") [] column with
    | (result, column) => (result, isNull column positive)
  | and operands =>
    match buildOperands dialect operands with
    | (result, operands) => (result.map (Fragment.joined " AND "), and operands)
  | or operands =>
    match buildOperands dialect operands with
    | (result, operands) => (result.map (Fragment.joined " OR "), or operands)
  | not operand =>
    match buildOperand dialect operand with
    | (result, operand) => (result.bind negation, not operand)

/-- The fragment of an operand, compiled unless it is built. An operand
needs no preparing. -/
def buildOperand (dialect : Dialect) : Step (Compiler FilterState) Fragment
  | ⟨state, .built fragment⟩ => (.ok fragment, ⟨state, .built fragment⟩)
  | ⟨state, _⟩ => Compiler.keep (compile dialect state)

/-- The fragments of the operands of a group, up to an error. -/
def buildOperands (dialect : Dialect) : Step (List (Compiler FilterState)) (List Fragment)
  | [] => (.ok [], [])
  | operand :: operands =>
    match buildOperand dialect operand with
    | (.error error, operand) => (.error error, operand :: operands)
    | (.ok fragment, operand) =>
      match buildOperands dialect operands with
      -- whether an operand is a group is read off its compiler
      | (result, operands) =>
        (result.map (inGroup operand.state fragment :: ·), operand :: operands)

end

/-- The stages of a filter. -/
def stages : Stages FilterState where
  compile := compile

end FilterState

/-- **A compiler of a filter.** -/
abbrev FilterCompiler := Compiler FilterState

namespace FilterCompiler

/-- Build a filter. -/
def build (dialect : Dialect) : Step FilterCompiler Fragment :=
  Compiler.build FilterState.stages dialect

end FilterCompiler

/-- Literals as parameters, in order. -/
def paramsOf : List Json → Except Violation (List Param)
  | [] => .ok []
  | value :: values => do
    let param ← value.toParam
    let params ← paramsOf values
    .ok (param :: params)

mutual

/-- **A compiler for a filter.** -/
def Filter.compiler : Filter → Except Violation FilterCompiler
  | .comparison filter => do
    let compiler ← filter.compiler
    .ok ⟨.comparison compiler, .constructed⟩
  | .membership filter => do
    if filter.values.isEmpty then .error (.emptyList "in")
    let column ← filter.column.toColumn.nestedCompiler
    let values ← paramsOf filter.values
    .ok ⟨.membership column values, .constructed⟩
  | .like filter => do
    let column ← filter.column.toColumn.nestedCompiler
    let pattern ← filter.pattern.toParam
    .ok ⟨.like column pattern, .constructed⟩
  | .isNull filter => do
    let column ← filter.column.toColumn.nestedCompiler
    .ok ⟨.isNull column filter.isNull, .constructed⟩
  | .and operands => do
    if operands.isEmpty then .error (.emptyList "and")
    let compilers ← Filter.compilers operands
    .ok ⟨.and compilers, .constructed⟩
  | .or operands => do
    if operands.isEmpty then .error (.emptyList "or")
    let compilers ← Filter.compilers operands
    .ok ⟨.or compilers, .constructed⟩
  | .not operand => do
    let compiler ← Filter.compiler operand
    .ok ⟨.not compiler, .constructed⟩

/-- Compilers for some filters, in order. -/
def Filter.compilers : List Filter → Except Violation (List FilterCompiler)
  | [] => .ok []
  | filter :: filters => do
    let compiler ← Filter.compiler filter
    let compilers ← Filter.compilers filters
    .ok (compiler :: compilers)

end

/-- A compiler for a filter that may be missing. -/
def Filter.compiler? : Option Filter → Except Violation (Option FilterCompiler)
  | none => .ok none
  | some filter => filter.compiler.map some

end QueryTree
