import QueryTree.Compile.Error
import QueryTree.Json.Printer
/-!
# Names and literals — what may go into SQL

Names of tables, columns and aliases are quoted, so any name that is not
empty will do. Names of functions and types are written as they are, so
only letters, digits and a few marks may be in them. Literals become
parameters, which only what is neither a list nor an object can be. An
integer that does not fit 64 bits with a sign becomes the nearest
floating-point number.
-/

namespace QueryTree

/-- A name must not be empty. The context says where it was found. -/
def checkName (context name : String) : Except Violation Unit :=
  if name.isEmpty then .error (.emptyName context) else .ok ()

/-- An alias must not be empty, if there is one. -/
def checkAlias (context : String) : Option String → Except Violation Unit
  | none => .ok ()
  | some name => checkName context name

/-- Whether a text can name a function, such as `COUNT` or
`pg_catalog.lower`. -/
def isFunctionName (name : String) : Bool :=
  match name.toList with
  | [] => false
  | c :: rest =>
    (c.isAlpha || c = '_') && rest.all fun c => c.isAlphanum || c = '_' || c = '.'

/-- The name of a function must be one. -/
def checkFunctionName (name : String) : Except Violation Unit :=
  if isFunctionName name then .ok () else .error (.invalidFunctionName name)

/-- The marks that may be in the name of a type. -/
def castMarks : List Char := ['_', ' ', '(', ')', ',', '[', ']']

/-- Whether a text can name a type, such as `integer` or
`numeric(10, 2)[]`. -/
def isCastType (cast : String) : Bool :=
  match cast.toList with
  | [] => false
  | c :: rest => c.isAlpha && rest.all fun c => c.isAlphanum || castMarks.contains c

/-- The name of a type must be one, if there is one. -/
def checkCastType : Option String → Except Violation Unit
  | none => .ok ()
  | some cast => if isCastType cast then .ok () else .error (.invalidCastType cast)

/-- **The parameter for a literal.** -/
def Json.toParam : Json → Except Violation Param
  | .null => .ok .null
  | .bool b => .ok (.bool b)
  | .number (.int n) =>
    if Int64.minValue.toInt ≤ n ∧ n ≤ Int64.maxValue.toInt then .ok (.int (Int64.ofInt n))
    else .ok (.float (Binary64.ofInt n))
  | .number (.float x) => .ok (.float x)
  | .string s => .ok (.string s)
  | value => .error (.unsupportedValue value.compact)

end QueryTree
