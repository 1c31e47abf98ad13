import QueryTree.Json.Printer
import QueryTree.Text.Shown
/-!
# Mismatches — why a JSON value is not the node it should be

A mismatch names what was found and what would have been accepted. Its
words are the same whether the value came from text or from memory; only
a text can say where.
-/

namespace QueryTree

/-- What a place in a node accepts. -/
inductive Expected where
  | text
  | boolean
  /-- A natural number of so many bits. -/
  | natural (bits : Nat)
  | list
  | record (name : String)
  /-- The name of one of several cases. -/
  | caseName
  /-- Nothing but `null`, beside the name of a case. -/
  | nothing
deriving DecidableEq, Repr

/-- The words for what is accepted. -/
def Expected.message : Expected → String
  | text => "a string"
  | boolean => "a boolean"
  | natural bits => s!"u{bits}"
  | list => "a sequence"
  | record name => s!"struct {name}"
  | caseName => "variant identifier"
  | nothing => "unit"

/-- The words for a value of the wrong kind. -/
def Json.foundMessage : Json → String
  | .null => "null"
  | .bool b => s!"boolean `{b}`"
  | .number (.int n) => s!"integer `{n}`"
  | .number (.float x) => s!"floating point `{x.text .json}`"
  | .string s => s!"string {Text.shown s}"
  | .array _ => "sequence"
  | .object _ => "map"

/-- Names between backquotes, with commas. -/
def quotedNames (names : List String) : String :=
  ", ".intercalate (names.map fun name => s!"`{name}`")

/-- The words for a choice of names. -/
def choiceMessage : List String → String
  | [one] => s!"`{one}`"
  | [first, second] => s!"`{first}` or `{second}`"
  | several => s!"one of {quotedNames several}"

/-- **Why a value is not the node it should be.** -/
inductive Mismatch where
  /-- A record lacks a field. -/
  | missingField (name : String)
  /-- A record has a key that is none of its fields. -/
  | unknownField (name : String) (fields : List String)
  /-- A record has a field twice. -/
  | duplicateField (name : String)
  /-- A value is of the wrong kind. -/
  | wrongKind (found : Json) (expected : Expected)
  /-- A value is of the right kind and out of range. -/
  | outOfRange (found : Json) (expected : Expected)
  /-- A list given for a record ends before a required field. -/
  | tooFewItems (count : Nat) (record : String) (fields : Nat)
  /-- A list given for a record goes on after its last field. -/
  | tooManyItems (count : Nat)
  /-- A name is none of the cases. -/
  | unknownCase (name : String) (cases : List String)
  /-- An object has none of the keys that select a variant of a node. -/
  | noVariant (node : String) (keys : List String) (found : List String)
  /-- A node with variants is not an object. -/
  | notAnObject (node : String) (keys : List String) (found : Json)
deriving Inhabited

/-- The words for a mismatch. -/
def Mismatch.message : Mismatch → String
  | missingField name => s!"missing field `{name}`"
  | unknownField name fields => s!"unknown field `{name}`, expected {choiceMessage fields}"
  | duplicateField name => s!"duplicate field `{name}`"
  | wrongKind found expected =>
    s!"invalid type: {found.foundMessage}, expected {expected.message}"
  | outOfRange found expected =>
    s!"invalid value: {found.foundMessage}, expected {expected.message}"
  | tooFewItems count record fields =>
    let elements := if fields = 1 then "element" else "elements"
    s!"invalid length {count}, expected struct {record} with {fields} {elements}"
  | tooManyItems count => s!"invalid length {count}, expected fewer elements in array"
  | unknownCase name cases => s!"unknown variant `{name}`, expected {choiceMessage cases}"
  | noVariant node keys found =>
    s!"{node} must have one of {quotedNames keys}, found fields [{quotedNames found}]"
  | notAnObject node keys found =>
    s!"{node} must be an object with one of {quotedNames keys}, got {found.compact}"

end QueryTree
