import QueryTree.Json.Decoder
/-!
# Cases — one of several names

A value that is one of several named cases is written as the name of the
case. An object whose only key is that name, with nothing as its value,
means the same.
-/

namespace QueryTree

namespace Decoder

variable {α : Type}

/-- The case of a name. -/
def caseOf (cases : List (String × α)) (name : String) : Except Mismatch α :=
  match cases.lookup name with
  | some a => .ok a
  | none => .error (.unknownCase name (cases.map Prod.fst))

/-- The name of a case. -/
def caseName (cases : List (String × α)) : Decoder α :=
  scalar fun
    | .string name => caseOf cases name
    | found => .error (.wrongKind found .caseName)

/-- Nothing but `null`. -/
def nothing : Decoder Unit :=
  scalar fun
    | .null => .ok ()
    | found => .error (.wrongKind found .nothing)

/-- The name of a case and nothing as its value, up to the closing bracket
of the object that they are alone in. -/
def readCaseMember (cases : List (String × α)) (depth : Nat) (text : List Char) : Scanned α :=
  ((caseName cases).read depth text).andThen fun a rest =>
    match Reader.colon rest with
    | .error fault => .error fault
    | .ok rest =>
      (nothing.read depth rest).andThen fun _ rest =>
        match Scan.skipBlank rest with
        | '}' :: rest => .ok (a, rest)
        | [] => .error (.before .endInObject [])
        | rest => .error (.before .expectedValue rest)

/-- The inside of an object whose only key is the name of a case. An
object without a key lacks a value; any other start is a key that is no
text. -/
def readCaseObject (cases : List (String × α)) (depth : Nat) (text : List Char) : Scanned α :=
  match Scan.skipBlank text with
  | [] => .error (.before .endInObject [])
  | '"' :: rest => readCaseMember cases depth ('"' :: rest)
  | '}' :: rest => .error (.atNext .expectedValue ('}' :: rest))
  | rest => .error (.atNext .expectedKey rest)

/-- **One of several cases,** by its name or by an object with that key. -/
def oneOf (cases : List (String × α)) : Decoder α where
  ofJson
    | .object [(name, .null)] => caseOf cases name
    | value => (caseName cases).ofJson value
  read depth text :=
    match Scan.skipBlank text with
    | [] => .error (.atNext .endInValue [])
    | '"' :: rest => (caseName cases).read depth ('"' :: rest)
    | '{' :: rest => Reader.bracket (readCaseObject cases) depth ('{' :: rest)
    | rest => .error (.atNext .expectedValue rest)

end Decoder

end QueryTree
