import QueryTree.Binary64.Text
import QueryTree.Json.Basic
/-!
# JSON text — values written compactly and over several lines

In a string only the quote, the backslash and the control characters of
ASCII are escaped; everything else, `/` and DEL and all characters
beyond ASCII among it, is written as it is.
-/

namespace QueryTree

/-- The text of a number. -/
def JsonNumber.text : JsonNumber → String
  | .int n => toString n
  | .float x => x.text .json

namespace Json

/-- One character inside a written string. -/
def escapedChar (c : Char) : String :=
  match c with
  | '"' => "\\\""
  | '\\' => "\\\\"
  | '\n' => "\\n"
  | '\r' => "\\r"
  | '\t' => "\\t"
  | c =>
    if c.toNat = 8 then "\\b"
    else if c.toNat = 12 then "\\f"
    else if c.toNat < 16 then "\\u000" ++ String.ofList (Nat.toDigits 16 c.toNat)
    else if c.toNat < 32 then "\\u00" ++ String.ofList (Nat.toDigits 16 c.toNat)
    else c.toString

/-- A string between quotes. -/
def stringText (s : String) : String :=
  "\"" ++ String.join (s.toList.map escapedChar) ++ "\""

mutual

/-- **The text of a value without any blanks.** -/
def compact : Json → String
  | null => "null"
  | bool b => if b then "true" else "false"
  | number n => n.text
  | string s => stringText s
  | array items => "[" ++ ",".intercalate (compactItems items) ++ "]"
  | object members => "\x7b" ++ ",".intercalate (compactMembers members) ++ "\x7d"

/-- The texts of some items. -/
def compactItems : List Json → List String
  | [] => []
  | item :: items => item.compact :: compactItems items

/-- The texts of some members. -/
def compactMembers : List (String × Json) → List String
  | [] => []
  | (key, value) :: members =>
    (stringText key ++ ":" ++ value.compact) :: compactMembers members

end

/-- Lines between brackets, each indented one step more than they are. -/
def block (indent : String) (opening : String) (lines : List String) (closing : String) : String :=
  if lines.isEmpty then opening ++ closing
  else
    let inner := "\n" ++ indent ++ "  "
    opening ++ inner ++ ("," ++ inner).intercalate lines ++ "\n" ++ indent ++ closing

mutual

/-- The text of a value over several lines, where `indent` stands before
its last line. -/
def prettyFrom (indent : String) : Json → String
  | array items => block indent "[" (prettyItems (indent ++ "  ") items) "]"
  | object members => block indent "\x7b" (prettyMembers (indent ++ "  ") members) "\x7d"
  | value => value.compact

/-- The texts of some items. -/
def prettyItems (indent : String) : List Json → List String
  | [] => []
  | item :: items => item.prettyFrom indent :: prettyItems indent items

/-- The texts of some members. -/
def prettyMembers (indent : String) : List (String × Json) → List String
  | [] => []
  | (key, value) :: members =>
    (stringText key ++ ": " ++ value.prettyFrom indent) :: prettyMembers indent members

end

/-- **The text of a value over several lines,** with two blanks for each
level. An empty list or object stays on its line. -/
def pretty (value : Json) : String := value.prettyFrom ""

end Json

end QueryTree
