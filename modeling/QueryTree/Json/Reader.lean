import QueryTree.Json.Scan
/-!
# Reading — lists, objects and whole values

A list or an object is read by going through its items or members with a
function that reads one of them and changes a state; reading a value and
reading a record differ in that function only. Each item and each member
consumes a character, so the length of the text bounds their number, and
brackets nest to a fixed depth, so both recursions are structural.

When the inside of a list or object is refused for its shape, reading
still moves to the end of the brackets as far as the text allows, and
the refusal is placed there.
-/

namespace QueryTree

/-- **A reader:** given how many brackets may still be opened, it reads a
value from the start of a text. -/
abbrev Reader (α : Type) := Nat → List Char → Scanned α

namespace Reader

variable {σ α : Type}

/-! ## Lists -/

/-- Go to the next item of a list: whether there is one, and the text
from it or from the closing bracket. -/
def nextItem (isFirst : Bool) (text : List Char) : Scanned Bool :=
  match Scan.skipBlank text with
  | [] => .error (.atNext .endInList [])
  | ']' :: rest => .ok (false, ']' :: rest)
  | c :: rest =>
    if isFirst then .ok (true, c :: rest)
    else if c = ',' then
      match Scan.skipBlank rest with
      | [] => .error (.atNext .endInValue [])
      -- a comma must lead to another item
      | ']' :: rest => .error (.atNext .trailingComma (']' :: rest))
      | rest => .ok (true, rest)
    else .error (.atNext .expectedListEnd (c :: rest))

/-- Read the items of a list up to its closing bracket, `fuel` of them at
most. -/
def items (item : σ → List Char → Scanned σ) : Nat → Bool → σ → List Char → Scanned σ
  | 0, _, _, text => .error (.before .nestedTooDeep text)
  | fuel + 1, isFirst, state, text =>
    (nextItem isFirst text).andThen fun more rest =>
      if more then (item state rest).andThen fun state rest => items item fuel false state rest
      else .ok (state, rest)

/-- The closing bracket of a list. -/
def endList (text : List Char) : Except Fault (List Char) :=
  match Scan.skipBlank text with
  | [] => .error (.atNext .endInList [])
  | ']' :: rest => .ok rest
  | ',' :: rest =>
    -- there are items left that nobody asked for, or there is a comma too many
    match Scan.skipBlank rest with
    | ']' :: rest => .error (.atNext .trailingComma (']' :: rest))
    | rest => .error (.atNext .trailingCharacters rest)
  | rest => .error (.atNext .trailingCharacters rest)

/-- Where a list ends that was refused before its end: after the closing
bracket if that is next, else after a comma and the blanks behind it. -/
def leaveList (text : List Char) : List Char :=
  match Scan.skipBlank text with
  | ']' :: rest => rest
  | ',' :: rest => Scan.skipBlank rest
  | rest => rest

/-- Leave a list whose inside has been read or refused. -/
def closeList (inside : Scanned α) : Scanned α :=
  match inside with
  | .ok (a, rest) => (endList rest).map (a, ·)
  | .error fault => .error (fault.place leaveList)

/-! ## Objects -/

/-- Go to the next member of an object: whether there is one, and the
text from its key or from the closing bracket. -/
def nextMember (isFirst : Bool) (text : List Char) : Scanned Bool :=
  match Scan.skipBlank text with
  | [] => .error (.atNext .endInObject [])
  | '}' :: rest => .ok (false, '}' :: rest)
  | c :: rest =>
    if isFirst then
      if c = '"' then .ok (true, c :: rest) else .error (.atNext .expectedKey (c :: rest))
    else if c = ',' then
      match Scan.skipBlank rest with
      | [] => .error (.atNext .endInValue [])
      | '"' :: rest => .ok (true, '"' :: rest)
      | '}' :: rest => .error (.atNext .trailingComma ('}' :: rest))
      | rest => .error (.atNext .expectedKey rest)
    else .error (.atNext .expectedObjectEnd (c :: rest))

/-- Read the members of an object up to its closing bracket, `fuel` of
them at most. `member` is given the key and the text after it. -/
def members (member : σ → String → List Char → Scanned σ) :
    Nat → Bool → σ → List Char → Scanned σ
  | 0, _, _, text => .error (.before .nestedTooDeep text)
  | fuel + 1, isFirst, state, text =>
    (nextMember isFirst text).andThen fun more rest =>
      if more then
        (Scan.string rest.tail).andThen fun key rest =>
          (member state key rest).andThen fun state rest =>
            members member fuel false state rest
      else .ok (state, rest)

/-- The colon between a key and its value. -/
def colon (text : List Char) : Except Fault (List Char) :=
  match Scan.skipBlank text with
  | [] => .error (.atNext .endInObject [])
  | ':' :: rest => .ok rest
  | rest => .error (.atNext .expectedColon rest)

/-- The closing bracket of an object. -/
def endObject (text : List Char) : Except Fault (List Char) :=
  match Scan.skipBlank text with
  | [] => .error (.atNext .endInObject [])
  | '}' :: rest => .ok rest
  | ',' :: rest => .error (.atNext .trailingComma (',' :: rest))
  | rest => .error (.atNext .trailingCharacters rest)

/-- Where an object ends that was refused before its end: after the
closing bracket if that is next. -/
def leaveObject (text : List Char) : List Char :=
  match Scan.skipBlank text with
  | '}' :: rest => rest
  | rest => rest

/-- Leave an object whose inside has been read or refused. -/
def closeObject (inside : Scanned α) : Scanned α :=
  match inside with
  | .ok (a, rest) => (endObject rest).map (a, ·)
  | .error fault => .error (fault.place leaveObject)

/-! ## Brackets -/

/-- Read what an opening bracket starts, where the bracket is next, with
one bracket less to open inside. -/
def bracket (inside : Nat → List Char → Scanned α) (depth : Nat) (text : List Char) :
    Scanned α :=
  match depth with
  | 0 => .error (.atNext .nestedTooDeep text)
  | depth + 1 => inside depth text.tail

/-! ## Values -/

/-- One more item of a list of values. -/
def valueItem (value : List Char → Scanned Json) (read : List Json) (text : List Char) :
    Scanned (List Json) :=
  (value text).map (· :: read)

/-- One more member of an object of values. -/
def valueMember (value : List Char → Scanned Json) (read : List (String × Json)) (key : String)
    (text : List Char) : Scanned (List (String × Json)) :=
  match colon text with
  | .ok rest => (value rest).map fun v => (key, v) :: read
  | .error fault => .error fault

/-- The list or object that a bracket has opened, with its values read by
`value`. -/
def valuesInside (value : List Char → Scanned Json) (opening : Char) (text : List Char) :
    Scanned Json :=
  if opening = '[' then
    closeList ((items (valueItem value) (text.length + 1) true [] text).map
      fun read => .array read.reverse)
  else
    closeObject ((members (valueMember value) (text.length + 1) true [] text).map
      fun read => .object read.reverse)

/-- A value whose lists and objects are read by `inside`, which is given
the bracket and the text after it. -/
def valueWith (inside : Char → List Char → Scanned Json) (text : List Char) : Scanned Json :=
  match Scan.skipBlank text with
  | [] => .error (.atNext .endInValue [])
  | c :: rest =>
    if c = '[' ∨ c = '{' then inside c rest else Scan.scalar (c :: rest)

/-- **Any value,** with the members of its objects as they are written. -/
def value : Reader Json
  | 0 => valueWith fun opening rest => .error (.atNext .nestedTooDeep (opening :: rest))
  | depth + 1 => valueWith (valuesInside (value depth))

/-! ## Whole texts -/

/-- How many brackets a text may open inside each other. -/
def depthLimit : Nat := 127

/-- **Read a whole text:** one value, and nothing but blanks after it. -/
def readText (reader : List Char → Scanned α) (text : String) : Except Refusal α :=
  let whole := text.toList
  match reader whole with
  | .error fault => .error (.ofFault whole fault)
  | .ok (a, rest) =>
    match Scan.skipBlank rest with
    | [] => .ok a
    | rest => .error (.ofFault whole (.atNext .trailingCharacters rest))

end Reader

end QueryTree
