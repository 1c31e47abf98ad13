import QueryTree.Binary64.Basic
/-!
# JSON values

A value is a tree. The members of an object are kept as a list, in the
order they were written where the value was read from text; the value an
object *denotes* has each key once, in ascending order, with the value
written last for it. `canonical` takes a tree to what it denotes.
-/

namespace QueryTree

/-- **A JSON number:** an integer, or a number written with a point or
an exponent or beyond the integers of 64 bits. -/
inductive JsonNumber where
  | int (n : Int)
  | float (x : Binary64)
deriving DecidableEq, Repr

/-- **A JSON value.** -/
inductive Json where
  | null
  | bool (b : Bool)
  | number (n : JsonNumber)
  | string (s : String)
  | array (items : List Json)
  | object (members : List (String × Json))
deriving Repr, Inhabited

namespace Json

/-! ## Nesting -/

mutual

/-- How many lists and objects are nested in a value, counted along the
deepest path. -/
def depth : Json → Nat
  | array items => depthItems items + 1
  | object members => depthMembers members + 1
  | _ => 0

/-- The depth of the deepest of some items. -/
def depthItems : List Json → Nat
  | [] => 0
  | item :: items => max item.depth (depthItems items)

/-- The depth of the deepest of the values of some members. -/
def depthMembers : List (String × Json) → Nat
  | [] => 0
  | (_, value) :: members => max value.depth (depthMembers members)

end

/-! ## What a value denotes -/

/-- Put a member among members in ascending order of their keys, in the
place of a member with the same key if there is one. -/
def insertMember (key : String) (value : Json) : List (String × Json) → List (String × Json)
  | [] => [(key, value)]
  | (k, v) :: members =>
    if key < k then (key, value) :: (k, v) :: members
    else if k < key then (k, v) :: insertMember key value members
    else (key, value) :: members

mutual

/-- **The value a tree denotes:** in every object each key once, in
ascending order, with the value written last for it. -/
def canonical : Json → Json
  | array items => array (canonicalItems items)
  | object members => object (canonicalMembers [] members)
  | value => value

/-- The values that some items denote. -/
def canonicalItems : List Json → List Json
  | [] => []
  | item :: items => item.canonical :: canonicalItems items

/-- Members put among members in ascending order, one after the other. -/
def canonicalMembers (sorted : List (String × Json)) :
    List (String × Json) → List (String × Json)
  | [] => sorted
  | (key, value) :: members =>
    canonicalMembers (insertMember key value.canonical sorted) members

end

/-! ## Members -/

/-- The value of a key in an object. -/
def get? (key : String) : Json → Option Json
  | object members => members.lookup key
  | _ => none

/-- An object of the members that are present. -/
def ofMembers (members : List (String × Option Json)) : Json :=
  object (members.filterMap fun (key, value) => value.map (key, ·))

end Json

end QueryTree
