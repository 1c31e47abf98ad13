import QueryTree.Json.Reader
/-!
# Decoders — typed values from JSON

A decoder takes a value of a type out of a JSON value in memory, or reads
it straight from a text. Which of the two is used shows only in the
errors: their order, and whether they have a position. A decoder that is
*buffered* reads any value from a text first and then decodes that, so
whatever it refuses has no place of its own.

A node that contains nodes of its own kind is decoded by `nested`, which
ties the knot over one layer of the node.
-/

namespace QueryTree

/-- **How to decode one type.** -/
structure Decoder (α : Type) where
  /-- Decode a value in memory. -/
  ofJson : Json → Except Mismatch α
  /-- Read a value from a text. -/
  read : Reader α

namespace Decoder

variable {α β : Type}

/-- Change what a decoder gives. -/
def map (f : α → β) (decoder : Decoder α) : Decoder β where
  ofJson value := (decoder.ofJson value).map f
  read depth text := (decoder.read depth text).map f

/-! ## Scalars -/

/-- A decoder for values that are neither lists nor objects. From a text,
a list or object is refused before its bracket, and anything else after
it has been read. -/
def scalar (ofJson : Json → Except Mismatch α) : Decoder α where
  ofJson
  read _ text :=
    let decode (value : Json) (rest : List Char) : Scanned α :=
      match ofJson value with
      | .ok a => .ok (a, rest)
      | .error reason => .error (.misfit reason rest)
    match Scan.skipBlank text with
    | [] => .error (.atNext .endInValue [])
    | '[' :: rest => decode (.array []) ('[' :: rest)
    | '{' :: rest => decode (.object []) ('{' :: rest)
    | rest => (Scan.scalar rest).andThen decode

/-- A string. -/
def string : Decoder String :=
  scalar fun
    | .string s => .ok s
    | found => .error (.wrongKind found .text)

/-- A boolean. -/
def bool : Decoder Bool :=
  scalar fun
    | .bool b => .ok b
    | found => .error (.wrongKind found .boolean)

/-- A natural number of so many bits. -/
def natural (bits : Nat) : Decoder Nat :=
  scalar fun
    | .number (.int n) =>
      if 0 ≤ n ∧ n < Int.pow 2 bits then .ok n.toNat
      else .error (.outOfRange (.number (.int n)) (.natural bits))
    | found => .error (.wrongKind found (.natural bits))

/-- A natural number of 64 bits. -/
def uint64 : Decoder UInt64 := (natural 64).map UInt64.ofNat

/-- A natural number of 32 bits. -/
def uint32 : Decoder UInt32 := (natural 32).map UInt32.ofNat

/-! ## Values in memory -/

/-- A decoder that reads any value from a text and then decodes what it
denotes. -/
def buffered (ofJson : Json → Except Mismatch α) : Decoder α where
  ofJson
  read depth text :=
    (Reader.value depth text).andThen fun value rest =>
      match ofJson value.canonical with
      | .ok a => .ok (a, rest)
      | .error reason => .error (.unplaced reason rest)

/-- Any value. -/
def json : Decoder Json := buffered .ok

/-! ## Composites -/

/-- `null`, or a value. -/
def nullable (decoder : Decoder α) : Decoder (Option α) where
  ofJson
    | .null => .ok none
    | value => (decoder.ofJson value).map some
  read depth text :=
    match Scan.skipBlank text with
    | 'n' :: rest => Scan.word none ['u', 'l', 'l'] rest
    | rest => (decoder.read depth rest).map some

/-- Items in memory, in order. -/
def itemsOfJson (ofJson : Json → Except Mismatch α) : List Json → Except Mismatch (List α)
  | [] => .ok []
  | item :: items =>
    match ofJson item with
    | .error reason => .error reason
    | .ok a => (itemsOfJson ofJson items).map (a :: ·)

/-- A list. -/
def list (decoder : Decoder α) : Decoder (List α) where
  ofJson
    | .array items => itemsOfJson decoder.ofJson items
    | found => .error (.wrongKind found .list)
  read depth text :=
    match Scan.skipBlank text with
    | [] => .error (.atNext .endInValue [])
    | '[' :: rest =>
      Reader.bracket (fun depth rest =>
        let item (read : List α) (text : List Char) : Scanned (List α) :=
          (decoder.read depth text).map (· :: read)
        Reader.closeList ((Reader.items item (rest.length + 1) true [] rest).map List.reverse))
        depth ('[' :: rest)
    | '{' :: rest => .error (.misfit (.wrongKind (.object []) .list) ('{' :: rest))
    | rest =>
      (Scan.scalar rest).andThen fun found rest =>
        .error (.misfit (.wrongKind found .list) rest)

/-! ## Variants and nesting -/

/-- A node of which the first of several keys that an object has selects
the variant. -/
def byKey (node : String) (variants : List (String × (Json → Except Mismatch α))) (value : Json) :
    Except Mismatch α :=
  let keys := variants.map Prod.fst
  match value with
  | .object members =>
    match variants.find? fun (key, _) => (members.lookup key).isSome with
    | some (_, ofJson) => ofJson value
    | none => .error (.noVariant node keys (members.map Prod.fst))
  | found => .error (.notAnObject node keys found)

/-- A layer applied so many times, over a decoder that decodes nothing. -/
def nestedTo (layer : (Json → Except Mismatch α) → Json → Except Mismatch α) :
    Nat → Json → Except Mismatch α
  | 0 => fun _ => .error default
  | fuel + 1 => layer (nestedTo layer fuel)

/-- **A node that contains nodes of its own kind,** from one layer of it.
A layer decodes what is inside its own brackets only, so as many layers
as the value is deep never reach the bottom. -/
def nested (layer : (Json → Except Mismatch α) → Json → Except Mismatch α) (value : Json) :
    Except Mismatch α :=
  nestedTo layer (value.depth + 1) value

/-! ## Running a decoder -/

/-- **Decode a value in memory.** -/
def decode (decoder : Decoder α) (value : Json) : Except Refusal α :=
  (decoder.ofJson value).mapError .ofMismatch

/-- **Decode a whole text.** -/
def decodeText (decoder : Decoder α) (text : String) : Except Refusal α :=
  Reader.readText (decoder.read Reader.depthLimit) text

end Decoder

end QueryTree
