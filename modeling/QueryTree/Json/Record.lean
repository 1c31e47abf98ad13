import QueryTree.Json.Decoder
/-!
# Records — structures decoded by a table of their fields

A record is described once, by its fields in their order. It is an object
with a key for each field, of which those that are not required may be
missing, or a list of the fields' values in order, of which those that
are not required may be missing at the end. Decoding starts from a blank
record and puts in what it finds, field by field; a key that is no field
is refused, and from a text a key that comes twice too.

A blank is never visible: a required field that was not found is refused
at the end, the first one in the order of the fields.
-/

namespace QueryTree

variable {α β σ : Type}

/-- **One field of a record:** how to decode its value and what to do with
the record then. -/
structure Field (σ : Type) where
  name : String
  isRequired : Bool
  update : Decoder (σ → σ)

/-- **A structure described by its fields.** -/
structure Record (σ : Type) where
  name : String
  blank : σ
  fields : List (Field σ)

namespace Field

/-- A field that must be there. -/
def required (name : String) (decoder : Decoder β) (set : β → σ → σ) : Field σ :=
  ⟨name, true, decoder.map set⟩

/-- A field that may be missing or `null`. -/
def optional (name : String) (decoder : Decoder β) (set : Option β → σ → σ) : Field σ :=
  ⟨name, false, decoder.nullable.map set⟩

/-- A field that may be missing and, if it is there, is not `null` for
want of a value. -/
def defaulted (name : String) (decoder : Decoder β) (set : β → σ → σ) : Field σ :=
  ⟨name, false, decoder.map set⟩

end Field

namespace Record

/-- The names of the fields. -/
def names (record : Record σ) : List String := record.fields.map Field.name

/-- The field of a name. -/
def field? (record : Record σ) (name : String) : Option (Field σ) :=
  record.fields.find? fun field => field.name = name

/-- The first required field that is not among some names. -/
def missing? (record : Record σ) (seen : List String) : Option String :=
  (record.fields.find? fun field => field.isRequired && !seen.contains field.name).map Field.name

/-! ## From memory -/

/-- Put the members of an object into a record, in their order. -/
def membersOfJson (record : Record σ) : List (String × Json) → σ → Except Mismatch σ
  | [], state => .ok state
  | (key, value) :: members, state =>
    match record.field? key with
    | none => .error (.unknownField key record.names)
    | some field =>
      match field.update.ofJson value with
      | .error reason => .error reason
      | .ok set => record.membersOfJson members (set state)

/-- Put the items of a list into a record, one for each field. -/
def itemsOfJson (record : Record σ) (count : Nat) : List (Field σ) → List Json → σ →
    Except Mismatch σ
  | [], [], state => .ok state
  | [], _ :: _, _ => .error (.tooManyItems count)
  | field :: fields, [], state =>
    -- the fields before this one are those that had an item
    if field.isRequired then
      .error (.tooFewItems (record.fields.length - (fields.length + 1)) record.name
        record.fields.length)
    else record.itemsOfJson count fields [] state
  | field :: fields, value :: values, state =>
    match field.update.ofJson value with
    | .error reason => .error reason
    | .ok set => record.itemsOfJson count fields values (set state)

/-- **A record from a value in memory.** -/
def ofJson (record : Record σ) : Json → Except Mismatch σ
  | .object members =>
    match record.membersOfJson members record.blank with
    | .error reason => .error reason
    | .ok state =>
      match record.missing? (members.map Prod.fst) with
      | some name => .error (.missingField name)
      | none => .ok state
  | .array items => record.itemsOfJson items.length record.fields items record.blank
  | found => .error (.wrongKind found (.record record.name))

/-! ## From text -/

/-- Read one member into a record. The state has the names of the fields
that were read. -/
def readMember (record : Record σ) (depth : Nat) (state : σ × List String) (key : String)
    (text : List Char) : Scanned (σ × List String) :=
  match record.field? key with
  | none => .error (.unplaced (.unknownField key record.names) text)
  | some field =>
    -- in memory a key comes once, so this is asked of a text alone
    if state.2.contains key then .error (.unplaced (.duplicateField key) text)
    else
      match Reader.colon text with
      | .error fault => .error fault
      | .ok rest => (field.update.read depth rest).map fun set => (set state.1, key :: state.2)

/-- Read the inside of an object as a record. -/
def readMembers (record : Record σ) (depth : Nat) (text : List Char) : Scanned σ :=
  (Reader.members (record.readMember depth) (text.length + 1) true (record.blank, []) text).andThen
    fun (state, seen) rest =>
      match record.missing? seen with
      | some name => .error (.unplaced (.missingField name) rest)
      | none => .ok (state, rest)

/-- Read the inside of a list as a record, one item for each field. -/
def readItems (record : Record σ) (depth : Nat) : List (Field σ) → Bool → σ → List Char →
    Scanned σ
  | [], _, state, text => .ok (state, text)
  | field :: fields, isFirst, state, text =>
    (Reader.nextItem isFirst text).andThen fun more rest =>
      if more then
        (field.update.read depth rest).andThen fun set rest =>
          record.readItems depth fields false (set state) rest
      else if field.isRequired then
        .error (.unplaced (.tooFewItems (record.fields.length - (fields.length + 1)) record.name
          record.fields.length) rest)
      else record.readItems depth fields isFirst state rest

/-- **A record from a text.** -/
def read (record : Record σ) : Reader σ := fun depth text =>
  match Scan.skipBlank text with
  | [] => .error (.atNext .endInValue [])
  | '[' :: rest =>
    Reader.bracket (fun depth rest =>
      Reader.closeList (record.readItems depth record.fields true record.blank rest))
      depth ('[' :: rest)
  | '{' :: rest =>
    Reader.bracket (fun depth rest => Reader.closeObject (record.readMembers depth rest))
      depth ('{' :: rest)
  | rest =>
    (Scan.scalar rest).andThen fun found rest =>
      .error (.misfit (.wrongKind found (.record record.name)) rest)

/-- The decoder of a record. -/
def decoder (record : Record σ) : Decoder σ := ⟨record.ofJson, record.read⟩

end Record

end QueryTree
