import QueryTree.Proofs.Members
/-!
# Places — one form for each way to write a node

A node can be written in several ways: a part that is missing may be
written as `null`, the parameters of a function may be left out, and some
nodes may be lists of their parts instead of objects. `Json.normalize`
brings a value into one form, place by place, and changes nothing else: it
keeps keys that it does not know, and it does not look into literals. What
may stand where is said by tables of the format alone; no decoder is asked.
-/

namespace QueryTree

/-- **A place in a node,** by what may stand there. -/
inductive Place where
  /-- A text, a number, a flag or a literal. -/
  | leaf
  /-- A column, or the name of one. -/
  | column
  | filter
  /-- A query, or the name of a table. -/
  | query
  | join
  /-- A join, or a list of joins. -/
  | joins
  | orderByElement
  | distinct
  | list (item : Place)
deriving DecidableEq, Repr

/-- **What may stand under a key.** -/
structure Entry where
  key : String
  place : Place
  /-- Whether `null` means that the part is missing. -/
  isNullable : Bool := false
  /-- What stands for the part where it is missing. -/
  default : Option Json := none

namespace Entry

/-- A part that is written as it is found. -/
def required (key : String) (place : Place) : Entry := { key, place }

/-- A part for which `null` says that it is missing. -/
def optional (key : String) (place : Place) : Entry := { key, place, isNullable := true }

/-- A part for which something stands where it is missing. -/
def defaulted (key : String) (place : Place) (value : Json) : Entry :=
  { key, place, default := some value }

/-- Whether a value says that the part is missing. -/
def drops (entry : Entry) : Json → Bool
  | .null => entry.isNullable
  | _ => false

end Entry

namespace Place

/-- The variants of a node with the keys that select them, and the parts of
each. -/
def variants : Place → List (String × List Entry)
  | column => [
    ("function", [.required "function" leaf, .defaulted "parameters" (list column) (.array []),
      .optional "alias" leaf]),
    ("column", [.required "column" leaf, .optional "type" leaf, .optional "alias" leaf]),
    ("value", [.required "value" leaf, .optional "type" leaf, .optional "alias" leaf])]
  | filter => [
    -- a value that a column is compared with may be `null`
    ("operator", [.required "column" column, .required "operator" leaf, .required "value" leaf,
      .optional "rightColumn" column]),
    ("in", [.required "column" column, .required "in" leaf]),
    ("like", [.required "column" column, .required "like" leaf]),
    ("isNull", [.required "column" column, .required "isNull" leaf]),
    ("and", [.required "and" (list filter)]),
    ("or", [.required "or" (list filter)]),
    ("not", [.required "not" filter])]
  | _ => []

/-- The parts of a node without variants, in their order. -/
def parts : Place → List Entry
  | query => [
    .optional "action" leaf, .optional "table" query, .optional "alias" leaf,
    .optional "columns" (list column), .optional "filter" filter, .optional "join" joins,
    .optional "group_by" (list column), .optional "having" filter,
    .optional "order_by" (list orderByElement), .optional "limit" leaf, .optional "offset" leaf,
    .optional "distinct" distinct]
  | join | joins => [
    .required "type" leaf, .optional "table" query, .optional "alias" leaf, .optional "on" filter]
  | orderByElement => [.required "column" column, .optional "direction" leaf]
  | distinct => [.required "columns" (list column), .optional "on" column]
  | _ => []

/-- The parts of a node, of which it is known which keys it has. -/
def entries (place : Place) (has : String → Bool) : List Entry :=
  match place.variants.find? fun variant => has variant.1 with
  | some variant => variant.2
  | none => place.parts

/-- What the items of a list are. -/
def item? : Place → Option Place
  | list item => some item
  | joins => some join
  | _ => none

end Place

namespace Json

/-- What stands for the parts that are missing among some members. -/
def defaults (entries : List Entry) (members : List (String × Json)) :
    List (String × Option Json) :=
  entries.map fun entry =>
    (entry.key, if (members.lookup entry.key).isSome then none else entry.default)

/-- Members with what stands for the missing ones. -/
def complete (entries : List Entry) (members : List (String × Json)) : List (String × Json) :=
  members ++ present (defaults entries members)

mutual

/-- **The one form of a value at a place.** -/
def normalize (place : Place) : Json → Json
  | object members =>
    let entries := place.entries fun key => (members.lookup key).isSome
    object (complete entries (normalizeMembers entries members))
  | array items =>
    match place.item?, place.parts with
    | some item, _ => array (normalizeItems item items)
    | none, [] => array items
    -- a node that is given as the list of its parts
    | none, entries => object (complete entries (normalizeParts entries items))
  | value => value

/-- Items in their one form. -/
def normalizeItems (item : Place) : List Json → List Json
  | [] => []
  | value :: items => normalize item value :: normalizeItems item items

/-- Members in their one form, those of unknown keys as they are. -/
def normalizeMembers (entries : List Entry) : List (String × Json) → List (String × Json)
  | [] => []
  | (key, value) :: members =>
    match entries.find? fun entry => entry.key = key with
    | none => (key, value) :: normalizeMembers entries members
    | some entry =>
      if entry.drops value then normalizeMembers entries members
      else (key, normalize entry.place value) :: normalizeMembers entries members

/-- The parts of a node in their order as members. -/
def normalizeParts : List Entry → List Json → List (String × Json)
  | _, [] => []
  | [], _ :: _ => []
  | entry :: entries, value :: values =>
    if entry.drops value then normalizeParts entries values
    else (entry.key, normalize entry.place value) :: normalizeParts entries values

end

/-! ## What becomes of a key -/

section Kept

variable {entries : List Entry} {members : List (String × Json)} {key : String}

/-- A part in its one form, unless the value says that it is missing. -/
def keep (entry : Entry) (value : Json) : Option Json :=
  if entry.drops value then none else some (normalize entry.place value)

/-- **What becomes of what is found for a part.** -/
def kept (entry : Entry) (found : Option Json) : Option Json :=
  (found.bind (keep entry)).or entry.default

/-- **What becomes of what is found under a key.** -/
def keptUnder (entries : List Entry) (get : String → Option Json) (key : String) : Option Json :=
  match entries.find? fun entry => entry.key = key with
  | none => get key
  | some entry => kept entry (get key)

theorem normalizeMembers_cons (k : String) (value : Json) (members : List (String × Json)) :
    normalizeMembers entries ((k, value) :: members) =
      match entries.find? fun entry => entry.key = k with
      | none => (k, value) :: normalizeMembers entries members
      | some entry =>
        ((keep entry value).map (k, ·)).toList ++ normalizeMembers entries members := by
  rw [normalizeMembers]
  cases entries.find? fun entry => entry.key = k with
  | none => rfl
  | some entry =>
    dsimp only [keep]
    split <;> rfl

theorem map_fst_normalizeMembers_sublist (members : List (String × Json)) :
    ((normalizeMembers entries members).map Prod.fst).Sublist (members.map Prod.fst) := by
  induction members with
  | nil => exact .refl _
  | cons member members ih =>
    obtain ⟨k, value⟩ := member
    rw [normalizeMembers_cons]
    cases entries.find? fun entry => entry.key = k with
    | none => exact ih.cons_cons _
    | some entry =>
      dsimp only
      cases keep entry value with
      | none => exact ih.cons _
      | some kept => exact ih.cons_cons _

theorem lookup_normalizeMembers (hnodup : (members.map Prod.fst).Nodup) :
    (normalizeMembers entries members).lookup key =
      match entries.find? fun entry => entry.key = key with
      | none => members.lookup key
      | some entry => (members.lookup key).bind (keep entry) := by
  induction members with
  | nil =>
    rw [normalizeMembers, List.lookup_nil]
    split <;> rfl
  | cons member members ih =>
    obtain ⟨k, value⟩ := member
    have hrest := ih (List.nodup_cons.mp hnodup).2
    rw [normalizeMembers_cons, lookup_cons_ite]
    by_cases hk : key = k
    · subst hk
      rw [lookup_tail hnodup] at hrest
      cases hentry : entries.find? fun entry => entry.key = key with
      | none => rw [if_pos rfl]; exact List.lookup_cons_self
      | some entry =>
        rw [hentry] at hrest
        rw [if_pos rfl]
        dsimp only at hrest ⊢
        rw [lookup_toList_append, if_pos rfl, hrest]
        exact Option.or_none
    · rw [if_neg hk, ← hrest]
      cases entries.find? fun entry => entry.key = k with
      | none => exact (lookup_cons_ite ..).trans (if_neg hk)
      | some entry => exact (lookup_toList_append ..).trans (if_neg hk)

theorem lookup_defaults :
    (defaults entries members).lookup key =
      (entries.find? fun entry => entry.key = key).map fun entry =>
        if (members.lookup key).isSome then none else entry.default := by
  induction entries with
  | nil => rfl
  | cons entry entries ih =>
    rw [defaults, List.map_cons, lookup_cons_ite, List.find?_cons]
    by_cases hk : key = entry.key
    · rw [if_pos hk, hk]
      simp
    · rw [if_neg hk, decide_eq_false fun heq => hk heq.symm]
      exact ih

theorem map_fst_defaults : (defaults entries members).map Prod.fst = entries.map Entry.key := by
  rw [defaults, List.map_map]
  rfl

theorem lookup_complete (hentries : (entries.map Entry.key).Nodup) :
    (complete entries members).lookup key =
      (members.lookup key).or
        ((entries.find? fun entry => entry.key = key).bind Entry.default) := by
  have hdefaults : ((defaults entries members).map Prod.fst).Nodup := by
    rwa [map_fst_defaults]
  rw [complete, List.lookup_append, lookup_present hdefaults, lookup_defaults]
  cases members.lookup key with
  | some value => rfl
  | none => cases entries.find? fun entry => entry.key = key <;> rfl

theorem nodup_complete (hentries : (entries.map Entry.key).Nodup)
    (hnodup : (members.map Prod.fst).Nodup) : ((complete entries members).map Prod.fst).Nodup := by
  have hdefaults : ((defaults entries members).map Prod.fst).Nodup := by
    rwa [map_fst_defaults]
  have hpresent := hdefaults.sublist (map_fst_present_sublist _)
  rw [complete, List.map_append]
  refine hnodup.append hpresent fun key hmembers hkey => ?_
  -- a key that is there has no default put in for it
  have hfound := isSome_lookup_iff.mpr hmembers
  rw [← isSome_lookup_iff, lookup_present hdefaults, lookup_defaults] at hkey
  simp only [hfound, if_true] at hkey
  cases hentry : entries.find? fun entry => entry.key = key <;> simp [hentry] at hkey

theorem nodup_complete_normalizeMembers (hentries : (entries.map Entry.key).Nodup)
    (hnodup : (members.map Prod.fst).Nodup) :
    ((complete entries (normalizeMembers entries members)).map Prod.fst).Nodup :=
  nodup_complete hentries (hnodup.sublist (map_fst_normalizeMembers_sublist members))

/-- **What is found in the one form of some members.** -/
theorem lookup_complete_normalizeMembers (hentries : (entries.map Entry.key).Nodup)
    (hnodup : (members.map Prod.fst).Nodup) :
    (complete entries (normalizeMembers entries members)).lookup key =
      keptUnder entries (members.lookup ·) key := by
  rw [lookup_complete hentries, lookup_normalizeMembers hnodup, keptUnder]
  cases entries.find? fun entry => entry.key = key with
  | none => exact Option.or_none
  | some entry => rfl

/-- Only the parts of keys that are there matter. -/
theorem normalizeMembers_congr {others : List Entry}
    (h : ∀ key ∈ members.map Prod.fst, entries.find? (fun entry => entry.key = key) =
      others.find? fun entry => entry.key = key) :
    normalizeMembers entries members = normalizeMembers others members := by
  induction members with
  | nil => rfl
  | cons member members ih =>
    obtain ⟨k, value⟩ := member
    obtain ⟨hk, hmembers⟩ := List.forall_mem_cons.mp h
    rw [normalizeMembers_cons, normalizeMembers_cons, hk, ih hmembers]

/-- The parts of a node in their order are members under their own keys. -/
theorem normalizeParts_eq (hentries : (entries.map Entry.key).Nodup) (values : List Json) :
    normalizeParts entries values =
      normalizeMembers entries ((entries.map Entry.key).zip values) := by
  induction entries generalizing values with
  | nil => cases values <;> rfl
  | cons entry entries ih =>
    cases values with
    | nil => rfl
    | cons value values =>
      obtain ⟨hentry, hentries⟩ := List.nodup_cons.mp hentries
      have hothers : normalizeMembers (entry :: entries) ((entries.map Entry.key).zip values) =
          normalizeMembers entries ((entries.map Entry.key).zip values) := by
        refine normalizeMembers_congr fun key hkey => ?_
        have hne : entry.key ≠ key := fun heq =>
          hentry (heq ▸ (map_fst_zip_sublist _ values).subset hkey)
        exact List.find?_cons_of_neg (by simpa using hne)
      rw [normalizeParts, ih hentries, List.map_cons, List.zip_cons_cons, normalizeMembers,
        List.find?_cons_of_pos (by simp), hothers]

end Kept

end Json

example : Json.normalize .joins (.array [.array [.string "left", .string "t", .null]]) =
    .array [.object [("type", .string "left"), ("table", .string "t")]] := by
  rfl

end QueryTree
