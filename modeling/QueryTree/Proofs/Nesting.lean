import QueryTree.Node.Decode
import QueryTree.Proofs.Members
import Mathlib.Data.List.Forall2
/-!
# Nesting — a node is one layer over nodes of its own kind

`Decoder.nested` applies a layer as many times as the value is deep. A
layer looks only at values inside its own brackets (`Decoder.Local`), so
the number does not matter and the decoder is its layer over itself
(`Decoder.nested_eq`). This is shown for columns, filters and queries,
whose decoders are unfolded by these equations from here on.
-/

namespace QueryTree

variable {α β σ : Type}

namespace Decoder

/-- **A layer that decodes what is inside its own brackets only.** -/
def Local (layer : (Json → Except Mismatch α) → Json → Except Mismatch α) : Prop :=
  ∀ first second value, (∀ inner, inner.depth < value.depth → first inner = second inner) →
    layer first value = layer second value

variable {layer : (Json → Except Mismatch α) → Json → Except Mismatch α}

/-- As soon as there are more layers than a value is deep, their number does
not matter. -/
theorem nestedTo_eq (h : Local layer) {fuel other : Nat} {value : Json} (hfuel : value.depth < fuel)
    (hother : value.depth < other) : nestedTo layer fuel value = nestedTo layer other value := by
  induction fuel generalizing other value with
  | zero => omega
  | succ fuel ih =>
    obtain ⟨other, rfl⟩ : ∃ n, other = n + 1 := ⟨other - 1, by omega⟩
    refine h _ _ value fun inner hinner => ?_
    exact ih (by omega) (by omega)

/-- **A node is one layer over nodes of its own kind.** -/
theorem nested_eq (h : Local layer) (value : Json) :
    nested layer value = layer (nested layer) value :=
  h _ _ value fun inner hinner => nestedTo_eq h (by omega) (by omega)

end Decoder

/-! ## What decodes the same -/

/-- **Two decoders agree on values that are less deep.** -/
def AgreeBelow (bound : Nat) (first second : Json → Except Mismatch α) : Prop :=
  ∀ value, value.depth < bound → first value = second value

section Agree

variable {bound : Nat} {first second : Decoder α}

theorem AgreeBelow.map {f : α → β} (h : AgreeBelow bound first.ofJson second.ofJson) :
    AgreeBelow bound (first.map f).ofJson (second.map f).ofJson :=
  fun value hvalue => congrArg (Except.map f) (h value hvalue)

theorem AgreeBelow.nullable (h : AgreeBelow bound first.ofJson second.ofJson) :
    AgreeBelow bound first.nullable.ofJson second.nullable.ofJson := by
  intro value hvalue
  cases value with
  | null => rfl
  | _ => exact congrArg (Except.map some) (h _ hvalue)

theorem Decoder.itemsOfJson_congr {first second : Json → Except Mismatch α} {items : List Json}
    (h : ∀ item ∈ items, first item = second item) :
    itemsOfJson first items = itemsOfJson second items := by
  induction items with
  | nil => rfl
  | cons item items ih =>
    obtain ⟨hitem, hitems⟩ := List.forall_mem_cons.mp h
    rw [itemsOfJson, itemsOfJson, hitem, ih hitems]

theorem AgreeBelow.items {first second : Json → Except Mismatch α}
    (h : AgreeBelow bound first second) {items : List Json}
    (hitems : (Json.array items).depth ≤ bound) :
    Decoder.itemsOfJson first items = Decoder.itemsOfJson second items :=
  Decoder.itemsOfJson_congr fun item hitem =>
    h item (Nat.lt_of_lt_of_le (Json.depth_lt_of_mem hitem) hitems)

theorem AgreeBelow.list (h : AgreeBelow bound first.ofJson second.ofJson) :
    AgreeBelow bound first.list.ofJson second.list.ofJson := by
  intro value hvalue
  cases value with
  | array items => exact h.items (Nat.le_of_lt hvalue)
  | _ => rfl

/-- What two lists of related things are mapped to, where related things are
mapped to the same. -/
theorem map_eq_of_forall₂ {γ : Type} {R : α → β → Prop} {f : α → γ} {g : β → γ}
    (hf : ∀ a b, R a b → f a = g b) {as : List α} {bs : List β} (h : List.Forall₂ R as bs) :
    as.map f = bs.map g := by
  rw [← List.forall₂_eq_eq_eq]
  exact List.rel_map (fun a b hab => hf a b hab) h

/-- The first of some things that pass a test, and the first of others that
pass the same tests. -/
theorem find?_of_forall₂ {R : α → β → Prop} {p : α → Bool} {q : β → Bool}
    (hp : ∀ a b, R a b → p a = q b) {as : List α} {bs : List β} (h : List.Forall₂ R as bs) :
    as.find? p = none ∧ bs.find? q = none ∨
      ∃ a b, R a b ∧ as.find? p = some a ∧ bs.find? q = some b := by
  induction h with
  | nil => exact .inl ⟨rfl, rfl⟩
  | @cons a b _ _ hab _ ih =>
    rw [List.find?_cons, List.find?_cons, hp a b hab]
    cases q b with
    | true => exact .inr ⟨a, b, hab, rfl, rfl⟩
    | false => exact ih

/-- What is decoded of the first of several keys that an object has. -/
theorem Decoder.byKey_congr {node : String} {value : Json}
    {variants others : List (String × (Json → Except Mismatch α))}
    (h : List.Forall₂ (fun one other => one.1 = other.1 ∧ one.2 value = other.2 value)
      variants others) :
    byKey node variants value = byKey node others value := by
  have hkeys : variants.map Prod.fst = others.map Prod.fst :=
    map_eq_of_forall₂ (fun _ _ hone => hone.1) h
  unfold byKey
  rw [hkeys]
  cases value with
  | object members =>
    have hsame : ∀ one other : String × (Json → Except Mismatch α),
        one.1 = other.1 ∧ one.2 (.object members) = other.2 (.object members) →
          (members.lookup one.1).isSome = (members.lookup other.1).isSome := by
      rintro one other ⟨hkey, -⟩
      rw [hkey]
    dsimp only
    obtain ⟨hone, hother⟩ | ⟨one, other, ⟨-, hvalue⟩, hone, hother⟩ := find?_of_forall₂ hsame h
    · rw [hone, hother]
    · rw [hone, hother]
      exact hvalue
  | _ => rfl

end Agree

/-! ## Records -/

/-- **Two fields that agree on values that are less deep.** -/
structure Field.AgreeBelow (bound : Nat) (first second : Field σ) : Prop where
  name : first.name = second.name
  isRequired : first.isRequired = second.isRequired
  update : QueryTree.AgreeBelow bound first.update.ofJson second.update.ofJson

theorem Field.agreeBelow_refl (bound : Nat) (field : Field σ) : field.AgreeBelow bound field :=
  ⟨rfl, rfl, fun _ _ => rfl⟩

/-- **Two records that agree on values that are less deep.** -/
structure Record.AgreeBelow (bound : Nat) (first second : Record σ) : Prop where
  name : first.name = second.name
  blank : first.blank = second.blank
  fields : List.Forall₂ (Field.AgreeBelow bound) first.fields second.fields

namespace Record

variable {bound : Nat} {first second : Record σ}

theorem AgreeBelow.names (h : first.AgreeBelow bound second) : first.names = second.names :=
  map_eq_of_forall₂ (fun _ _ hone => hone.name) h.fields

theorem AgreeBelow.missing? (h : first.AgreeBelow bound second) (seen : List String) :
    first.missing? seen = second.missing? seen := by
  have hsame : ∀ one other : Field σ, one.AgreeBelow bound other →
      (one.isRequired && !seen.contains one.name) =
        (other.isRequired && !seen.contains other.name) :=
    fun _ _ hone => by rw [hone.isRequired, hone.name]
  unfold Record.missing?
  obtain ⟨hone, hother⟩ | ⟨one, other, hfield, hone, hother⟩ := find?_of_forall₂ hsame h.fields
  · rw [hone, hother]
  · rw [hone, hother]
    exact congrArg some hfield.name

theorem AgreeBelow.membersOfJson (h : first.AgreeBelow bound second)
    {members : List (String × Json)} (hmembers : ∀ member ∈ members, member.2.depth < bound)
    (state : σ) : first.membersOfJson members state = second.membersOfJson members state := by
  induction members generalizing state with
  | nil => rfl
  | cons member members ih =>
    obtain ⟨key, value⟩ := member
    obtain ⟨hvalue, hmembers⟩ := List.forall_mem_cons.mp hmembers
    have hsame : ∀ one other : Field σ, one.AgreeBelow bound other →
        decide (one.name = key) = decide (other.name = key) := fun _ _ hone => by rw [hone.name]
    rw [Record.membersOfJson, Record.membersOfJson, h.names, Record.field?, Record.field?]
    obtain ⟨hone, hother⟩ | ⟨one, other, hfield, hone, hother⟩ := find?_of_forall₂ hsame h.fields
    · rw [hone, hother]
    · rw [hone, hother]
      dsimp only
      rw [hfield.update value hvalue]
      split
      · rfl
      · exact ih hmembers _

theorem AgreeBelow.itemsOfJson (h : first.AgreeBelow bound second) {count : Nat}
    {fields others : List (Field σ)} (hfields : List.Forall₂ (Field.AgreeBelow bound) fields others)
    {items : List Json} (hitems : ∀ item ∈ items, item.depth < bound) (state : σ) :
    first.itemsOfJson count fields items state = second.itemsOfJson count others items state := by
  induction hfields generalizing items state with
  | nil => cases items <;> rfl
  | cons hone hrest ih =>
    cases items with
    | nil =>
      rw [Record.itemsOfJson, Record.itemsOfJson, hone.isRequired, hrest.length_eq,
        h.fields.length_eq, h.name, ih hitems]
    | cons item items =>
      obtain ⟨hitem, hitems⟩ := List.forall_mem_cons.mp hitems
      rw [Record.itemsOfJson, Record.itemsOfJson, hone.update item hitem]
      split
      · rfl
      · exact ih hitems _

/-- **A record of a value looks at values inside it only.** -/
theorem AgreeBelow.ofJson {value : Json} (h : first.AgreeBelow value.depth second) :
    first.ofJson value = second.ofJson value := by
  cases value with
  | object members =>
    have hmembers : ∀ member ∈ members, member.2.depth < (Json.object members).depth :=
      fun member hmem => Json.depth_lt_of_member hmem
    rw [Record.ofJson, Record.ofJson, h.membersOfJson hmembers, h.blank]
    simp only [h.missing?]
  | array items =>
    rw [Record.ofJson, Record.ofJson, h.blank]
    exact h.itemsOfJson h.fields (fun item hmem => Json.depth_lt_of_mem hmem) _
  | _ => rw [Record.ofJson, Record.ofJson, h.name] <;> simp

end Record

/-! ## The nodes -/

section Nodes

variable {first second : Json → Except Mismatch α}

/-- A field whose value holds nodes of the kind that is decoded. -/
theorem Field.agreeBelow_map {bound : Nat} {name : String} {isRequired : Bool}
    {decoder other : Decoder α} {set : α → σ → σ}
    (h : QueryTree.AgreeBelow bound decoder.ofJson other.ofJson) :
    AgreeBelow bound ⟨name, isRequired, decoder.map set⟩ ⟨name, isRequired, other.map set⟩ :=
  ⟨rfl, rfl, h.map⟩

theorem FunctionColumn.ofJson_congr {value : Json} (h : AgreeBelow value.depth first second) :
    (record (.buffered first)).ofJson value = (record (.buffered second)).ofJson value := by
  have hparameters : AgreeBelow value.depth (Decoder.buffered first).list.ofJson
      (Decoder.buffered second).list.ofJson := AgreeBelow.list h
  exact Record.AgreeBelow.ofJson ⟨rfl, rfl, .cons (Field.agreeBelow_refl _ _)
    (.cons (Field.agreeBelow_map hparameters) (.cons (Field.agreeBelow_refl _ _) .nil))⟩

theorem Column.local_layer : Decoder.Local layer := by
  intro first second value h
  have hcall := congrArg (Except.map function) (FunctionColumn.ofJson_congr h)
  exact Decoder.byKey_congr (.cons ⟨rfl, hcall⟩ (.cons ⟨rfl, rfl⟩ (.cons ⟨rfl, rfl⟩ .nil)))

/-- **A column is one layer over columns.** -/
theorem Column.ofJson_eq (value : Json) : ofJson value = layer ofJson value :=
  Decoder.nested_eq local_layer value

theorem Filter.local_layer : Decoder.Local layer := by
  intro first second value h
  have hlist : AgreeBelow value.depth (Decoder.buffered first).list.ofJson
      (Decoder.buffered second).list.ofJson := AgreeBelow.list h
  have hand : (andRecord (.buffered first)).ofJson value =
      (andRecord (.buffered second)).ofJson value :=
    Record.AgreeBelow.ofJson ⟨rfl, rfl, .cons (Field.agreeBelow_map hlist) .nil⟩
  have hor : (orRecord (.buffered first)).ofJson value =
      (orRecord (.buffered second)).ofJson value :=
    Record.AgreeBelow.ofJson ⟨rfl, rfl, .cons (Field.agreeBelow_map hlist) .nil⟩
  have hnot : (notRecord (.buffered first)).ofJson value =
      (notRecord (.buffered second)).ofJson value :=
    Record.AgreeBelow.ofJson ⟨rfl, rfl, .cons (Field.agreeBelow_map h) .nil⟩
  refine Decoder.byKey_congr (.cons ⟨rfl, rfl⟩ (.cons ⟨rfl, rfl⟩ (.cons ⟨rfl, rfl⟩
    (.cons ⟨rfl, rfl⟩ (.cons ⟨rfl, congrArg (Except.map and) hand⟩
      (.cons ⟨rfl, congrArg (Except.map or) hor⟩
        (.cons ⟨rfl, congrArg (Except.map not) hnot⟩ .nil)))))))

/-- **A filter is one layer over filters.** -/
theorem Filter.ofJson_eq (value : Json) : ofJson value = layer ofJson value :=
  Decoder.nested_eq local_layer value

theorem AgreeBelow.table {bound : Nat} (h : AgreeBelow bound first second) :
    AgreeBelow bound (Table.ofJson first) (Table.ofJson second) := by
  intro value hvalue
  cases value with
  | string n => rfl
  | _ => exact congrArg (Except.map Table.query) (h _ hvalue)

theorem AgreeBelow.join {bound : Nat} (h : AgreeBelow bound first second) :
    AgreeBelow bound (Join.record first).ofJson (Join.record second).ofJson := by
  intro value hvalue
  have hinside : AgreeBelow value.depth first second :=
    fun inner hinner => h inner (Nat.lt_trans hinner hvalue)
  have htable : AgreeBelow value.depth (Decoder.buffered (Table.ofJson first)).nullable.ofJson
      (Decoder.buffered (Table.ofJson second)).nullable.ofJson := AgreeBelow.nullable hinside.table
  exact Record.AgreeBelow.ofJson ⟨rfl, rfl, .cons (Field.agreeBelow_refl _ _)
    (.cons (Field.agreeBelow_map htable) (.cons (Field.agreeBelow_refl _ _)
      (.cons (Field.agreeBelow_refl _ _) .nil)))⟩

theorem AgreeBelow.singleOrList {bound : Nat} (h : AgreeBelow bound first second) :
    AgreeBelow bound (SingleOrList.ofJson first) (SingleOrList.ofJson second) := by
  intro value hvalue
  cases value with
  | array items => exact congrArg (Except.map SingleOrList.list) (h.items (Nat.le_of_lt hvalue))
  | _ => exact congrArg (Except.map SingleOrList.single) (h _ hvalue)

theorem Query.local_layer : Decoder.Local fun inner => (record inner).ofJson := by
  intro first second value h
  have hinside : AgreeBelow value.depth first second := h
  have htable : AgreeBelow value.depth (Decoder.buffered (Table.ofJson first)).nullable.ofJson
      (Decoder.buffered (Table.ofJson second)).nullable.ofJson := AgreeBelow.nullable hinside.table
  have hjoins : AgreeBelow value.depth
      (Decoder.buffered (SingleOrList.ofJson (Join.record first).ofJson)).nullable.ofJson
      (Decoder.buffered (SingleOrList.ofJson (Join.record second).ofJson)).nullable.ofJson :=
    AgreeBelow.nullable hinside.join.singleOrList
  refine Record.AgreeBelow.ofJson ⟨rfl, rfl, .cons (Field.agreeBelow_refl _ _)
    (.cons (Field.agreeBelow_map htable) ?_)⟩
  refine .cons (Field.agreeBelow_refl _ _) (.cons (Field.agreeBelow_refl _ _)
    (.cons (Field.agreeBelow_refl _ _) (.cons (Field.agreeBelow_map hjoins) ?_)))
  exact List.forall₂_same.mpr fun field _ => Field.agreeBelow_refl _ field

/-- **A query is one layer over queries.** -/
theorem Query.ofJson_eq (value : Json) : ofJson value = (record ofJson).ofJson value :=
  Decoder.nested_eq local_layer value

end Nodes

end QueryTree
