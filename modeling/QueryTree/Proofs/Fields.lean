import QueryTree.Json.Record
import QueryTree.Proofs.Members
import QueryTree.Proofs.Outcome
/-!
# Fields — a record is what the values of its fields say

A record takes the members of an object in the order in which they stand,
and a list item by item. Its fields do not get in each other's way
(`Record.Independent`), so neither the order nor the shape matters: what
comes of a value is what its fields say in their own order, each of the
value that is looked up under its name (`Record.Says`). The main result is
`Record.ofJson_iff`.
-/

namespace QueryTree

variable {β γ σ : Type}

/-! ## What a field says -/

namespace Decoder

/-- **A value that must be there.** -/
def Requires (decoder : Decoder β) (found : Option Json) (b : β) : Prop :=
  ∃ value, found = some value ∧ decoder.ofJson value = .ok b

/-- **A value that may be missing,** which then stands for `blank`. -/
def Defaults (decoder : Decoder β) (blank : β) (found : Option Json) (b : β) : Prop :=
  found = none ∧ b = blank ∨ ∃ value, found = some value ∧ decoder.ofJson value = .ok b

/-- **A value that may be missing or `null`.** -/
def Permits (decoder : Decoder β) (found : Option Json) (b : Option β) : Prop :=
  decoder.nullable.Defaults none found b

theorem nullable_ofJson_of_ne_null (decoder : Decoder β) {value : Json} (h : value ≠ .null) :
    decoder.nullable.ofJson value = (decoder.ofJson value).map some := by
  cases value with
  | null => exact absurd rfl h
  | _ => rfl

/-- A value that may be missing or `null` is there or not. -/
theorem permits_iff {decoder : Decoder β} {found : Option Json} {b : Option β} :
    decoder.Permits found b ↔
      (found = none ∨ found = some .null) ∧ b = none ∨
        ∃ value a, found = some value ∧ value ≠ .null ∧ b = some a ∧
          decoder.ofJson value = .ok a := by
  constructor
  · rintro (⟨rfl, rfl⟩ | ⟨value, rfl, hvalue⟩)
    · exact .inl ⟨.inl rfl, rfl⟩
    by_cases hnull : value = .null
    · rw [hnull] at hvalue ⊢
      cases hvalue
      exact .inl ⟨.inr rfl, rfl⟩
    · rw [nullable_ofJson_of_ne_null _ hnull] at hvalue
      obtain ⟨a, ha, rfl⟩ := map_eq_ok.mp hvalue
      exact .inr ⟨value, a, rfl, hnull, rfl, ha⟩
  · rintro (⟨rfl | rfl, rfl⟩ | ⟨value, a, rfl, hnull, rfl, ha⟩)
    · exact .inl ⟨rfl, rfl⟩
    · exact .inr ⟨.null, rfl, rfl⟩
    · refine .inr ⟨value, rfl, ?_⟩
      rw [nullable_ofJson_of_ne_null _ hnull, ha]
      rfl

end Decoder

/-! ## What the fields say in their own order -/

namespace Field

/-- **What one field does to a record,** given what is found under its
name. -/
def Puts (field : Field σ) (found : Option Json) (before after : σ) : Prop :=
  match found with
  | none => field.isRequired = false ∧ after = before
  | some value => ∃ set, field.update.ofJson value = .ok set ∧ after = set before

/-- **What some fields make of a record,** one after the other. -/
def Gathers (get : String → Option Json) : List (Field σ) → σ → σ → Prop
  | [], before, after => after = before
  | field :: fields, before, after =>
    ∃ between, field.Puts (get field.name) before between ∧ Gathers get fields between after

variable {get other : String → Option Json} {fields : List (Field σ)} {field : Field σ}
variable {name : String} {decoder : Decoder β} {before after : σ}

theorem gathers_required {set : β → σ → σ} :
    Gathers get (.required name decoder set :: fields) before after ↔
      ∃ b, decoder.Requires (get name) b ∧ Gathers get fields (set b before) after := by
  constructor
  · rintro ⟨between, hputs, hfields⟩
    cases hfound : get name with
    | none =>
      rw [show (required name decoder set).name = name from rfl, hfound] at hputs
      cases hputs.1
    | some value =>
      rw [show (required name decoder set).name = name from rfl, hfound] at hputs
      obtain ⟨_, hset, rfl⟩ := hputs
      obtain ⟨b, hb, rfl⟩ := map_eq_ok.mp hset
      exact ⟨b, ⟨value, rfl, hb⟩, hfields⟩
  · rintro ⟨b, ⟨value, hfound, hb⟩, hfields⟩
    refine ⟨_, ?_, hfields⟩
    rw [show (required name decoder set).name = name from rfl, hfound]
    exact ⟨_, map_eq_ok.mpr ⟨b, hb, rfl⟩, rfl⟩

/-- A field that may be missing, where the record is blank. -/
theorem gathers_defaulted {set : β → σ → σ} (blank : β) (hblank : set blank before = before) :
    Gathers get (.defaulted name decoder set :: fields) before after ↔
      ∃ b, decoder.Defaults blank (get name) b ∧ Gathers get fields (set b before) after := by
  constructor
  · rintro ⟨between, hputs, hfields⟩
    cases hfound : get name with
    | none =>
      rw [show (defaulted name decoder set).name = name from rfl, hfound] at hputs
      obtain ⟨-, rfl⟩ := hputs
      exact ⟨blank, .inl ⟨rfl, rfl⟩, by rwa [hblank]⟩
    | some value =>
      rw [show (defaulted name decoder set).name = name from rfl, hfound] at hputs
      obtain ⟨_, hset, rfl⟩ := hputs
      obtain ⟨b, hb, rfl⟩ := map_eq_ok.mp hset
      exact ⟨b, .inr ⟨value, rfl, hb⟩, hfields⟩
  · rintro ⟨b, ⟨hfound, rfl⟩ | ⟨value, hfound, hb⟩, hfields⟩
    · refine ⟨before, ?_, by rwa [hblank] at hfields⟩
      rw [show (defaulted name decoder set).name = name from rfl, hfound]
      exact ⟨rfl, rfl⟩
    · refine ⟨_, ?_, hfields⟩
      rw [show (defaulted name decoder set).name = name from rfl, hfound]
      exact ⟨_, map_eq_ok.mpr ⟨b, hb, rfl⟩, rfl⟩

theorem gathers_optional {set : Option β → σ → σ} (hblank : set none before = before) :
    Gathers get (.optional name decoder set :: fields) before after ↔
      ∃ b, decoder.Permits (get name) b ∧ Gathers get fields (set b before) after :=
  gathers_defaulted none hblank

/-- A field for any value, which the record keeps as it is found. -/
theorem gathers_json (set : Option Json → σ → σ) (hblank : set none before = before) :
    Gathers get (.defaulted name .json (fun value => set (some value)) :: fields) before after ↔
      Gathers get fields (set (get name) before) after := by
  constructor
  · rintro ⟨between, hputs, hfields⟩
    rw [show (defaulted name .json fun value => set (some value)).name = name from rfl] at hputs
    cases hfound : get name with
    | none =>
      rw [hfound] at hputs
      obtain ⟨-, rfl⟩ := hputs
      rwa [hblank]
    | some value =>
      rw [hfound] at hputs
      obtain ⟨_, hset, rfl⟩ := hputs
      cases hset
      exact hfields
  · intro hfields
    refine ⟨_, ?_, hfields⟩
    rw [show (defaulted name .json fun value => set (some value)).name = name from rfl]
    cases get name with
    | none => exact ⟨rfl, hblank⟩
    | some value => exact ⟨_, rfl, rfl⟩

theorem gathers_nil : Gathers get [] before after ↔ after = before := Iff.rfl

/-- Fields see what is found under their own names. -/
theorem gathers_congr (h : ∀ field ∈ fields, get field.name = other field.name) :
    Gathers get fields before after ↔ Gathers other fields before after := by
  induction fields generalizing before with
  | nil => rfl
  | cons field fields ih =>
    obtain ⟨hfield, hfields⟩ := List.forall_mem_cons.mp h
    simp only [Gathers, hfield, ih hfields]

/-! ## Fields that nobody asks for -/

/-- A field that nobody asks for. -/
def excused (field : Field σ) : Field σ := { field with isRequired := false }

theorem puts_excused (field : Field σ) {found : Option Json} :
    field.Puts found before after ↔
      (field.isRequired = true → found.isSome = true) ∧ field.excused.Puts found before after := by
  cases found with
  | none => simp [Puts, excused]
  | some value => simp [Puts, excused]

/-- The fields that are required must be found, whatever else happens. -/
theorem gathers_excused :
    Gathers get fields before after ↔
      (∀ field ∈ fields, field.isRequired = true → (get field.name).isSome = true) ∧
        Gathers get (fields.map excused) before after := by
  induction fields generalizing before with
  | nil => simp [Gathers]
  | cons field fields ih =>
    simp only [List.map_cons, Gathers, List.forall_mem_cons, puts_excused field, ih]
    constructor
    · rintro ⟨between, ⟨hfound, hputs⟩, hall, hfields⟩
      exact ⟨⟨hfound, hall⟩, between, hputs, hfields⟩
    · rintro ⟨⟨hfound, hall⟩, between, hputs, hfields⟩
      exact ⟨between, ⟨hfound, hputs⟩, hall, hfields⟩

theorem gathers_excused_none :
    Gathers (fun _ => none) (fields.map excused) before after ↔ after = before := by
  induction fields generalizing before with
  | nil => rfl
  | cons field fields ih =>
    simp only [List.map_cons, Gathers, Puts, excused, true_and, exists_eq_left]
    exact ih

/-! ## Fields that do not get in each other's way -/

/-- **Two fields that may be put in either order.** -/
def Commute (first second : Field σ) : Prop :=
  ∀ v w a b, first.update.ofJson v = .ok a → second.update.ofJson w = .ok b →
    ∀ s, a (b s) = b (a s)

/-- Fields that set different parts of a record. -/
theorem commute_map {first second : String} {required needed : Bool} {decoder : Decoder β}
    {other : Decoder γ} {set : β → σ → σ} {put : γ → σ → σ}
    (h : ∀ b c s, set b (put c s) = put c (set b s)) :
    Commute ⟨first, required, decoder.map set⟩ ⟨second, needed, other.map put⟩ := by
  intro v w a b ha hb s
  obtain ⟨x, -, rfl⟩ := map_eq_ok.mp ha
  obtain ⟨y, -, rfl⟩ := map_eq_ok.mp hb
  exact h x y s

/-- A field put after another one has been. -/
theorem puts_after {second : Field σ} (h : field.Commute second) {value : Json} {set : σ → σ}
    (hset : second.update.ofJson value = .ok set) {found : Option Json} :
    field.Puts found (set before) after ↔
      ∃ between, field.Puts found before between ∧ after = set between := by
  cases found with
  | none =>
    constructor
    · rintro ⟨hrequired, rfl⟩
      exact ⟨before, ⟨hrequired, rfl⟩, rfl⟩
    · rintro ⟨_, ⟨hrequired, rfl⟩, rfl⟩
      exact ⟨hrequired, rfl⟩
  | some other =>
    constructor
    · rintro ⟨put, hput, rfl⟩
      exact ⟨_, ⟨put, hput, rfl⟩, h _ _ _ _ hput hset before⟩
    · rintro ⟨_, ⟨put, hput, rfl⟩, rfl⟩
      exact ⟨put, hput, (h _ _ _ _ hput hset before).symm⟩

/-- **A member may be put before all the others.** The field of its name
then finds nothing. -/
theorem gathers_cons_member {key : String} {value : Json} {members : List (String × Json)}
    (hnames : (fields.map Field.name).Nodup) (hcommute : fields.Pairwise Commute)
    (hnodup : (((key, value) :: members).map Prod.fst).Nodup)
    (hexcused : ∀ field ∈ fields, field.isRequired = false)
    (hfield : fields.find? (fun field => field.name = key) = some field) :
    Gathers (((key, value) :: members).lookup ·) fields before after ↔
      ∃ set, field.update.ofJson value = .ok set ∧
        Gathers (members.lookup ·) fields (set before) after := by
  induction fields generalizing before with
  | nil => cases hfield
  | cons first fields ih =>
    obtain ⟨hfirst, hnames⟩ := List.nodup_cons.mp hnames
    obtain ⟨hcommutes, hcommute⟩ := List.pairwise_cons.mp hcommute
    obtain ⟨hnone, hexcused⟩ := List.forall_mem_cons.mp hexcused
    have hlookup : ∀ {k}, k ≠ key → ((key, value) :: members).lookup k = members.lookup k :=
      fun hne => (lookup_cons_ite ..).trans (if_neg hne)
    by_cases hname : first.name = key
    · rw [List.find?_cons_of_pos (by simpa using hname)] at hfield
      cases hfield
      have hothers : ∀ {s t}, Gathers (((key, value) :: members).lookup ·) fields s t ↔
          Gathers (members.lookup ·) fields s t := by
        refine gathers_congr fun other hother => hlookup fun heq => hfirst ?_
        exact hname.trans heq.symm ▸ List.mem_map_of_mem hother
      simp only [Gathers, hothers, hname, List.lookup_cons_self, lookup_tail hnodup, Puts, hnone,
        true_and, exists_eq_left]
      constructor
      · rintro ⟨_, ⟨set, hset, rfl⟩, h⟩
        exact ⟨set, hset, h⟩
      · rintro ⟨set, hset, h⟩
        exact ⟨_, ⟨set, hset, rfl⟩, h⟩
    · rw [List.find?_cons_of_neg (by simpa using hname)] at hfield
      have hafter {before after : σ} {set : σ → σ} (hset : field.update.ofJson value = .ok set) :
          first.Puts (members.lookup first.name) (set before) after ↔
            ∃ between, first.Puts (members.lookup first.name) before between ∧
              after = set between :=
        puts_after (hcommutes field (List.mem_of_find?_eq_some hfield)) hset
      simp only [Gathers, hlookup hname, ih hnames hcommute hexcused hfield]
      constructor
      · rintro ⟨between, hputs, set, hset, h⟩
        exact ⟨set, hset, set between, (hafter hset).mpr ⟨between, hputs, rfl⟩, h⟩
      · rintro ⟨set, hset, _, hputs, h⟩
        obtain ⟨between, hbetween, rfl⟩ := (hafter hset).mp hputs
        exact ⟨between, hbetween, set, hset, h⟩

end Field

/-! ## Records -/

namespace Record

variable {record : Record σ} {n : σ}

/-- **A record whose fields do not get in each other's way.** -/
structure Independent (record : Record σ) : Prop where
  nodup : record.names.Nodup
  commute : record.fields.Pairwise Field.Commute

/-- **What the fields of a record say,** given what is found under each
name. -/
def Says (record : Record σ) (get : String → Option Json) (n : σ) : Prop :=
  Field.Gathers get record.fields record.blank n

/-- **The members that a value has for a record:** those of an object, all
of which must be fields, or the items of a list under the names of the
fields in their order. -/
inductive Lists (record : Record σ) : Json → List (String × Json) → Prop where
  | object {members : List (String × Json)}
      (known : ∀ key ∈ members.map Prod.fst, key ∈ record.names) :
    Lists record (.object members) members
  | array {items : List Json} (fits : items.length ≤ record.names.length) :
    Lists record (.array items) (record.names.zip items)

theorem missing?_eq_none_iff {seen : List String} :
    record.missing? seen = none ↔
      ∀ field ∈ record.fields, field.isRequired = true → field.name ∈ seen := by
  rw [missing?, Option.map_eq_none_iff, List.find?_eq_none]
  simp

theorem field?_eq_none_iff {key : String} : record.field? key = none ↔ key ∉ record.names := by
  rw [field?, List.find?_eq_none, names, List.mem_map]
  simp

theorem find?_excused {key : String} :
    (record.fields.map Field.excused).find? (fun field => field.name = key) =
      (record.field? key).map Field.excused := by
  rw [List.find?_map]
  rfl

/-- Members put into a record in the order in which they stand. -/
theorem membersOfJson_iff (h : record.Independent) {members : List (String × Json)}
    (hnodup : (members.map Prod.fst).Nodup) {before after : σ} :
    record.membersOfJson members before = .ok after ↔
      (∀ key ∈ members.map Prod.fst, key ∈ record.names) ∧
        Field.Gathers (members.lookup ·) (record.fields.map Field.excused) before after := by
  have hnames : ((record.fields.map Field.excused).map Field.name).Nodup := by
    rw [List.map_map]
    exact h.nodup
  have hcommute : (record.fields.map Field.excused).Pairwise Field.Commute :=
    List.pairwise_map.mpr h.commute
  have hexcused : ∀ field ∈ record.fields.map Field.excused, field.isRequired = false := by
    intro field hfield
    obtain ⟨_, -, rfl⟩ := List.mem_map.mp hfield
    rfl
  induction members generalizing before with
  | nil =>
    have hnone : Field.Gathers (fun _ => none) (record.fields.map Field.excused) before after ↔
        after = before := Field.gathers_excused_none
    simp only [membersOfJson, List.lookup_nil, hnone, List.map_nil, List.not_mem_nil, false_implies,
      implies_true, true_and, Except.ok.injEq]
    exact eq_comm
  | cons member members ih =>
    obtain ⟨key, value⟩ := member
    rw [membersOfJson, List.map_cons, List.forall_mem_cons]
    cases hfield : record.field? key with
    | none =>
      have hunknown := field?_eq_none_iff.mp hfield
      simp [hunknown]
    | some field =>
      have hknown : key ∈ record.names := by
        by_contra hnot
        rw [field?_eq_none_iff.mpr hnot] at hfield
        cases hfield
      rw [Field.gathers_cons_member hnames hcommute hnodup hexcused
        (find?_excused.trans (congrArg (Option.map Field.excused) hfield))]
      dsimp only
      cases hset : field.update.ofJson value with
      | error reason => simp [Field.excused, hset]
      | ok set =>
        simp only [ih (List.nodup_cons.mp hnodup).2, Field.excused, hset, Except.ok.injEq,
          exists_eq_left', hknown, true_and]

theorem ofJson_object_iff (h : record.Independent) {members : List (String × Json)}
    (hnodup : (members.map Prod.fst).Nodup) :
    record.ofJson (.object members) = .ok n ↔
      (∀ key ∈ members.map Prod.fst, key ∈ record.names) ∧ record.Says (members.lookup ·) n := by
  have hmissing : record.missing? (members.map Prod.fst) = none ↔
      ∀ field ∈ record.fields, field.isRequired = true →
        (members.lookup field.name).isSome = true := by
    simp only [missing?_eq_none_iff, isSome_lookup_iff]
  rw [Says, Field.gathers_excused, ← hmissing, and_left_comm, ← membersOfJson_iff h hnodup, ofJson]
  cases record.membersOfJson members record.blank with
  | error reason => simp
  | ok state => cases record.missing? (members.map Prod.fst) <;> simp

/-- Items put into a record, one for each field. -/
theorem itemsOfJson_iff {count : Nat} {fields : List (Field σ)}
    (hnodup : (fields.map Field.name).Nodup) {items : List Json} {before after : σ} :
    record.itemsOfJson count fields items before = .ok after ↔
      items.length ≤ fields.length ∧
        Field.Gathers (((fields.map Field.name).zip items).lookup ·) fields before after := by
  induction fields generalizing items before with
  | nil =>
    cases items with
    | nil =>
      simp only [itemsOfJson, Except.ok.injEq, List.length_nil, Nat.le_refl, true_and,
        Field.gathers_nil]
      exact eq_comm
    | cons item items => simp [itemsOfJson]
  | cons field fields ih =>
    obtain ⟨hfield, hnodup⟩ := List.nodup_cons.mp hnodup
    cases items with
    | nil =>
      have hnone : record.itemsOfJson count fields [] before = .ok after ↔
          [].length ≤ fields.length ∧
            Field.Gathers (((fields.map Field.name).zip []).lookup ·) fields before after :=
        ih hnodup
      simp only [List.zip_nil_right, List.lookup_nil, List.length_nil, Nat.zero_le, true_and]
        at hnone
      simp only [itemsOfJson, List.zip_nil_right, List.lookup_nil, List.length_nil, Nat.zero_le,
        true_and, Field.Gathers, Field.Puts]
      cases field.isRequired with
      | true => simp
      | false => simpa using hnone
    | cons item items =>
      have hothers : ∀ {s t}, Field.Gathers
          (((field.name, item) :: (fields.map Field.name).zip items).lookup ·) fields s t ↔
          Field.Gathers (((fields.map Field.name).zip items).lookup ·) fields s t := by
        refine Field.gathers_congr fun other hother => ?_
        rw [lookup_cons_ite, if_neg]
        exact fun heq => hfield (heq ▸ List.mem_map_of_mem hother)
      simp only [itemsOfJson, List.map_cons, List.zip_cons_cons, Field.Gathers, Field.Puts,
        List.lookup_cons_self, hothers, List.length_cons, Nat.add_le_add_iff_right]
      cases hset : field.update.ofJson item with
      | error reason => simp
      | ok set => simpa using ih hnodup

namespace Lists

variable {value : Json} {members : List (String × Json)}

theorem mem_names (h : record.Lists value members) {key : String} {found : Json}
    (hfound : members.lookup key = some found) : key ∈ record.names := by
  cases h with
  | object known => exact known key (isSome_lookup_iff.mp (by rw [hfound]; rfl))
  | array fits => exact (List.of_mem_zip (mem_of_lookup hfound)).1

theorem nodup (h : record.Lists value members) (hnodup : record.names.Nodup)
    (hvalue : value.DistinctKeys) : (members.map Prod.fst).Nodup := by
  cases h with
  | object known => exact hvalue.1
  | array fits => exact hnodup.sublist (map_fst_zip_sublist _ _)

/-- What is found in the members is inside the value. -/
theorem distinctKeys (h : record.Lists value members) (hvalue : value.DistinctKeys) {key : String}
    {found : Json} (hfound : members.lookup key = some found) : found.DistinctKeys := by
  cases h with
  | object known => exact hvalue.of_lookup hfound
  | array fits => exact hvalue.of_mem (List.of_mem_zip (mem_of_lookup hfound)).2

theorem depth_lt (h : record.Lists value members) {key : String} {found : Json}
    (hfound : members.lookup key = some found) : found.depth < value.depth := by
  cases h with
  | object known => exact Json.depth_lt_of_lookup hfound
  | array fits => exact Json.depth_lt_of_mem (List.of_mem_zip (mem_of_lookup hfound)).2

end Lists

/-- **A record is what its fields say.** Whatever stands in which order, a
value gives a record exactly if it is an object or a list that has members
for the record, and what is found there is what the fields say. -/
theorem ofJson_iff (h : record.Independent) {value : Json} (hvalue : value.DistinctKeys) :
    record.ofJson value = .ok n ↔
      ∃ members, record.Lists value members ∧ record.Says (members.lookup ·) n := by
  constructor
  · intro hok
    cases value with
    | object members =>
      obtain ⟨known, hsaid⟩ := (ofJson_object_iff h hvalue.1).mp hok
      exact ⟨members, .object known, hsaid⟩
    | array items =>
      obtain ⟨fits, hsaid⟩ := (itemsOfJson_iff h.nodup).mp hok
      exact ⟨_, .array (by rwa [names, List.length_map]), hsaid⟩
    | _ => cases hok
  · rintro ⟨members, hlists, hsaid⟩
    cases hlists with
    | object known => exact (ofJson_object_iff h hvalue.1).mpr ⟨known, hsaid⟩
    | array fits =>
      rw [names, List.length_map] at fits
      exact (itemsOfJson_iff h.nodup).mpr ⟨fits, hsaid⟩

end Record

end QueryTree
