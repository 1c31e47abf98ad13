import QueryTree.Proofs.Encoding
import QueryTree.Proofs.Places
/-!
# Round trips — encoding undoes decoding, up to the form of a value

Where a value decodes, the node is written as the one form of that value
(`Restores`). This goes key by key: every key that a record accepts is the
key of a part, the part is decoded from what is found there, and it is
written under the same key again. So nothing of a value that decodes is
passed over. Here this is shown for records in general, for columns and for
filters.
-/

namespace QueryTree

open Json

variable {β ν σ : Type}

/-- **What is decoded of a value is written as the value again,** in its one
form. -/
def Restores (ofJson : Json → Except Mismatch β) (encode : β → Json) (place : Place)
    (value : Json) : Prop :=
  ∀ b, ofJson value = .ok b → (encode b).canonical = (Json.normalize place value).canonical

/-! ## Leaves and lists -/

theorem normalizeMembers_nil (members : List (String × Json)) :
    normalizeMembers [] members = members := by
  induction members with
  | nil => rfl
  | cons member members ih => rw [normalizeMembers_cons, List.find?_nil, ih]

/-- Leaves are not looked into. -/
theorem normalize_leaf (value : Json) : Json.normalize .leaf value = value := by
  cases value with
  | object members =>
    change object (complete [] (normalizeMembers [] members)) = _
    rw [normalizeMembers_nil]
    exact congrArg object (List.append_nil members)
  | _ => rfl

theorem restores_string (value : Json) : Restores Decoder.string.ofJson .string .leaf value := by
  intro s h
  cases value <;> cases h
  rfl

theorem restores_bool (value : Json) : Restores Decoder.bool.ofJson .bool .leaf value := by
  intro b h
  cases value <;> cases h
  rfl

theorem restores_uint64 (value : Json) : Restores Decoder.uint64.ofJson countJson .leaf value := by
  intro n h
  obtain ⟨k, hk, rfl⟩ := map_eq_ok.mp h
  obtain ⟨hlt, rfl⟩ := Decoder.natural_ofJson_iff.mp hk
  rw [normalize_leaf, countJson, UInt64.toNat_ofNat_of_lt' hlt]

theorem normalizeItems_eq_map (item : Place) (items : List Json) :
    normalizeItems item items = items.map (Json.normalize item) := by
  induction items with
  | nil => rfl
  | cons value items ih => rw [normalizeItems, ih, List.map_cons]

theorem restores_items {ofJson : Json → Except Mismatch β} {encode : β → Json} {item : Place}
    {items : List Json} (h : ∀ value ∈ items, Restores ofJson encode item value) {bs : List β}
    (hok : Decoder.itemsOfJson ofJson items = .ok bs) :
    (array (bs.map encode)).canonical = (array (normalizeItems item items)).canonical := by
  rw [canonical_array, canonical_array, normalizeItems_eq_map]
  refine congrArg array ?_
  induction items generalizing bs with
  | nil =>
    cases hok
    rfl
  | cons value items ih =>
    obtain ⟨hvalue, hitems⟩ := List.forall_mem_cons.mp h
    rw [Decoder.itemsOfJson] at hok
    split at hok
    · cases hok
    · rename_i b hb
      obtain ⟨rest, hrest, rfl⟩ := map_eq_ok.mp hok
      simp only [List.map_cons, hvalue b hb, ih hitems hrest]

/-- **A value inside another one,** in which no key comes twice. -/
structure Inside (value inner : Json) : Prop where
  depth_lt : inner.depth < value.depth
  distinctKeys : inner.DistinctKeys

/-- **What is decoded of the values inside a value is written as it was
found.** -/
def RestoresInside (ofJson : Json → Except Mismatch β) (encode : β → Json) (place : Place)
    (value : Json) : Prop :=
  ∀ inner, Inside value inner → Restores ofJson encode place inner

theorem RestoresInside.within {ofJson : Json → Except Mismatch β} {encode : β → Json}
    {place : Place} {value inner : Json} (h : RestoresInside ofJson encode place value)
    (hinner : Inside value inner) : RestoresInside ofJson encode place inner := by
  intro innermost hinnermost
  exact h innermost
    ⟨Nat.lt_trans hinnermost.depth_lt hinner.depth_lt, hinnermost.distinctKeys⟩

theorem restores_list {decoder : Decoder β} {encode : β → Json} {item : Place} {value : Json}
    (h : RestoresInside decoder.ofJson encode item value) (hvalue : value.DistinctKeys) :
    Restores decoder.list.ofJson (fun bs => array (bs.map encode)) (.list item) value := by
  intro bs hok
  cases value with
  | array items =>
    exact restores_items (fun inner hinner => h inner ⟨depth_lt_of_mem hinner,
      hvalue.of_mem hinner⟩) hok
  | _ => cases hok

/-! ## Parts -/

section Parts

variable {decoder : Decoder β} {encode : β → Json} {key : String} {place : Place}
variable {found : Option Json}

theorem keep_eq_some {entry : Entry} {value : Json}
    (h : entry.isNullable = false ∨ value ≠ .null) :
    keep entry value = some (Json.normalize entry.place value) := by
  refine if_neg fun hdrops => ?_
  cases value with
  | null =>
    rcases h with h | h
    · rw [Entry.drops, h] at hdrops
      cases hdrops
    · exact h rfl
  | _ => cases hdrops

/-- A part that must be there is written as what was found for it. -/
theorem kept_required {b : β} (h : decoder.Requires found b)
    (hrestores : ∀ value, found = some value → Restores decoder.ofJson encode place value) :
    some (encode b).canonical = (kept (Entry.required key place) found).map canonical := by
  obtain ⟨value, rfl, hb⟩ := h
  change _ = ((keep _ value).or none).map canonical
  rw [keep_eq_some (.inl rfl), hrestores value rfl b hb]
  rfl

/-- A part that may be missing is written as what was found for it, if that
was not `null`. -/
theorem kept_optional {b : Option β} (h : decoder.Permits found b)
    (hrestores : ∀ value, found = some value → Restores decoder.ofJson encode place value) :
    (b.map encode).map canonical =
      (kept (Entry.optional key place) found).map canonical := by
  obtain ⟨rfl | rfl, rfl⟩ | ⟨value, a, rfl, hnull, rfl, ha⟩ := Decoder.permits_iff.mp h
  · rfl
  · rfl
  · change some (encode a).canonical = ((keep _ value).or none).map canonical
    rw [keep_eq_some (.inr hnull), hrestores value rfl a ha]
    rfl

theorem kept_leaf (key : String) (found : Option Json) :
    found.map canonical = (kept (Entry.required key .leaf) found).map canonical := by
  cases found with
  | none => rfl
  | some value =>
    change _ = ((keep _ value).or none).map canonical
    rw [keep_eq_some (.inl rfl), Entry.required, normalize_leaf]
    rfl

/-- A literal is written as it was found. -/
theorem kept_json {literal : Json} (h : Decoder.json.Requires found literal) :
    some literal.canonical = (kept (Entry.required key .leaf) found).map canonical := by
  obtain ⟨value, rfl, hvalue⟩ := h
  cases hvalue
  exact kept_leaf key (some literal)

/-- A part for which something stands where it is missing. -/
theorem kept_defaulted (encode : β → Json) {blank b : β} (h : decoder.Defaults blank found b)
    (hrestores : ∀ value, found = some value → Restores decoder.ofJson encode place value) :
    some (encode b).canonical =
      (kept (Entry.defaulted key place (encode blank)) found).map canonical := by
  obtain ⟨rfl, rfl⟩ | ⟨value, rfl, hb⟩ := h
  · rfl
  · change _ = ((keep _ value).or _).map canonical
    rw [keep_eq_some (.inl rfl), hrestores value rfl b hb]
    rfl

end Parts

/-! ## Records -/

/-- **The members that are written are those that were found,** part by
part. -/
theorem canonical_ofMembers_eq {entries : List Entry} {members : List (String × Option Json)}
    {found : List (String × Json)} (hentries : (entries.map Entry.key).Nodup)
    (hmembers : members.map Prod.fst = entries.map Entry.key) (hfound : (found.map Prod.fst).Nodup)
    (hknown : ∀ key ∈ found.map Prod.fst, key ∈ entries.map Entry.key)
    (hparts : ∀ entry ∈ entries,
      written members entry.key = (kept entry (found.lookup entry.key)).map canonical) :
    (ofMembers members).canonical =
      (object (complete entries (normalizeMembers entries found))).canonical := by
  have hnodup : (members.map Prod.fst).Nodup := hmembers ▸ hentries
  refine canonical_object_eq (hnodup.sublist (map_fst_present_sublist _))
    (nodup_complete_normalizeMembers hentries hfound) fun key => ?_
  change ((present members).lookup key).map canonical = _
  rw [lookup_present hnodup, lookup_complete_normalizeMembers hentries hfound, keptUnder]
  cases hentry : entries.find? fun entry => entry.key = key with
  | some entry =>
    obtain rfl : entry.key = key := by simpa using List.find?_some hentry
    exact hparts entry (List.mem_of_find?_eq_some hentry)
  | none =>
    have hnot : key ∉ entries.map Entry.key := by
      intro hkey
      obtain ⟨entry, hmem, rfl⟩ := List.mem_map.mp hkey
      simpa using List.find?_eq_none.mp hentry _ hmem
    rw [lookup_eq_none_of_notMem (hmembers ▸ hnot),
      lookup_eq_none_of_notMem fun hmem => hnot (hknown key hmem)]
    rfl

section Records

variable {record : Record σ} {value : Json} {entries : List Entry}
variable {members : σ → List (String × Option Json)}

/-- **What it takes for the parts of a record to be written again.** The
record says the same keys in the same order as the table of the format, and
each part is written as what was found for it. -/
structure Record.Rewrites (record : Record σ) (entries : List Entry)
    (members : σ → List (String × Option Json)) (value : Json) : Prop where
  independent : record.Independent
  names : entries.map Entry.key = record.names
  keys : ∀ n, (members n).map Prod.fst = record.names
  parts : ∀ n get, (∀ key inner, get key = some inner → Inside value inner) → record.Says get n →
    ∀ entry ∈ entries, written (members n) entry.key = (kept entry (get entry.key)).map canonical

theorem Record.Rewrites.canonical_eq (h : record.Rewrites entries members value)
    (hvalue : value.DistinctKeys) {n : σ} (hok : record.ofJson value = .ok n) :
    ∃ found, record.Lists value found ∧ (found.map Prod.fst).Nodup ∧
      (ofMembers (members n)).canonical =
        (object (complete entries (normalizeMembers entries found))).canonical := by
  obtain ⟨found, hlists, hsaid⟩ := (Record.ofJson_iff h.independent hvalue).mp hok
  have hnodup := hlists.nodup h.independent.nodup hvalue
  refine ⟨found, hlists, hnodup, canonical_ofMembers_eq (h.names ▸ h.independent.nodup)
    ((h.keys n).trans h.names.symm) hnodup (fun key hkey => ?_) ?_⟩
  · obtain ⟨inner, hinner⟩ := Option.isSome_iff_exists.mp (isSome_lookup_iff.mpr hkey)
    exact h.names ▸ hlists.mem_names hinner
  · refine h.parts n _ (fun key inner hinner => ?_) hsaid
    exact ⟨hlists.depth_lt hinner, hlists.distinctKeys hvalue hinner⟩

/-- A record that is one of the variants of a node. -/
theorem Record.Rewrites.variant (h : record.Rewrites entries members value)
    (hvalue : value.DistinctKeys) {wrap : σ → ν} {encode : ν → Json}
    (hencode : ∀ n, encode (wrap n) = ofMembers (members n)) :
    ∀ found n, value = .object found → (record.ofJson value).map wrap = .ok n →
      (encode n).canonical =
        (object (complete entries (normalizeMembers entries found))).canonical := by
  rintro found _ rfl hok
  obtain ⟨n, hn, rfl⟩ := map_eq_ok.mp hok
  obtain ⟨_, hlists, -, heq⟩ := h.canonical_eq hvalue hn
  cases hlists
  rw [hencode]
  exact heq

/-- The one form of a value that a record accepts. -/
theorem normalize_of_lists {place : Place} {found : List (String × Json)}
    (hvariants : place.variants = []) (hitem : place.item? = none)
    (hnames : place.parts.map Entry.key = record.names) (hrecord : record.Independent)
    (hparts : place.parts ≠ []) (hlists : record.Lists value found) :
    Json.normalize place value =
      object (complete place.parts (normalizeMembers place.parts found)) := by
  cases hlists with
  | object known =>
    rw [Json.normalize, Place.entries, hvariants]
    rfl
  | @array items fits =>
    have hnodup : (place.parts.map Entry.key).Nodup := hnames ▸ hrecord.nodup
    rw [← hnames, ← normalizeParts_eq hnodup, Json.normalize]
    split
    · rename_i h
      rw [hitem] at h
      cases h
    · rename_i h
      exact absurd h hparts
    · rfl

/-- **A node without variants is written as its value,** be that an object
or a list. -/
theorem Record.Rewrites.restores {place : Place} {encode : σ → Json}
    (h : record.Rewrites place.parts members value) (hvalue : value.DistinctKeys)
    (hvariants : place.variants = []) (hitem : place.item? = none) (hparts : place.parts ≠ [])
    (hencode : ∀ n, encode n = ofMembers (members n)) :
    Restores record.ofJson encode place value := by
  intro n hok
  obtain ⟨found, hlists, -, heq⟩ := h.canonical_eq hvalue hok
  rw [hencode, heq, normalize_of_lists hvariants hitem h.names h.independent hparts hlists]

/-- **A node with variants is written as its value** if each variant is. -/
theorem restores_byKey {node : String} {place : Place} {encode : ν → Json}
    {variants : List (String × (Json → Except Mismatch ν))}
    (h : List.Forall₂ (fun variant entries => variant.1 = entries.1 ∧
      ∀ found n, value = .object found → variant.2 value = .ok n →
        (encode n).canonical =
          (object (complete entries.2 (normalizeMembers entries.2 found))).canonical)
      variants place.variants) :
    Restores (Decoder.byKey node variants) encode place value := by
  intro n hok
  cases value with
  | object found =>
    rw [Decoder.byKey] at hok
    dsimp only at hok
    obtain ⟨hnone, -⟩ | ⟨variant, entries, ⟨-, hvariant⟩, hfirst, hother⟩ :=
      find?_of_forall₂ (p := fun variant => (found.lookup variant.1).isSome)
        (q := fun variant => (found.lookup variant.1).isSome) (fun _ _ hone => by rw [hone.1]) h
    · rw [hnone] at hok
      cases hok
    · rw [hfirst] at hok
      rw [hvariant found n rfl hok, Json.normalize, Place.entries, hother]
  | _ => cases hok

end Records

/-! ## Columns -/

theorem NamedColumn.rewrites (value : Json) :
    record.Rewrites
      [.required "column" .leaf, .optional "type" .leaf, .optional "alias" .leaf]
      (fun column => [
        ("column", some (.string column.column)),
        ("type", textJson column.cast),
        ("alias", textJson column.aliasName)]) value where
  independent := independent
  names := rfl
  keys _ := rfl
  parts column get _ hsaid := by
    obtain ⟨hcolumn, hcast, halias⟩ := says_iff.mp hsaid
    refine List.forall_mem_cons.mpr ⟨kept_required hcolumn fun v _ => restores_string v, ?_⟩
    refine List.forall_mem_cons.mpr ⟨kept_optional hcast fun v _ => restores_string v, ?_⟩
    exact List.forall_mem_singleton.mpr (kept_optional halias fun v _ => restores_string v)

theorem ValueColumn.rewrites (value : Json) :
    record.Rewrites
      [.required "value" .leaf, .optional "type" .leaf, .optional "alias" .leaf]
      (fun literal => [
        ("value", some literal.value),
        ("type", textJson literal.cast),
        ("alias", textJson literal.aliasName)]) value where
  independent := independent
  names := rfl
  keys _ := rfl
  parts literal get _ hsaid := by
    obtain ⟨hvalue, hcast, halias⟩ := says_iff.mp hsaid
    refine List.forall_mem_cons.mpr ⟨kept_json hvalue, ?_⟩
    refine List.forall_mem_cons.mpr ⟨kept_optional hcast fun v _ => restores_string v, ?_⟩
    exact List.forall_mem_singleton.mpr (kept_optional halias fun v _ => restores_string v)

theorem Column.restores_list {ofJson : Json → Except Mismatch Column} {value : Json}
    (h : RestoresInside ofJson toJson .column value) (hvalue : value.DistinctKeys) :
    Restores (Decoder.buffered ofJson).list.ofJson (fun columns => array (listToJson columns))
      (.list .column) value := by
  simp only [listToJson_eq_map]
  exact QueryTree.restores_list h hvalue

theorem FunctionColumn.rewrites {ofJson : Json → Except Mismatch Column} {value : Json}
    (h : RestoresInside ofJson Column.toJson .column value) :
    (record (.buffered ofJson)).Rewrites
      [.required "function" .leaf, .defaulted "parameters" (.list .column) (.array []),
        .optional "alias" .leaf]
      (fun call => [
        ("function", some (.string call.function)),
        ("parameters", some (.array (Column.listToJson call.parameters))),
        ("alias", textJson call.aliasName)]) value where
  independent := independent _
  names := rfl
  keys _ := rfl
  parts call get hinside hsaid := by
    obtain ⟨hname, hparameters, halias⟩ := says_iff.mp hsaid
    refine List.forall_mem_cons.mpr ⟨kept_required hname fun v _ => restores_string v, ?_⟩
    refine List.forall_mem_cons.mpr ⟨?_, List.forall_mem_singleton.mpr ?_⟩
    · exact kept_defaulted (fun columns => array (Column.listToJson columns)) hparameters
        fun v hv => Column.restores_list (h.within (hinside _ v hv)) (hinside _ v hv).distinctKeys
    · exact kept_optional halias fun v _ => restores_string v

/-- **A column is written as the value that it was decoded from.** -/
theorem Column.restores (value : Json) (hvalue : value.DistinctKeys) :
    Restores ofJson toJson .column value := by
  induction hdepth : value.depth using Nat.strong_induction_on generalizing value with
  | _ depth ih =>
    have hinside : RestoresInside ofJson toJson .column value := fun inner hinner =>
      ih inner.depth (hdepth ▸ hinner.depth_lt) inner hinner.distinctKeys rfl
    intro column hok
    rw [ofJson_eq, layer] at hok
    refine restores_byKey (.cons ⟨rfl, ?_⟩ (.cons ⟨rfl, ?_⟩ (.cons ⟨rfl, ?_⟩ .nil))) column hok
    · exact (FunctionColumn.rewrites hinside).variant hvalue fun _ => rfl
    · exact (NamedColumn.rewrites value).variant hvalue fun _ => rfl
    · exact (ValueColumn.rewrites value).variant hvalue fun _ => rfl

/-- **A column or its name is written as the value that it was decoded
from.** -/
theorem ColumnRef.restores (value : Json) (hvalue : value.DistinctKeys) :
    Restores ofJson toJson .column value := by
  intro ref hok
  by_cases hname : ∃ n, value = .string n
  · obtain ⟨n, rfl⟩ := hname
    cases hok
    rfl
  · have hok : (Column.ofJson value).map column = .ok ref := by
      cases value with
      | string n => exact absurd ⟨n, rfl⟩ hname
      | _ => exact hok
    obtain ⟨column, hcolumn, rfl⟩ := map_eq_ok.mp hok
    exact Column.restores value hvalue column hcolumn

/-! ## Filters -/

theorem Decoder.itemsOfJson_ok (items : List Json) : itemsOfJson .ok items = .ok items := by
  induction items with
  | nil => rfl
  | cons item items ih =>
    rw [itemsOfJson, ih]
    rfl

theorem restores_json_list (value : Json) :
    Restores Decoder.json.list.ofJson array .leaf value := by
  intro values h
  cases value with
  | array items =>
    obtain rfl : items = values := Except.ok.inj ((Decoder.itemsOfJson_ok items).symm.trans h)
    rfl
  | _ => cases h

theorem ComparisonFilter.rewrites (value : Json) :
    record.Rewrites
      [.required "column" .column, .required "operator" .leaf, .required "value" .leaf,
        .optional "rightColumn" .column]
      (fun filter => [
        ("column", some filter.column.toJson),
        ("operator", some (.string filter.operator)),
        ("value", filter.value),
        ("rightColumn", filter.rightColumn.map Column.toJson)]) value where
  independent := independent
  names := rfl
  keys _ := rfl
  parts filter get hinside hsaid := by
    obtain ⟨hcolumn, hoperator, hvalue, hright⟩ := says_iff.mp hsaid
    refine List.forall_mem_cons.mpr ⟨kept_required hcolumn fun v hv =>
      ColumnRef.restores v (hinside _ v hv).distinctKeys, ?_⟩
    refine List.forall_mem_cons.mpr ⟨kept_required hoperator fun v _ => restores_string v, ?_⟩
    refine List.forall_mem_cons.mpr ⟨?_, List.forall_mem_singleton.mpr ?_⟩
    · exact hvalue ▸ kept_leaf "value" (get "value")
    · exact kept_optional hright fun v hv => Column.restores v (hinside _ v hv).distinctKeys

theorem InFilter.rewrites (value : Json) :
    record.Rewrites [.required "column" .column, .required "in" .leaf]
      (fun filter => [
        ("column", some filter.column.toJson),
        ("in", some (.array filter.values))]) value where
  independent := independent
  names := rfl
  keys _ := rfl
  parts filter get hinside hsaid := by
    obtain ⟨hcolumn, hvalues⟩ := says_iff.mp hsaid
    refine List.forall_mem_cons.mpr ⟨kept_required hcolumn fun v hv =>
      ColumnRef.restores v (hinside _ v hv).distinctKeys, ?_⟩
    exact List.forall_mem_singleton.mpr (kept_required hvalues fun v _ => restores_json_list v)

theorem LikeFilter.rewrites (value : Json) :
    record.Rewrites [.required "column" .column, .required "like" .leaf]
      (fun filter => [
        ("column", some filter.column.toJson),
        ("like", some filter.pattern)]) value where
  independent := independent
  names := rfl
  keys _ := rfl
  parts filter get hinside hsaid := by
    obtain ⟨hcolumn, hpattern⟩ := says_iff.mp hsaid
    refine List.forall_mem_cons.mpr ⟨kept_required hcolumn fun v hv =>
      ColumnRef.restores v (hinside _ v hv).distinctKeys, ?_⟩
    exact List.forall_mem_singleton.mpr (kept_json hpattern)

theorem IsNullFilter.rewrites (value : Json) :
    record.Rewrites [.required "column" .column, .required "isNull" .leaf]
      (fun filter => [
        ("column", some filter.column.toJson),
        ("isNull", some (.bool filter.isNull))]) value where
  independent := independent
  names := rfl
  keys _ := rfl
  parts filter get hinside hsaid := by
    obtain ⟨hcolumn, hisNull⟩ := says_iff.mp hsaid
    refine List.forall_mem_cons.mpr ⟨kept_required hcolumn fun v hv =>
      ColumnRef.restores v (hinside _ v hv).distinctKeys, ?_⟩
    exact List.forall_mem_singleton.mpr (kept_required hisNull fun v _ => restores_bool v)

namespace Filter

variable {ofJson : Json → Except Mismatch Filter} {value : Json}

theorem restores_list (h : RestoresInside ofJson toJson .filter value)
    (hvalue : value.DistinctKeys) :
    Restores (Decoder.buffered ofJson).list.ofJson (fun filters => array (listToJson filters))
      (.list .filter) value := by
  simp only [listToJson_eq_map]
  exact QueryTree.restores_list h hvalue

/-- The operands of a conjunction or disjunction. -/
theorem kept_operands {key : String} {found : Option Json} {operands : List Filter}
    (hoperands : (Decoder.buffered ofJson).list.Requires found operands)
    (h : RestoresInside ofJson toJson .filter value)
    (hinside : ∀ inner, found = some inner → Inside value inner) :
    some (array (listToJson operands)).canonical =
      (kept (Entry.required key (.list .filter)) found).map canonical :=
  (kept_required hoperands fun inner hinner =>
    restores_list (h.within (hinside inner hinner)) (hinside inner hinner).distinctKeys :)

theorem rewrites_and (h : RestoresInside ofJson toJson .filter value) :
    (andRecord (.buffered ofJson)).Rewrites [.required "and" (.list .filter)]
      (fun operands => [("and", some (.array (listToJson operands)))]) value where
  independent := independent_and _
  names := rfl
  keys _ := rfl
  parts _ _ hinside hsaid :=
    List.forall_mem_singleton.mpr (kept_operands (says_and_iff.mp hsaid) h (hinside _))

theorem rewrites_or (h : RestoresInside ofJson toJson .filter value) :
    (orRecord (.buffered ofJson)).Rewrites [.required "or" (.list .filter)]
      (fun operands => [("or", some (.array (listToJson operands)))]) value where
  independent := independent_or _
  names := rfl
  keys _ := rfl
  parts _ _ hinside hsaid :=
    List.forall_mem_singleton.mpr (kept_operands (says_or_iff.mp hsaid) h (hinside _))

theorem rewrites_not (h : RestoresInside ofJson toJson .filter value) :
    (notRecord (.buffered ofJson)).Rewrites [.required "not" .filter]
      (fun operand => [("not", some operand.toJson)]) value where
  independent := independent_not _
  names := rfl
  keys _ := rfl
  parts _ _ hinside hsaid :=
    List.forall_mem_singleton.mpr (kept_required (says_not_iff.mp hsaid)
      fun v hv => h v (hinside _ v hv))

end Filter

/-- **A filter is written as the value that it was decoded from.** -/
theorem Filter.restores (value : Json) (hvalue : value.DistinctKeys) :
    Restores ofJson toJson .filter value := by
  induction hdepth : value.depth using Nat.strong_induction_on generalizing value with
  | _ depth ih =>
    have hinside : RestoresInside ofJson toJson .filter value := fun inner hinner =>
      ih inner.depth (hdepth ▸ hinner.depth_lt) inner hinner.distinctKeys rfl
    intro filter hok
    rw [ofJson_eq, layer] at hok
    refine restores_byKey (.cons ⟨rfl, ?_⟩ (.cons ⟨rfl, ?_⟩ (.cons ⟨rfl, ?_⟩ (.cons ⟨rfl, ?_⟩
      (.cons ⟨rfl, ?_⟩ (.cons ⟨rfl, ?_⟩ (.cons ⟨rfl, ?_⟩ .nil))))))) filter hok
    · exact (ComparisonFilter.rewrites value).variant hvalue fun _ => rfl
    · exact (InFilter.rewrites value).variant hvalue fun _ => rfl
    · exact (LikeFilter.rewrites value).variant hvalue fun _ => rfl
    · exact (IsNullFilter.rewrites value).variant hvalue fun _ => rfl
    · exact (rewrites_and hinside).variant hvalue fun _ => rfl
    · exact (rewrites_or hinside).variant hvalue fun _ => rfl
    · exact (rewrites_not hinside).variant hvalue fun _ => rfl

end QueryTree
