import QueryTree.Proofs.RoundTrip
/-!
# Lossless nodes — a node is a value, and a value a node

The clauses and queries are written as the values that they were decoded
from, as columns and filters are. Together with the other direction, in
which a node is decoded from what it is written as, this makes every node
of the format `Lossless`.
-/

namespace QueryTree

open Json

/-! ## Clauses -/

/-- **An element of an ordering is written as the value that it was decoded
from.** -/
theorem OrderByElement.restores (value : Json) (hvalue : value.DistinctKeys) :
    Restores record.ofJson toJson .orderByElement value := by
  have hrewrites : record.Rewrites Place.orderByElement.parts
      (fun element => [
        ("column", some element.column.toJson),
        ("direction", textJson element.direction)]) value :=
    { independent := independent
      names := rfl
      keys _ := rfl
      parts element get hinside hsaid := by
        obtain ⟨hcolumn, hdirection⟩ := says_iff.mp hsaid
        refine List.forall_mem_cons.mpr ⟨kept_required hcolumn fun v hv =>
          ColumnRef.restores v (hinside _ v hv).distinctKeys, ?_⟩
        exact List.forall_mem_singleton.mpr
          (kept_optional hdirection fun v _ => restores_string v) }
  exact hrewrites.restores hvalue rfl rfl nofun fun _ => rfl

theorem OrderByElement.restores_elements (value : Json) (hvalue : value.DistinctKeys) :
    Restores record.decoder.list.ofJson (fun elements => array (elements.map toJson))
      (.list .orderByElement) value :=
  restores_list (fun inner hinner => restores inner hinner.distinctKeys) hvalue

theorem Column.restores_columns (value : Json) (hvalue : value.DistinctKeys) :
    Restores decoder.list.ofJson (fun columns => array (listToJson columns)) (.list .column)
      value :=
  restores_list (fun inner hinner => restores inner hinner.distinctKeys) hvalue

/-- **A distinct clause is written as the value that it was decoded
from.** -/
theorem Distinct.restores (value : Json) (hvalue : value.DistinctKeys) :
    Restores record.ofJson toJson .distinct value := by
  have hrewrites : record.Rewrites Place.distinct.parts
      (fun distinct => [
        ("columns", some (.array (Column.listToJson distinct.columns))),
        ("on", distinct.key.map Column.toJson)]) value :=
    { independent := independent
      names := rfl
      keys _ := rfl
      parts distinct get hinside hsaid := by
        obtain ⟨hcolumns, hkey⟩ := says_iff.mp hsaid
        refine List.forall_mem_cons.mpr ⟨(kept_required hcolumns fun v hv =>
          Column.restores_columns v (hinside _ v hv).distinctKeys :), ?_⟩
        exact List.forall_mem_singleton.mpr
          (kept_optional hkey fun v hv => Column.restores v (hinside _ v hv).distinctKeys) }
  exact hrewrites.restores hvalue rfl rfl nofun fun _ => rfl

/-! ## Queries -/

section Inside

variable {ofJson : Json → Except Mismatch Query} {value : Json}

theorem Table.optionToJson_eq_map (table : Option (Table Query)) :
    optionToJson table = table.map toJson := by
  cases table <;> rfl

theorem Join.optionToJson_eq_map (joins : Option (SingleOrList (Join Query))) :
    optionToJson joins = joins.map singleOrListToJson := by
  cases joins <;> rfl

/-- **A table is written as the value that it was decoded from** if a query
there is. -/
theorem Table.restores (h : Restores ofJson Query.toJson .query value) :
    Restores (Table.ofJson ofJson) toJson .query value := by
  intro table hok
  by_cases hname : ∃ n, value = .string n
  · obtain ⟨n, rfl⟩ := hname
    cases hok
    rfl
  · have hok : (ofJson value).map query = .ok table := by
      cases value with
      | string n => exact absurd ⟨n, rfl⟩ hname
      | _ => exact hok
    obtain ⟨query, hquery, rfl⟩ := map_eq_ok.mp hok
    exact h query hquery

/-- A table that may be missing. -/
theorem Table.kept_optional {key : String} {found : Option Json} {table : Option (Table Query)}
    (htable : (Decoder.buffered (Table.ofJson ofJson)).Permits found table)
    (h : RestoresInside ofJson Query.toJson .query value)
    (hinside : ∀ inner, found = some inner → Inside value inner) :
    (optionToJson table).map canonical =
      (kept (Entry.optional key .query) found).map canonical := by
  rw [optionToJson_eq_map]
  exact QueryTree.kept_optional htable fun inner hinner => restores (h inner (hinside inner hinner))

/-- **A join is written as the value that it was decoded from** if the
queries in it are. -/
theorem Join.restores (h : RestoresInside ofJson Query.toJson .query value)
    (hvalue : value.DistinctKeys) :
    Restores (record ofJson).ofJson toJson .join value := by
  have hrewrites : (record ofJson).Rewrites Place.join.parts
      (fun join => [
        ("type", some (.string join.kind)),
        ("table", Table.optionToJson join.table),
        ("alias", textJson join.aliasName),
        ("on", join.condition.map Filter.toJson)]) value :=
    { independent := independent _
      names := rfl
      keys _ := rfl
      parts join get hinside hsaid := by
        obtain ⟨hkind, htable, halias, hcondition⟩ := says_iff.mp hsaid
        refine List.forall_mem_cons.mpr ⟨kept_required hkind fun v _ => restores_string v, ?_⟩
        refine List.forall_mem_cons.mpr ⟨Table.kept_optional htable h (hinside _), ?_⟩
        refine List.forall_mem_cons.mpr ⟨kept_optional halias fun v _ => restores_string v, ?_⟩
        exact List.forall_mem_singleton.mpr
          (kept_optional hcondition fun v hv => Filter.restores v (hinside _ v hv).distinctKeys) }
  exact hrewrites.restores hvalue rfl rfl nofun fun ⟨_, _, _, _⟩ => rfl

/-- Where one join stands instead of a list, it is a join. -/
theorem normalize_joins (h : ∀ items, value ≠ .array items) :
    Json.normalize .joins value = Json.normalize .join value := by
  cases value with
  | array items => exact absurd rfl (h items)
  | _ => rfl

/-- **Joins are written as the value that they were decoded from** if the
queries in them are. -/
theorem Join.restores_singleOrList (h : RestoresInside ofJson Query.toJson .query value)
    (hvalue : value.DistinctKeys) :
    Restores (SingleOrList.ofJson (record ofJson).ofJson) singleOrListToJson .joins value := by
  intro joins hok
  by_cases hlist : ∃ items, value = .array items
  · obtain ⟨items, rfl⟩ := hlist
    obtain ⟨joins, hjoins, rfl⟩ := map_eq_ok.mp hok
    have hitems : ∀ item ∈ items, Restores (record ofJson).ofJson toJson .join item := by
      intro item hitem
      have hinside : Inside (.array items) item := ⟨depth_lt_of_mem hitem, hvalue.of_mem hitem⟩
      exact restores (h.within hinside) hinside.distinctKeys
    have hcanonical := restores_items hitems hjoins
    rwa [← listToJson_eq_map] at hcanonical
  · have hnot : ∀ items, value ≠ .array items := fun items heq => hlist ⟨items, heq⟩
    have hok : ((record ofJson).ofJson value).map SingleOrList.single = .ok joins := by
      cases value with
      | array items => exact absurd rfl (hnot items)
      | _ => exact hok
    obtain ⟨join, hjoin, rfl⟩ := map_eq_ok.mp hok
    rw [normalize_joins hnot]
    exact restores h hvalue join hjoin

/-- Joins that may be missing. -/
theorem Join.kept_optional {key : String} {found : Option Json}
    {joins : Option (SingleOrList (Join Query))}
    (hjoins : (Decoder.buffered (SingleOrList.ofJson (record ofJson).ofJson)).Permits found joins)
    (h : RestoresInside ofJson Query.toJson .query value)
    (hinside : ∀ inner, found = some inner → Inside value inner) :
    (optionToJson joins).map canonical =
      (kept (Entry.optional key .joins) found).map canonical := by
  rw [optionToJson_eq_map]
  exact QueryTree.kept_optional hjoins fun inner hinner =>
    restores_singleOrList (h.within (hinside inner hinner)) (hinside inner hinner).distinctKeys

end Inside

/-- **A query is written as the value that it was decoded from.** -/
theorem Query.restores (value : Json) (hvalue : value.DistinctKeys) :
    Restores ofJson toJson .query value := by
  induction hdepth : value.depth using Nat.strong_induction_on generalizing value with
  | _ depth ih =>
    have h : RestoresInside ofJson toJson .query value := fun inner hinner =>
      ih inner.depth (hdepth ▸ hinner.depth_lt) inner hinner.distinctKeys rfl
    have hrewrites : (record ofJson).Rewrites Place.query.parts
        (fun query => [
          ("action", textJson query.action),
          ("table", Table.optionToJson query.table),
          ("alias", textJson query.aliasName),
          ("columns", query.columns.map fun columns => .array (Column.listToJson columns)),
          ("filter", query.filter.map Filter.toJson),
          ("join", Join.optionToJson query.join),
          ("group_by", query.groupBy.map fun columns => .array (Column.listToJson columns)),
          ("having", query.having.map Filter.toJson),
          ("order_by",
            query.orderBy.map fun elements => .array (elements.map OrderByElement.toJson)),
          ("limit", query.limit.map countJson),
          ("offset", query.offset.map countJson),
          ("distinct", query.distinct.map Distinct.toJson)]) value :=
      { independent := independent _
        names := rfl
        keys _ := rfl
        parts query get hinside hsaid := by
          obtain ⟨haction, htable, halias, hcolumns, hfilter, hjoin, hgroupBy, hhaving, horderBy,
            hlimit, hoffset, hdistinct⟩ := says_iff.mp hsaid
          simp only [Place.parts, List.forall_mem_cons]
          exact ⟨kept_optional haction fun v _ => restores_string v,
            Table.kept_optional htable h (hinside _),
            kept_optional halias fun v _ => restores_string v,
            kept_optional hcolumns fun v hv =>
              Column.restores_columns v (hinside _ v hv).distinctKeys,
            kept_optional hfilter fun v hv => Filter.restores v (hinside _ v hv).distinctKeys,
            Join.kept_optional hjoin h (hinside _),
            kept_optional hgroupBy fun v hv =>
              Column.restores_columns v (hinside _ v hv).distinctKeys,
            kept_optional hhaving fun v hv => Filter.restores v (hinside _ v hv).distinctKeys,
            kept_optional horderBy fun v hv =>
              OrderByElement.restores_elements v (hinside _ v hv).distinctKeys,
            kept_optional hlimit fun v _ => restores_uint64 v,
            kept_optional hoffset fun v _ => restores_uint64 v,
            kept_optional hdistinct fun v hv => Distinct.restores v (hinside _ v hv).distinctKeys,
            fun _ hentry => nomatch hentry⟩ }
    intro query hok
    rw [ofJson_eq] at hok
    exact hrewrites.restores hvalue rfl rfl nofun (fun query => by cases query; rfl) query hok

/-! ## Both directions -/

variable {β : Type}

theorem Place.nodup_entries (place : Place) (has : String → Bool) :
    ((place.entries has).map Entry.key).Nodup := by
  have hvariants : ∀ variant ∈ place.variants, (variant.2.map Entry.key).Nodup := by
    cases place with
    | list item => exact fun _ h => nomatch h
    | _ => decide
  have hparts : (place.parts.map Entry.key).Nodup := by
    cases place with
    | list item => exact List.nodup_nil
    | _ => decide
  rw [entries]
  split
  · rename_i variant hvariant
    exact hvariants variant (List.mem_of_find?_eq_some hvariant)
  · exact hparts

/-- **A node that a value determines and that determines the value,** up to
the form of the latter. -/
structure Lossless (decoder : Decoder β) (encode : β → Json) (place : Place)
    (literals : β → List Json) : Prop where
  /-- A node is decoded from what it is written as. -/
  decode_encode : ∀ n : β, (∀ literal ∈ literals n, literal.canonical = literal) →
    decoder.decode (encode n).canonical = .ok n
  /-- What is decoded of a value is written as its one form. -/
  encode_decode : ∀ (value : Json) (n : β), decoder.decode value.canonical = .ok n →
    (encode n).canonical = (Json.normalize place value.canonical).canonical
  /-- No key is passed over: each is written again, or it said that an
  optional part is missing. -/
  keys : ∀ (value : Json) (members : List (String × Json)) (n : β),
    value.canonical = object members → decoder.decode value.canonical = .ok n →
    ∀ key found, members.lookup key = some found →
      (∃ written, (encode n).canonical = object written ∧ (written.lookup key).isSome) ∨
      found = .null ∧ ∃ entry ∈ place.entries fun key => (members.lookup key).isSome,
        entry.key = key ∧ entry.isNullable = true

/-- A key of an object is in the one form of the object, unless it says that
an optional part is missing. -/
theorem isSome_lookup_normalize {entries : List Entry} {members : List (String × Json)}
    (hentries : (entries.map Entry.key).Nodup) (hnodup : (members.map Prod.fst).Nodup)
    {key : String} {found : Json} (hfound : members.lookup key = some found) :
    ((complete entries (normalizeMembers entries members)).lookup key).isSome ∨
      found = .null ∧ ∃ entry ∈ entries, entry.key = key ∧ entry.isNullable = true := by
  rw [lookup_complete_normalizeMembers hentries hnodup, keptUnder, hfound]
  cases hentry : entries.find? fun entry => entry.key = key with
  | none => exact .inl rfl
  | some entry =>
    by_cases h : entry.isNullable = false ∨ found ≠ .null
    · refine .inl ?_
      change ((keep entry found).or entry.default).isSome = true
      rw [keep_eq_some h]
      rfl
    · obtain ⟨hnullable, hnull⟩ := not_or.mp h
      exact .inr ⟨not_not.mp hnull, entry, List.mem_of_find?_eq_some hentry,
        by simpa using List.find?_some hentry, by simpa using hnullable⟩

theorem Lossless.of_restores {decoder : Decoder β} {encode : β → Json} {place : Place}
    {literals : β → List Json}
    (hencode : ∀ n, (∀ literal ∈ literals n, literal.canonical = literal) →
      decoder.ofJson (encode n).canonical = .ok n)
    (hrestores : ∀ value, value.DistinctKeys → Restores decoder.ofJson encode place value) :
    Lossless decoder encode place literals where
  decode_encode n hn := mapError_eq_ok.mpr (hencode n hn)
  encode_decode value n hok :=
    hrestores _ (distinctKeys_canonical value) n (mapError_eq_ok.mp hok)
  keys value members n hvalue hok key found hfound := by
    have hdistinct := distinctKeys_canonical value
    have hcanonical := hrestores _ hdistinct n (mapError_eq_ok.mp hok)
    rw [hvalue] at hdistinct hcanonical
    have hentries := place.nodup_entries fun key => (members.lookup key).isSome
    have hnodup := nodup_complete_normalizeMembers hentries hdistinct.1
    refine (isSome_lookup_normalize hentries hdistinct.1 hfound).imp_left fun hkept => ?_
    refine ⟨_, hcanonical, ?_⟩
    rwa [lookup_canonicalMembers hnodup, Option.isSome_map]

/-- **Nothing is lost between a node and its value.** Every node of the
format is decoded from what it is written as, and every value that decodes
to one is written as it was, in its one form. -/
theorem lossless_nodes :
    Lossless Query.decoder Query.toJson .query Query.literals ∧
    Lossless Column.decoder Column.toJson .column Column.literals ∧
    Lossless ColumnRef.decoder ColumnRef.toJson .column (fun ref => ref.toColumn.literals) ∧
    Lossless Filter.decoder Filter.toJson .filter Filter.literals ∧
    Lossless Table.decoder Table.toJson .query Table.literals ∧
    Lossless Join.listDecoder Join.singleOrListToJson .joins Join.singleOrListLiterals ∧
    Lossless OrderByElement.record.decoder OrderByElement.toJson .orderByElement
      (fun element => element.column.toColumn.literals) ∧
    Lossless Distinct.record.decoder Distinct.toJson .distinct Distinct.literals := by
  refine ⟨.of_restores Query.ofJson_toJson Query.restores,
    .of_restores Column.ofJson_toJson Column.restores,
    .of_restores ColumnRef.ofJson_toJson ColumnRef.restores,
    .of_restores Filter.ofJson_toJson Filter.restores,
    .of_restores Table.ofJson_toJson fun value hvalue =>
      Table.restores (Query.restores value hvalue),
    .of_restores Join.singleOrList_ofJson_toJson fun value hvalue =>
      Join.restores_singleOrList
        (fun inner hinner => Query.restores inner hinner.distinctKeys) hvalue,
    .of_restores OrderByElement.ofJson_toJson OrderByElement.restores,
    .of_restores Distinct.ofJson_toJson Distinct.restores⟩

/-- A list of joins of which one is a list itself, with `null` for its
alias and two literals in its condition. -/
theorem lossless_leftJoin :
    let years : List Json := [.number (.int 1990), .number (.int 1991)]
    let condition := object [("column", .string "year"), ("in", array years)]
    let value := array [array [.string "left", .string "tracks", .null, condition]]
    let joins := SingleOrList.list [{
      kind := "left", table := some (.name "tracks")
      condition := some (.membership { column := .name "year", values := years }) }]
    Join.listDecoder.decode value.canonical = .ok joins ∧
      Join.singleOrListLiterals joins = years ∧ (∀ literal ∈ years, literal.canonical = literal) ∧
      (Join.singleOrListToJson joins).canonical =
        (Json.normalize .joins value.canonical).canonical ∧
      Join.listDecoder.decode (Join.singleOrListToJson joins).canonical = .ok joins := by
  intro years condition value joins
  have hdecode : Join.listDecoder.decode value.canonical = .ok joins := rfl
  have hliterals : Join.singleOrListLiterals joins = years := rfl
  have hcanonical : ∀ literal ∈ years, literal.canonical = literal :=
    List.forall_mem_cons.mpr ⟨rfl, List.forall_mem_singleton.mpr rfl⟩
  obtain ⟨-, -, -, -, -, hjoins, -, -⟩ := lossless_nodes
  exact ⟨hdecode, hliterals, hcanonical, hjoins.encode_decode value joins hdecode,
    hjoins.decode_encode joins (hliterals ▸ hcanonical)⟩

end QueryTree
