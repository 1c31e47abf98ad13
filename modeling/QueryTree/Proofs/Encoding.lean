import QueryTree.Node.Encode
import QueryTree.Proofs.Binding
import QueryTree.Proofs.Entries
import QueryTree.Proofs.Nesting
/-!
# Encoding — decoding undoes encoding

What a node is written as denotes an object with its keys in ascending
order, and what is found there under a key is what was written for it
(`Json.written`). So decoding goes key by key: each part of a node is
found as it was written, and the variant that the keys select is the one
that was written. The literals of a node are values in memory themselves,
that is, each denotes itself.
-/

namespace QueryTree

/-! ## Objects that were written -/

namespace Json

/-- **What is found under a key of a written object,** of whose members some
may be missing. -/
def written (members : List (String × Option Json)) (key : String) : Option Json :=
  (members.lookup key).join.map canonical

/-- What a written object denotes. -/
theorem canonical_ofMembers {members : List (String × Option Json)}
    (hnodup : (members.map Prod.fst).Nodup) :
    ∃ sorted, (ofMembers members).canonical = object sorted ∧ (sorted.map Prod.fst).Nodup ∧
      ∀ key, sorted.lookup key = written members key := by
  have hkeys := hnodup.sublist (map_fst_present_sublist members)
  refine ⟨_, rfl, (ascending_canonicalMembers ascending_nil _).nodup, fun key => ?_⟩
  change (canonicalMembers [] (present members)).lookup key = _
  rw [lookup_canonicalMembers hkeys, lookup_present hnodup]
  rfl

end Json

open Json

variable {α β σ : Type}

/-- **A record of a written object** is what its fields say of what was
written. -/
theorem Record.ofJson_ofMembers_iff {record : Record σ} (h : record.Independent) {n : σ}
    {members : List (String × Option Json)} (hnames : members.map Prod.fst = record.names) :
    record.ofJson (ofMembers members).canonical = .ok n ↔ record.Says (written members) n := by
  obtain ⟨sorted, hsorted, hnodup, hlookup⟩ := canonical_ofMembers (hnames ▸ h.nodup)
  rw [hsorted, Record.ofJson_object_iff h hnodup, funext hlookup, and_iff_right]
  intro key hkey
  rw [← isSome_lookup_iff, hlookup, written, Option.isSome_map] at hkey
  rw [← hnames, ← isSome_lookup_iff]
  revert hkey
  cases members.lookup key <;> simp

/-- **The variant of a written object** is that of the first key which was
written. -/
theorem Decoder.byKey_ofMembers {node key : String} {record : Record σ} (h : record.Independent)
    {wrap : σ → α} {members : List (String × Option Json)}
    {variants : List (String × (Json → Except Mismatch α))}
    (hnames : members.map Prod.fst = record.names)
    (hkey : variants.find? (fun variant => (written members variant.1).isSome) =
      some (key, fun value => (record.ofJson value).map wrap))
    {n : σ} (hsaid : record.Says (written members) n) :
    byKey node variants (ofMembers members).canonical = .ok (wrap n) := by
  obtain ⟨sorted, hsorted, -, hlookup⟩ := canonical_ofMembers (hnames ▸ h.nodup)
  have hrecord := (Record.ofJson_ofMembers_iff h hnames).mpr hsaid
  simp only [← hlookup] at hkey
  rw [hsorted, byKey, hkey, ← hsorted]
  exact congrArg (Except.map wrap) hrecord

/-! ## Parts that were written -/

namespace Decoder

/-- A part that is always written. -/
theorem requires_of_ok {decoder : Decoder β} {value : Json} {b : β}
    (h : decoder.ofJson value = .ok b) : decoder.Requires (some value) b :=
  ⟨value, rfl, h⟩

/-- A part that is written unless it is missing, for a decoder that refuses
`null`. -/
theorem permits_map {decoder : Decoder β} {encode : β → Json} {part : Option β}
    (hnull : ∀ b, decoder.ofJson .null ≠ .ok b)
    (h : ∀ b ∈ part, decoder.ofJson (encode b).canonical = .ok b) :
    decoder.Permits ((part.map encode).map canonical) part := by
  cases part with
  | none => exact .inl ⟨rfl, rfl⟩
  | some b =>
    have hb := h b rfl
    refine permits_iff.mpr (.inr ⟨_, b, rfl, fun heq => hnull b ?_, rfl, hb⟩)
    rwa [← heq]

theorem permits_textJson (text : Option String) :
    Decoder.string.Permits ((textJson text).map canonical) text :=
  permits_map (fun _ h => nomatch h) fun _ _ => rfl

/-- A list that was written item by item. -/
theorem list_ofJson_map {decoder : Decoder β} {encode : β → Json} {parts : List β}
    (h : ∀ b ∈ parts, decoder.ofJson (encode b).canonical = .ok b) :
    decoder.list.ofJson (array (parts.map encode)).canonical = .ok parts := by
  rw [canonical_array]
  change itemsOfJson decoder.ofJson _ = _
  induction parts with
  | nil => rfl
  | cons b parts ih =>
    obtain ⟨hb, hparts⟩ := List.forall_mem_cons.mp h
    rw [List.map_cons, List.map_cons, itemsOfJson, hb]
    dsimp only
    rw [ih hparts]
    rfl

theorem pow_eq_natCast (bits : Nat) : Int.pow 2 bits = (Nat.pow 2 bits : Int) := by
  induction bits with
  | zero => rfl
  | succ bits ih =>
    change Int.pow 2 bits * 2 = ((Nat.pow 2 bits * 2 : Nat) : Int)
    rw [Int.natCast_mul, ← ih]
    rfl

/-- The values that are natural numbers of so many bits. -/
theorem natural_ofJson_iff {bits n : Nat} {value : Json} :
    (natural bits).ofJson value = .ok n ↔ n < Nat.pow 2 bits ∧ value = .number (.int n) := by
  constructor
  · intro h
    rcases value with _ | _ | (k | x) | _ | _ | _
    case number.int =>
      by_cases hbound : 0 ≤ k ∧ k < Int.pow 2 bits
      · obtain rfl : k.toNat = n := Except.ok.inj ((if_pos hbound).symm.trans h)
        obtain ⟨hnonneg, hlt⟩ := hbound
        rw [pow_eq_natCast] at hlt
        exact ⟨(Int.toNat_lt hnonneg).mpr hlt, by rw [Int.toNat_of_nonneg hnonneg]⟩
      · cases (if_neg hbound).symm.trans h
    all_goals cases h
  · rintro ⟨hlt, rfl⟩
    have hbound : (n : Int) < Int.pow 2 bits := by
      rw [pow_eq_natCast]
      exact Int.ofNat_lt.mpr hlt
    exact if_pos ⟨Int.natCast_nonneg n, hbound⟩

theorem uint64_ofJson_countJson (n : UInt64) : uint64.ofJson (countJson n).canonical = .ok n := by
  have hnatural := natural_ofJson_iff.mpr ⟨n.toNat_lt, rfl⟩
  have hcanonical : (countJson n).canonical = .number (.int n.toNat) := by
    rw [countJson, canonical]
    all_goals exact fun _ => nofun
  rw [uint64, map, hcanonical]
  dsimp only
  rw [hnatural, Except.map, UInt64.ofNat_toNat]

end Decoder

/-! ## Columns -/

theorem Column.listToJson_eq_map (columns : List Column) :
    listToJson columns = columns.map toJson := by
  induction columns with
  | nil => rfl
  | cons column columns ih => rw [listToJson, ih, List.map_cons]

mutual

/-- **A column is decoded from what it is written as,** as the same
variant. -/
theorem Column.ofJson_toJson : ∀ column : Column,
    (∀ literal ∈ column.literals, literal.canonical = literal) →
      ofJson column.toJson.canonical = .ok column
  | .named column, _ => by
    rw [ofJson_eq, layer]
    exact Decoder.byKey_ofMembers NamedColumn.independent rfl rfl (NamedColumn.says_iff.mpr
      ⟨Decoder.requires_of_ok rfl, Decoder.permits_textJson _, Decoder.permits_textJson _⟩)
  | .function ⟨name, parameters, aliasName⟩, h => by
    have hparameters : (Decoder.buffered ofJson).list.ofJson
        (array (listToJson parameters)).canonical = .ok parameters := by
      rw [listToJson_eq_map]
      exact Decoder.list_ofJson_map (ofJson_toJson_of_mem parameters h)
    rw [ofJson_eq, layer]
    exact Decoder.byKey_ofMembers (FunctionColumn.independent _) rfl rfl
      (FunctionColumn.says_iff.mpr
        ⟨Decoder.requires_of_ok rfl, .inr ⟨_, rfl, hparameters⟩, Decoder.permits_textJson _⟩)
  | .value literal, h => by
    have hvalue : Decoder.json.ofJson literal.value.canonical = .ok literal.value :=
      congrArg Except.ok (h literal.value List.mem_cons_self)
    rw [ofJson_eq, layer]
    exact Decoder.byKey_ofMembers ValueColumn.independent rfl rfl (ValueColumn.says_iff.mpr
      ⟨Decoder.requires_of_ok hvalue, Decoder.permits_textJson _, Decoder.permits_textJson _⟩)

theorem Column.ofJson_toJson_of_mem : ∀ columns : List Column,
    (∀ literal ∈ literalsAll columns, literal.canonical = literal) →
      ∀ column ∈ columns, ofJson column.toJson.canonical = .ok column
  | [], _ => fun _ h => nomatch h
  | column :: columns, h => by
    obtain ⟨hcolumn, hcolumns⟩ := List.forall_mem_append.mp h
    exact List.forall_mem_cons.mpr
      ⟨ofJson_toJson column hcolumn, ofJson_toJson_of_mem columns hcolumns⟩

end

theorem ColumnRef.ofJson_toJson (ref : ColumnRef)
    (h : ∀ literal ∈ ref.toColumn.literals, literal.canonical = literal) :
    ofJson ref.toJson.canonical = .ok ref := by
  cases ref with
  | name n => rfl
  | column c =>
    have hcolumn := congrArg (Except.map column) (c.ofJson_toJson h)
    cases c <;> exact hcolumn

/-! ## Filters -/

theorem Filter.listToJson_eq_map (filters : List Filter) :
    listToJson filters = filters.map toJson := by
  induction filters with
  | nil => rfl
  | cons filter filters ih => rw [listToJson, ih, List.map_cons]

theorem Decoder.json_list_ofJson {values : List Json}
    (h : ∀ value ∈ values, value.canonical = value) :
    Decoder.json.list.ofJson (array values).canonical = .ok values := by
  have hitems : ∀ value ∈ values, Decoder.json.ofJson (id value).canonical = .ok value :=
    fun value hvalue => congrArg Except.ok (h value hvalue)
  have hlist := list_ofJson_map hitems
  rwa [List.map_id] at hlist

theorem Column.permits_toJson {part : Option Column}
    (h : ∀ literal ∈ part.elim [] literals, literal.canonical = literal) :
    decoder.Permits ((part.map toJson).map canonical) part := by
  refine Decoder.permits_map (fun _ hnull => nomatch hnull) ?_
  rintro column rfl
  exact column.ofJson_toJson h

mutual

/-- **A filter is decoded from what it is written as,** as the same
variant. -/
theorem Filter.ofJson_toJson : ∀ filter : Filter,
    (∀ literal ∈ filter.literals, literal.canonical = literal) →
      ofJson filter.toJson.canonical = .ok filter
  | .comparison filter, h => by
    obtain ⟨h, hright⟩ := List.forall_mem_append.mp h
    obtain ⟨hcolumn, hvalue⟩ := List.forall_mem_append.mp h
    have hfound : filter.value = filter.value.map canonical := by
      cases hv : filter.value with
      | none => rfl
      | some value => exact congrArg some (hvalue value (by simp [hv])).symm
    rw [ofJson_eq, layer]
    exact Decoder.byKey_ofMembers ComparisonFilter.independent rfl rfl
      (ComparisonFilter.says_iff.mpr
        ⟨Decoder.requires_of_ok (filter.column.ofJson_toJson hcolumn), Decoder.requires_of_ok rfl,
          hfound, Column.permits_toJson hright⟩)
  | .membership filter, h => by
    obtain ⟨hcolumn, hvalues⟩ := List.forall_mem_append.mp h
    rw [ofJson_eq, layer]
    exact Decoder.byKey_ofMembers InFilter.independent rfl rfl (InFilter.says_iff.mpr
      ⟨Decoder.requires_of_ok (filter.column.ofJson_toJson hcolumn),
        Decoder.requires_of_ok (Decoder.json_list_ofJson hvalues)⟩)
  | .like filter, h => by
    obtain ⟨hcolumn, hpattern⟩ := List.forall_mem_append.mp h
    have hjson : Decoder.json.ofJson filter.pattern.canonical = .ok filter.pattern :=
      congrArg Except.ok (hpattern filter.pattern List.mem_cons_self)
    rw [ofJson_eq, layer]
    exact Decoder.byKey_ofMembers LikeFilter.independent rfl rfl (LikeFilter.says_iff.mpr
      ⟨Decoder.requires_of_ok (filter.column.ofJson_toJson hcolumn),
        Decoder.requires_of_ok hjson⟩)
  | .isNull filter, h => by
    rw [ofJson_eq, layer]
    exact Decoder.byKey_ofMembers IsNullFilter.independent rfl rfl (IsNullFilter.says_iff.mpr
      ⟨Decoder.requires_of_ok (filter.column.ofJson_toJson h), Decoder.requires_of_ok rfl⟩)
  | .and operands, h => by
    have hoperands : (Decoder.buffered ofJson).list.ofJson (array (listToJson operands)).canonical =
        .ok operands := by
      rw [listToJson_eq_map]
      exact Decoder.list_ofJson_map (ofJson_toJson_of_mem operands h)
    rw [ofJson_eq, layer]
    exact Decoder.byKey_ofMembers (independent_and _) rfl rfl
      (says_and_iff.mpr (Decoder.requires_of_ok hoperands))
  | .or operands, h => by
    have hoperands : (Decoder.buffered ofJson).list.ofJson (array (listToJson operands)).canonical =
        .ok operands := by
      rw [listToJson_eq_map]
      exact Decoder.list_ofJson_map (ofJson_toJson_of_mem operands h)
    rw [ofJson_eq, layer]
    exact Decoder.byKey_ofMembers (independent_or _) rfl rfl
      (says_or_iff.mpr (Decoder.requires_of_ok hoperands))
  | .not operand, h => by
    rw [ofJson_eq, layer]
    exact Decoder.byKey_ofMembers (independent_not _) rfl rfl
      (says_not_iff.mpr (Decoder.requires_of_ok (ofJson_toJson operand h)))

theorem Filter.ofJson_toJson_of_mem : ∀ filters : List Filter,
    (∀ literal ∈ literalsAll filters, literal.canonical = literal) →
      ∀ filter ∈ filters, ofJson filter.toJson.canonical = .ok filter
  | [], _ => fun _ h => nomatch h
  | filter :: filters, h => by
    obtain ⟨hfilter, hfilters⟩ := List.forall_mem_append.mp h
    exact List.forall_mem_cons.mpr
      ⟨ofJson_toJson filter hfilter, ofJson_toJson_of_mem filters hfilters⟩

end

theorem Filter.permits_toJson {part : Option Filter}
    (h : ∀ literal ∈ part.elim [] literals, literal.canonical = literal) :
    decoder.Permits ((part.map toJson).map canonical) part := by
  refine Decoder.permits_map (fun _ hnull => nomatch hnull) ?_
  rintro filter rfl
  exact filter.ofJson_toJson h

/-! ## Clauses -/

theorem OrderByElement.ofJson_toJson (element : OrderByElement)
    (h : ∀ literal ∈ element.column.toColumn.literals, literal.canonical = literal) :
    record.ofJson element.toJson.canonical = .ok element :=
  (Record.ofJson_ofMembers_iff independent rfl).mpr (says_iff.mpr
    ⟨Decoder.requires_of_ok (element.column.ofJson_toJson h), Decoder.permits_textJson _⟩)

theorem Column.list_ofJson_toJson {columns : List Column}
    (h : ∀ literal ∈ literalsAll columns, literal.canonical = literal) :
    decoder.list.ofJson (array (listToJson columns)).canonical = .ok columns := by
  rw [listToJson_eq_map]
  exact Decoder.list_ofJson_map (ofJson_toJson_of_mem columns h)

theorem Column.list_permits_toJson {part : Option (List Column)}
    (h : ∀ literal ∈ part.elim [] literalsAll, literal.canonical = literal) :
    decoder.list.Permits ((part.map fun columns => array (listToJson columns)).map canonical)
      part := by
  refine Decoder.permits_map (fun _ hnull => nomatch hnull) ?_
  rintro columns rfl
  exact list_ofJson_toJson h

theorem Distinct.ofJson_toJson (distinct : Distinct)
    (h : ∀ literal ∈ distinct.literals, literal.canonical = literal) :
    record.ofJson distinct.toJson.canonical = .ok distinct := by
  obtain ⟨hkey, hcolumns⟩ := List.forall_mem_append.mp h
  exact (Record.ofJson_ofMembers_iff independent rfl).mpr (says_iff.mpr
    ⟨Decoder.requires_of_ok (Column.list_ofJson_toJson hcolumns), Column.permits_toJson hkey⟩)

/-! ## Queries -/

theorem Join.listToJson_eq_map (joins : List (Join Query)) :
    listToJson joins = joins.map toJson := by
  induction joins with
  | nil => rfl
  | cons join joins ih => rw [listToJson, ih, List.map_cons]

mutual

/-- **A query is decoded from what it is written as.** -/
theorem Query.ofJson_toJson : ∀ query : Query,
    (∀ literal ∈ query.literals, literal.canonical = literal) →
      Query.ofJson query.toJson.canonical = .ok query
  | ⟨action, table, aliasName, columns, filter, join, groupBy, having, orderBy, limit, offset,
      distinct⟩, h => by
    obtain ⟨h, horderBy⟩ := List.forall_mem_append.mp h
    obtain ⟨h, hhaving⟩ := List.forall_mem_append.mp h
    obtain ⟨h, hgroupBy⟩ := List.forall_mem_append.mp h
    obtain ⟨h, hfilter⟩ := List.forall_mem_append.mp h
    obtain ⟨h, hjoin⟩ := List.forall_mem_append.mp h
    obtain ⟨h, htable⟩ := List.forall_mem_append.mp h
    obtain ⟨hdistinct, hcolumns⟩ := List.forall_mem_append.mp h
    rw [Query.ofJson_eq]
    refine (Record.ofJson_ofMembers_iff (Query.independent _) rfl).mpr (Query.says_iff.mpr
      ⟨Decoder.permits_textJson _, Table.permits_toJson table htable, Decoder.permits_textJson _,
        Column.list_permits_toJson hcolumns, Filter.permits_toJson hfilter,
        Join.permits_toJson join hjoin, Column.list_permits_toJson hgroupBy,
        Filter.permits_toJson hhaving, ?_, ?_, ?_, ?_⟩)
    · refine Decoder.permits_map (fun _ hnull => nomatch hnull) ?_
      rintro elements rfl
      refine Decoder.list_ofJson_map fun element helement => element.ofJson_toJson fun l hl => ?_
      exact horderBy l (List.mem_flatMap.mpr ⟨element, helement, hl⟩)
    · exact Decoder.permits_map (fun _ hnull => nomatch hnull)
        fun n _ => Decoder.uint64_ofJson_countJson n
    · exact Decoder.permits_map (fun _ hnull => nomatch hnull)
        fun n _ => Decoder.uint64_ofJson_countJson n
    · refine Decoder.permits_map (fun _ hnull => nomatch hnull) ?_
      rintro distinct rfl
      exact distinct.ofJson_toJson hdistinct

theorem Table.ofJson_toJson : ∀ table : Table Query,
    (∀ literal ∈ Table.literals table, literal.canonical = literal) →
      Table.ofJson Query.ofJson (Table.toJson table).canonical = .ok table
  | .name _, _ => rfl
  | .query inner, h => by
    have hinner := congrArg (Except.map Table.query) (Query.ofJson_toJson inner h)
    cases inner
    exact hinner

theorem Table.permits_toJson : ∀ table : Option (Table Query),
    (∀ literal ∈ Table.optionLiterals table, literal.canonical = literal) →
      (Decoder.buffered (Table.ofJson Query.ofJson)).Permits
        ((Table.optionToJson table).map canonical) table
  | none, _ => .inl ⟨rfl, rfl⟩
  | some table, h => by
    have hpermits : (Decoder.buffered (Table.ofJson Query.ofJson)).Permits
        (((some table).map Table.toJson).map canonical) (some table) := by
      refine Decoder.permits_map (fun _ hnull => nomatch hnull) ?_
      rintro _ ⟨⟩
      exact Table.ofJson_toJson table h
    exact hpermits

theorem Join.ofJson_toJson : ∀ join : Join Query,
    (∀ literal ∈ Join.literals join, literal.canonical = literal) →
      (Join.record Query.ofJson).ofJson (Join.toJson join).canonical = .ok join
  | ⟨kind, table, aliasName, condition⟩, h => by
    obtain ⟨htable, hcondition⟩ := List.forall_mem_append.mp h
    exact (Record.ofJson_ofMembers_iff (Join.independent _) rfl).mpr (Join.says_iff.mpr
      ⟨Decoder.requires_of_ok rfl, Table.permits_toJson table htable, Decoder.permits_textJson _,
        Filter.permits_toJson hcondition⟩)

theorem Join.ofJson_toJson_of_mem : ∀ joins : List (Join Query),
    (∀ literal ∈ Join.listLiterals joins, literal.canonical = literal) →
      ∀ join ∈ joins, (Join.record Query.ofJson).ofJson (Join.toJson join).canonical = .ok join
  | [], _ => fun _ h => nomatch h
  | join :: joins, h => by
    obtain ⟨hjoin, hjoins⟩ := List.forall_mem_append.mp h
    exact List.forall_mem_cons.mpr
      ⟨Join.ofJson_toJson join hjoin, Join.ofJson_toJson_of_mem joins hjoins⟩

theorem Join.singleOrList_ofJson_toJson : ∀ joins : SingleOrList (Join Query),
    (∀ literal ∈ Join.singleOrListLiterals joins, literal.canonical = literal) →
      SingleOrList.ofJson (Join.record Query.ofJson).ofJson
        (Join.singleOrListToJson joins).canonical = .ok joins
  | .single join, h => by
    have hjoin := congrArg (Except.map SingleOrList.single) (Join.ofJson_toJson join h)
    -- one join is written as an object, so it is not taken for a list
    cases join
    exact hjoin
  | .list joins, h => by
    have hjoins : Join.decoder.list.ofJson (array (Join.listToJson joins)).canonical =
        .ok joins := by
      rw [Join.listToJson_eq_map]
      exact Decoder.list_ofJson_map (Join.ofJson_toJson_of_mem joins h)
    exact congrArg (Except.map SingleOrList.list) hjoins

theorem Join.permits_toJson : ∀ joins : Option (SingleOrList (Join Query)),
    (∀ literal ∈ Join.optionLiterals joins, literal.canonical = literal) →
      (Decoder.buffered (SingleOrList.ofJson (Join.record Query.ofJson).ofJson)).Permits
        ((Join.optionToJson joins).map canonical) joins
  | none, _ => .inl ⟨rfl, rfl⟩
  | some joins, h => by
    have hpermits :
        (Decoder.buffered (SingleOrList.ofJson (Join.record Query.ofJson).ofJson)).Permits
        (((some joins).map Join.singleOrListToJson).map canonical) (some joins) := by
      refine Decoder.permits_map (fun _ hnull => nomatch hnull) ?_
      rintro _ ⟨⟩
      exact Join.singleOrList_ofJson_toJson joins h
    exact hpermits

end

end QueryTree
