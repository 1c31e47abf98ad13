import QueryTree.Proofs.Encoding
import QueryTree.Proofs.Grammar
/-!
# Streaming — a text is read as the value that it denotes

A decoder reads a value straight from a text, or decodes what the text
denotes in memory. Where any value can be read at all, both do the same
(`Decoder.Follows`): each reader goes through the items and members in the
same steps as the reader of any value does. A record sees its members in
the order of the text and in memory in the order of their keys, which
makes no difference to it (`Record.toOption_ofJson_canonical`).
-/

namespace QueryTree

open Json

variable {α β σ : Type}

/-! ## What is left of a result without its reason -/

namespace Reader

theorem toOption_closeList (inside : Scanned α) :
    (closeList inside).toOption =
      inside.toOption.bind fun found => (endList found.2).toOption.map (found.1, ·) := by
  cases inside with
  | ok found => exact QueryTree.toOption_map _ _
  | error fault => rfl

theorem toOption_closeObject (inside : Scanned α) :
    (closeObject inside).toOption =
      inside.toOption.bind fun found => (endObject found.2).toOption.map (found.1, ·) := by
  cases inside with
  | ok found => exact QueryTree.toOption_map _ _
  | error fault => rfl

theorem toOption_closeList_andThen (scanned : Scanned α) (next : α → List Char → Scanned β) :
    (closeList (scanned.andThen next)).toOption =
      scanned.toOption.bind fun found => (closeList (next found.1 found.2)).toOption := by
  cases scanned <;> rfl

/-- Where there is another item, the list does not end. -/
theorem toOption_endList_of_nextItem {isFirst : Bool} {text itemText : List Char}
    (h : nextItem isFirst text = .ok (true, itemText)) :
    (endList text).toOption = none := by
  rw [nextItem] at h
  unfold endList
  split at h
  · cases h
  · cases h
  · rename_i c rest hnot htext
    rw [htext]
    split
    · rfl
    · rename_i heq
      cases heq
      exact (hnot rfl).elim
    · split <;> rfl
    · rfl

end Reader

/-! ## Decoders -/

namespace Decoder

/-- **A decoder that reads every text as the value that it denotes.** Where
it refuses the one, it refuses the other. -/
def Follows (decoder : Decoder α) : Prop :=
  ∀ depth text value rest, Reader.value depth text = .ok (value, rest) → value.DistinctKeys →
    (decoder.read depth text).toOption = (decoder.ofJson value.canonical).toOption.map (·, rest)

variable {decoder : Decoder α}

theorem Follows.map (h : decoder.Follows) (f : α → β) : (decoder.map f).Follows := by
  intro depth text value rest hvalue hkeys
  rw [Decoder.map]
  dsimp only
  rw [Scanned.toOption_map, h depth text value rest hvalue hkeys, QueryTree.toOption_map]
  cases (decoder.ofJson value.canonical).toOption <;> rfl

/-! ## Values that are not streamed -/

theorem follows_buffered (ofJson : Json → Except Mismatch α) : (buffered ofJson).Follows := by
  intro depth text value rest hvalue _
  rw [buffered]
  dsimp only
  rw [hvalue, Scanned.andThen]
  cases ofJson value.canonical <;> rfl

theorem canonical_of_depth_eq_zero {value : Json} (h : value.depth = 0) :
    value.canonical = value := by
  cases value with
  | array items => cases h
  | object members => cases h
  | _ => rfl

theorem follows_scalar {ofJson : Json → Except Mismatch α}
    (harray : ∀ items, (ofJson (.array items)).toOption = none)
    (hobject : ∀ members, (ofJson (.object members)).toOption = none) :
    (scalar ofJson).Follows := by
  intro depth text value rest hvalue _
  cases Reader.reads_of_ok hvalue with
  | list hdepth htext hfuel hitems =>
    rw [scalar]
    dsimp only
    rw [htext, canonical, harray]
    cases hempty : ofJson (.array []) with
    | ok a => cases hempty ▸ harray []
    | error reason => rfl
  | object hdepth htext hfuel hmembers =>
    rw [scalar]
    dsimp only
    rw [htext, canonical, hobject]
    cases hempty : ofJson (.object []) with
    | ok a => cases hempty ▸ hobject []
    | error reason => rfl
  | scalar hlist hobject htext hscalar =>
    rw [scalar]
    dsimp only
    rw [htext]
    split
    · rename_i heq
      cases heq
    · rename_i heq
      cases heq
      exact absurd rfl hlist
    · rename_i heq
      cases heq
      exact absurd rfl hobject
    · rw [Scanned.toOption_andThen, hscalar,
        canonical_of_depth_eq_zero (Scan.scalar_eq_ok hscalar).1]
      dsimp only [Except.toOption, Option.bind_some]
      cases ofJson value <;> rfl

theorem follows_string : string.Follows :=
  follows_scalar (fun _ => rfl) fun _ => rfl

theorem follows_uint64 : uint64.Follows :=
  (follows_scalar (fun _ => rfl) fun _ => rfl).map _

/-! ## Values that may be `null` -/

theorem canonical_ne_null {value : Json} (h : value ≠ .null) : value.canonical ≠ .null := by
  cases value with
  | null => exact absurd rfl h
  | array items => rw [canonical_array]; exact nofun
  | object members => rw [canonical]; exact nofun
  | _ => exact h

theorem Follows.nullable (h : decoder.Follows) : decoder.nullable.Follows := by
  intro depth text value rest hvalue hkeys
  rw [Decoder.nullable]
  dsimp only
  split
  · rename_i more htext
    -- a text that starts like `null` is `null`
    cases Reader.reads_of_ok hvalue with
    | list _ hlist => cases htext.symm.trans hlist
    | object _ hobject => cases htext.symm.trans hobject
    | scalar _ _ hscalar hword =>
      cases htext.symm.trans hscalar
      have hword : Scan.word Json.null ['u', 'l', 'l'] more = .ok (value, rest) := hword
      obtain rfl := Scan.word_eq_ok hword
      rw [Scan.word_map none, hword]
      rfl
  · rename_i hnot
    have hnull : value ≠ .null := by
      rintro rfl
      cases Reader.reads_of_ok hvalue with
      | scalar _ _ htext hword =>
        obtain ⟨more, hmore⟩ := (Scan.scalar_eq_ok hword).2 rfl
        exact hnot more (htext.trans hmore)
    have hinner := h depth (Scan.skipBlank text) value rest
      (by rwa [Reader.value_skipBlank]) hkeys
    have hofJson := decoder.nullable_ofJson_of_ne_null (canonical_ne_null hnull)
    rw [Decoder.nullable] at hofJson
    dsimp only at hofJson
    rw [Scanned.toOption_map, hinner, hofJson, QueryTree.toOption_map]
    cases (decoder.ofJson value.canonical).toOption <;> rfl

/-! ## Lists -/

/-- The items of a list, read and decoded in the same steps. -/
theorem Follows.items (h : decoder.Follows) {depth fuel : Nat} {isFirst : Bool}
    {text rest : List Char} {found : List Json}
    (hitems : Reader.Items (Reader.value depth) isFirst text found rest)
    (hkeys : DistinctKeysItems found) (hfuel : found.length < fuel) (read : List α) :
    (Reader.items (fun read text => (decoder.read depth text).map (· :: read)) fuel isFirst read
        text).toOption =
      (itemsOfJson decoder.ofJson (found.map canonical)).toOption.map fun as =>
        (as.reverse ++ read, ']' :: rest) := by
  induction hitems generalizing fuel read with
  | done hnext =>
    obtain ⟨fuel, rfl⟩ := Nat.exists_eq_add_one_of_ne_zero (Nat.ne_of_gt hfuel)
    rw [Reader.items, hnext]
    rfl
  | @more _ _ _ _ _ item items hnext hvalue _ ih =>
    obtain ⟨fuel, rfl⟩ := Nat.exists_eq_add_one_of_ne_zero
      (Nat.ne_of_gt (Nat.lt_of_le_of_lt (Nat.zero_le _) hfuel))
    rw [Reader.items, hnext]
    change ((decoder.read depth _).map (· :: read) |>.andThen _).toOption = _
    rw [Scanned.toOption_andThen, Scanned.toOption_map, h _ _ _ _ hvalue hkeys.1, List.map_cons,
      itemsOfJson]
    cases decoder.ofJson item.canonical with
    | error reason => rfl
    | ok a =>
      refine (ih hkeys.2 (Nat.lt_of_succ_lt_succ hfuel) (a :: read)).trans ?_
      dsimp only
      rw [QueryTree.toOption_map]
      cases (itemsOfJson decoder.ofJson (items.map canonical)).toOption with
      | none => rfl
      | some as => simp

theorem Follows.list (h : decoder.Follows) : decoder.list.Follows := by
  intro depth text value rest hvalue hkeys
  cases Reader.reads_of_ok hvalue with
  | @list inner inside _ found hdepth htext hfuel hitems =>
    subst hdepth
    rw [DistinctKeys] at hkeys
    rw [Decoder.list]
    dsimp only
    rw [htext, canonical_array]
    have hread := h.items hitems hkeys hfuel []
    change (Reader.closeList (Scanned.map List.reverse _)).toOption = _
    rw [Reader.toOption_closeList, Scanned.toOption_map]
    change (((Reader.items (fun read text => (decoder.read inner text).map (· :: read))
      (inside.length + 1) true [] inside).toOption.map _).bind _) =
        (itemsOfJson decoder.ofJson (found.map canonical)).toOption.map _
    rw [hread]
    cases (itemsOfJson decoder.ofJson (found.map canonical)).toOption with
    | none => rfl
    | some as => simp [Reader.endList_closed, Except.toOption]
  | object _ htext =>
    rw [Decoder.list]
    dsimp only
    rw [htext, canonical]
    rfl
  | @scalar c more _ _ hlist hobject htext hscalar =>
    have hdepth := (Scan.scalar_eq_ok hscalar).1
    have hnot : (decoder.list.ofJson value.canonical).toOption = none := by
      rw [canonical_of_depth_eq_zero hdepth]
      cases value with
      | array items => cases hdepth
      | _ => rfl
    rw [hnot, Decoder.list]
    dsimp only
    rw [htext]
    split
    · rfl
    · rename_i heq
      cases heq
      exact absurd rfl hlist
    · rename_i heq
      cases heq
      exact absurd rfl hobject
    · rw [hscalar]
      rfl

end Decoder

/-! ## Records -/

namespace Record

variable {record : Record σ}

/-- **The order of the members does not matter** to a record. -/
theorem toOption_ofJson_canonical (h : record.Independent) {members : List (String × Json)}
    (hnodup : (members.map Prod.fst).Nodup) :
    (record.ofJson (.object (members.map fun member => (member.1, member.2.canonical)))).toOption =
      (record.ofJson (Json.object members).canonical).toOption := by
  have hmap : (members.map fun member => (member.1, member.2.canonical)).map Prod.fst =
      members.map Prod.fst := by
    rw [List.map_map]
    rfl
  have hcanonical := (ascending_canonicalMembers ascending_nil members).nodup
  have hlookup : ∀ key, (members.map fun member => (member.1, member.2.canonical)).lookup key =
      (canonicalMembers [] members).lookup key := fun key => by
    rw [lookup_map, lookup_canonicalMembers hnodup]
  have hkeys : ∀ key, key ∈ members.map Prod.fst ↔
      key ∈ (canonicalMembers [] members).map Prod.fst := fun key => by
    rw [← hmap, ← isSome_lookup_iff, ← isSome_lookup_iff, hlookup]
  ext n
  rw [toOption_eq_some_iff, toOption_eq_some_iff, ofJson_object_iff h (hmap ▸ hnodup), hmap,
    canonical, ofJson_object_iff h hcanonical, funext hlookup]
  simp only [hkeys]

theorem missing?_congr {seen others : List String} (h : ∀ name, name ∈ seen ↔ name ∈ others) :
    record.missing? seen = record.missing? others := by
  have hcontains : ∀ name, seen.contains name = others.contains name := fun name => by
    rw [Bool.eq_iff_iff, List.contains_iff_mem, List.contains_iff_mem, h]
  simp only [missing?, hcontains]

/-- The members of an object, put into a record in the same steps. -/
theorem members_follow (hfields : ∀ field ∈ record.fields, field.update.Follows)
    {depth fuel : Nat} {isFirst : Bool} {text rest : List Char} {found : List (String × Json)}
    (hmembers : Reader.Members (Reader.value depth) isFirst text found rest)
    (hkeys : DistinctKeysMembers found) (hnodup : (found.map Prod.fst).Nodup)
    (hfuel : found.length < fuel) (state : σ) {seen : List String}
    (hseen : ∀ key ∈ found.map Prod.fst, key ∉ seen) :
    (Reader.members (record.readMember depth) fuel isFirst (state, seen) text).toOption =
      (record.membersOfJson (found.map fun member => (member.1, member.2.canonical))
        state).toOption.map fun state =>
          ((state, (found.map Prod.fst).reverse ++ seen), '}' :: rest) := by
  induction hmembers generalizing fuel state seen with
  | done hnext =>
    obtain ⟨fuel, rfl⟩ := Nat.exists_eq_add_one_of_ne_zero (Nat.ne_of_gt hfuel)
    rw [Reader.members, hnext]
    rfl
  | @more _ _ _ _ _ _ _ key value members hnext hkey hcolon hvalue _ ih =>
    obtain ⟨fuel, rfl⟩ := Nat.exists_eq_add_one_of_ne_zero
      (Nat.ne_of_gt (Nat.lt_of_le_of_lt (Nat.zero_le _) hfuel))
    obtain ⟨hunseen, hseen⟩ := List.forall_mem_cons.mp hseen
    obtain ⟨hfirst, hnodup⟩ := List.nodup_cons.mp hnodup
    rw [Reader.members, hnext, Scanned.andThen]
    rw [if_pos rfl, hkey, Scanned.andThen, Scanned.toOption_andThen, readMember]
    simp only [List.map_cons]
    rw [membersOfJson]
    cases hfield : record.field? key with
    | none => rfl
    | some field =>
      have hfollows := hfields field (List.mem_of_find?_eq_some hfield)
      dsimp only
      rw [if_neg (by simpa using hunseen), hcolon]
      dsimp only
      rw [Scanned.toOption_map, hfollows _ _ _ _ hvalue hkeys.1]
      cases field.update.ofJson value.canonical with
      | error reason => rfl
      | ok set =>
        have hstill : ∀ other ∈ members.map Prod.fst, other ∉ key :: seen := by
          intro other hother hmem
          rcases List.mem_cons.mp hmem with rfl | hmem
          · exact hfirst hother
          · exact hseen other hother hmem
        refine (ih hkeys.2 hnodup (Nat.lt_of_succ_lt_succ hfuel) (set state) hstill).trans ?_
        simp

/-- The items of a list, put into a record in the same steps. -/
theorem items_follow {fields : List (Field σ)} (hfields : ∀ field ∈ fields, field.update.Follows)
    {depth count : Nat} {isFirst : Bool} {text rest : List Char} {found : List Json}
    (hitems : Reader.Items (Reader.value depth) isFirst text found rest)
    (hkeys : DistinctKeysItems found) (state : σ) :
    (Reader.closeList (record.readItems depth fields isFirst state text)).toOption =
      (record.itemsOfJson count fields (found.map canonical) state).toOption.map (·, rest) := by
  induction fields generalizing isFirst text found state with
  | nil =>
    rw [readItems, Reader.toOption_closeList]
    cases hitems with
    | done hnext =>
      obtain ⟨_, heq, htext⟩ := Reader.nextItem_false hnext
      cases heq
      have hend : Reader.endList text = .ok rest := by
        rw [Reader.endList, htext]
        rfl
      change (Reader.endList text).toOption.map _ = _
      rw [hend]
      rfl
    | more hnext =>
      change (Reader.endList text).toOption.map _ = _
      rw [Reader.toOption_endList_of_nextItem hnext]
      rfl
  | cons field fields ih =>
    obtain ⟨hfield, hfields⟩ := List.forall_mem_cons.mp hfields
    rw [readItems]
    cases hitems with
    | done hnext =>
      rw [hnext, Scanned.andThen, List.map_nil, itemsOfJson]
      rw [if_neg Bool.false_ne_true]
      split
      · rfl
      · exact ih hfields (.done rfl) hkeys state
    | @more _ _ _ _ _ item items hnext hvalue hitems =>
      rw [hnext, Scanned.andThen, List.map_cons, itemsOfJson]
      rw [if_pos rfl, Reader.toOption_closeList_andThen, hfield _ _ _ _ hvalue hkeys.1]
      cases field.update.ofJson item.canonical with
      | error reason => rfl
      | ok set => exact ih hfields hitems hkeys.2 (set state)

/-- **A record reads every text as the value that it denotes,** if its
fields do. -/
theorem follows (h : record.Independent) (hfields : ∀ field ∈ record.fields, field.update.Follows) :
    record.decoder.Follows := by
  intro depth text value rest hvalue hkeys
  change (record.read depth text).toOption = (record.ofJson value.canonical).toOption.map _
  rw [Record.read]
  cases Reader.reads_of_ok hvalue with
  | @list inner inside _ found hdepth htext hfuel hitems =>
    subst hdepth
    rw [DistinctKeys] at hkeys
    rw [htext, canonical_array]
    exact items_follow hfields hitems hkeys record.blank
  | @object inner inside _ found hdepth htext hfuel hmembers =>
    subst hdepth
    obtain ⟨hnodup, hkeys⟩ := hkeys
    have hread := record.members_follow hfields hmembers hkeys hnodup hfuel record.blank
      (fun _ _ => List.not_mem_nil)
    rw [htext, ← toOption_ofJson_canonical h hnodup, ofJson]
    change (Reader.closeObject (record.readMembers inner inside)).toOption = _
    rw [Reader.toOption_closeObject, readMembers, Scanned.toOption_andThen, hread]
    have hmissing : record.missing? ((found.map Prod.fst).reverse ++ []) =
        record.missing? ((found.map fun member => (member.1, member.2.canonical)).map Prod.fst) :=
      missing?_congr fun name => by simp
    cases record.membersOfJson (found.map fun member => (member.1, member.2.canonical))
      record.blank with
    | error reason => rfl
    | ok state =>
      dsimp only [Except.toOption, Option.map_some, Option.bind_some]
      rw [hmissing]
      cases record.missing? _ <;> rfl
  | scalar hlist hobject htext hscalar =>
    have hdepth := (Scan.scalar_eq_ok hscalar).1
    have hnot : (record.ofJson value.canonical).toOption = none := by
      rw [Decoder.canonical_of_depth_eq_zero hdepth]
      cases value with
      | array items => cases hdepth
      | object members => cases hdepth
      | _ => rfl
    rw [hnot, htext]
    split
    · rfl
    · rename_i heq
      cases heq
      exact absurd rfl hlist
    · rename_i heq
      cases heq
      exact absurd rfl hobject
    · rw [hscalar]
      rfl

end Record

/-! ## Nodes -/

theorem OrderByElement.follows : record.decoder.Follows := by
  refine Record.follows independent ?_
  simp only [record, Field.required, Field.optional, List.forall_mem_cons]
  exact ⟨(Decoder.follows_buffered _).map _, Decoder.follows_string.nullable.map _,
    List.forall_mem_nil _⟩

theorem Distinct.follows : record.decoder.Follows := by
  refine Record.follows independent ?_
  simp only [record, Field.required, Field.optional, List.forall_mem_cons]
  exact ⟨(Decoder.follows_buffered _).list.map _, (Decoder.follows_buffered _).nullable.map _,
    List.forall_mem_nil _⟩

/-- **A query reads every text as the value that it denotes.** -/
theorem Query.follows : decoder.Follows := by
  have hrecord : (record ofJson).decoder.Follows := by
    have hcolumns := (Decoder.follows_buffered Column.ofJson).list.nullable
    have hfilter := (Decoder.follows_buffered Filter.ofJson).nullable
    refine Record.follows (independent ofJson) ?_
    simp only [record, Field.optional, List.forall_mem_cons]
    exact ⟨Decoder.follows_string.nullable.map _, (Decoder.follows_buffered _).nullable.map _,
      Decoder.follows_string.nullable.map _, hcolumns.map _, hfilter.map _,
      (Decoder.follows_buffered _).nullable.map _, hcolumns.map _, hfilter.map _,
      OrderByElement.follows.list.nullable.map _, Decoder.follows_uint64.nullable.map _,
      Decoder.follows_uint64.nullable.map _, Distinct.follows.nullable.map _,
      List.forall_mem_nil _⟩
  have heq : decoder = (record ofJson).decoder :=
    congrArg (Decoder.mk · (record ofJson).read) (funext ofJson_eq)
  rwa [heq]

/-- **A whole text is decoded as the value that it denotes.** -/
theorem Decoder.Follows.decodeText_iff {decoder : Decoder α} (h : decoder.Follows) {text : String}
    {value : Json} (hvalue : Reader.readText (Reader.value Reader.depthLimit) text = .ok value)
    (hkeys : value.DistinctKeys) {a : α} :
    decoder.decodeText text = .ok a ↔ decoder.decode value.canonical = .ok a := by
  obtain ⟨rest, hread, hrest⟩ := Reader.readText_eq_ok.mp hvalue
  have hfollows := h _ _ _ _ hread hkeys
  rw [decodeText, Reader.readText_eq_ok, decode, mapError_eq_ok]
  constructor
  · rintro ⟨after, hdecode, -⟩
    rw [hdecode] at hfollows
    obtain ⟨b, hb, heq⟩ := Option.map_eq_some_iff.mp hfollows.symm
    cases heq
    exact eq_ok_of_toOption hb
  · intro hdecode
    rw [hdecode] at hfollows
    exact ⟨rest, eq_ok_of_toOption hfollows, hrest⟩

/-- **A query is read from a text as from the value that the text denotes.**
Where the text is well-formed, is not nested too deep and has no key twice
in an object, reading the query straight from it gives a query exactly if
decoding the value in memory does, and then the same one. -/
theorem Query.decodeText_iff_decode {text : String} {value : Json}
    (htext : value.Spaced text.toList) (hdepth : value.depth ≤ Reader.depthLimit)
    (hkeys : value.DistinctKeys) (query : Query) :
    decoder.decodeText text = .ok query ↔ decoder.decode value.canonical = .ok query :=
  follows.decodeText_iff (htext.readText_eq hdepth) hkeys

/-- A text whose first key is the last one in memory. -/
theorem Query.decode_twoIds :
    let query : Query :=
      { table := some (.name "t"), columns := some [.named { column := "id" }], limit := some 2 }
    decoder.decode query.toJson.canonical = .ok query ∧
      decoder.decodeText
        "\x7b\"table\": \"t\", \"columns\": [\x7b\"column\": \"id\"\x7d], \"limit\": 2\x7d" =
        .ok query := by
  intro query
  have hnone : Blanks [] := fun _ h => nomatch h
  have hblank : Blanks [' '] := List.forall_mem_singleton.mpr rfl
  have hcolumn : Written (.object [("column", .string "id")]) _ :=
    .object (.one (@WrittenKey.mk "column" [] "column\"".toList [] hnone rfl hnone)
      (@Spaced.mk _ [' '] "\"id\"".toList [] hblank (.scalar rfl) hnone))
  have hquery : Spaced query.toJson _ := @Spaced.mk _ [] _ [] hnone (.object (.more
    (@WrittenKey.mk "table" [] "table\"".toList [] hnone rfl hnone)
    (@Spaced.mk _ [' '] "\"t\"".toList [] hblank (.scalar rfl) hnone) (.more
      (@WrittenKey.mk "columns" [' '] "columns\"".toList [] hblank rfl hnone)
      (@Spaced.mk _ [' '] _ [] hblank (.list (.one (@Spaced.mk _ [] _ [] hnone hcolumn hnone)))
        hnone)
      (.one (@WrittenKey.mk "limit" [' '] "limit\"".toList [] hblank rfl hnone)
        (@Spaced.mk _ [' '] ['2'] [] hblank (.scalar rfl) hnone))))) hnone
  have htext : Spaced query.toJson
      "\x7b\"table\": \"t\", \"columns\": [\x7b\"column\": \"id\"\x7d], \"limit\": 2\x7d".toList :=
    Eq.subst (motive := Spaced _) (by decide) hquery
  have hkeys : query.toJson.DistinctKeys :=
    ⟨by decide, trivial, ⟨⟨by decide, trivial, trivial⟩, trivial⟩, trivial, trivial⟩
  have hdecode : decoder.decode query.toJson.canonical = .ok query :=
    mapError_eq_ok.mpr (ofJson_toJson query fun _ h => nomatch h)
  exact ⟨hdecode, (Query.decodeText_iff_decode htext (by decide) hkeys query).mpr hdecode⟩

end QueryTree
