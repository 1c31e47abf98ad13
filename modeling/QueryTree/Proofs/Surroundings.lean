import QueryTree.Proofs.Fields
import QueryTree.Proofs.Variants
import Mathlib.Logic.Relation
/-!
# Surroundings — a refusal passes through whatever is around it

A node stands in a field of another node, in a list, or where a name could
stand for it. Everything that is decoded before it being accepted, what is
around it is refused for the very reason for which it is refused itself:
one step outwards passes the reason on (`Refused.step`), and so does a
chain of steps of any length. The main result is
`Query.decode_of_inside`.
-/

namespace QueryTree

variable {α β σ : Type} {reason : Mismatch}

/-- **A value that says something by itself:** neither `null`, which may
stand for nothing, nor a string, which may be a name. -/
def Json.IsSolid : Json → Prop
  | null => False
  | string _ => False
  | _ => True

/-- The first of some keys that an object has. -/
def Json.FirstKey (keys : List String) (key : String) : Json → Prop
  | object members => keys.find? (fun key => (members.lookup key).isSome) = some key
  | _ => False

/-! ## Fields -/

namespace Field

/-- A field accepts a value. -/
def Accepts (field : Field σ) (value : Json) : Prop := ∃ set, field.update.ofJson value = .ok set

/-- **A field that passes on why a decoder refuses a value.** -/
def Forwards (field : Field σ) (decoder : Decoder α) : Prop :=
  ∀ value reason, value.IsSolid → decoder.ofJson value = .error reason →
    field.update.ofJson value = .error reason

theorem forwards_required (name : String) (decoder : Decoder α) (set : α → σ → σ) :
    (required name decoder set).Forwards decoder :=
  fun _ _ _ h => map_eq_error.mpr h

theorem forwards_defaulted (name : String) (decoder : Decoder α) (set : α → σ → σ) :
    (defaulted name decoder set).Forwards decoder :=
  fun _ _ _ h => map_eq_error.mpr h

theorem forwards_optional (name : String) (decoder : Decoder α) (set : Option α → σ → σ) :
    (optional name decoder set).Forwards decoder := by
  intro value reason hsolid h
  have hnull : value ≠ .null := fun heq => (heq ▸ hsolid : Json.IsSolid .null)
  refine map_eq_error.mpr ?_
  rw [Decoder.nullable_ofJson_of_ne_null _ hnull]
  exact map_eq_error.mpr h

end Field

/-! ## Records -/

namespace Record

variable {record : Record σ} {field : Field σ} {key : String} {inner whole : Json}

/-- **A record comes to the value of a field:** in an object or in a list,
after values that their fields accept. -/
inductive Reaches (record : Record σ) (field : Field σ) (inner : Json) : Json → Prop
  | member {key : String} (before after : List (String × Json))
      (hkey : record.field? key = some field)
      (hbefore : ∀ member ∈ before, ∃ other,
        record.field? member.1 = some other ∧ other.Accepts member.2) :
      Reaches record field inner (.object (before ++ (key, inner) :: after))
  | item {earlier later : List (Field σ)} (before after : List Json)
      (hfields : record.fields = earlier ++ field :: later)
      (hbefore : List.Forall₂ Field.Accepts earlier before) :
      Reaches record field inner (.array (before ++ inner :: after))

theorem membersOfJson_of_refused {before after : List (String × Json)}
    (hkey : record.field? key = some field) (hinner : field.update.ofJson inner = .error reason)
    (hbefore : ∀ member ∈ before, ∃ other,
      record.field? member.1 = some other ∧ other.Accepts member.2) (state : σ) :
    record.membersOfJson (before ++ (key, inner) :: after) state = .error reason := by
  induction before generalizing state with
  | nil =>
    rw [List.nil_append, membersOfJson, hkey]
    dsimp only
    rw [hinner]
  | cons member before ih =>
    obtain ⟨⟨other, hother, set, hset⟩, hrest⟩ := List.forall_mem_cons.mp hbefore
    rw [List.cons_append, membersOfJson, hother]
    dsimp only
    rw [hset]
    exact ih hrest (set state)

theorem itemsOfJson_of_refused {count : Nat} {earlier later : List (Field σ)}
    {before after : List Json} (hinner : field.update.ofJson inner = .error reason)
    (hbefore : List.Forall₂ Field.Accepts earlier before) (state : σ) :
    record.itemsOfJson count (earlier ++ field :: later) (before ++ inner :: after) state =
      .error reason := by
  induction hbefore generalizing state with
  | nil =>
    rw [List.nil_append, List.nil_append, itemsOfJson, hinner]
  | cons haccepts _ ih =>
    obtain ⟨set, hset⟩ := haccepts
    rw [List.cons_append, List.cons_append, itemsOfJson, hset]
    exact ih (set state)

/-- **A record is refused for the reason of the first field that is.** -/
theorem Reaches.refused (h : record.Reaches field inner whole)
    (hinner : field.update.ofJson inner = .error reason) :
    record.ofJson whole = .error reason := by
  cases h with
  | member before after hkey hbefore =>
    rw [ofJson, membersOfJson_of_refused hkey hinner hbefore]
  | item before after hfields hbefore =>
    rw [ofJson, hfields]
    exact itemsOfJson_of_refused hinner hbefore record.blank

theorem Reaches.isSolid (h : record.Reaches field inner whole) : whole.IsSolid := by
  cases h <;> trivial

end Record

namespace Decoder

theorem itemsOfJson_of_refused {ofJson : Json → Except Mismatch α} {before after : List Json}
    {inner : Json} (hinner : ofJson inner = .error reason)
    (hbefore : ∀ item ∈ before, ∃ a, ofJson item = .ok a) :
    itemsOfJson ofJson (before ++ inner :: after) = .error reason := by
  induction before with
  | nil => rw [List.nil_append, itemsOfJson, hinner]
  | cons item before ih =>
    obtain ⟨⟨a, ha⟩, hrest⟩ := List.forall_mem_cons.mp hbefore
    rw [List.cons_append, itemsOfJson, ha]
    dsimp only
    rw [ih hrest]
    rfl

/-- **An object is decoded by the variant of the first key it has.** -/
theorem byKey_of_firstKey (node : String) {key : String} {ofJson : Json → Except Mismatch α}
    {variants : List (String × (Json → Except Mismatch α))} {value : Json}
    (hnodup : (variants.map Prod.fst).Nodup) (hvariant : (key, ofJson) ∈ variants)
    (hfirst : value.FirstKey (variants.map Prod.fst) key) :
    byKey node variants value = ofJson value := by
  cases value with
  | object members =>
    rw [Json.FirstKey, List.find?_map, Option.map_eq_some_iff] at hfirst
    obtain ⟨found, hfound, hkey⟩ := hfirst
    have hsame : found = (key, ofJson) :=
      List.inj_on_of_nodup_map hnodup (List.mem_of_find?_eq_some hfound) hvariant hkey
    rw [hsame, Function.comp_def] at hfound
    rw [byKey]
    simp only [hfound]
  | _ => exact hfirst.elim

end Decoder

/-! ## Nodes inside nodes -/

/-- **The kinds of nodes that hold other nodes.** -/
inductive Kind where
  | column
  /-- A column or the name of one. -/
  | reference
  | filter
  /-- A query or the name of a table. -/
  | table
  | query
  | join
  /-- One join or a list of them. -/
  | joins
  | element
  | distinct
  | list (item : Kind)

namespace Kind

/-- What a kind of node is decoded to. -/
def Value : Kind → Type
  | column => Column
  | reference => ColumnRef
  | filter => Filter
  | table => Table Query
  | query => Query
  | join => Join Query
  | joins => SingleOrList (Join Query)
  | element => OrderByElement
  | distinct => Distinct
  | list item => List item.Value

/-- How a kind of node is decoded. -/
def decoder : (kind : Kind) → Decoder kind.Value
  | column => Column.decoder
  | reference => ColumnRef.decoder
  | filter => Filter.decoder
  | table => Table.decoder
  | query => Query.decoder
  | join => Join.decoder
  | joins => Join.listDecoder
  | element => OrderByElement.record.decoder
  | distinct => Distinct.record.decoder
  | list item => item.decoder.list

end Kind

/-- **The keys under which records keep nodes,** and the kinds of these. -/
inductive Record.Keeps : {σ : Type} → Record σ → String → Kind → Prop
  | parameters : Keeps (FunctionColumn.record Column.decoder) "parameters" (.list .column)
  | compared : Keeps ComparisonFilter.record "column" .reference
  | rightColumn : Keeps ComparisonFilter.record "rightColumn" .column
  | sought : Keeps InFilter.record "column" .reference
  | matched : Keeps LikeFilter.record "column" .reference
  | tested : Keeps IsNullFilter.record "column" .reference
  | and : Keeps (Filter.andRecord Filter.decoder) "and" (.list .filter)
  | or : Keeps (Filter.orRecord Filter.decoder) "or" (.list .filter)
  | not : Keeps (Filter.notRecord Filter.decoder) "not" .filter
  | table : Keeps (Query.record Query.ofJson) "table" .table
  | columns : Keeps (Query.record Query.ofJson) "columns" (.list .column)
  | filter : Keeps (Query.record Query.ofJson) "filter" .filter
  | join : Keeps (Query.record Query.ofJson) "join" .joins
  | groupBy : Keeps (Query.record Query.ofJson) "group_by" (.list .column)
  | having : Keeps (Query.record Query.ofJson) "having" .filter
  | orderBy : Keeps (Query.record Query.ofJson) "order_by" (.list .element)
  | distinct : Keeps (Query.record Query.ofJson) "distinct" .distinct
  | joined : Keeps (Join.record Query.ofJson) "table" .table
  | on : Keeps (Join.record Query.ofJson) "on" .filter
  | ordered : Keeps OrderByElement.record "column" .reference
  | distinctColumns : Keeps Distinct.record "columns" (.list .column)
  | distinctKey : Keeps Distinct.record "on" .column

/-- All fields that keep nodes pass on why these are refused. -/
theorem Record.Keeps.forwards {record : Record σ} {key : String} {kind : Kind} {field : Field σ}
    (h : record.Keeps key kind) (hfield : record.field? key = some field) :
    field.Forwards kind.decoder := by
  cases h <;> cases hfield
  case parameters => exact Field.forwards_defaulted _ _ _
  case compared | sought | matched | tested | and | or | not | ordered | distinctColumns =>
    exact Field.forwards_required _ _ _
  all_goals exact Field.forwards_optional _ _ _

/-! ## The record that decodes a node -/

/-- **The record that decodes a value of a kind.** For columns and filters it
is that of the first key. -/
inductive Kind.DecodedBy (value : Json) : Kind → {σ : Type} → Record σ → Prop
  | column {σ : Type} {key : String} {record : Record σ} (wrap : σ → Column)
      (hvariant : (key, fun value => (record.ofJson value).map wrap) ∈ Column.variants)
      (hfirst : value.FirstKey (Column.variants.map Prod.fst) key) :
      DecodedBy value .column record
  | filter {σ : Type} {key : String} {record : Record σ} (wrap : σ → Filter)
      (hvariant : (key, fun value => (record.ofJson value).map wrap) ∈ Filter.variants)
      (hfirst : value.FirstKey (Filter.variants.map Prod.fst) key) :
      DecodedBy value .filter record
  | query : DecodedBy value .query (Query.record Query.ofJson)
  | join : DecodedBy value .join (Join.record Query.ofJson)
  | element : DecodedBy value .element OrderByElement.record
  | distinct : DecodedBy value .distinct Distinct.record

/-- A node is refused for the reason for which its record is. -/
theorem Kind.DecodedBy.refused {value : Json} {kind : Kind} {record : Record σ}
    (h : kind.DecodedBy value record) (hrecord : record.ofJson value = .error reason) :
    kind.decoder.ofJson value = .error reason := by
  cases h with
  | column wrap hvariant hfirst =>
    have hnodup : (Column.variants.map Prod.fst).Nodup := by decide
    have hchosen := Decoder.byKey_of_firstKey "column" hnodup hvariant hfirst
    exact (Column.ofJson_eq_byKey value).trans (hchosen.trans (map_eq_error.mpr hrecord))
  | filter wrap hvariant hfirst =>
    have hnodup : (Filter.variants.map Prod.fst).Nodup := by decide
    have hchosen := Decoder.byKey_of_firstKey "filter" hnodup hvariant hfirst
    exact (Filter.ofJson_eq_byKey value).trans (hchosen.trans (map_eq_error.mpr hrecord))
  | query => exact (Query.ofJson_eq value).trans hrecord
  | join => exact hrecord
  | element => exact hrecord
  | distinct => exact hrecord

/-! ## What stands where a name or a list could -/

theorem ColumnRef.ofJson_of_isSolid {value : Json} (h : value.IsSolid) :
    ofJson value = (Column.ofJson value).map .column := by
  cases value with
  | string s => exact h.elim
  | _ => rfl

theorem Table.ofJson_of_isSolid {value : Json} (h : value.IsSolid) :
    ofJson Query.ofJson value = (Query.ofJson value).map .query := by
  cases value with
  | string s => exact h.elim
  | _ => rfl

theorem SingleOrList.ofJson_of_ne_array (item : Json → Except Mismatch α) {value : Json}
    (h : ∀ items, value ≠ .array items) : ofJson item value = (item value).map .single := by
  cases value with
  | array items => exact absurd rfl (h items)
  | _ => rfl

/-! ## Refusals outwards -/

/-- **A place of a node:** its kind, and the value that stands there. -/
structure Site where
  kind : Kind
  value : Json

namespace Site

/-- **What a place holds directly:** a field of the record that decodes it, an
item of a list, or what stands where a name or a list could. Everything
that is decoded before it is accepted. -/
inductive Holds : Site → Site → Prop
  | field {σ : Type} {record : Record σ} {field : Field σ} {key : String} {kind inner : Kind}
      {whole value : Json} (hrecord : kind.DecodedBy whole record)
      (hkeeps : record.Keeps key inner) (hfield : record.field? key = some field)
      (hreaches : record.Reaches field value whole) : Holds ⟨kind, whole⟩ ⟨inner, value⟩
  | item {kind : Kind} {value : Json} (before after : List Json)
      (hbefore : ∀ item ∈ before, ∃ a, kind.decoder.ofJson item = .ok a) :
      Holds ⟨.list kind, .array (before ++ value :: after)⟩ ⟨kind, value⟩
  | reference {value : Json} (hsolid : value.IsSolid) :
      Holds ⟨.reference, value⟩ ⟨.column, value⟩
  | table {value : Json} (hsolid : value.IsSolid) : Holds ⟨.table, value⟩ ⟨.query, value⟩
  | join {value : Json} (hsingle : ∀ items, value ≠ .array items) :
      Holds ⟨.joins, value⟩ ⟨.join, value⟩
  | joins {items : List Json} : Holds ⟨.joins, .array items⟩ ⟨.list .join, .array items⟩

/-- **A place whose value is refused,** and says something by itself. -/
structure Refused (site : Site) (reason : Mismatch) : Prop where
  isSolid : site.value.IsSolid
  refused : site.kind.decoder.ofJson site.value = .error reason

variable {outer inner : Site}

/-- **One step outwards passes a refusal on.** -/
theorem Refused.step (hstep : Holds outer inner) (h : inner.Refused reason) :
    outer.Refused reason := by
  obtain ⟨hsolid, hrefused⟩ := h
  cases hstep with
  | field hrecord hkeeps hfield hreaches =>
    have hforwarded := hkeeps.forwards hfield _ _ hsolid hrefused
    exact ⟨hreaches.isSolid, hrecord.refused (hreaches.refused hforwarded)⟩
  | item before after hbefore => exact ⟨trivial, Decoder.itemsOfJson_of_refused hrefused hbefore⟩
  | reference =>
    have hcolumn := ColumnRef.ofJson_of_isSolid hsolid
    exact ⟨hsolid, hcolumn.trans (map_eq_error.mpr hrefused)⟩
  | table =>
    have hquery := Table.ofJson_of_isSolid hsolid
    exact ⟨hsolid, hquery.trans (map_eq_error.mpr hrefused)⟩
  | join hsingle =>
    have hjoin := SingleOrList.ofJson_of_ne_array Join.decoder.ofJson hsingle
    exact ⟨hsolid, hjoin.trans (map_eq_error.mpr hrefused)⟩
  | joins => exact ⟨trivial, map_eq_error.mpr hrefused⟩

/-- **A refusal passes through a chain of places of any length.** -/
theorem Refused.outwards (hchain : Relation.ReflTransGen Holds outer inner)
    (h : inner.Refused reason) : outer.Refused reason := by
  induction hchain with
  | refl => exact h
  | tail _ hstep ih => exact ih (h.step hstep)

end Site

/-! ## The main result -/

/-- **A query is refused as the filter or the column inside it is.** However
deep it stands, the refusal is the same, words included: no node around it
says anything else. -/
theorem Query.decode_of_inside {whole value : Json} (hsolid : value.IsSolid) :
    (∀ refusal, Relation.ReflTransGen Site.Holds ⟨.query, whole⟩ ⟨.filter, value⟩ →
      Filter.decoder.decode value = .error refusal →
        Query.decoder.decode whole = .error refusal) ∧
    ∀ refusal, Relation.ReflTransGen Site.Holds ⟨.query, whole⟩ ⟨.column, value⟩ →
      Column.decoder.decode value = .error refusal →
        Query.decoder.decode whole = .error refusal := by
  have outwards {kind : Kind} {refusal : Refusal}
      (hchain : Relation.ReflTransGen Site.Holds ⟨.query, whole⟩ ⟨kind, value⟩)
      (hrefused : kind.decoder.decode value = .error refusal) :
      Query.decoder.decode whole = .error refusal := by
    obtain ⟨reason, hreason, rfl⟩ := mapError_eq_error.mp hrefused
    have hinner : Site.Refused ⟨kind, value⟩ reason := ⟨hsolid, hreason⟩
    exact mapError_eq_error.mpr ⟨reason, (hinner.outwards hchain).refused, rfl⟩
  exact ⟨fun refusal hchain => outwards hchain, fun refusal hchain => outwards hchain⟩

/-- A group in the second operand of a filter, in the condition of a join of
a query that is the table of another one. -/
theorem Query.decode_deepOperand :
    let nameless : Json := .object [("equals", .string "id")]
    let operands : Json :=
      .array [.object [("column", .string "id"), ("isNull", .bool true)], nameless]
    let condition : Json := .object [("not", .object [("or", operands)])]
    let joined : Json := .object [("join", .object [("on", condition), ("type", .string "left")])]
    let whole : Json := .object [("limit", .number (.int 5)), ("table", joined)]
    Query.decoder.decode whole = .error (.ofMismatch (.noVariant "filter"
      ["operator", "in", "like", "isNull", "and", "or", "not"] ["equals"])) := by
  intro nameless operands condition joined whole
  have htable : Site.Holds ⟨.query, whole⟩ ⟨.table, joined⟩ :=
    .field .query .table rfl (.member [("limit", .number (.int 5))] [] rfl
      (List.forall_mem_singleton.mpr ⟨_, rfl, _, rfl⟩))
  have hjoins : Site.Holds ⟨.query, joined⟩
      ⟨.joins, .object [("on", condition), ("type", .string "left")]⟩ :=
    .field .query .join rfl (.member [] [] rfl nofun)
  have hon : Site.Holds ⟨.join, .object [("on", condition), ("type", .string "left")]⟩
      ⟨.filter, condition⟩ :=
    .field .join .on rfl (.member [] [("type", .string "left")] rfl nofun)
  have hnot : Site.Holds ⟨.filter, condition⟩ ⟨.filter, .object [("or", operands)]⟩ :=
    .field (.filter .not (List.mem_of_getElem? (i := 6) rfl) rfl) .not rfl
      (.member [] [] rfl nofun)
  have hor : Site.Holds ⟨.filter, .object [("or", operands)]⟩ ⟨.list .filter, operands⟩ :=
    .field (.filter .or (List.mem_of_getElem? (i := 5) rfl) rfl) .or rfl (.member [] [] rfl nofun)
  have hitem : Site.Holds ⟨.list .filter, operands⟩ ⟨.filter, nameless⟩ :=
    .item [.object [("column", .string "id"), ("isNull", .bool true)]] []
      (List.forall_mem_singleton.mpr ⟨_, rfl⟩)
  have hchain : Relation.ReflTransGen Site.Holds ⟨.query, whole⟩ ⟨.filter, nameless⟩ :=
    .head htable (.head (.table trivial) (.head hjoins (.head (.join nofun) (.head hon
      (.head hnot (.head hor (.head hitem .refl)))))))
  have hsolid : nameless.IsSolid := trivial
  exact (Query.decode_of_inside hsolid).1 _ hchain rfl

end QueryTree
