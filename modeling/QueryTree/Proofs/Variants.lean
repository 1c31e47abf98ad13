import QueryTree.Proofs.Fields
import QueryTree.Proofs.Nesting
import QueryTree.Proofs.Outcome
/-!
# Variants — the first key that is found selects the right record

A column or filter is decoded as the record that the first of several
keys selects, whatever other keys the object has. Each record demands its
own key and has no field for a key that is looked for before
(`Decoder.Distinguished`), so the selected record is the only one that may
accept the object: a node is decoded exactly where one of its records
accepts the object, and what is no object is no node (`decoded_iff_taken`).
-/

namespace QueryTree

variable {α σ : Type}

/-! ## The keys of an object that is accepted -/

namespace Record

variable {record : Record σ} {members : List (String × Json)} {before after : σ}

theorem known_of_membersOfJson (h : record.membersOfJson members before = .ok after) :
    ∀ key ∈ members.map Prod.fst, key ∈ record.names := by
  induction members generalizing before with
  | nil => exact fun _ hkey => nomatch hkey
  | cons member members ih =>
    obtain ⟨name, value⟩ := member
    rw [membersOfJson] at h
    cases hfield : record.field? name with
    | none =>
      rw [hfield] at h
      cases h
    | some field =>
      have hname : name ∈ record.names := by
        by_contra hmem
        cases (field?_eq_none_iff.mpr hmem).symm.trans hfield
      rw [hfield] at h
      dsimp only at h
      cases hset : field.update.ofJson value with
      | error reason =>
        rw [hset] at h
        cases h
      | ok set =>
        rw [hset] at h
        exact List.forall_mem_cons.mpr ⟨hname, ih h⟩

/-- **An object that is accepted has fields for all of its keys, and keys for
all fields that are required.** -/
theorem keys_of_ofJson (h : record.ofJson (.object members) = .ok after) :
    (∀ key ∈ members.map Prod.fst, key ∈ record.names) ∧
      ∀ field ∈ record.fields, field.isRequired = true → field.name ∈ members.map Prod.fst := by
  rw [ofJson] at h
  cases hmembers : record.membersOfJson members record.blank with
  | error reason =>
    rw [hmembers] at h
    cases h
  | ok state =>
    rw [hmembers] at h
    dsimp only at h
    cases hmissing : record.missing? (members.map Prod.fst) with
    | some name =>
      rw [hmissing] at h
      cases h
    | none =>
      exact ⟨known_of_membersOfJson hmembers, missing?_eq_none_iff.mp hmissing⟩

end Record

/-! ## Variants that tell themselves apart -/

namespace Decoder

/-- **A variant that demands a key:** it accepts no object without it. -/
def Demands (key : String) (variant : Json → Except Mismatch α) : Prop :=
  ∀ members a, variant (.object members) = .ok a → key ∈ members.map Prod.fst

/-- **A variant that spurns a key:** it accepts no object with it. -/
def Spurns (key : String) (variant : Json → Except Mismatch α) : Prop :=
  ∀ members a, variant (.object members) = .ok a → key ∉ members.map Prod.fst

/-- **A variant with a key and some fields:** it demands the key, and spurns
whatever is none of the fields. -/
structure Keyed (key : String) (fields : List String) (variant : Json → Except Mismatch α) :
    Prop where
  demands : Demands key variant
  spurns : ∀ other, other ∉ fields → Spurns other variant

/-- **Variants that tell themselves apart:** each demands its own key and
spurns those of the variants before it. -/
structure Distinguished (variants : List (String × (Json → Except Mismatch α))) : Prop where
  demands : ∀ variant ∈ variants, Demands variant.1 variant.2
  spurns : variants.Pairwise fun first second => Spurns first.1 second.2

/-- A variant that is a record demands the keys of its required fields and
spurns whatever is none of its fields. -/
theorem keyed_record (record : Record σ) (wrap : σ → α) {field : Field σ}
    (hfield : field ∈ record.fields) (hrequired : field.isRequired = true) :
    Keyed field.name record.names fun value => (record.ofJson value).map wrap where
  demands members a h := by
    obtain ⟨n, hn, -⟩ := map_eq_ok.mp h
    exact (Record.keys_of_ofJson hn).2 field hfield hrequired
  spurns key hkey members a h hmem := by
    obtain ⟨n, hn, -⟩ := map_eq_ok.mp h
    exact hkey ((Record.keys_of_ofJson hn).1 key hmem)

/-- Variants tell themselves apart where none has a field of the key of one
before it. -/
theorem distinguished_of_keyed {variants : List (String × (Json → Except Mismatch α))}
    {fields : List (List String)}
    (h : List.Forall₂ (fun variant names => Keyed variant.1 names variant.2) variants fields)
    (hapart : ((variants.map Prod.fst).zip fields).Pairwise fun first second =>
      first.1 ∉ second.2) :
    Distinguished variants := by
  induction h with
  | nil => exact ⟨fun _ hmem => (nomatch hmem), .nil⟩
  | @cons variant names variants fields hvariant hvariants ih =>
    rw [List.map_cons, List.zip_cons_cons, List.pairwise_cons] at hapart
    obtain ⟨hfirst, hrest⟩ := hapart
    have hothers := ih hrest
    refine ⟨List.forall_mem_cons.mpr ⟨hvariant.demands, hothers.demands⟩,
      List.pairwise_cons.mpr ⟨?_, hothers.spurns⟩⟩
    intro other hother
    obtain ⟨i, hi, rfl⟩ := List.getElem_of_mem hother
    have hlength := hvariants.length_eq
    have hkeyed := hvariants.get hi (by omega)
    have hzip : i < ((variants.map Prod.fst).zip fields).length := by
      rw [List.length_zip, List.length_map]
      omega
    have hmem := List.getElem_mem hzip
    rw [List.getElem_zip, List.getElem_map] at hmem
    exact hkeyed.spurns variant.1 (hfirst _ hmem)

/-- **An object is decoded by its first key exactly as the variants take
it.** The variant that takes it demands its key, and spurns all keys that
are looked for before. -/
theorem byKey_object_iff {node : String} {variants : List (String × (Json → Except Mismatch α))}
    (h : Distinguished variants) {members : List (String × Json)} {a : α} :
    byKey node variants (.object members) = .ok a ↔
      ∃ variant ∈ variants, variant.2 (.object members) = .ok a := by
  constructor
  · intro hok
    rw [byKey] at hok
    split at hok
    · rename_i key decode hfound
      exact ⟨(key, decode), List.mem_of_find?_eq_some hfound, hok⟩
    · cases hok
  · rintro ⟨variant, hvariant, hok⟩
    obtain ⟨before, after, rfl⟩ := List.append_of_mem hvariant
    have hown : (members.lookup variant.1).isSome = true :=
      isSome_lookup_iff.mpr (h.demands variant hvariant members a hok)
    have hothers : ∀ other ∈ before, (!(members.lookup other.1).isSome) = true := by
      intro other hother
      have hspurns := (List.pairwise_append.mp h.spurns).2.2 other hother variant (.head _)
      have hmissing : other.1 ∉ members.map Prod.fst := hspurns members a hok
      rw [lookup_eq_none_of_notMem hmissing]
      rfl
    have hfound : (before ++ variant :: after).find?
        (fun other => (members.lookup other.1).isSome) = some variant :=
      List.find?_eq_some_iff_append.mpr ⟨hown, before, after, rfl, hothers⟩
    rw [byKey]
    split
    · rename_i key decode hsome
      obtain rfl : (key, decode) = variant := Option.some_inj.mp (hsome.symm.trans hfound)
      exact hok
    · rename_i hnone
      cases hnone.symm.trans hfound

/-- What is no object is no node. -/
theorem byKey_of_not_object {node : String}
    {variants : List (String × (Json → Except Mismatch α))} {value : Json}
    (h : ∀ members, value ≠ .object members) :
    byKey node variants value = .error (.notAnObject node (variants.map Prod.fst) value) := by
  cases value with
  | object members => exact absurd rfl (h members)
  | _ => rfl

end Decoder

/-! ## Columns -/

namespace Column

/-- The variants of a column with the keys that select them, in the order in
which the keys are looked for. -/
def variants : List (String × (Json → Except Mismatch Column)) := [
  ("function", fun value => ((FunctionColumn.record decoder).ofJson value).map .function),
  ("column", fun value => (NamedColumn.record.ofJson value).map .named),
  ("value", fun value => (ValueColumn.record.ofJson value).map .value)]

theorem ofJson_eq_byKey (value : Json) : ofJson value = Decoder.byKey "column" variants value :=
  ofJson_eq value

theorem distinguished_variants : Decoder.Distinguished variants := by
  have hfunction := Decoder.keyed_record (FunctionColumn.record decoder) function (.head _) rfl
  have hnamed := Decoder.keyed_record NamedColumn.record named (.head _) rfl
  have hvalue := Decoder.keyed_record ValueColumn.record value (.head _) rfl
  refine Decoder.distinguished_of_keyed (.cons hfunction (.cons hnamed (.cons hvalue .nil))) ?_
  decide

/-- **What one of the records accepts:** a value is decoded as a column by
name, as a function call or as a literal value. -/
inductive TakenAs (value : Json) : Column → Prop
  | function {call : FunctionColumn Column}
      (h : (FunctionColumn.record decoder).ofJson value = .ok call) : TakenAs value (.function call)
  | named {column : NamedColumn} (h : NamedColumn.record.ofJson value = .ok column) :
      TakenAs value (.named column)
  | value {literal : ValueColumn} (h : ValueColumn.record.ofJson value = .ok literal) :
      TakenAs value (.value literal)

theorem takenAs_iff {value : Json} {column : Column} :
    TakenAs value column ↔ ∃ variant ∈ variants, variant.2 value = .ok column := by
  constructor
  · rintro (h | h | h)
    · exact ⟨_, .head _, map_eq_ok.mpr ⟨_, h, rfl⟩⟩
    · exact ⟨_, .tail _ (.head _), map_eq_ok.mpr ⟨_, h, rfl⟩⟩
    · exact ⟨_, .tail _ (.tail _ (.head _)), map_eq_ok.mpr ⟨_, h, rfl⟩⟩
  · rintro ⟨variant, hvariant, hok⟩
    simp only [variants, List.mem_cons, List.not_mem_nil, or_false] at hvariant
    rcases hvariant with rfl | rfl | rfl <;> obtain ⟨taken, htaken, rfl⟩ := map_eq_ok.mp hok
    · exact .function htaken
    · exact .named htaken
    · exact .value htaken

/-- **An object is decoded as the column that one of the records makes of
it.** -/
theorem ofJson_object_iff {members : List (String × Json)} {column : Column} :
    ofJson (.object members) = .ok column ↔ TakenAs (.object members) column := by
  rw [ofJson_eq_byKey, Decoder.byKey_object_iff distinguished_variants, takenAs_iff]

end Column

/-! ## Filters -/

namespace Filter

/-- The variants of a filter with the keys that select them, in the order in
which the keys are looked for. -/
def variants : List (String × (Json → Except Mismatch Filter)) := [
  ("operator", fun value => (ComparisonFilter.record.ofJson value).map .comparison),
  ("in", fun value => (InFilter.record.ofJson value).map .membership),
  ("like", fun value => (LikeFilter.record.ofJson value).map .like),
  ("isNull", fun value => (IsNullFilter.record.ofJson value).map .isNull),
  ("and", fun value => ((andRecord decoder).ofJson value).map .and),
  ("or", fun value => ((orRecord decoder).ofJson value).map .or),
  ("not", fun value => ((notRecord decoder).ofJson value).map .not)]

theorem ofJson_eq_byKey (value : Json) : ofJson value = Decoder.byKey "filter" variants value :=
  ofJson_eq value

theorem distinguished_variants : Decoder.Distinguished variants := by
  have hcomparison :=
    Decoder.keyed_record ComparisonFilter.record comparison (.tail _ (.head _)) rfl
  have hmembership := Decoder.keyed_record InFilter.record membership (.tail _ (.head _)) rfl
  have hlike := Decoder.keyed_record LikeFilter.record like (.tail _ (.head _)) rfl
  have hnull := Decoder.keyed_record IsNullFilter.record isNull (.tail _ (.head _)) rfl
  have hand := Decoder.keyed_record (andRecord decoder) and (.head _) rfl
  have hor := Decoder.keyed_record (orRecord decoder) or (.head _) rfl
  have hnot := Decoder.keyed_record (notRecord decoder) not (.head _) rfl
  refine Decoder.distinguished_of_keyed (.cons hcomparison (.cons hmembership (.cons hlike
    (.cons hnull (.cons hand (.cons hor (.cons hnot .nil))))))) ?_
  decide

/-- **What one of the records accepts:** a value is decoded as a test of a
column or as a combination of filters. -/
inductive TakenAs (value : Json) : Filter → Prop
  | comparison {comparison : ComparisonFilter}
      (h : ComparisonFilter.record.ofJson value = .ok comparison) :
      TakenAs value (.comparison comparison)
  | membership {membership : InFilter} (h : InFilter.record.ofJson value = .ok membership) :
      TakenAs value (.membership membership)
  | like {pattern : LikeFilter} (h : LikeFilter.record.ofJson value = .ok pattern) :
      TakenAs value (.like pattern)
  | isNull {test : IsNullFilter} (h : IsNullFilter.record.ofJson value = .ok test) :
      TakenAs value (.isNull test)
  | and {operands : List Filter} (h : (andRecord decoder).ofJson value = .ok operands) :
      TakenAs value (.and operands)
  | or {operands : List Filter} (h : (orRecord decoder).ofJson value = .ok operands) :
      TakenAs value (.or operands)
  | not {operand : Filter} (h : (notRecord decoder).ofJson value = .ok operand) :
      TakenAs value (.not operand)

theorem takenAs_iff {value : Json} {filter : Filter} :
    TakenAs value filter ↔ ∃ variant ∈ variants, variant.2 value = .ok filter := by
  constructor
  · have hmem (i : Nat) (hi : i < 7) : variants[i] ∈ variants := List.getElem_mem hi
    rintro (h | h | h | h | h | h | h)
    · exact ⟨_, hmem 0 (by decide), map_eq_ok.mpr ⟨_, h, rfl⟩⟩
    · exact ⟨_, hmem 1 (by decide), map_eq_ok.mpr ⟨_, h, rfl⟩⟩
    · exact ⟨_, hmem 2 (by decide), map_eq_ok.mpr ⟨_, h, rfl⟩⟩
    · exact ⟨_, hmem 3 (by decide), map_eq_ok.mpr ⟨_, h, rfl⟩⟩
    · exact ⟨_, hmem 4 (by decide), map_eq_ok.mpr ⟨_, h, rfl⟩⟩
    · exact ⟨_, hmem 5 (by decide), map_eq_ok.mpr ⟨_, h, rfl⟩⟩
    · exact ⟨_, hmem 6 (by decide), map_eq_ok.mpr ⟨_, h, rfl⟩⟩
  · rintro ⟨variant, hvariant, hok⟩
    simp only [variants, List.mem_cons, List.not_mem_nil, or_false] at hvariant
    rcases hvariant with rfl | rfl | rfl | rfl | rfl | rfl | rfl <;>
      obtain ⟨taken, htaken, rfl⟩ := map_eq_ok.mp hok
    · exact .comparison htaken
    · exact .membership htaken
    · exact .like htaken
    · exact .isNull htaken
    · exact .and htaken
    · exact .or htaken
    · exact .not htaken

/-- **An object is decoded as the filter that one of the records makes of
it.** -/
theorem ofJson_object_iff {members : List (String × Json)} {filter : Filter} :
    ofJson (.object members) = .ok filter ↔ TakenAs (.object members) filter := by
  rw [ofJson_eq_byKey, Decoder.byKey_object_iff distinguished_variants, takenAs_iff]

end Filter

/-! ## The main result -/

/-- **Choosing by key accepts the union of the records.** An object is
decoded as a column exactly as one of the three records takes it, and as a
filter exactly as one of the seven does; no object is taken in two ways.
Whatever is not an object is refused, a list that a record would take
included. The records decode the nodes inside them by the same decoders,
of which this says the same. -/
theorem decoded_iff_taken :
    (∀ members : List (String × Json),
      (∀ column, Column.ofJson (.object members) = .ok column ↔
        Column.TakenAs (.object members) column) ∧
      (∀ one other, Column.TakenAs (.object members) one →
        Column.TakenAs (.object members) other → one = other) ∧
      (∀ filter, Filter.ofJson (.object members) = .ok filter ↔
        Filter.TakenAs (.object members) filter) ∧
      ∀ one other, Filter.TakenAs (.object members) one →
        Filter.TakenAs (.object members) other → one = other) ∧
    ∀ value : Json, (∀ members, value ≠ .object members) →
      Column.ofJson value =
          .error (.notAnObject "column" ["function", "column", "value"] value) ∧
        Filter.ofJson value = .error (.notAnObject "filter"
          ["operator", "in", "like", "isNull", "and", "or", "not"] value) := by
  refine ⟨fun members => ⟨fun column => Column.ofJson_object_iff, ?_,
    fun filter => Filter.ofJson_object_iff, ?_⟩, fun value hvalue => ⟨?_, ?_⟩⟩
  · intro one other hone hother
    rw [← Column.ofJson_object_iff] at hone hother
    exact Except.ok.inj (hone.symm.trans hother)
  · intro one other hone hother
    rw [← Filter.ofJson_object_iff] at hone hother
    exact Except.ok.inj (hone.symm.trans hother)
  · rw [Column.ofJson_eq_byKey, Decoder.byKey_of_not_object hvalue]
    rfl
  · rw [Filter.ofJson_eq_byKey, Decoder.byKey_of_not_object hvalue]
    rfl

/-- A list that the record of a column by name takes is no column. -/
theorem not_column_of_list :
    NamedColumn.record.ofJson (.array [.string "id"]) = .ok { column := "id" } ∧
      Column.ofJson (.array [.string "id"]) = .error
        (.notAnObject "column" ["function", "column", "value"] (.array [.string "id"])) :=
  ⟨rfl, (decoded_iff_taken.2 (.array [.string "id"]) (fun _ => Json.noConfusion)).1⟩

end QueryTree
