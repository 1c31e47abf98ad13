import QueryTree.Json.Basic
import Mathlib.Data.List.Nodup
/-!
# Members — an object is what its keys look up

The members of an object stand in some order, and a value denotes them in
ascending order of their keys. Here an object is what `List.lookup` finds
in it: the object that a value denotes has the same look-ups
(`lookup_canonicalMembers`), and two objects with each key once that have
the same look-ups denote the same value (`canonical_object_eq`).
-/

namespace QueryTree

section Lookup

variable {β γ : Type} {members : List (String × β)} {key : String}

/-! ## Look-ups -/

theorem lookup_cons_ite (key k : String) (value : β) (members : List (String × β)) :
    ((k, value) :: members).lookup key = if key = k then some value else members.lookup key := by
  rw [List.lookup_cons]
  by_cases h : key = k
  · rw [if_pos h, beq_iff_eq.mpr h]
  · rw [if_neg h, beq_eq_false_iff_ne.mpr h]

theorem isSome_lookup_iff : (members.lookup key).isSome ↔ key ∈ members.map Prod.fst := by
  induction members with
  | nil => simp
  | cons member members ih =>
    obtain ⟨k, value⟩ := member
    rw [lookup_cons_ite, List.map_cons, List.mem_cons, ← ih]
    split <;> simp_all

theorem lookup_eq_none_of_notMem (h : key ∉ members.map Prod.fst) : members.lookup key = none := by
  rwa [← isSome_lookup_iff, Bool.not_eq_true, Option.isSome_eq_false_iff, Option.isNone_iff_eq_none]
    at h

theorem mem_of_lookup {value : β} (h : members.lookup key = some value) :
    (key, value) ∈ members := by
  obtain ⟨before, after, rfl, -⟩ := List.lookup_eq_some_iff.mp h
  exact List.mem_append_right _ List.mem_cons_self

theorem lookup_map (f : β → γ) (members : List (String × β)) (key : String) :
    (members.map fun member => (member.1, f member.2)).lookup key =
      (members.lookup key).map f := by
  induction members with
  | nil => rfl
  | cons member members ih =>
    obtain ⟨k, value⟩ := member
    rw [List.map_cons, lookup_cons_ite, lookup_cons_ite, ih]
    split <;> rfl

theorem lookup_toList_append (k : String) (found : Option β) (members : List (String × β)) :
    ((found.map (k, ·)).toList ++ members).lookup key =
      if key = k then found.or (members.lookup key) else members.lookup key := by
  cases found with
  | none => exact (ite_self _).symm
  | some value => exact lookup_cons_ite ..

/-- Names that are given to some values keep their order. -/
theorem map_fst_zip_sublist (names : List String) (values : List β) :
    ((names.zip values).map Prod.fst).Sublist names := by
  rw [List.zip_eq_zip_take_min, List.map_fst_zip (by simp)]
  exact List.take_sublist _ _

/-- Where each key comes once, only the first of the members may have its
key. -/
theorem lookup_tail {k : String} {value : β}
    (hnodup : (((k, value) :: members).map Prod.fst).Nodup) :
    members.lookup k = none :=
  lookup_eq_none_of_notMem (List.nodup_cons.mp hnodup).1

end Lookup

namespace Json

/-! ## Members in ascending order -/

/-- **Members in ascending order of their keys.** -/
def Ascending (members : List (String × Json)) : Prop :=
  members.Pairwise fun first second => first.1 < second.1

theorem Ascending.nodup {members : List (String × Json)} (h : Ascending members) :
    (members.map Prod.fst).Nodup := by
  refine List.pairwise_map.mpr (h.imp fun hlt heq => ?_)
  exact String.lt_irrefl _ (heq ▸ hlt)

theorem lookup_insertMember (key k : String) (value : Json) (members : List (String × Json)) :
    (insertMember k value members).lookup key =
      if key = k then some value else members.lookup key := by
  induction members with
  | nil => exact lookup_cons_ite key k value []
  | cons member members ih =>
    obtain ⟨other, found⟩ := member
    rw [insertMember]
    split
    · exact lookup_cons_ite ..
    split
    · rename_i _ hlt
      rw [lookup_cons_ite, lookup_cons_ite, ih]
      by_cases hother : key = other
      · have hne : key ≠ k := fun h => String.lt_irrefl k (by rwa [← hother, h] at hlt)
        rw [if_pos hother, if_neg hne, if_pos hother]
      · rw [if_neg hother, if_neg hother]
    · rename_i hnot hnot'
      -- the member has this key, and its value is replaced
      obtain rfl : k = other :=
        String.le_antisymm (String.not_lt.mp hnot') (String.not_lt.mp hnot)
      rw [lookup_cons_ite, lookup_cons_ite]
      split <;> rfl

theorem mem_insertMember {k : String} {value : Json} {members : List (String × Json)}
    {member : String × Json} (h : member ∈ insertMember k value members) :
    member = (k, value) ∨ member ∈ members := by
  induction members with
  | nil => exact .inl (List.mem_singleton.mp h)
  | cons first members ih =>
    obtain ⟨other, found⟩ := first
    rw [insertMember] at h
    split at h
    · exact List.mem_cons.mp h
    split at h
    · rcases List.mem_cons.mp h with rfl | h
      · exact .inr List.mem_cons_self
      · exact (ih h).imp_right (List.mem_cons_of_mem _)
    · rcases List.mem_cons.mp h with rfl | h
      · exact .inl rfl
      · exact .inr (List.mem_cons_of_mem _ h)

theorem ascending_insertMember {members : List (String × Json)} (h : Ascending members)
    (k : String) (value : Json) : Ascending (insertMember k value members) := by
  induction members with
  | nil => exact List.pairwise_singleton _ _
  | cons member members ih =>
    obtain ⟨other, found⟩ := member
    obtain ⟨hfirst, hrest⟩ := List.pairwise_cons.mp h
    rw [insertMember]
    split
    · rename_i hlt
      refine List.pairwise_cons.mpr ⟨List.forall_mem_cons.mpr ⟨hlt, fun member hmem => ?_⟩, h⟩
      exact String.lt_trans hlt (hfirst member hmem)
    split
    · rename_i _ hlt
      refine List.pairwise_cons.mpr ⟨fun member hmem => ?_, ih hrest⟩
      rcases mem_insertMember hmem with rfl | hmem
      · exact hlt
      · exact hfirst member hmem
    · rename_i hnot hnot'
      obtain rfl : k = other :=
        String.le_antisymm (String.not_lt.mp hnot') (String.not_lt.mp hnot)
      exact List.pairwise_cons.mpr ⟨hfirst, hrest⟩

theorem ascending_canonicalMembers {sorted : List (String × Json)} (h : Ascending sorted)
    (members : List (String × Json)) : Ascending (canonicalMembers sorted members) := by
  induction members generalizing sorted with
  | nil => exact h
  | cons member members ih => exact ih (ascending_insertMember h _ _)

theorem ascending_nil : Ascending [] := List.Pairwise.nil

/-- Members in ascending order are determined by their look-ups. -/
theorem Ascending.eq_of_lookup {first second : List (String × Json)} (hfirst : Ascending first)
    (hsecond : Ascending second) (h : ∀ key, first.lookup key = second.lookup key) :
    first = second := by
  have mem_iff : ∀ {members : List (String × Json)}, Ascending members →
      ∀ member, member ∈ members ↔ members.lookup member.1 = some member.2 := by
    intro members hmembers member
    refine ⟨fun hmem => ?_, mem_of_lookup⟩
    induction members with
    | nil => cases hmem
    | cons head members ih =>
      obtain ⟨k, value⟩ := head
      rw [lookup_cons_ite]
      rcases List.mem_cons.mp hmem with rfl | hmem
      · exact if_pos rfl
      · obtain ⟨hhead, hrest⟩ := List.pairwise_cons.mp hmembers
        have hne : member.1 ≠ k := fun heq => String.lt_irrefl _ (heq ▸ hhead member hmem)
        rw [if_neg hne]
        exact ih hrest hmem
  have hperm : first.Perm second := by
    refine (List.perm_ext_iff_of_nodup hfirst.nodup.of_map hsecond.nodup.of_map).mpr
      fun member => ?_
    rw [mem_iff hfirst, mem_iff hsecond, h]
  exact hperm.eq_of_pairwise
    (fun a b _ _ hab hba => absurd (String.lt_trans hab hba) (String.lt_irrefl _)) hfirst hsecond

/-! ## What an object denotes -/

theorem lookup_canonicalMembers_append {members : List (String × Json)}
    (hnodup : (members.map Prod.fst).Nodup) (sorted : List (String × Json)) (key : String) :
    (canonicalMembers sorted members).lookup key =
      ((members.lookup key).map canonical).or (sorted.lookup key) := by
  induction members generalizing sorted with
  | nil => rfl
  | cons member members ih =>
    obtain ⟨k, value⟩ := member
    rw [canonicalMembers, ih (List.nodup_cons.mp hnodup).2, lookup_insertMember, lookup_cons_ite]
    by_cases h : key = k
    · rw [if_pos h, if_pos h, h, lookup_tail hnodup]
      rfl
    · rw [if_neg h, if_neg h]

/-- **The members that an object denotes have the values of its own.** -/
theorem lookup_canonicalMembers {members : List (String × Json)}
    (hnodup : (members.map Prod.fst).Nodup) (key : String) :
    (canonicalMembers [] members).lookup key = (members.lookup key).map canonical := by
  rw [lookup_canonicalMembers_append hnodup, List.lookup_nil, Option.or_none]

/-- **Objects with the same look-ups denote the same value.** -/
theorem canonical_object_eq {first second : List (String × Json)}
    (hfirst : (first.map Prod.fst).Nodup) (hsecond : (second.map Prod.fst).Nodup)
    (h : ∀ key, (first.lookup key).map canonical = (second.lookup key).map canonical) :
    (object first).canonical = (object second).canonical := by
  refine congrArg object (Ascending.eq_of_lookup (ascending_canonicalMembers ascending_nil _)
    (ascending_canonicalMembers ascending_nil _) fun key => ?_)
  rw [lookup_canonicalMembers hfirst, lookup_canonicalMembers hsecond, h]

/-! ## Members that may be missing -/

/-- The members that are present. -/
def present (members : List (String × Option Json)) : List (String × Json) :=
  members.filterMap fun (key, value) => value.map (key, ·)

theorem present_cons (key : String) (value : Option Json) (members : List (String × Option Json)) :
    present ((key, value) :: members) = (value.map (key, ·)).toList ++ present members := by
  cases value <;> rfl

theorem map_fst_present_sublist (members : List (String × Option Json)) :
    ((present members).map Prod.fst).Sublist (members.map Prod.fst) := by
  induction members with
  | nil => exact .refl _
  | cons member members ih =>
    obtain ⟨key, _ | value⟩ := member
    · exact ih.cons _
    · exact ih.cons_cons _

theorem lookup_present {members : List (String × Option Json)}
    (hnodup : (members.map Prod.fst).Nodup) (key : String) :
    (present members).lookup key = (members.lookup key).join := by
  induction members with
  | nil => rfl
  | cons member members ih =>
    obtain ⟨k, value⟩ := member
    rw [present_cons, lookup_toList_append, lookup_cons_ite, ih (List.nodup_cons.mp hnodup).2]
    split
    · rename_i h
      rw [h, lookup_tail hnodup]
      exact Option.or_none
    · rfl

/-! ## Values whose objects have each key once -/

mutual

/-- **A value in which no object has a key twice.** -/
def DistinctKeys : Json → Prop
  | array items => DistinctKeysItems items
  | object members => (members.map Prod.fst).Nodup ∧ DistinctKeysMembers members
  | _ => True

/-- Items in which no object has a key twice. -/
def DistinctKeysItems : List Json → Prop
  | [] => True
  | item :: items => item.DistinctKeys ∧ DistinctKeysItems items

/-- Members in whose values no object has a key twice. -/
def DistinctKeysMembers : List (String × Json) → Prop
  | [] => True
  | (_, value) :: members => value.DistinctKeys ∧ DistinctKeysMembers members

end

theorem distinctKeysItems_iff {items : List Json} :
    DistinctKeysItems items ↔ ∀ item ∈ items, item.DistinctKeys := by
  induction items with
  | nil => simp [DistinctKeysItems]
  | cons item items ih => rw [DistinctKeysItems, ih, List.forall_mem_cons]

theorem distinctKeysMembers_iff {members : List (String × Json)} :
    DistinctKeysMembers members ↔ ∀ member ∈ members, member.2.DistinctKeys := by
  induction members with
  | nil => simp [DistinctKeysMembers]
  | cons member members ih => rw [DistinctKeysMembers, ih, List.forall_mem_cons]

/-- The values of an object in which no key comes twice. -/
theorem DistinctKeys.of_lookup {members : List (String × Json)} {key : String} {value : Json}
    (h : (object members).DistinctKeys) (hlookup : members.lookup key = some value) :
    value.DistinctKeys := by
  rw [DistinctKeys] at h
  exact distinctKeysMembers_iff.mp h.2 _ (mem_of_lookup hlookup)

theorem DistinctKeys.of_mem {items : List Json} {item : Json} (h : (array items).DistinctKeys)
    (hmem : item ∈ items) : item.DistinctKeys := by
  rw [DistinctKeys] at h
  exact distinctKeysItems_iff.mp h item hmem

theorem canonicalItems_eq_map (items : List Json) : canonicalItems items = items.map canonical := by
  induction items with
  | nil => rfl
  | cons item items ih => rw [canonicalItems, ih, List.map_cons]

theorem canonical_array (items : List Json) :
    (array items).canonical = array (items.map canonical) := by
  rw [canonical, canonicalItems_eq_map]

mutual

/-- **What a value denotes has no key twice.** -/
theorem distinctKeys_canonical : ∀ value : Json, value.canonical.DistinctKeys
  | null => trivial
  | bool _ => trivial
  | number _ => trivial
  | string _ => trivial
  | array items => by
    rw [canonical, DistinctKeys]
    exact distinctKeys_canonicalItems items
  | object members => by
    rw [canonical, DistinctKeys]
    have hnil : DistinctKeysMembers [] := trivial
    exact ⟨(ascending_canonicalMembers ascending_nil members).nodup,
      distinctKeys_canonicalMembers hnil members⟩

theorem distinctKeys_canonicalItems : ∀ items, DistinctKeysItems (canonicalItems items)
  | [] => trivial
  | item :: items => by
    rw [canonicalItems, DistinctKeysItems]
    exact ⟨distinctKeys_canonical item, distinctKeys_canonicalItems items⟩

theorem distinctKeys_canonicalMembers {sorted : List (String × Json)}
    (h : DistinctKeysMembers sorted) :
    ∀ members, DistinctKeysMembers (canonicalMembers sorted members)
  | [] => h
  | (key, value) :: members => by
    have hvalue := distinctKeys_canonical value
    have hinsert : DistinctKeysMembers (insertMember key value.canonical sorted) := by
      refine distinctKeysMembers_iff.mpr fun member hmem => ?_
      rcases mem_insertMember hmem with rfl | hmem
      · exact hvalue
      · exact distinctKeysMembers_iff.mp h member hmem
    rw [canonicalMembers]
    exact distinctKeys_canonicalMembers hinsert members

end

/-! ## Depth -/

theorem depth_lt_of_mem {items : List Json} {item : Json} (h : item ∈ items) :
    item.depth < (array items).depth := by
  rw [depth]
  induction items with
  | nil => cases h
  | cons first items ih =>
    rw [depthItems]
    rcases List.mem_cons.mp h with rfl | h
    · omega
    · have := ih h
      omega

theorem depth_lt_of_member {members : List (String × Json)} {member : String × Json}
    (h : member ∈ members) : member.2.depth < (object members).depth := by
  rw [depth]
  induction members with
  | nil => cases h
  | cons first members ih =>
    rw [depthMembers]
    rcases List.mem_cons.mp h with rfl | h
    · omega
    · have := ih h
      omega

theorem depth_lt_of_lookup {members : List (String × Json)} {key : String} {value : Json}
    (h : members.lookup key = some value) : value.depth < (object members).depth :=
  depth_lt_of_member (mem_of_lookup h)

end Json

end QueryTree
