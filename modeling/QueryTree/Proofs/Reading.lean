import QueryTree.Json.Reader
import QueryTree.Proofs.Outcome
import Mathlib.Data.List.DropRight
/-!
# Reading — what a value in a text consists of

The recursions that read a list and an object are counted by the length of
the text and collect what they read in reverse. `Reader.Items` and
`Reader.Members` say what such a run has read, item by item and member by
member, and `Reader.Reads` what reading a whole value consists of
(`Reader.reads_of_ok`).
-/

namespace QueryTree

open Json

variable {α β : Type}

/-! ## Steps of a scan -/

namespace Scanned

theorem toOption_andThen (scanned : Scanned α) (next : α → List Char → Scanned β) :
    (scanned.andThen next).toOption =
      scanned.toOption.bind fun found => (next found.1 found.2).toOption := by
  cases scanned <;> rfl

theorem toOption_map (scanned : Scanned α) (f : α → β) :
    (scanned.map f).toOption = scanned.toOption.map fun found => (f found.1, found.2) := by
  cases scanned <;> rfl

theorem andThen_eq_ok {scanned : Scanned α} {next : α → List Char → Scanned β} {b : β}
    {rest : List Char} :
    scanned.andThen next = .ok (b, rest) ↔
      ∃ a between, scanned = .ok (a, between) ∧ next a between = .ok (b, rest) := by
  constructor
  · intro h
    cases scanned with
    | ok found => exact ⟨found.1, found.2, rfl, h⟩
    | error fault => cases h
  · rintro ⟨a, between, rfl, h⟩
    exact h

theorem map_eq_ok {scanned : Scanned α} {f : α → β} {b : β} {rest : List Char} :
    scanned.map f = .ok (b, rest) ↔ ∃ a, scanned = .ok (a, rest) ∧ f a = b := by
  rw [map, andThen_eq_ok]
  constructor
  · rintro ⟨a, between, h, hb⟩
    cases hb
    exact ⟨a, h, rfl⟩
  · rintro ⟨a, h, rfl⟩
    exact ⟨a, rest, h, rfl⟩

end Scanned

/-! ## Items and members -/

namespace Reader

variable {value : List Char → Scanned Json}

theorem nextItem_false {isFirst : Bool} {text rest : List Char}
    (h : nextItem isFirst text = .ok (false, rest)) :
    ∃ after, rest = ']' :: after ∧ Scan.skipBlank text = rest := by
  rw [nextItem] at h
  split at h
  · cases h
  · rename_i after htext
    cases h
    exact ⟨after, rfl, htext⟩
  · split at h
    · cases h
    split at h
    · split at h <;> cases h
    · cases h

theorem nextMember_false {isFirst : Bool} {text rest : List Char}
    (h : nextMember isFirst text = .ok (false, rest)) :
    ∃ after, rest = '}' :: after ∧ Scan.skipBlank text = rest := by
  rw [nextMember] at h
  split at h
  · cases h
  · rename_i after htext
    cases h
    exact ⟨after, rfl, htext⟩
  · split at h
    · split at h <;> cases h
    split at h
    · split at h <;> cases h
    · cases h

/-- **The items of a list as they stand in a text,** up to its closing
bracket. -/
inductive Items (value : List Char → Scanned Json) :
    Bool → List Char → List Json → List Char → Prop where
  | done {isFirst : Bool} {text rest : List Char}
      (hnext : nextItem isFirst text = .ok (false, ']' :: rest)) : Items value isFirst text [] rest
  | more {isFirst : Bool} {text itemText between rest : List Char} {item : Json} {items : List Json}
      (hnext : nextItem isFirst text = .ok (true, itemText))
      (hvalue : value itemText = .ok (item, between))
      (hitems : Items value false between items rest) :
      Items value isFirst text (item :: items) rest

/-- **The members of an object as they stand in a text,** up to its closing
bracket. -/
inductive Members (value : List Char → Scanned Json) :
    Bool → List Char → List (String × Json) → List Char → Prop where
  | done {isFirst : Bool} {text rest : List Char}
      (hnext : nextMember isFirst text = .ok (false, '}' :: rest)) :
      Members value isFirst text [] rest
  | more {isFirst : Bool} {text keyText afterKey valueText between rest : List Char} {key : String}
      {found : Json} {members : List (String × Json)}
      (hnext : nextMember isFirst text = .ok (true, keyText))
      (hkey : Scan.string keyText.tail = .ok (key, afterKey))
      (hcolon : colon afterKey = .ok valueText) (hvalue : value valueText = .ok (found, between))
      (hmembers : Members value false between members rest) :
      Members value isFirst text ((key, found) :: members) rest

theorem items_of_ok {fuel : Nat} {isFirst : Bool} {read out : List Json} {text rest : List Char}
    (h : items (valueItem value) fuel isFirst read text = .ok (out, rest)) :
    ∃ items after, out = items.reverse ++ read ∧ rest = ']' :: after ∧
      items.length < fuel ∧ Items value isFirst text items after := by
  induction fuel generalizing isFirst read text with
  | zero => cases h
  | succ fuel ih =>
    obtain ⟨more, itemText, hnext, h⟩ := Scanned.andThen_eq_ok.mp h
    cases more with
    | false =>
      obtain ⟨after, rfl, -⟩ := nextItem_false hnext
      cases h
      exact ⟨[], after, rfl, rfl, Nat.succ_pos _, .done hnext⟩
    | true =>
      obtain ⟨_, between, hitem, h⟩ := Scanned.andThen_eq_ok.mp h
      obtain ⟨item, hvalue, rfl⟩ := Scanned.map_eq_ok.mp hitem
      obtain ⟨items, after, rfl, hrest, hlt, hitems⟩ := ih h
      exact ⟨item :: items, after, by simp, hrest, Nat.succ_lt_succ hlt,
        .more hnext hvalue hitems⟩

theorem members_of_ok {fuel : Nat} {isFirst : Bool} {read out : List (String × Json)}
    {text rest : List Char}
    (h : members (valueMember value) fuel isFirst read text = .ok (out, rest)) :
    ∃ members after, out = members.reverse ++ read ∧ rest = '}' :: after ∧
      members.length < fuel ∧ Members value isFirst text members after := by
  induction fuel generalizing isFirst read text with
  | zero => cases h
  | succ fuel ih =>
    obtain ⟨more, keyText, hnext, h⟩ := Scanned.andThen_eq_ok.mp h
    cases more with
    | false =>
      obtain ⟨after, rfl, -⟩ := nextMember_false hnext
      cases h
      exact ⟨[], after, rfl, rfl, Nat.succ_pos _, .done hnext⟩
    | true =>
      obtain ⟨key, afterKey, hkey, h⟩ := Scanned.andThen_eq_ok.mp h
      obtain ⟨_, between, hmember, h⟩ := Scanned.andThen_eq_ok.mp h
      rw [valueMember] at hmember
      split at hmember
      · rename_i valueText hcolon
        obtain ⟨found, hvalue, rfl⟩ := Scanned.map_eq_ok.mp hmember
        obtain ⟨members, after, rfl, hrest, hlt, hmembers⟩ := ih h
        exact ⟨(key, found) :: members, after, by simp, hrest, Nat.succ_lt_succ hlt,
          .more hnext hkey hcolon hvalue hmembers⟩
      · cases hmember

/-- **What reading a value consists of.** -/
inductive Reads (depth : Nat) (text : List Char) : Json → List Char → Prop where
  | list {inner : Nat} {inside rest : List Char} {items : List Json} (hdepth : depth = inner + 1)
      (htext : Scan.skipBlank text = '[' :: inside) (hfuel : items.length < inside.length + 1)
      (hitems : Items (Reader.value inner) true inside items rest) :
      Reads depth text (.array items) rest
  | object {inner : Nat} {inside rest : List Char} {members : List (String × Json)}
      (hdepth : depth = inner + 1) (htext : Scan.skipBlank text = '{' :: inside)
      (hfuel : members.length < inside.length + 1)
      (hmembers : Members (Reader.value inner) true inside members rest) :
      Reads depth text (.object members) rest
  | scalar {c : Char} {more rest : List Char} {found : Json} (hlist : c ≠ '[') (hobject : c ≠ '{')
      (htext : Scan.skipBlank text = c :: more)
      (hscalar : Scan.scalar (c :: more) = .ok (found, rest)) : Reads depth text found rest

theorem closeList_eq_ok {inside : Scanned α} {a : α} {rest : List Char} :
    closeList inside = .ok (a, rest) ↔
      ∃ between, inside = .ok (a, between) ∧ endList between = .ok rest := by
  constructor
  · intro h
    cases inside with
    | ok found =>
      obtain ⟨between, hend, heq⟩ := QueryTree.map_eq_ok.mp h
      cases heq
      exact ⟨found.2, rfl, hend⟩
    | error fault => cases h
  · rintro ⟨between, rfl, hend⟩
    exact QueryTree.map_eq_ok.mpr ⟨rest, hend, rfl⟩

theorem closeObject_eq_ok {inside : Scanned α} {a : α} {rest : List Char} :
    closeObject inside = .ok (a, rest) ↔
      ∃ between, inside = .ok (a, between) ∧ endObject between = .ok rest := by
  constructor
  · intro h
    cases inside with
    | ok found =>
      obtain ⟨between, hend, heq⟩ := QueryTree.map_eq_ok.mp h
      cases heq
      exact ⟨found.2, rfl, hend⟩
    | error fault => cases h
  · rintro ⟨between, rfl, hend⟩
    exact QueryTree.map_eq_ok.mpr ⟨rest, hend, rfl⟩

theorem endList_closed (rest : List Char) : endList (']' :: rest) = .ok rest := rfl

/-- What a list or an object consists of. -/
theorem reads_of_valuesInside {depth : Nat} {c : Char} {text inside rest : List Char}
    {found : Json}
    (hbracket : c = '[' ∨ c = '{') (htext : Scan.skipBlank text = c :: inside)
    (h : valuesInside (Reader.value depth) c inside = .ok (found, rest)) :
    Reads (depth + 1) text found rest := by
  rw [valuesInside] at h
  split at h
  · rename_i hlist
    subst hlist
    obtain ⟨between, hinside, hend⟩ := closeList_eq_ok.mp h
    obtain ⟨out, hread, rfl⟩ := Scanned.map_eq_ok.mp hinside
    obtain ⟨items, after, rfl, rfl, hfuel, hitems⟩ := items_of_ok hread
    obtain rfl : after = rest := Except.ok.inj hend
    rw [List.append_nil, List.reverse_reverse]
    exact .list rfl htext hfuel hitems
  · rename_i hlist
    obtain rfl : c = '{' := hbracket.resolve_left hlist
    obtain ⟨between, hinside, hend⟩ := closeObject_eq_ok.mp h
    obtain ⟨out, hread, rfl⟩ := Scanned.map_eq_ok.mp hinside
    obtain ⟨members, after, rfl, rfl, hfuel, hmembers⟩ := members_of_ok hread
    obtain rfl : after = rest := Except.ok.inj hend
    rw [List.append_nil, List.reverse_reverse]
    exact .object rfl htext hfuel hmembers

theorem reads_of_ok {depth : Nat} {text rest : List Char} {found : Json}
    (h : Reader.value depth text = .ok (found, rest)) : Reads depth text found rest := by
  cases depth with
  | zero =>
    rw [Reader.value, valueWith] at h
    split at h
    · cases h
    · rename_i c inside htext
      split at h
      · cases h
      · rename_i hbracket
        obtain ⟨hlist, hobject⟩ := not_or.mp hbracket
        exact .scalar hlist hobject htext h
  | succ depth =>
    rw [Reader.value, valueWith] at h
    split at h
    · cases h
    · rename_i c inside htext
      split at h
      · rename_i hbracket
        exact reads_of_valuesInside hbracket htext h
      · rename_i hbracket
        obtain ⟨hlist, hobject⟩ := not_or.mp hbracket
        exact .scalar hlist hobject htext h

theorem skipBlank_skipBlank (text : List Char) :
    Scan.skipBlank (Scan.skipBlank text) = Scan.skipBlank text :=
  List.dropWhile_idempotent _ _

/-- Blanks before a value do not matter. -/
theorem value_skipBlank (depth : Nat) (text : List Char) :
    Reader.value depth (Scan.skipBlank text) = Reader.value depth text := by
  cases depth <;> rw [Reader.value, valueWith, valueWith, skipBlank_skipBlank]

/-! ## Whole texts -/

theorem readText_eq_ok {reader : List Char → Scanned α} {text : String} {a : α} :
    readText reader text = .ok a ↔
      ∃ rest, reader text.toList = .ok (a, rest) ∧ Scan.skipBlank rest = [] := by
  constructor
  · intro h
    simp only [readText] at h
    split at h
    · cases h
    · rename_i found rest hread
      split at h
      · rename_i hrest
        cases h
        exact ⟨rest, hread, hrest⟩
      · cases h
  · rintro ⟨rest, hread, hrest⟩
    simp only [readText, hread, hrest]

end Reader

/-! ## Scalars -/

namespace Scan

theorem word_eq_ok {value found : α} {letters text rest : List Char}
    (h : word value letters text = .ok (found, rest)) : found = value := by
  induction letters generalizing text with
  | nil =>
    cases h
    rfl
  | cons letter letters ih =>
    cases text with
    | nil => cases h
    | cons c text =>
      rw [word] at h
      split at h
      · exact ih h
      · cases h

/-- What stands for `null` in a text. -/
theorem word_map {value : α} {letters text : List Char} (other : β) :
    (word other letters text).toOption =
      (word value letters text).toOption.map fun found => (other, found.2) := by
  induction letters generalizing text with
  | nil => rfl
  | cons letter letters ih =>
    cases text with
    | nil => rfl
    | cons c text =>
      rw [word, word]
      split
      · exact ih
      · rfl

/-- A scalar is no list and no object, and it is `null` only if it starts
like that. -/
theorem scalar_eq_ok {text rest : List Char} {found : Json}
    (h : scalar text = .ok (found, rest)) :
    found.depth = 0 ∧ (found = .null → ∃ more, text = 'n' :: more) := by
  unfold scalar at h
  split at h
  · obtain rfl := word_eq_ok h
    exact ⟨rfl, fun _ => ⟨_, rfl⟩⟩
  · obtain rfl := word_eq_ok h
    exact ⟨rfl, nofun⟩
  · obtain rfl := word_eq_ok h
    exact ⟨rfl, nofun⟩
  · obtain ⟨s, -, rfl⟩ := Scanned.map_eq_ok.mp h
    exact ⟨rfl, nofun⟩
  · obtain ⟨n, -, rfl⟩ := Scanned.map_eq_ok.mp h
    exact ⟨rfl, nofun⟩
  · split at h
    · obtain ⟨n, -, rfl⟩ := Scanned.map_eq_ok.mp h
      exact ⟨rfl, nofun⟩
    · cases h

end Scan

end QueryTree
