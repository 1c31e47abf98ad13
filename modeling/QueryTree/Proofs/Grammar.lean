import QueryTree.Proofs.Locality
import QueryTree.Proofs.Members
/-!
# Grammar — well-formed texts

Which texts are texts of a value, said without a reader: brackets around
items or members, commas between them, a colon behind each key, and blanks
anywhere between these. Only what a single word, string or number stands
for is left to the scanners, and a number that is out of range stands for
none. Such a text is read as its value if that is not nested too deep
(`Json.Spaced.readText_eq`).
-/

namespace QueryTree

namespace Json

/-! ## Texts of a value -/

/-- Blanks between the pieces of a text. -/
def Blanks (text : List Char) : Prop := ∀ c ∈ text, Scan.isBlank c = true

/-- **A text of a key,** with blanks around it. -/
inductive WrittenKey : String → List Char → Prop where
  | mk {key : String} {before text after : List Char} (hbefore : Blanks before)
      (hkey : Scan.string text = .ok (key, [])) (hafter : Blanks after) :
      WrittenKey key (before ++ '"' :: (text ++ after))

mutual

/-- **A text of a value,** without blanks around it. -/
inductive Written : Json → List Char → Prop where
  | scalar {value : Json} {text : List Char} (hscalar : Scan.scalar text = .ok (value, [])) :
      Written value text
  | emptyList {blanks : List Char} (hblanks : Blanks blanks) :
      Written (.array []) ('[' :: (blanks ++ [']']))
  | list {items : List Json} {text : List Char} (hitems : WrittenItems items text) :
      Written (.array items) ('[' :: (text ++ [']']))
  | emptyObject {blanks : List Char} (hblanks : Blanks blanks) :
      Written (.object []) ('{' :: (blanks ++ ['}']))
  | object {members : List (String × Json)} {text : List Char}
      (hmembers : WrittenMembers members text) : Written (.object members) ('{' :: (text ++ ['}']))

/-- **A text of a value,** with blanks around it. -/
inductive Spaced : Json → List Char → Prop where
  | mk {value : Json} {before text after : List Char} (hbefore : Blanks before)
      (hvalue : Written value text) (hafter : Blanks after) :
      Spaced value (before ++ (text ++ after))

/-- **A text of some items,** with commas between them. -/
inductive WrittenItems : List Json → List Char → Prop where
  | one {item : Json} {text : List Char} (hitem : Spaced item text) : WrittenItems [item] text
  | more {item : Json} {items : List Json} {text others : List Char} (hitem : Spaced item text)
      (hitems : WrittenItems items others) : WrittenItems (item :: items) (text ++ ',' :: others)

/-- **A text of some members,** with commas between them. -/
inductive WrittenMembers : List (String × Json) → List Char → Prop where
  | one {key : String} {value : Json} {keyText text : List Char} (hkey : WrittenKey key keyText)
      (hvalue : Spaced value text) : WrittenMembers [(key, value)] (keyText ++ ':' :: text)
  | more {key : String} {value : Json} {members : List (String × Json)}
      {keyText text others : List Char} (hkey : WrittenKey key keyText)
      (hvalue : Spaced value text) (hmembers : WrittenMembers members others) :
      WrittenMembers ((key, value) :: members) (keyText ++ ':' :: (text ++ ',' :: others))

end

/-! ## Blanks -/

variable {blanks text rest : List Char}

theorem Blanks.skipBlank_append (h : Blanks blanks) (text : List Char) :
    Scan.skipBlank (blanks ++ text) = Scan.skipBlank text :=
  List.dropWhile_append_of_pos h

theorem skipBlank_cons {c : Char} (h : Scan.isBlank c = false) (text : List Char) :
    Scan.skipBlank (c :: text) = c :: text :=
  List.dropWhile_cons_of_neg (by simp [h])

theorem Blanks.skipBlank_eq (h : Blanks blanks) : Scan.skipBlank blanks = [] := by
  rw [← List.append_nil blanks, h.skipBlank_append]
  rfl

theorem continuesNumber_of_isBlank {c : Char} (h : Scan.isBlank c = true) :
    Scan.continuesNumber c = false := by
  simp only [Scan.isBlank, Bool.or_eq_true, decide_eq_true_eq] at h
  rcases h with ((rfl | rfl) | rfl) | rfl <;> rfl

/-- Blanks do not go on with a number, nor does what is behind them. -/
theorem Blanks.ends_append (h : Blanks blanks) (hrest : Scan.Ends rest) :
    Scan.Ends (blanks ++ rest) := by
  cases blanks with
  | nil => exact hrest
  | cons c blanks =>
    rintro _ ⟨⟩
    exact continuesNumber_of_isBlank (h c List.mem_cons_self)

/-! ## How a text of a value starts -/

/-- The first character of a scalar is no blank and no closing bracket. -/
theorem head_of_scalar {value : Json} (h : Scan.scalar text = .ok (value, rest)) :
    ∃ c more, text = c :: more ∧ Scan.isBlank c = false ∧ c ≠ ']' := by
  cases text with
  | nil => cases h
  | cons c more =>
    refine ⟨c, more, rfl, ?_, ?_⟩
    · by_contra hblank
      simp only [Scan.isBlank, Bool.not_eq_false, Bool.or_eq_true, decide_eq_true_eq] at hblank
      rcases hblank with ((rfl | rfl) | rfl) | rfl <;> cases h
    · rintro rfl
      cases h

theorem Written.head {value : Json} (h : Written value text) :
    ∃ c more, text = c :: more ∧ Scan.isBlank c = false ∧ c ≠ ']' := by
  cases h with
  | scalar hscalar => exact head_of_scalar hscalar
  | emptyList | list => exact ⟨'[', _, rfl, rfl, by decide⟩
  | emptyObject | object => exact ⟨'{', _, rfl, rfl, by decide⟩

/-- Behind its blanks a text of a value is one. -/
theorem Spaced.exists_written {value : Json} (h : Spaced value text) :
    ∃ inner after, Written value inner ∧ Blanks after ∧
      ∀ rest, Scan.skipBlank (text ++ rest) = inner ++ (after ++ rest) := by
  obtain ⟨hbefore, hvalue, hafter⟩ := h
  rename_i before inner after
  refine ⟨inner, after, hvalue, hafter, fun rest => ?_⟩
  obtain ⟨c, more, rfl, hblank, -⟩ := hvalue.head
  rw [List.append_assoc, hbefore.skipBlank_append, List.append_assoc, List.cons_append,
    skipBlank_cons hblank]

theorem WrittenKey.exists_string {key : String} (h : WrittenKey key text) :
    ∃ inner after, Scan.string inner = .ok (key, []) ∧ Blanks after ∧
      ∀ rest, Scan.skipBlank (text ++ rest) = '"' :: (inner ++ (after ++ rest)) := by
  obtain ⟨hbefore, hkey, hafter⟩ := h
  rename_i before inner after
  refine ⟨inner, after, hkey, hafter, fun rest => ?_⟩
  rw [List.append_assoc, hbefore.skipBlank_append, List.cons_append, List.append_assoc,
    skipBlank_cons rfl]

theorem Spaced.length_pos {value : Json} (h : Spaced value text) : 0 < text.length := by
  obtain ⟨-, hvalue, -⟩ := h
  obtain ⟨c, more, rfl, -, -⟩ := hvalue.head
  simp only [List.length_append, List.length_cons]
  omega

theorem WrittenItems.length_le {items : List Json} (h : WrittenItems items text) :
    items.length ≤ text.length := by
  induction items generalizing text with
  | nil => exact Nat.zero_le _
  | cons item items ih =>
    cases h with
    | one hitem => exact hitem.length_pos
    | more hitem hitems =>
      have := ih hitems
      simp only [List.length_cons, List.length_append]
      omega

theorem WrittenMembers.length_le {members : List (String × Json)}
    (h : WrittenMembers members text) :
    members.length ≤ text.length := by
  induction members generalizing text with
  | nil => exact Nat.zero_le _
  | cons member members ih =>
    cases h with
    | one hkey hvalue =>
      simp only [List.length_cons, List.length_append, List.length_nil]
      omega
    | more hkey hvalue hmembers =>
      have := ih hmembers
      simp only [List.length_cons, List.length_append]
      omega

end Json

open Json

/-! ## How it is read -/

namespace Reader

variable {isFirst : Bool} {whole text rest : List Char}

/-- **Where an item or a member may begin:** at once if it is the first, and
else behind a comma. -/
inductive Opens : Bool → List Char → List Char → Prop where
  | first (text : List Char) : Opens true text text
  | later {blanks : List Char} (hblanks : Blanks blanks) (text : List Char) :
      Opens false (blanks ++ ',' :: text) text

theorem Opens.nextItem_eq (h : Opens isFirst whole text) {c : Char} {more : List Char}
    (htext : Scan.skipBlank text = c :: more) (hc : c ≠ ']') :
    nextItem isFirst whole = .ok (true, c :: more) := by
  cases h with
  | first =>
    rw [nextItem, htext]
    split
    · rename_i heq
      cases heq
    · rename_i heq
      cases heq
      exact absurd rfl hc
    · rename_i heq
      cases heq
      exact if_pos rfl
  | later hblanks =>
    rw [nextItem, hblanks.skipBlank_append, skipBlank_cons rfl]
    split
    · rename_i heq
      cases heq
    · rename_i heq
      cases heq
    · rename_i heq
      cases heq
      rw [if_neg Bool.false_ne_true, if_pos rfl, htext]
      split
      · rename_i heq
        cases heq
      · rename_i heq
        cases heq
        exact absurd rfl hc
      · rfl

theorem Opens.nextMember_eq (h : Opens isFirst whole text) {more : List Char}
    (htext : Scan.skipBlank text = '"' :: more) :
    nextMember isFirst whole = .ok (true, '"' :: more) := by
  cases h with
  | first =>
    rw [nextMember, htext]
    rfl
  | later hblanks =>
    rw [nextMember, hblanks.skipBlank_append, skipBlank_cons rfl]
    split
    · rename_i heq
      cases heq
    · rename_i heq
      cases heq
    · rename_i heq
      cases heq
      rw [if_neg Bool.false_ne_true, if_pos rfl, htext]
      rfl

theorem nextItem_closing {blanks : List Char} (h : Blanks blanks) (isFirst : Bool)
    (rest : List Char) : nextItem isFirst (blanks ++ ']' :: rest) = .ok (false, ']' :: rest) := by
  rw [nextItem, h.skipBlank_append, skipBlank_cons rfl]
  rfl

theorem nextMember_closing {blanks : List Char} (h : Blanks blanks) (isFirst : Bool)
    (rest : List Char) :
    nextMember isFirst (blanks ++ '}' :: rest) = .ok (false, '}' :: rest) := by
  rw [nextMember, h.skipBlank_append, skipBlank_cons rfl]
  rfl

/-- **A reader that reads the texts of every value** that is not nested too
deep, behind blanks. -/
def Accepts (value : List Char → Scanned Json) (depth : Nat) : Prop :=
  ∀ found text whole rest, Written found text → found.depth ≤ depth → Scan.Ends rest →
    Scan.skipBlank whole = text ++ rest → value whole = .ok (found, rest)

section Accepts

variable {value : List Char → Scanned Json} {depth : Nat} {found : Json} {c : Char}

theorem ends_cons (h : Scan.continuesNumber c = false) (rest : List Char) :
    Scan.Ends (c :: rest) := by
  rintro _ ⟨⟩
  exact h

/-- One item, and what is behind it. -/
theorem Accepts.item (h : Accepts value depth) (hspaced : Spaced found text)
    (hdepth : found.depth ≤ depth) (hc : Scan.continuesNumber c = false)
    (hopens : Opens isFirst whole (text ++ c :: rest)) :
    ∃ itemText after, nextItem isFirst whole = .ok (true, itemText) ∧
      value itemText = .ok (found, after ++ c :: rest) ∧ Blanks after := by
  obtain ⟨inner, after, hwritten, hafter, hskip⟩ := hspaced.exists_written
  obtain ⟨first, more, rfl, hblank, hfirst⟩ := hwritten.head
  have hends := hafter.ends_append (ends_cons hc rest)
  exact ⟨_, after, hopens.nextItem_eq (hskip _) hfirst,
    h found _ _ _ hwritten hdepth hends (skipBlank_cons hblank _), hafter⟩

/-- **The items of a list are read** if each of them is. -/
theorem Accepts.items (h : Accepts value depth) {items : List Json}
    (hitems : WrittenItems items text) (hdepth : depthItems items ≤ depth)
    (hopens : Opens isFirst whole (text ++ ']' :: rest)) :
    Items value isFirst whole items rest := by
  induction items generalizing isFirst whole text with
  | nil => cases hitems
  | cons item items ih =>
    obtain ⟨hitem, hothers⟩ := Nat.max_le.mp hdepth
    cases hitems with
    | one hspaced =>
      obtain ⟨itemText, after, hnext, hvalue, hafter⟩ := h.item hspaced hitem rfl hopens
      exact .more hnext hvalue (.done (nextItem_closing hafter false rest))
    | more hspaced hitems =>
      rw [List.append_assoc, List.cons_append] at hopens
      obtain ⟨itemText, after, hnext, hvalue, hafter⟩ := h.item hspaced hitem rfl hopens
      exact .more hnext hvalue (ih hitems hothers (.later hafter _))

/-- One member, and what is behind it. -/
theorem Accepts.member (h : Accepts value depth) {key : String} {keyText : List Char}
    (hkey : WrittenKey key keyText) (hspaced : Spaced found text) (hdepth : found.depth ≤ depth)
    (hc : Scan.continuesNumber c = false)
    (hopens : Opens isFirst whole (keyText ++ ':' :: (text ++ c :: rest))) :
    ∃ quoted afterKey valueText after, nextMember isFirst whole = .ok (true, quoted) ∧
      Scan.string quoted.tail = .ok (key, afterKey) ∧ colon afterKey = .ok valueText ∧
      value valueText = .ok (found, after ++ c :: rest) ∧ Blanks after := by
  obtain ⟨inner, after, hwritten, hafter, hskip⟩ := hspaced.exists_written
  obtain ⟨keyInner, afterKey, hstring, hblanks, hkeySkip⟩ := hkey.exists_string
  have hends := hafter.ends_append (ends_cons hc rest)
  have hkeyEnds := hblanks.ends_append (ends_cons (c := ':') rfl (text ++ c :: rest))
  have hkeyRead := Scan.steady_string _ _ _ _ hkeyEnds hstring
  have hcolon : colon (afterKey ++ ':' :: (text ++ c :: rest)) = .ok (text ++ c :: rest) := by
    rw [colon, hblanks.skipBlank_append, skipBlank_cons rfl]
    rfl
  exact ⟨_, _, _, after, hopens.nextMember_eq (hkeySkip _), hkeyRead, hcolon,
    h found _ _ _ hwritten hdepth hends (hskip _), hafter⟩

/-- **The members of an object are read** if the value of each is. -/
theorem Accepts.members (h : Accepts value depth) {members : List (String × Json)}
    (hmembers : WrittenMembers members text) (hdepth : depthMembers members ≤ depth)
    (hopens : Opens isFirst whole (text ++ '}' :: rest)) :
    Members value isFirst whole members rest := by
  induction members generalizing isFirst whole text with
  | nil => cases hmembers
  | cons member members ih =>
    obtain ⟨hmember, hothers⟩ := Nat.max_le.mp hdepth
    cases hmembers with
    | one hkey hspaced =>
      rw [List.append_assoc, List.cons_append] at hopens
      obtain ⟨_, _, _, _, hnext, hkey, hcolon, hvalue, hafter⟩ :=
        h.member hkey hspaced hmember rfl hopens
      exact .more hnext hkey hcolon hvalue (.done (nextMember_closing hafter false rest))
    | more hkey hspaced hmembers =>
      rw [List.append_assoc, List.cons_append, List.append_assoc, List.cons_append] at hopens
      obtain ⟨_, _, _, _, hnext, hkey, hcolon, hvalue, hafter⟩ :=
        h.member hkey hspaced hmember rfl hopens
      exact .more hnext hkey hcolon hvalue (ih hmembers hothers (.later hafter _))

end Accepts

/-! ## What has been read -/

section Read

variable {value : List Char → Scanned Json} {fuel : Nat}

theorem Items.read_eq {items : List Json} (h : Items value isFirst text items rest)
    (hfuel : items.length < fuel) (read : List Json) :
    Reader.items (valueItem value) fuel isFirst read text =
      .ok (items.reverse ++ read, ']' :: rest) := by
  induction h generalizing fuel read with
  | done hnext =>
    obtain ⟨fuel, rfl⟩ := Nat.exists_eq_add_of_lt hfuel
    exact Scanned.andThen_eq_ok.mpr ⟨_, _, hnext, rfl⟩
  | @more _ _ itemText between _ item items hnext hvalue _ ih =>
    cases fuel with
    | zero => cases hfuel
    | succ fuel =>
      have hothers := ih (Nat.lt_of_succ_lt_succ hfuel) (item :: read)
      have hitem : valueItem value read itemText = .ok (item :: read, between) :=
        Scanned.map_eq_ok.mpr ⟨item, hvalue, rfl⟩
      rw [List.reverse_cons, List.append_assoc]
      exact Scanned.andThen_eq_ok.mpr
        ⟨_, _, hnext, Scanned.andThen_eq_ok.mpr ⟨_, _, hitem, hothers⟩⟩

theorem Members.read_eq {members : List (String × Json)}
    (h : Members value isFirst text members rest) (hfuel : members.length < fuel)
    (read : List (String × Json)) :
    Reader.members (valueMember value) fuel isFirst read text =
      .ok (members.reverse ++ read, '}' :: rest) := by
  induction h generalizing fuel read with
  | done hnext =>
    obtain ⟨fuel, rfl⟩ := Nat.exists_eq_add_of_lt hfuel
    exact Scanned.andThen_eq_ok.mpr ⟨_, _, hnext, rfl⟩
  | @more _ _ _ afterKey _ between _ key found members hnext hkey hcolon hvalue _ ih =>
    cases fuel with
    | zero => cases hfuel
    | succ fuel =>
      have hothers := ih (Nat.lt_of_succ_lt_succ hfuel) ((key, found) :: read)
      have hmember : valueMember value read key afterKey = .ok ((key, found) :: read, between) := by
        rw [valueMember, hcolon]
        exact Scanned.map_eq_ok.mpr ⟨found, hvalue, rfl⟩
      rw [List.reverse_cons, List.append_assoc]
      exact Scanned.andThen_eq_ok.mpr ⟨_, _, hnext, Scanned.andThen_eq_ok.mpr
        ⟨_, _, hkey, Scanned.andThen_eq_ok.mpr ⟨_, _, hmember, hothers⟩⟩⟩

/-- A list whose items are read. -/
theorem Items.valuesInside_eq {items : List Json} (h : Items value true text items rest)
    (hfuel : items.length ≤ text.length) :
    valuesInside value '[' text = .ok (.array items, rest) := by
  have hread := h.read_eq (Nat.lt_succ_of_le hfuel) []
  have harray : (Reader.items (valueItem value) (text.length + 1) true [] text).map
      (fun read => Json.array read.reverse) = .ok (.array items, ']' :: rest) :=
    Scanned.map_eq_ok.mpr ⟨_, hread, by rw [List.append_nil, List.reverse_reverse]⟩
  exact closeList_eq_ok.mpr ⟨_, harray, rfl⟩

/-- An object whose members are read. -/
theorem Members.valuesInside_eq {members : List (String × Json)}
    (h : Members value true text members rest) (hfuel : members.length ≤ text.length) :
    valuesInside value '{' text = .ok (.object members, rest) := by
  have hread := h.read_eq (Nat.lt_succ_of_le hfuel) []
  have hobject : (Reader.members (valueMember value) (text.length + 1) true [] text).map
      (fun read => Json.object read.reverse) = .ok (.object members, '}' :: rest) :=
    Scanned.map_eq_ok.mpr ⟨_, hread, by rw [List.append_nil, List.reverse_reverse]⟩
  exact closeObject_eq_ok.mpr ⟨_, hobject, rfl⟩

end Read

theorem valueWith_scalar {inside : Char → List Char → Scanned Json} {found : Json}
    {scalar : List Char} (hscalar : Scan.scalar scalar = .ok (found, []))
    (hends : Scan.Ends rest) (hwhole : Scan.skipBlank whole = scalar ++ rest) :
    valueWith inside whole = .ok (found, rest) := by
  have hread := Scan.steady_scalar _ _ _ _ hends hscalar
  cases scalar with
  | nil => cases hscalar
  | cons c more =>
    have hbracket : ¬(c = '[' ∨ c = '{') := by
      rintro (rfl | rfl) <;> cases hscalar
    rw [valueWith, hwhole]
    exact (if_neg hbracket).trans hread

theorem valueWith_bracket {inside : Char → List Char → Scanned Json} {opening : Char}
    (hbracket : opening = '[' ∨ opening = '{') (hwhole : Scan.skipBlank whole = opening :: text) :
    valueWith inside whole = inside opening text := by
  rw [valueWith, hwhole]
  exact if_pos hbracket

/-- **A text of a value is read as the value,** if that is not nested too
deep. -/
theorem accepts_value (depth : Nat) : Accepts (Reader.value depth) depth := by
  induction depth with
  | zero =>
    intro found text whole rest hwritten hdepth hends hwhole
    cases hwritten with
    | scalar hscalar => exact valueWith_scalar hscalar hends hwhole
    | emptyList | list | emptyObject | object => cases hdepth
  | succ depth ih =>
    intro found text whole rest hwritten hdepth hends hwhole
    rw [Reader.value]
    cases hwritten with
    | scalar hscalar => exact valueWith_scalar hscalar hends hwhole
    | emptyList hblanks =>
      rw [List.cons_append, List.append_assoc] at hwhole
      rw [valueWith_bracket (.inl rfl) hwhole]
      exact Items.valuesInside_eq (.done (nextItem_closing hblanks true rest)) (Nat.zero_le _)
    | list hitems =>
      rw [List.cons_append, List.append_assoc] at hwhole
      rw [valueWith_bracket (.inl rfl) hwhole]
      refine Items.valuesInside_eq (ih.items hitems (Nat.le_of_succ_le_succ hdepth) (.first _)) ?_
      exact hitems.length_le.trans (by simp)
    | emptyObject hblanks =>
      rw [List.cons_append, List.append_assoc] at hwhole
      rw [valueWith_bracket (.inr rfl) hwhole]
      exact Members.valuesInside_eq (.done (nextMember_closing hblanks true rest)) (Nat.zero_le _)
    | object hmembers =>
      rw [List.cons_append, List.append_assoc] at hwhole
      rw [valueWith_bracket (.inr rfl) hwhole]
      refine Members.valuesInside_eq
        (ih.members hmembers (Nat.le_of_succ_le_succ hdepth) (.first _)) ?_
      exact hmembers.length_le.trans (by simp)

end Reader

/-- **A well-formed text is read as its value,** if that is not nested too
deep. -/
theorem Json.Spaced.readText_eq {value : Json} {text : String} (h : Spaced value text.toList)
    (hdepth : value.depth ≤ Reader.depthLimit) :
    Reader.readText (Reader.value Reader.depthLimit) text = .ok value := by
  obtain ⟨inner, after, hwritten, hafter, hskip⟩ := h.exists_written
  have hwhole := hskip []
  rw [List.append_nil, List.append_nil] at hwhole
  have hends : Scan.Ends after := by
    rw [← List.append_nil after]
    exact hafter.ends_append fun _ hc => nomatch hc
  exact Reader.readText_eq_ok.mpr ⟨after,
    Reader.accepts_value _ _ _ _ _ hwritten hdepth hends hwhole, hafter.skipBlank_eq⟩

end QueryTree
