import QueryTree.Proofs.Filling
/-!
# Segments — the texts around the holes of a template

A template is a text, and then a hole and a text for each hole
(`Template.segments`). Filling puts the fillings between these texts, each
of them once and in order (`Template.fill_eq_ite`), so what is filled in
can be read off the result. In the other direction any texts can be the
segments of a template, if their question marks are escaped
(`Template.segments_encoded`).
-/

namespace QueryTree

/-! ## Parts that are no texts -/

namespace Part

instance : DecidablePred IsText
  | text _ => .isTrue trivial
  | identifier _ | aliasName _ | param _ => .isFalse id

end Part

/-- A symbol that is a part of its own, which a character is not. -/
def Symbol.part? : Symbol → Option Part
  | char _ => none
  | identifier name => some (.identifier name)
  | aliasName name => some (.aliasName name)
  | param p => some (.param p)

namespace Fragment

/-- **The names and parameters of a fragment,** which are its parts that are
no texts. -/
def nonTexts (fragment : Fragment) : List Part := fragment.parts.filter (¬ ·.IsText)

theorem nonTexts_eq (fragment : Fragment) :
    fragment.nonTexts = fragment.symbols.filterMap Symbol.part? := by
  obtain ⟨parts⟩ := fragment
  induction parts with
  | nil => rfl
  | cons part parts ih =>
    have hrest : nonTexts ⟨parts⟩ = (parts.flatMap Part.symbols).filterMap Symbol.part? := ih
    rw [symbols, List.flatMap_cons, List.filterMap_append, ← hrest]
    cases part with
    | text text =>
      have htext : (Symbol.ofText text).filterMap Symbol.part? = [] := by
        simp [Symbol.ofText, Symbol.part?]
      rw [Part.symbols, htext]
      rfl
    | _ => rfl

@[simp] theorem nonTexts_append (first second : Fragment) :
    (first ++ second).nonTexts = first.nonTexts ++ second.nonTexts := by
  simp only [nonTexts_eq, symbols_append, List.filterMap_append]

@[simp] theorem nonTexts_appendText (fragment : Fragment) (text : String) :
    (fragment.appendText text).nonTexts = fragment.nonTexts := by
  simp [nonTexts_eq, Symbol.ofText, Symbol.part?]

/-! ## Texts and fragments in turn -/

/-- **Fragments and texts in turn,** after a fragment that stands already. -/
def alternate (fragment : Fragment) (rest : List (Fragment × String)) : Fragment :=
  rest.foldl (fun fragment (filling, text) => (fragment ++ filling).appendText text) fragment

theorem alternate_cons (fragment filling : Fragment) (text : String)
    (rest : List (Fragment × String)) :
    fragment.alternate ((filling, text) :: rest) =
      ((fragment ++ filling).appendText text).alternate rest := rfl

theorem nonTexts_alternate (fragment : Fragment) (rest : List (Fragment × String)) :
    (fragment.alternate rest).nonTexts =
      fragment.nonTexts ++ (rest.map Prod.fst).flatMap nonTexts := by
  induction rest generalizing fragment with
  | nil => simp [alternate]
  | cons turn rest ih =>
    obtain ⟨filling, text⟩ := turn
    rw [alternate_cons, ih]
    simp

theorem params_alternate (fragment : Fragment) (rest : List (Fragment × String)) :
    (fragment.alternate rest).params = fragment.params ++ (rest.map Prod.fst).flatMap params := by
  induction rest generalizing fragment with
  | nil => simp [alternate]
  | cons turn rest ih =>
    obtain ⟨filling, text⟩ := turn
    rw [alternate_cons, ih]
    simp [params_appendText]

end Fragment

namespace Template

/-! ## The places of the holes -/

/-- The character right before a place of a text, given the one before the
text. -/
def charBefore (previous : Option Char) (text : List Char) : Nat → Option Char
  | 0 => previous
  | place + 1 => text[place]?

/-- **Whether a hole stands at a place of a text:** a question mark without
a backslash right before it. The character before the text is given. -/
def IsHole (previous : Option Char) (text : List Char) (place : Nat) : Prop :=
  text[place]? = some '?' ∧ charBefore previous text place ≠ some '\\'

instance (previous : Option Char) (text : List Char) : DecidablePred (IsHole previous text) :=
  fun _ => instDecidableAnd

theorem isHole_zero (previous : Option Char) (c : Char) (text : List Char) :
    IsHole previous (c :: text) 0 ↔ c = '?' ∧ previous ≠ some '\\' := by
  simp [IsHole, charBefore]

/-- A later place of a text is one of the rest of it. -/
theorem isHole_succ (previous : Option Char) (c : Char) (text : List Char) (place : Nat) :
    IsHole previous (c :: text) (place + 1) ↔ IsHole (some c) text place := by
  cases place <;> simp [IsHole, charBefore]

/-- The places of the holes of a text, given the character before it. -/
def holePlacesAfter (previous : Option Char) (text : List Char) : List Nat :=
  (List.range text.length).filter (IsHole previous text)

/-- **The places of the holes of a template:** those of the question marks
that have no backslash right before them. -/
def holePlaces (template : List Char) : List Nat := holePlacesAfter none template

theorem length_holePlacesAfter (previous : Option Char) (text : List Char) :
    (holePlacesAfter previous text).length = holesFrom (previous = some '\\') text := by
  induction text generalizing previous with
  | nil => rfl
  | cons c text ih =>
    have hrest : (List.range text.length).countP (IsHole (some c) text) =
        holesFrom (c = '\\') text := by
      rw [List.countP_eq_length_filter]
      simpa [holePlacesAfter] using ih (some c)
    have hfirst : IsHole previous (c :: text) 0 ↔ c = '?' ∧ ¬ decide (previous = some '\\') := by
      simp [isHole_zero]
    rw [holePlacesAfter, ← List.countP_eq_length_filter, List.length_cons, List.range_succ_eq_map,
      List.countP_cons, List.countP_map, holesFrom, Nat.add_comm]
    simp only [Function.comp_def, isHole_succ, hrest, hfirst, decide_eq_true_eq]

/-- **Counting the holes finds each of them.** -/
theorem length_holePlaces (template : List Char) :
    (holePlaces template).length = holes template :=
  length_holePlacesAfter none template

/-! ## The segments of a template -/

/-- **The texts of a template:** the one before its first hole, and the one
after each hole. -/
structure Segments where
  first : String
  later : List String
deriving DecidableEq, Repr

namespace Segments

/-- A text before everything else. -/
def prepend (text : String) (segments : Segments) : Segments :=
  { segments with first := text ++ segments.first }

/-- A hole before everything else. -/
def afterHole (segments : Segments) : Segments := ⟨"", segments.first :: segments.later⟩

/-- **The fragment with fillings between the texts.** -/
def filled (segments : Segments) (fillings : List Fragment) : Fragment :=
  (Fragment.ofText segments.first).alternate (fillings.zip segments.later)

end Segments

/-- The segments of a template. -/
def segments : List Char → Segments
  | [] => ⟨"", []⟩
  | '\\' :: '?' :: template => (segments template).prepend "?"
  | '?' :: template => (segments template).afterHole
  | c :: template => (segments template).prepend c.toString

/-- A character that neither is a hole nor escapes one belongs to the text it
stands in. -/
theorem segments_cons_of_ne {c : Char} {template : List Char} (hc : c ≠ '?')
    (hescape : c = '\\' → template.head? ≠ some '?') :
    segments (c :: template) = (segments template).prepend c.toString := by
  rw [segments]
  · rintro rest rfl rfl
    exact hescape rfl rfl
  · exact hc

/-- **Both ways to read a template find the same holes:** there is a text
after each hole that is counted. -/
theorem length_later_segments (template : List Char) :
    (segments template).later.length = holes template := by
  fun_induction segments template with
  | case1 => rfl
  | case2 template ih => simpa [holes, holesFrom, Segments.prepend] using ih
  | case3 template ih => simpa [holes, holesFrom, Segments.afterHole, Nat.add_comm] using ih
  | case4 c template hescape hc ih =>
    -- the next character is no hole that `c` could escape
    have hnext : holesFrom (c = '\\') template = holesFrom false template := by
      by_cases hbackslash : c = '\\'
      · cases template with
        | nil => rfl
        | cons d rest =>
          have hd : d ≠ '?' := fun hd => hescape rest hbackslash (by rw [hd])
          rw [holesFrom, holesFrom, if_neg fun h => hd h.1, if_neg fun h => hd h.1]
      · rw [decide_eq_false hbackslash]
    rw [holes, holesFrom, if_neg fun h => hc h.1, hnext, Nat.zero_add]
    exact ih

/-- **Splicing puts the fillings between the segments,** where there are as
many fillings as holes: the texts are put at the end character by
character. -/
theorem splice_eq {template : List Char} {fillings : List Fragment}
    (h : (segments template).later.length = fillings.length) (fragment : Fragment) :
    splice template fillings fragment =
      (fragment.appendText (segments template).first).alternate
        (fillings.zip (segments template).later) := by
  fun_induction splice template fillings fragment with
  | case1 fillings fragment => simp [segments, Fragment.appendText, Fragment.alternate]
  | case2 template fillings fragment ih =>
    rw [segments] at h ⊢
    rw [ih h, Segments.prepend, Fragment.appendText_append]
  | case3 template fragment ih =>
    rw [segments] at h
    cases h
  | case4 template filling fillings fragment ih =>
    rw [segments] at h ⊢
    rw [ih (Nat.succ.inj h), Segments.afterHole, List.zip_cons_cons, Fragment.alternate_cons]
    rfl
  | case5 c template fillings fragment hescape hnil hcons ih =>
    -- a hole is never left to this case, whether there is a filling or not
    have hc : c ≠ '?' := by
      rintro rfl
      cases fillings with
      | nil => exact hnil rfl rfl
      | cons filling fillings => exact hcons filling fillings rfl rfl
    have hhead : c = '\\' → template.head? ≠ some '?' := by
      intro hbackslash hhead
      obtain ⟨rest, rfl⟩ := List.head?_eq_some_iff.mp hhead
      exact hescape rest hbackslash rfl
    rw [segments_cons_of_ne hc hhead] at h ⊢
    rw [ih h, Segments.prepend, Fragment.appendText_append]

/-- **What filling a template gives:** the fillings between the segments, if
there are as many fillings as holes. -/
theorem fill_eq_ite (template : String) (fillings : List Fragment) :
    fill template fillings =
      if (segments template.toList).later.length = fillings.length then
        .ok ((segments template.toList).filled fillings)
      else .error ⟨template, (segments template.toList).later.length, fillings.length⟩ := by
  rw [fill, ← length_later_segments]
  split
  · rename_i h
    rw [splice_eq h]
    rfl
  · rfl

/-- **A template takes each filling once and in order,** or says how many it
was given and how many holes it has. It is filled exactly where there are
as many fillings as question marks without a backslash right before them.
Then the fillings stand between the segments, and the names and parameters
of the result are theirs, one filling after the other. -/
theorem fill_takes_each (template : String) (fillings : List Fragment) :
    ((∃ fragment, fill template fillings = .ok fragment) ↔
        (holePlaces template.toList).length = fillings.length) ∧
      ((holePlaces template.toList).length ≠ fillings.length →
        fill template fillings =
          .error ⟨template, (holePlaces template.toList).length, fillings.length⟩) ∧
      ∀ fragment, fill template fillings = .ok fragment →
        (∃ turns : List (Fragment × String),
          turns.map Prod.fst = fillings ∧
          turns.map Prod.snd = (segments template.toList).later ∧
          fragment = (Fragment.ofText (segments template.toList).first).alternate turns) ∧
        fragment.nonTexts = fillings.flatMap Fragment.nonTexts ∧
        fragment.params = fillings.flatMap Fragment.params := by
  rw [length_holePlaces, ← length_later_segments, fill_eq_ite]
  by_cases h : (segments template.toList).later.length = fillings.length
  · rw [if_pos h]
    have hfirst : (fillings.zip (segments template.toList).later).map Prod.fst = fillings :=
      List.map_fst_zip h.ge
    have hsecond : (fillings.zip (segments template.toList).later).map Prod.snd =
        (segments template.toList).later := List.map_snd_zip h.le
    refine ⟨iff_of_true ⟨_, rfl⟩ h, fun hne => absurd h hne, ?_⟩
    rintro _ ⟨⟩
    refine ⟨⟨_, hfirst, hsecond, rfl⟩, ?_, ?_⟩
    · rw [Segments.filled, Fragment.nonTexts_alternate, hfirst, Fragment.ofText,
        Fragment.nonTexts_appendText]
      rfl
    · rw [Segments.filled, Fragment.params_alternate, hfirst, Fragment.ofText,
        Fragment.params_appendText]
      rfl
  · rw [if_neg h]
    refine ⟨iff_of_false ?_ h, fun _ => rfl, ?_⟩
    · rintro ⟨fragment, hfragment⟩
      cases hfragment
    · intro fragment hfragment
      cases hfragment

/-- An escaped question mark is no hole, and a filling may bring texts and
parameters of its own. -/
theorem fill_takes_escapedMark :
    ∃ fragment,
      fill "data \\? ? @> ?" [.identifier "t.a", .ofText "f(" ++ .ofParam .null ++ .ofText "?)"] =
        .ok fragment ∧
      fragment.nonTexts = [.identifier "t.a", .param .null] ∧ fragment.params = [.null] := by
  obtain ⟨hfills, -, htakes⟩ := fill_takes_each "data \\? ? @> ?"
    [.identifier "t.a", .ofText "f(" ++ .ofParam .null ++ .ofText "?)"]
  obtain ⟨fragment, hfragment⟩ := hfills.mpr (by decide)
  obtain ⟨-, hnonTexts, hparams⟩ := htakes fragment hfragment
  exact ⟨fragment, hfragment, hnonTexts, hparams⟩

/-! ## Texts as the segments of a template -/

/-- **A text as it is written in a template:** with a backslash before every
question mark. -/
def escaped (text : List Char) : List Char :=
  text.flatMap fun c => if c = '?' then ['\\', '?'] else [c]

/-- Texts after holes, as they are written in a template. -/
def encodedLater (later : List String) : List Char :=
  later.flatMap fun text => '?' :: escaped text.toList

/-- **The template of some texts:** the first one, and a hole before each of
the others. -/
def encoded (first : String) (later : List String) : String :=
  String.ofList (escaped first.toList ++ encodedLater later)

theorem escaped_cons (c : Char) (text : List Char) :
    escaped (c :: text) = (if c = '?' then ['\\', '?'] else [c]) ++ escaped text :=
  List.flatMap_cons ..

/-- What is written for a text does not begin with a hole. -/
theorem head?_escaped_append {text rest : List Char} (h : text = [] → rest.head? ≠ some '?') :
    (escaped text ++ rest).head? ≠ some '?' := by
  cases text with
  | nil => exact h rfl
  | cons c text =>
    rw [escaped_cons]
    split
    · simp
    · simpa

/-- **A text is read as it was written,** unless it ends in a backslash and a
hole comes next. -/
theorem segments_escaped_append {text rest : List Char}
    (h : text.getLast? = some '\\' → rest.head? ≠ some '?') :
    segments (escaped text ++ rest) = (segments rest).prepend (String.ofList text) := by
  induction text with
  | nil => simp [escaped, Segments.prepend]
  | cons c text ih =>
    have hlater : text.getLast? = some '\\' → rest.head? ≠ some '?' := fun hlast => by
      refine h ?_
      rw [List.getLast?_cons, hlast]
      rfl
    have hcons : String.ofList (c :: text) = c.toString ++ String.ofList text := by
      apply String.toList_injective
      simp [Char.toString_eq_singleton]
    have hprepend : (segments (escaped text ++ rest)).prepend c.toString =
        (segments rest).prepend (String.ofList (c :: text)) := by
      rw [ih hlater, hcons, Segments.prepend, Segments.prepend, Segments.prepend,
        String.append_assoc]
    rw [escaped_cons, List.append_assoc, ← hprepend]
    by_cases hc : c = '?'
    · rw [if_pos hc, hc]
      rfl
    · rw [if_neg hc]
      refine segments_cons_of_ne hc fun hbackslash => head?_escaped_append ?_
      -- nothing stands between this backslash and the hole
      rintro rfl
      exact h (by rw [hbackslash]; rfl)

/-- **Texts are the segments of their template,** if none that has a hole
after it ends in a backslash. -/
theorem segments_encoded {first : String} {later : List String}
    (h : ∀ text ∈ (first :: later).dropLast, text.toList.getLast? ≠ some '\\') :
    segments (encoded first later).toList = ⟨first, later⟩ := by
  rw [encoded, String.toList_ofList]
  induction later generalizing first with
  | nil =>
    rw [segments_escaped_append (by simp [encodedLater])]
    simp [encodedLater, segments, Segments.prepend]
  | cons next later ih =>
    rw [List.dropLast_cons_cons] at h
    obtain ⟨hfirst, hlater⟩ := List.forall_mem_cons.mp h
    have hnext : encodedLater (next :: later) =
        '?' :: (escaped next.toList ++ encodedLater later) := List.flatMap_cons ..
    rw [segments_escaped_append fun hlast => absurd hlast hfirst, hnext, segments, ih hlater]
    simp [Segments.prepend, Segments.afterHole]

/-- **Filling undoes the escaping of texts.** The template of some texts, of
which none that has a hole after it ends in a backslash, is filled to these
texts with the fillings between them; so any text at all, written as a
template without holes, is filled to itself. -/
theorem fill_encoded :
    (∀ (first : String) (turns : List (Fragment × String)),
        (∀ text ∈ (first :: turns.map Prod.snd).dropLast, text.toList.getLast? ≠ some '\\') →
        fill (encoded first (turns.map Prod.snd)) (turns.map Prod.fst) =
          .ok ((Fragment.ofText first).alternate turns)) ∧
      ∀ text : String, fill (encoded text []) [] = .ok (.ofText text) := by
  have hturns (first : String) (turns : List (Fragment × String))
      (h : ∀ text ∈ (first :: turns.map Prod.snd).dropLast, text.toList.getLast? ≠ some '\\') :
      fill (encoded first (turns.map Prod.snd)) (turns.map Prod.fst) =
        .ok ((Fragment.ofText first).alternate turns) := by
    have hzip : (turns.map Prod.fst).zip (turns.map Prod.snd) = turns := by
      rw [← List.unzip_fst, ← List.unzip_snd, List.zip_unzip]
    rw [fill_eq_ite, segments_encoded h, if_pos (by simp), Segments.filled, hzip]
  exact ⟨hturns, fun text => hturns text [] (by simp)⟩

/-- Backslashes before question marks, a text that is a question mark, and
a backslash at the very end. -/
theorem fill_encoded_backslashes :
    fill "a\\\\?b?\\??c\\" [.ofParam .null, .ofAlias "x"] =
      .ok ⟨[.text "a\\?b", .param .null, .text "?", .aliasName "x", .text "c\\"]⟩ := by
  have hlast : ∀ text ∈ ["a\\?b", "?", "c\\"].dropLast, text.toList.getLast? ≠ some '\\' := by
    decide
  exact fill_encoded.1 "a\\?b" [(.ofParam .null, "?"), (.ofAlias "x", "c\\")] hlast

end Template

end QueryTree
