import QueryTree.Compile.Filter
import QueryTree.Proofs.Symbols
/-!
# Filled templates — the fragment each template stands for

`Template.symbols` says what a template with given fillings reads as, and
`fill_eq` turns that into the fragment that filling gives. The templates
of the compilers follow, each one equal to a plain composition of its
fillings. A text without holes and backslashes, which is what the names
of functions and types are, stands for itself (`symbols_append_of_plain`).
-/

namespace QueryTree

namespace Template

/-- What a template reads as, given what its fillings read as. -/
def symbols : List Char → List (List Symbol) → List Symbol
  | [], _ => []
  | '\\' :: '?' :: template, fillings => .char '?' :: symbols template fillings
  | '?' :: template, [] => symbols template []
  | '?' :: template, filling :: fillings => filling ++ symbols template fillings
  | c :: template, fillings => .char c :: symbols template fillings

/-- A character that neither is a hole nor escapes one stands for itself. -/
theorem symbols_cons_of_ne {c : Char} {template : List Char} (fillings : List (List Symbol))
    (hc : c ≠ '?') (hescape : ∀ rest, c = '\\' → template = '?' :: rest → False) :
    symbols (c :: template) fillings = .char c :: symbols template fillings := by
  rw [symbols]
  · exact hescape
  · exact fun _ he => hc he
  · exact fun _ _ _ he => hc he

theorem symbols_splice (template : List Char) (fillings : List Fragment) (fragment : Fragment) :
    (splice template fillings fragment).symbols =
      fragment.symbols ++ symbols template (fillings.map Fragment.symbols) := by
  fun_induction splice template fillings fragment with
  | case1 => simp [symbols]
  | case2 template fillings fragment ih => simp [ih, symbols, Symbol.ofText]
  | case3 template fragment ih => simp [ih, symbols]
  | case4 template filling fillings fragment ih => simp [ih, symbols]
  | case5 c template fillings fragment hescape hnil hcons ih =>
    -- a hole is never left to this case, whether there is a filling or not
    have hc : c ≠ '?' := by
      rintro rfl
      cases fillings with
      | nil => exact hnil rfl rfl
      | cons filling fillings => exact hcons filling fillings rfl rfl
    rw [ih, symbols_cons_of_ne _ hc hescape]
    simp [Symbol.ofText, Char.toString_eq_singleton]

theorem normal_splice (template : List Char) (fillings : List Fragment) {fragment : Fragment}
    (h : fragment.Normal) : (splice template fillings fragment).Normal := by
  fun_induction splice template fillings fragment with
  | case1 => exact h
  | case2 template fillings fragment ih => exact ih (h.appendText "?")
  | case3 template fragment ih => exact ih h
  | case4 template filling fillings fragment ih => exact ih (h.append filling)
  | case5 c template fillings fragment _ _ _ ih => exact ih (h.appendText c.toString)

/-- **What filling a template gives:** the fragment in normal form that
reads as the template does. -/
theorem fill_eq {template : String} {fillings : List Fragment} {fragment : Fragment}
    (hnormal : fragment.Normal) (hholes : holes template.toList = fillings.length)
    (hsymbols : symbols template.toList (fillings.map Fragment.symbols) = fragment.symbols) :
    fill template fillings = .ok fragment := by
  have hspliced : (splice template.toList fillings .empty).Normal :=
    normal_splice _ _ Fragment.normal_empty
  have hreads : (splice template.toList fillings .empty).symbols = fragment.symbols := by
    rw [symbols_splice, hsymbols, Fragment.symbols_empty, List.nil_append]
  -- both are in normal form, so it is enough that they read the same
  rw [fill, if_pos hholes, Fragment.eq_of_symbols_eq hspliced hnormal hreads]

/-! ## Texts without holes -/

/-- Whether a text has no hole in it and can be put before one. -/
def Plain (text : List Char) : Prop := ∀ c ∈ text, c ≠ '?' ∧ c ≠ '\\'

instance (text : List Char) : Decidable (Plain text) :=
  List.decidableBAll (fun c => c ≠ '?' ∧ c ≠ '\\') text

theorem symbols_append_of_plain {text : List Char} (h : Plain text) (rest : List Char)
    (fillings : List (List Symbol)) :
    symbols (text ++ rest) fillings = text.map .char ++ symbols rest fillings := by
  induction text with
  | nil => rfl
  | cons c text ih =>
    obtain ⟨hhole, hescape⟩ := h c (by simp)
    have hrest : Plain text := fun d hd => h d (List.mem_cons_of_mem c hd)
    rw [List.cons_append, symbols_cons_of_ne _ hhole fun _ he => absurd he hescape, ih hrest]
    rfl

theorem symbols_of_plain {text : List Char} (h : Plain text) (fillings : List (List Symbol)) :
    symbols text fillings = text.map .char := by
  simpa [symbols] using symbols_append_of_plain h [] fillings

theorem holes_append_of_plain {text : List Char} (h : Plain text) (rest : List Char) :
    holes (text ++ rest) = holes rest := by
  induction text with
  | nil => rfl
  | cons c text ih =>
    have hc := h c (by simp)
    have hrest : Plain text := fun d hd => h d (List.mem_cons_of_mem c hd)
    rw [List.cons_append, holes, holesFrom, if_neg fun he => hc.1 he.1, Nat.zero_add,
      decide_eq_false hc.2]
    exact ih hrest

theorem holes_of_plain {text : List Char} (h : Plain text) : holes text = 0 := by
  have := holes_append_of_plain h []
  rwa [List.append_nil] at this

theorem holes_cons (rest : List Char) : holes ('?' :: rest) = holes rest + 1 := by
  simp [holes, holesFrom, Nat.add_comm]

theorem symbols_cons (rest : List Char) (filling : List Symbol) (fillings : List (List Symbol)) :
    symbols ('?' :: rest) (filling :: fillings) = filling ++ symbols rest fillings := by
  rw [symbols]

/-! ## Lists of holes -/

theorem toList_holeList_succ_succ (count : Nat) :
    (holeList (count + 2)).toList = '?' :: ',' :: ' ' :: (holeList (count + 1)).toList := by
  simp [holeList, String.toList_intercalate, List.replicate_succ]

theorem holes_holeList_append (count : Nat) (rest : List Char) :
    holes ((holeList count).toList ++ rest) = holes rest + count := by
  match count with
  | 0 => rfl
  | 1 => exact holes_cons rest
  | count + 2 =>
    have hcomma : Plain [',', ' '] := by decide
    rw [toList_holeList_succ_succ]
    show holes ('?' :: ([',', ' '] ++ ((holeList (count + 1)).toList ++ rest))) = _
    rw [holes_cons, holes_append_of_plain hcomma, holes_holeList_append (count + 1) rest]
    omega

/-- **A list of holes reads as the list of its fillings.** -/
theorem symbols_holeList_append (fragments : List Fragment) (rest : List Char)
    (fillings : List (List Symbol)) :
    symbols ((holeList fragments.length).toList ++ rest)
        (fragments.map Fragment.symbols ++ fillings) =
      (Fragment.joined ", " fragments).symbols ++ symbols rest fillings := by
  match fragments with
  | [] => rfl
  | [fragment] =>
    have hone : (holeList 1).toList = ['?'] := by simp [holeList]
    rw [Fragment.symbols_joined_singleton, ← symbols_cons, List.length_singleton, hone]
    rfl
  | first :: second :: fragments =>
    have hcomma : Plain [',', ' '] := by decide
    have ih := symbols_holeList_append (second :: fragments) rest fillings
    rw [List.length_cons] at ih
    rw [List.length_cons, List.length_cons, toList_holeList_succ_succ]
    show symbols ('?' :: ([',', ' '] ++ ((holeList (fragments.length + 1)).toList ++ rest)))
      (first.symbols :: ((second :: fragments).map Fragment.symbols ++ fillings)) = _
    rw [symbols_cons, symbols_append_of_plain hcomma, ih, Fragment.symbols_joined_cons_cons]
    simp [Symbol.ofText]

/-! ## The templates of the compilers -/

/-- A text after a fragment. -/
theorem fill_after {text : String} (htext : Plain text.toList) {fragment : Fragment}
    (h : fragment.Normal) : fill ("?" ++ text) [fragment] = .ok (fragment ++ .ofText text) := by
  refine fill_eq (h.append _) ?_ ?_
  · rw [String.toList_append]
    exact (holes_cons text.toList).trans (by rw [holes_of_plain htext]; rfl)
  · rw [String.toList_append, Fragment.symbols_append, Fragment.symbols_ofText, Symbol.ofText,
      ← symbols_of_plain htext []]
    exact symbols_cons text.toList fragment.symbols []

/-- A text between two fragments. -/
theorem fill_between {text : String} (htext : Plain text.toList) {left : Fragment}
    (h : left.Normal) (right : Fragment) :
    fill ("?" ++ text ++ "?") [left, right] = .ok (left ++ .ofText text ++ right) := by
  have hchars : ("?" ++ text ++ "?").toList = '?' :: (text.toList ++ ['?']) := by simp
  refine fill_eq ((h.append _).append _) ?_ ?_
  · rw [hchars, holes_cons, holes_append_of_plain htext]
    rfl
  · rw [hchars]
    simp [symbols_cons, symbols_append_of_plain htext, symbols, Symbol.ofText]

/-- A list of fragments between two texts. -/
theorem fill_list {opening closing : String} (ho : Plain opening.toList) (hc : Plain closing.toList)
    (fragments : List Fragment) :
    fill (opening ++ holeList fragments.length ++ closing) fragments =
      .ok (.ofText opening ++ .joined ", " fragments ++ .ofText closing) := by
  refine fill_eq (((Fragment.normal_ofText _).append _).append _) ?_ ?_
  · rw [String.toList_append, String.toList_append, List.append_assoc, holes_append_of_plain ho,
      holes_holeList_append, holes_of_plain hc, Nat.zero_add]
  · have hlist := symbols_holeList_append fragments closing.toList []
    rw [List.append_nil, symbols_of_plain hc] at hlist
    rw [String.toList_append, String.toList_append, List.append_assoc, symbols_append_of_plain ho,
      hlist]
    simp [Symbol.ofText]

/-- A list of fragments in parentheses after a fragment and a text. -/
theorem fill_after_list {text closing : String} (ht : Plain text.toList)
    (hc : Plain closing.toList) {fragment : Fragment} (h : fragment.Normal)
    (fragments : List Fragment) :
    fill ("?" ++ text ++ holeList fragments.length ++ closing) (fragment :: fragments) =
      .ok (fragment ++ .ofText text ++ .joined ", " fragments ++ .ofText closing) := by
  have hchars : ("?" ++ text ++ holeList fragments.length ++ closing).toList =
      '?' :: (text.toList ++ ((holeList fragments.length).toList ++ closing.toList)) := by simp
  refine fill_eq (((h.append _).append _).append _) ?_ ?_
  · rw [hchars, holes_cons, holes_append_of_plain ht, holes_holeList_append, holes_of_plain hc,
      Nat.zero_add, List.length_cons]
  · have hlist := symbols_holeList_append fragments closing.toList []
    rw [List.append_nil, symbols_of_plain hc] at hlist
    rw [hchars, List.map_cons, symbols_cons, symbols_append_of_plain ht, hlist]
    simp [Symbol.ofText]

theorem fill_distinct (columns : Fragment) :
    fill "DISTINCT ?" [columns] = .ok (.ofText "DISTINCT " ++ columns) := by
  have hholes : holes "DISTINCT ?".toList = 1 := by decide
  refine fill_eq ((Fragment.normal_ofText _).append _) hholes ?_
  simp [symbols, Symbol.ofText]

theorem fill_distinctOn (key columns : Fragment) :
    fill "DISTINCT ON (?) ?" [key, columns] =
      .ok (.ofText "DISTINCT ON (" ++ key ++ .ofText ") " ++ columns) := by
  have hholes : holes "DISTINCT ON (?) ?".toList = 2 := by decide
  refine fill_eq ((((Fragment.normal_ofText _).append _).append _).append _) hholes ?_
  simp [symbols, Symbol.ofText]

/-- A negation is a list of one fragment between its texts. -/
theorem fill_negation (fragment : Fragment) :
    fill "NOT (?)" [fragment] = .ok (.ofText "NOT (" ++ fragment ++ .ofText ")") := by
  have hopening : Plain "NOT (".toList := by decide
  have hclosing : Plain ")".toList := by decide
  have hlist := fill_list hopening hclosing [fragment]
  rwa [Fragment.joined, Fragment.joinedAfter, ← Fragment.append_assoc] at hlist

end Template

end QueryTree
