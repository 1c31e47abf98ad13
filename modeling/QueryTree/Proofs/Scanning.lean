import QueryTree.Sql.Dialect
import Mathlib.Data.List.Basic
/-!
# Scanning — a statement read from left to right

A scan goes through a text once and knows of each character whether it is
inside a quoted name. A name opens at the quote character and closes at
the next one that is not doubled. What a scan finds, written down again,
is the text (`flatMap_text_of_scan`), so a scan skips nothing. The rest
of the file says what is found in each kind of text that a fragment is
written as.
-/

namespace QueryTree

open Text

/-- **What a scan finds.** -/
inductive Lexeme where
  /-- A quoted name, with doubled quotes undone. -/
  | name (name : List Char)
  /-- A question mark. -/
  | mark
  /-- A dollar sign and the digits right after it. -/
  | numbered (digits : List Char)
  /-- Any other character that is not in a quoted name. -/
  | bare (c : Char)
deriving DecidableEq, Repr

namespace Lexeme

/-- The quoted names among some lexemes. -/
def names (lexemes : List Lexeme) : List (List Char) :=
  lexemes.filterMap fun
    | name n => some n
    | _ => none

/-- The placeholders among some lexemes, numbered or not. -/
def placeholders (lexemes : List Lexeme) : List Lexeme :=
  lexemes.filter fun
    | mark | numbered _ => true
    | _ => false

/-- The characters among some lexemes. -/
def bareChars (lexemes : List Lexeme) : List Char :=
  lexemes.filterMap fun
    | bare c => some c
    | _ => none

theorem names_append (first second : List Lexeme) :
    names (first ++ second) = names first ++ names second := List.filterMap_append

theorem placeholders_append (first second : List Lexeme) :
    placeholders (first ++ second) = placeholders first ++ placeholders second :=
  List.filter_append first second

theorem bareChars_append (first second : List Lexeme) :
    bareChars (first ++ second) = bareChars first ++ bareChars second := List.filterMap_append

/-- A lexeme as it is written. -/
def text (quote : Char) : Lexeme → List Char
  | name n => quoted quote n
  | mark => ['?']
  | numbered digits => '$' :: digits
  | bare c => [c]

end Lexeme

/-- **Where a scan is.** -/
inductive ScanState where
  | outside
  /-- After a dollar sign and some digits. -/
  | numbered (digits : List Char)
  /-- Inside a quoted name. -/
  | inside (name : List Char)
  /-- After a quote character in a quoted name: it ends the name unless
  another one follows. -/
  | closing (name : List Char)
deriving DecidableEq, Repr

namespace ScanState

/-- The lexeme that ends where a scan is, if one does. -/
def pending : ScanState → List Lexeme
  | numbered digits => [.numbered digits]
  | closing name => [.name name]
  | _ => []

/-- A character that is not part of what came before it. -/
def start (quote c : Char) : List Lexeme × ScanState :=
  if c = quote then ([], inside [])
  else if c = '?' then ([.mark], outside)
  else if c = '$' then ([], numbered [])
  else ([.bare c], outside)

/-- **The next character:** the lexemes that it ends, and where the scan is
after it. -/
def step (quote : Char) : ScanState → Char → List Lexeme × ScanState
  | outside, c => start quote c
  | numbered digits, c =>
    if c.isDigit then ([], numbered (digits ++ [c]))
    else (.numbered digits :: (start quote c).1, (start quote c).2)
  | inside name, c => ([], if c = quote then closing name else inside (name ++ [c]))
  | closing name, c =>
    -- the quote before was the first of two, or it ended the name
    if c = quote then ([], inside (name ++ [c]))
    else (.name name :: (start quote c).1, (start quote c).2)

/-- What has been read of the lexeme that is not found yet. -/
def text (quote : Char) : ScanState → List Char
  | outside => []
  | numbered digits => '$' :: digits
  | inside name => quote :: doubled quote name
  | closing name => quoted quote name

end ScanState

open ScanState

/-- The lexemes of a text, from wherever a scan is. There are none where
the text ends inside a quoted name. -/
def scanFrom (quote : Char) : ScanState → List Char → Option (List Lexeme)
  | .inside _, [] => none
  | state, [] => some state.pending
  | state, c :: text =>
    (scanFrom quote (step quote state c).2 text).map ((step quote state c).1 ++ ·)

/-- **The lexemes of a text,** if it ends outside of quoted names. -/
def scan (quote : Char) (text : List Char) : Option (List Lexeme) := scanFrom quote .outside text

/-! ## A scan skips nothing -/

theorem doubled_append (quote : Char) (first second : List Char) :
    doubled quote (first ++ second) = doubled quote first ++ doubled quote second := by
  induction first with
  | nil => rfl
  | cons c first ih =>
    rw [List.cons_append, doubled, doubled, ih]
    split <;> rfl

namespace ScanState

theorem text_start (quote c : Char) :
    (start quote c).1.flatMap (Lexeme.text quote) ++ (start quote c).2.text quote = [c] := by
  unfold start
  by_cases hquote : c = quote
  · rw [if_pos hquote, hquote]
    rfl
  · rw [if_neg hquote]
    by_cases hmark : c = '?'
    · rw [if_pos hmark, hmark]
      rfl
    · rw [if_neg hmark]
      by_cases hdollar : c = '$'
      · rw [if_pos hdollar, hdollar]
        rfl
      · rw [if_neg hdollar]
        rfl

theorem text_step (quote : Char) (state : ScanState) (c : Char) :
    (step quote state c).1.flatMap (Lexeme.text quote) ++ (step quote state c).2.text quote =
      state.text quote ++ [c] := by
  have hstart := text_start quote c
  cases state with
  | outside => exact hstart
  | numbered digits =>
    rw [step]
    by_cases hdigit : c.isDigit
    · rw [if_pos hdigit]
      rfl
    · rw [if_neg hdigit, List.flatMap_cons, List.append_assoc, hstart]
      rfl
  | inside name =>
    rw [step]
    by_cases hquote : c = quote
    · rw [if_pos hquote]
      simp [text, quoted, hquote]
    · rw [if_neg hquote]
      simp [text, doubled_append, doubled, hquote]
  | closing name =>
    rw [step]
    by_cases hquote : c = quote
    · -- a doubled quote stands for one, and the name goes on
      rw [if_pos hquote]
      simp [text, quoted, doubled_append, doubled, hquote]
    · rw [if_neg hquote, List.flatMap_cons, List.append_assoc, hstart]
      rfl

end ScanState

theorem flatMap_text_of_scanFrom {quote : Char} {state : ScanState} {text : List Char}
    {lexemes : List Lexeme} (h : scanFrom quote state text = some lexemes) :
    lexemes.flatMap (Lexeme.text quote) = state.text quote ++ text := by
  induction text generalizing state lexemes with
  | nil =>
    cases state with
    | inside name => cases h
    | _ =>
      cases h
      simp [pending, ScanState.text, Lexeme.text]
  | cons c text ih =>
    -- what is found, and what is read of the next lexeme, grow by one character together
    rw [scanFrom, Option.map_eq_some_iff] at h
    obtain ⟨rest, hrest, rfl⟩ := h
    rw [List.flatMap_append, ih hrest, ← List.append_assoc, text_step, List.append_assoc]
    rfl

/-- **What a scan finds is the text.** -/
theorem flatMap_text_of_scan {quote : Char} {text : List Char} {lexemes : List Lexeme}
    (h : scan quote text = some lexemes) : lexemes.flatMap (Lexeme.text quote) = text :=
  flatMap_text_of_scanFrom h

/-! ## What is found in a text -/

/-- Whether the lexeme that a scan is in ends before a text. -/
def ScanState.EndsBefore (quote : Char) (text : List Char) : ScanState → Prop
  | outside => True
  | numbered _ => ∀ c ∈ text.head?, c.isDigit = false
  | inside _ => False
  | closing _ => ∀ c ∈ text.head?, c ≠ quote

variable {quote : Char} {text : List Char}

/-- A lexeme that ends is found, and the scan goes on as from outside. -/
theorem scanFrom_of_endsBefore {state : ScanState} (h : state.EndsBefore quote text) :
    scanFrom quote state text = (scan quote text).map (state.pending ++ ·) := by
  have hmap (lexeme : Lexeme) (found : Option (List Lexeme)) (first : List Lexeme) :
      found.map (lexeme :: first ++ ·) = (found.map (first ++ ·)).map ([lexeme] ++ ·) := by
    cases found <;> rfl
  cases state with
  | outside =>
    unfold scan
    cases scanFrom quote .outside text <;> rfl
  | inside name => exact h.elim
  | numbered digits =>
    cases text with
    | nil => rfl
    | cons c text =>
      have hdigit : ¬ c.isDigit = true := by simp [h c rfl]
      have hstep : step quote (.numbered digits) c =
          (.numbered digits :: (start quote c).1, (start quote c).2) := if_neg hdigit
      rw [scan, scanFrom, scanFrom, hstep, hmap]
      rfl
  | closing name =>
    cases text with
    | nil => rfl
    | cons c text =>
      have hstep : step quote (.closing name) c =
          (.name name :: (start quote c).1, (start quote c).2) := if_neg (h c rfl)
      rw [scan, scanFrom, scanFrom, hstep, hmap]
      rfl

theorem scan_bare {c : Char} (hquote : c ≠ quote) (hmark : c ≠ '?') (hdollar : c ≠ '$') :
    scan quote (c :: text) = (scan quote text).map ([.bare c] ++ ·) := by
  rw [scan, scanFrom, step, start, if_neg hquote, if_neg hmark, if_neg hdollar]
  rfl

theorem scan_mark (hquote : quote ≠ '?') :
    scan quote ('?' :: text) = (scan quote text).map ([.mark] ++ ·) := by
  rw [scan, scanFrom, step, start, if_neg hquote.symm, if_pos rfl]
  rfl

/-- The quotes inside a name are doubled, so none of them ends it. -/
theorem scanFrom_inside (quote : Char) (name start text : List Char) :
    scanFrom quote (.inside start) (doubled quote name ++ quote :: text) =
      scanFrom quote (.closing (start ++ name)) text := by
  have hid (found : Option (List Lexeme)) : found.map ([] ++ ·) = found := by
    cases found <;> rfl
  induction name generalizing start with
  | nil =>
    rw [doubled, List.nil_append, scanFrom, step, if_pos rfl, hid, List.append_nil]
  | cons c name ih =>
    unfold doubled
    by_cases h : c = quote
    · -- the first of two quotes may end the name, the second one says that it does not
      rw [if_pos h, List.cons_append, List.cons_append, scanFrom, step, if_pos h, scanFrom, step,
        if_pos h, hid, hid, ih, List.append_assoc]
      rfl
    · rw [if_neg h, List.cons_append, scanFrom, step, if_neg h, hid, ih, List.append_assoc]
      rfl

/-- **A quoted name is found as the name,** whatever is in it, unless
another quote character follows. -/
theorem scan_quoted (name : List Char) (h : ∀ c ∈ text.head?, c ≠ quote) :
    scan quote (quoted quote name ++ text) = (scan quote text).map ([.name name] ++ ·) := by
  have hclosing : (ScanState.closing name).EndsBefore quote text := h
  have hopening : scan quote (quoted quote name ++ text) =
      scanFrom quote (.inside []) (doubled quote name ++ quote :: text) := by
    rw [scan, quoted, List.cons_append, scanFrom, step, start, if_pos rfl, List.append_assoc]
    exact Option.map_id'
  rw [hopening, scanFrom_inside, List.nil_append, scanFrom_of_endsBefore hclosing]
  rfl

theorem scanFrom_numbered {digits : List Char} (hdigits : ∀ c ∈ digits, c.isDigit = true)
    (start : List Char) :
    scanFrom quote (.numbered start) (digits ++ text) =
      scanFrom quote (.numbered (start ++ digits)) text := by
  induction digits generalizing start with
  | nil => simp
  | cons c digits ih =>
    have hc := hdigits c (by simp)
    have hrest : ∀ d ∈ digits, d.isDigit = true := by
      intro d hd
      exact hdigits d (List.mem_cons_of_mem c hd)
    rw [List.cons_append, scanFrom, step, if_pos hc]
    simp only [List.nil_append, Option.map_id']
    rw [ih hrest, List.append_assoc]
    rfl

/-- A numbered placeholder is found as its number, unless another digit
follows. -/
theorem scan_numbered (hquote : quote ≠ '$') {digits : List Char}
    (hdigits : ∀ c ∈ digits, c.isDigit = true) (h : ∀ c ∈ text.head?, c.isDigit = false) :
    scan quote ('$' :: (digits ++ text)) = (scan quote text).map ([.numbered digits] ++ ·) := by
  have hends : (ScanState.numbered digits).EndsBefore quote text := h
  have hdollar : scan quote ('$' :: (digits ++ text)) =
      scanFrom quote (.numbered []) (digits ++ text) := by
    rw [scan, scanFrom, step, start, if_neg hquote.symm, if_neg (by decide), if_pos rfl]
    exact Option.map_id'
  rw [hdollar, scanFrom_numbered hdigits, List.nil_append, scanFrom_of_endsBefore hends]
  rfl

end QueryTree
