import QueryTree.Sql.Fragment
import Mathlib.Data.List.Chain
/-!
# Symbols — fragments character by character

A fragment read as a sequence of symbols: the characters of its texts,
its names and its parameters. Where the boundaries between texts lie is
forgotten, and so everything that puts fragments together puts sequences
together (`symbols_append`). A fragment in normal form is determined by
its symbols (`eq_of_symbols_eq`), and what is put after a fragment in
normal form leaves one in normal form (`Normal.append`): to know a
fragment that was composed is to know its symbols.
-/

namespace QueryTree

/-- **A symbol of a fragment.** -/
inductive Symbol where
  /-- A character of a text. -/
  | char (c : Char)
  | identifier (name : String)
  | aliasName (name : String)
  | param (param : Param)
deriving DecidableEq, Repr

namespace Symbol

/-- The symbols of a text. -/
def ofText (text : String) : List Symbol := text.toList.map char

theorem ofText_append (first second : String) :
    ofText (first ++ second) = ofText first ++ ofText second := by
  simp [ofText]

end Symbol

namespace Part

/-- The symbols of a part. -/
def symbols : Part → List Symbol
  | text t => Symbol.ofText t
  | identifier name => [.identifier name]
  | aliasName name => [.aliasName name]
  | param p => [.param p]

/-- Whether a part is a text. -/
def IsText : Part → Prop
  | text _ => True
  | _ => False

end Part

namespace Fragment

/-- **The symbols of a fragment.** -/
def symbols (fragment : Fragment) : List Symbol := fragment.parts.flatMap Part.symbols

/-! ## Texts at the end of a fragment -/

theorem textAtEnd_concat_text (text last : String) (parts : List Part) :
    textAtEnd text (parts ++ [.text last]) = parts ++ [.text (last ++ text)] := by
  induction parts with
  | nil => rfl
  | cons part parts ih =>
    rw [List.cons_append, textAtEnd, ih, List.cons_append]
    simp

theorem textAtEnd_concat (text : String) (parts : List Part) {part : Part} (h : ¬ part.IsText) :
    textAtEnd text (parts ++ [part]) = parts ++ [part] ++ [.text text] := by
  induction parts with
  | nil => cases part <;> first | exact absurd trivial h | rfl
  | cons first parts ih =>
    rw [List.cons_append, textAtEnd, ih, List.cons_append]
    simp

/-- A text is put into the last part or becomes it: the symbols do not
tell. -/
theorem symbols_textAtEnd (text : String) (parts : List Part) :
    symbols ⟨textAtEnd text parts⟩ = symbols ⟨parts⟩ ++ Symbol.ofText text := by
  rcases List.eq_nil_or_concat parts with rfl | ⟨init, last, rfl⟩
  · simp [textAtEnd, symbols, Part.symbols]
  · rw [List.concat_eq_append]
    cases last with
    | text last =>
      rw [textAtEnd_concat_text]
      simp [symbols, Part.symbols, Symbol.ofText_append]
    | _ =>
      rw [textAtEnd_concat _ _ id]
      simp [symbols, Part.symbols]

/-! ## Symbols of composed fragments -/

@[simp] theorem symbols_empty : empty.symbols = [] := rfl

@[simp] theorem symbols_appendText (fragment : Fragment) (text : String) :
    (fragment.appendText text).symbols = fragment.symbols ++ Symbol.ofText text := by
  unfold appendText
  by_cases hempty : text.isEmpty
  · rw [if_pos hempty, String.isEmpty_iff.mp hempty]
    simp [Symbol.ofText]
  · rw [if_neg hempty]
    exact symbols_textAtEnd text fragment.parts

theorem symbols_push (fragment : Fragment) (part : Part) :
    (fragment.push part).symbols = fragment.symbols ++ part.symbols := by
  cases part with
  | text text => exact symbols_appendText fragment text
  | _ => simp [push, symbols]

/-- **The symbols of two fragments, one after the other.** -/
@[simp] theorem symbols_append (first second : Fragment) :
    (first ++ second).symbols = first.symbols ++ second.symbols := by
  obtain ⟨parts⟩ := second
  show (parts.foldl push first).symbols = first.symbols ++ parts.flatMap Part.symbols
  induction parts generalizing first with
  | nil => simp
  | cons part parts ih =>
    rw [List.foldl_cons, ih, symbols_push, List.flatMap_cons, List.append_assoc]

@[simp] theorem symbols_ofText (text : String) : (ofText text).symbols = Symbol.ofText text := by
  rw [ofText, symbols_appendText, symbols_empty, List.nil_append]

@[simp] theorem symbols_identifier (name : String) :
    (identifier name).symbols = [.identifier name] := rfl

@[simp] theorem symbols_ofAlias (name : String) : (ofAlias name).symbols = [.aliasName name] := rfl

@[simp] theorem symbols_ofParam (param : Param) : (ofParam param).symbols = [.param param] := rfl

theorem symbols_joinedAfter (separator : String) (fragment : Fragment)
    (fragments : List Fragment) :
    (joinedAfter separator fragment fragments).symbols =
      fragment.symbols ++
        fragments.flatMap fun next => Symbol.ofText separator ++ next.symbols := by
  induction fragments generalizing fragment with
  | nil => simp [joinedAfter]
  | cons next fragments ih => simp [joinedAfter, ih]

/-- A list of fragments with separators, symbol by symbol. -/
theorem symbols_joined_cons (separator : String) (first : Fragment) (rest : List Fragment) :
    (joined separator (first :: rest)).symbols =
      first.symbols ++ rest.flatMap fun next => Symbol.ofText separator ++ next.symbols := by
  simp [joined, symbols_joinedAfter]

@[simp] theorem symbols_joined_singleton (separator : String) (fragment : Fragment) :
    (joined separator [fragment]).symbols = fragment.symbols := by
  simp [symbols_joined_cons]

@[simp] theorem symbols_joined_cons_cons (separator : String) (first second : Fragment)
    (rest : List Fragment) :
    (joined separator (first :: second :: rest)).symbols =
      first.symbols ++ Symbol.ofText separator ++ (joined separator (second :: rest)).symbols := by
  simp [symbols_joined_cons]

@[simp] theorem symbols_parenthesized (fragment : Fragment) :
    fragment.parenthesized.symbols =
      Symbol.ofText "(" ++ fragment.symbols ++ Symbol.ofText ")" := by
  simp [parenthesized]

/-! ## The parameters among the symbols -/

end Fragment

/-- The parameters among some symbols. -/
def Symbol.params (symbols : List Symbol) : List Param :=
  symbols.filterMap fun
    | .param p => some p
    | _ => none

namespace Symbol

@[simp] theorem params_append (first second : List Symbol) :
    params (first ++ second) = params first ++ params second :=
  List.filterMap_append

@[simp] theorem params_ofText (text : String) : params (ofText text) = [] := by
  simp [params, ofText]

end Symbol

namespace Fragment

/-- The parameters of a fragment are those among its symbols. -/
theorem params_symbols (fragment : Fragment) :
    Symbol.params fragment.symbols = fragment.params := by
  obtain ⟨parts⟩ := fragment
  induction parts with
  | nil => rfl
  | cons part parts ih =>
    have hrest : Symbol.params (parts.flatMap Part.symbols) = params ⟨parts⟩ := ih
    rw [symbols, List.flatMap_cons, Symbol.params_append, hrest]
    cases part with
    | text text => simp [Part.symbols, params]
    | _ => simp [Part.symbols, Symbol.params, params]

/-! ## Normal form -/

/-- **The normal form of a fragment:** no text in it is empty, and no two
texts are neighbours. -/
structure Normal (fragment : Fragment) : Prop where
  text_ne_empty : ∀ text, Part.text text ∈ fragment.parts → text ≠ ""
  isChain : fragment.parts.IsChain fun first second => ¬ (first.IsText ∧ second.IsText)

theorem normal_empty : Normal empty := ⟨by simp [empty], .nil⟩

theorem normal_identifier (name : String) : Normal (identifier name) :=
  ⟨by simp [identifier], .singleton _⟩

theorem normal_ofAlias (name : String) : Normal (ofAlias name) :=
  ⟨by simp [ofAlias], .singleton _⟩

theorem normal_ofParam (param : Param) : Normal (ofParam param) :=
  ⟨by simp [ofParam], .singleton _⟩

/-- The normal form is kept by a part put at the end. -/
theorem normal_concat {parts : List Part} {part : Part} (h : Normal ⟨parts⟩)
    (hpart : part ≠ .text "") (hlast : ∀ last ∈ parts.getLast?, ¬ (last.IsText ∧ part.IsText)) :
    Normal ⟨parts ++ [part]⟩ where
  text_ne_empty text ht := by
    rcases List.mem_append.mp ht with ht | ht
    · exact h.text_ne_empty text ht
    · rw [List.mem_singleton] at ht
      rintro rfl
      exact hpart ht.symm
  isChain := by
    refine List.isChain_append.mpr ⟨h.isChain, .singleton _, ?_⟩
    intro last hl first hf
    rw [List.head?_singleton, Option.mem_some_iff] at hf
    exact hf ▸ hlast last hl

theorem Normal.appendText {fragment : Fragment} (h : fragment.Normal) (text : String) :
    (fragment.appendText text).Normal := by
  unfold Fragment.appendText
  by_cases hempty : text.isEmpty
  · rw [if_pos hempty]
    exact h
  · rw [if_neg hempty]
    have hne : text ≠ "" := fun he => hempty (String.isEmpty_iff.mpr he)
    obtain ⟨parts⟩ := fragment
    rcases List.eq_nil_or_concat parts with rfl | ⟨init, last, rfl⟩
    · exact normal_concat normal_empty (by simpa using hne) (by simp)
    · rw [List.concat_eq_append] at h ⊢
      cases last with
      | text last =>
        -- the last text grows, and its neighbour stays what it was
        rw [textAtEnd_concat_text]
        have hinit : Normal ⟨init⟩ :=
          ⟨fun t ht => h.text_ne_empty t (List.mem_append_left _ ht),
            (List.isChain_append.mp h.isChain).1⟩
        refine normal_concat hinit (by simp [hne]) fun l hl => ?_
        exact (List.isChain_append.mp h.isChain).2.2 l hl (.text last) (by simp)
      | _ =>
        rw [textAtEnd_concat _ _ id]
        refine normal_concat h (by simpa using hne) fun l hl => ?_
        rw [List.getLast?_concat, Option.mem_some_iff] at hl
        subst hl
        intro ht
        exact ht.1

theorem Normal.push {fragment : Fragment} (h : fragment.Normal) (part : Part) :
    (fragment.push part).Normal := by
  cases part with
  | text text => exact h.appendText text
  | _ => exact normal_concat h (by simp) fun _ _ ht => ht.2

/-- **What is put after a fragment in normal form leaves one in normal
form.** -/
theorem Normal.append {first : Fragment} (h : first.Normal) (second : Fragment) :
    (first ++ second).Normal := by
  obtain ⟨parts⟩ := second
  show (parts.foldl Fragment.push first).Normal
  induction parts generalizing first with
  | nil => exact h
  | cons part parts ih => exact ih (h.push part)

theorem normal_ofText (text : String) : (ofText text).Normal := normal_empty.appendText text

theorem Normal.joinedAfter {fragment : Fragment} (h : fragment.Normal) (separator : String)
    (fragments : List Fragment) : (joinedAfter separator fragment fragments).Normal := by
  induction fragments generalizing fragment with
  | nil => exact h
  | cons next fragments ih => exact ih ((h.appendText separator).append next)

theorem normal_joined (separator : String) (fragments : List Fragment) :
    (joined separator fragments).Normal := by
  cases fragments with
  | nil => exact normal_empty
  | cons first rest => exact (normal_empty.append first).joinedAfter separator rest

/-! ## The normal form is one -/

theorem appendText_append (fragment : Fragment) (first second : String) :
    fragment.appendText (first ++ second) = (fragment.appendText first).appendText second := by
  -- an empty text is not put anywhere
  by_cases hf : first = ""
  · simp [hf, appendText]
  by_cases hs : second = ""
  · simp [hs, appendText]
  obtain ⟨parts⟩ := fragment
  simp only [appendText, String.isEmpty_iff, String.append_eq_empty_iff, hf, hs, and_self, if_false]
  rcases List.eq_nil_or_concat parts with rfl | ⟨init, last, rfl⟩
  · simp [textAtEnd]
  · rw [List.concat_eq_append]
    cases last with
    | text last => simp only [textAtEnd_concat_text, String.append_assoc]
    | _ =>
      rw [textAtEnd_concat _ _ id, textAtEnd_concat _ _ id, textAtEnd_concat_text]

/-- A symbol put at the end of a fragment. -/
def pushSymbol (fragment : Fragment) : Symbol → Fragment
  | .char c => fragment.appendText c.toString
  | .identifier name => fragment.push (.identifier name)
  | .aliasName name => fragment.push (.aliasName name)
  | .param p => fragment.push (.param p)

/-- A text is put at the end character by character. -/
theorem foldl_pushSymbol_ofText (fragment : Fragment) (text : String) :
    (Symbol.ofText text).foldl pushSymbol fragment = fragment.appendText text := by
  obtain ⟨chars, rfl⟩ : ∃ chars, text = String.ofList chars := ⟨text.toList, by simp⟩
  induction chars generalizing fragment with
  | nil => simp [Symbol.ofText, appendText]
  | cons c chars ih =>
    have hcons : String.ofList (c :: chars) = c.toString ++ String.ofList chars := by
      apply String.toList_injective
      simp [Char.toString_eq_singleton]
    rw [hcons, appendText_append, ← ih, Symbol.ofText_append, List.foldl_append]
    simp [Symbol.ofText, Char.toString_eq_singleton, pushSymbol]

theorem foldl_pushSymbol_part (fragment : Fragment) (part : Part) :
    part.symbols.foldl pushSymbol fragment = fragment.push part := by
  cases part with
  | text text => exact foldl_pushSymbol_ofText fragment text
  | _ => rfl

/-- **One fragment after another is one symbol after another.** -/
theorem append_eq_foldl_pushSymbol (first second : Fragment) :
    first ++ second = second.symbols.foldl pushSymbol first := by
  obtain ⟨parts⟩ := second
  show parts.foldl push first = (parts.flatMap Part.symbols).foldl pushSymbol first
  induction parts generalizing first with
  | nil => rfl
  | cons part parts ih =>
    rw [List.foldl_cons, ih, List.flatMap_cons, List.foldl_append, foldl_pushSymbol_part]

/-- A text put after a fragment is put at its end. -/
theorem append_ofText (fragment : Fragment) (text : String) :
    fragment ++ ofText text = fragment.appendText text := by
  rw [append_eq_foldl_pushSymbol, symbols_ofText, foldl_pushSymbol_ofText]

/-- A part that may follow the last one is put at the end as it is. -/
theorem push_of_normal {parts : List Part} {part : Part} (h : Normal ⟨parts ++ [part]⟩) :
    push ⟨parts⟩ part = ⟨parts ++ [part]⟩ := by
  cases part with
  | text text =>
    have hne : text ≠ "" := h.text_ne_empty text (by simp)
    rw [push, appendText, if_neg (by simpa using hne)]
    rcases List.eq_nil_or_concat parts with rfl | ⟨init, last, rfl⟩
    · rfl
    · rw [List.concat_eq_append] at h ⊢
      -- two texts are no neighbours, so this one does not go into the last part
      have hlast : ¬ last.IsText := by
        intro hl
        exact (List.isChain_append.mp h.isChain).2.2 last (by simp) (.text text) (by simp)
          ⟨hl, trivial⟩
      rw [textAtEnd_concat _ _ hlast]
  | _ => rfl

/-- A fragment in normal form is put after nothing as it is. -/
theorem Normal.empty_append {fragment : Fragment} (h : fragment.Normal) :
    empty ++ fragment = fragment := by
  obtain ⟨parts⟩ := fragment
  show parts.foldl Fragment.push empty = ⟨parts⟩
  -- the parts that are put already are the beginning of the fragment
  suffices hacc : ∀ rest init, Normal ⟨init ++ rest⟩ →
      rest.foldl Fragment.push ⟨init⟩ = ⟨init ++ rest⟩ from hacc parts [] h
  intro rest
  induction rest with
  | nil =>
    intro init _
    simp
  | cons part rest ih =>
    intro init hn
    rw [List.append_cons] at hn ⊢
    have hinit : Normal ⟨init ++ [part]⟩ :=
      ⟨fun t ht => hn.text_ne_empty t (List.mem_append_left _ ht), hn.isChain.left_of_append⟩
    rw [List.foldl_cons, push_of_normal hinit, ih _ hn]

/-- **A fragment in normal form is determined by its symbols.** -/
theorem eq_of_symbols_eq {first second : Fragment} (hf : first.Normal) (hs : second.Normal)
    (h : first.symbols = second.symbols) : first = second := by
  rw [← hf.empty_append, ← hs.empty_append, append_eq_foldl_pushSymbol,
    append_eq_foldl_pushSymbol, h]

/-- Fragments are put together like texts. -/
theorem append_assoc (first second third : Fragment) :
    first ++ second ++ third = first ++ (second ++ third) := by
  rw [append_eq_foldl_pushSymbol first (second ++ third), symbols_append, List.foldl_append,
    ← append_eq_foldl_pushSymbol first second, ← append_eq_foldl_pushSymbol]

/-- A list put after a fragment is one that begins with the fragment. -/
theorem append_joinedAfter (separator : String) (first second : Fragment)
    (fragments : List Fragment) :
    first ++ joinedAfter separator second fragments =
      joinedAfter separator (first ++ second) fragments := by
  induction fragments generalizing second with
  | nil => rfl
  | cons next fragments ih =>
    have hnext : first ++ (second.appendText separator ++ next) =
        (first ++ second).appendText separator ++ next := by
      rw [← append_ofText, ← append_ofText, append_assoc first second, append_assoc first]
    rw [joinedAfter, ih, hnext, joinedAfter]

end Fragment

end QueryTree
