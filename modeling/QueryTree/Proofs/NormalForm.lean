import QueryTree.Proofs.Clauses
import QueryTree.Proofs.History
import QueryTree.Proofs.Quotation
/-!
# Normal form — however a fragment comes about

A fragment may be put together by hand, one addition after the other; a
template, a list or a statement may be made of fragments that have empty
texts or neighbouring ones; and a compiler may be asked for a fragment
after any use of it, in any dialects. `Fragment.Reached` lists these ways.
Each of them ends in additions to a fragment that is in normal form, and
an addition keeps it there, so all that is reached is in normal form. Such
a fragment is empty exactly where nothing is written for it
(`Fragment.normal_of_reached`).
-/

namespace QueryTree

open Step

/-! ## Additions -/

/-- **What a hole of a template takes.** -/
inductive Binding where
  | param (param : Param)
  | identifier (name : String)
  | aliasName (name : String)
  | fragment (fragment : Fragment)

/-- **One addition** at the end of a fragment. -/
inductive Addition where
  | text (text : String)
  | identifier (name : String)
  | aliasName (name : String)
  | param (param : Param)
  | fragment (fragment : Fragment)
  | binding (binding : Binding)

/-- What is put in the hole. -/
def Binding.toFragment : Binding → Fragment
  | param p => .ofParam p
  | identifier name => .identifier name
  | aliasName name => .ofAlias name
  | fragment f => f

namespace Fragment

/-- A fragment after an addition. -/
def add (fragment : Fragment) : Addition → Fragment
  | .text text => fragment.appendText text
  | .identifier name => fragment.push (.identifier name)
  | .aliasName name => fragment.push (.aliasName name)
  | .param p => fragment.push (.param p)
  | .fragment other => fragment ++ other
  | .binding binding => fragment ++ binding.toFragment

/-- **An addition keeps the normal form,** whatever is added. -/
theorem Normal.add {fragment : Fragment} (h : fragment.Normal) (addition : Addition) :
    (fragment.add addition).Normal := by
  cases addition with
  | text text => exact h.appendText text
  | identifier name => exact h.push (.identifier name)
  | aliasName name => exact h.push (.aliasName name)
  | param p => exact h.push (.param p)
  | fragment other => exact h.append other
  | binding binding => exact h.append _

/-- By induction on the additions: each one leaves a fragment in normal
form to the next. -/
theorem Normal.foldl_add {fragment : Fragment} (h : fragment.Normal) (additions : List Addition) :
    (additions.foldl Fragment.add fragment).Normal := by
  induction additions generalizing fragment with
  | nil => exact h
  | cons addition additions ih => exact ih (h.add addition)

theorem normal_parenthesized (fragment : Fragment) : fragment.parenthesized.Normal :=
  ((normal_ofText "(").append fragment).appendText ")"

end Fragment

/-- A template is filled from an empty fragment on. -/
theorem Template.normal_of_fill {template : String} {fillings : List Fragment}
    {fragment : Fragment} (h : fill template fillings = .ok fragment) : fragment.Normal := by
  unfold fill at h
  by_cases hholes : holes template.toList = fillings.length
  · rw [if_pos hholes] at h
    cases h
    exact normal_splice _ _ Fragment.normal_empty
  · rw [if_neg hholes] at h
    cases h

/-! ## What compiling yields -/

/-- What comes last decides what is yielded. -/
theorem Step.yields_andThen {σ α β : Type} {good : β → Prop} {first : Step σ α}
    {next : α → Step σ β} (h : ∀ a s, Yields good (next a s).1) (s : σ) :
    Yields good (andThen first next s).1 := by
  unfold andThen
  rcases first s with ⟨error | a, t⟩
  · exact yields_error error
  · exact h a t

/-- Compilers that yield good fragments from whatever state they are in
endure any use. -/
theorem Compiler.Endures.of_yields {σ : Type} {interface : Interface σ} {good : Fragment → Prop}
    (h : ∀ dialect s, Yields good (interface.compile dialect s).1) :
    Endures interface (fun _ => True) (fun _ => True) (fun _ => True) (Yields good) where
  idle_of_ready _ _ := trivial
  prepare _ _ := ⟨trivial, fun _ => trivial, fun error _ => yields_error error⟩
  prepare_ready _ _ := trivial
  compile dialect _ s _ := ⟨h dialect s, trivial⟩
  compile_idle _ _ _ _ := ⟨fun _ _ => trivial, trivial⟩
  clause _ _ _ _ := ⟨fun _ _ => ⟨fun _ _ => trivial, trivial⟩,
    fun _ _ => ⟨fun _ _ => trivial, trivial⟩⟩

section Subqueries

variable {Sub : Type} (build : Dialect → Step Sub Fragment)

/-- A join is put together anew, whatever its parts are. -/
theorem JoinState.yields_compile (dialect : Dialect) (state : JoinState Sub) :
    Yields Fragment.Normal ((stages build).compile dialect state).1 := by
  refine yields_andThen (fun source state => ?_) state
  refine yields_andThen (fun condition state => ?_) state
  exact yields_ok (normal_joinFragment _ source condition)

/-- A statement is put together anew, whatever its clauses are. -/
theorem QueryState.yields_compile (dialect : Dialect) (state : QueryState Sub) :
    Yields Fragment.Normal (compile build dialect state).1 :=
  yields_andThen (fun _ => yields_andThen fun _ => yields_andThen fun _ => yields_andThen fun _ =>
    yields_andThen fun _ => yields_andThen fun _ => yields_andThen fun _ =>
    yields_andThen fun _ _ => yields_ok (Select.normal_toFragment _)) state

end Subqueries

/-! ## Fragments of nodes -/

theorem OrderByElement.normal_of_joinedFragment {elements : List OrderByElement}
    {fragment : Fragment} (h : joinedFragment elements = .ok fragment) : fragment.Normal := by
  obtain ⟨fragments, -, rfl⟩ := map_eq_ok.mp h
  exact Fragment.normal_joined _ fragments

theorem Join.normal_of_fragment {sub : Query → Except Violation Fragment} {join : Join Query}
    {fragment : Fragment} (h : join.fragment sub = .ok fragment) : fragment.Normal := by
  obtain ⟨kind, -, h⟩ := bind_eq_ok.mp h
  obtain ⟨source, -, h⟩ := bind_eq_ok.mp h
  obtain ⟨condition, -, h⟩ := bind_eq_ok.mp h
  cases h
  exact normal_joinFragment kind source condition

theorem Query.normal_of_fragmentWith {sub : Query → Except Violation Fragment} {dialect : Dialect}
    {query : Query} {fragment : Fragment} (h : query.fragmentWith sub dialect = .ok fragment) :
    fragment.Normal := by
  obtain ⟨_, -, h⟩ := bind_eq_ok.mp h
  obtain ⟨select, -, rfl⟩ := map_eq_ok.mp h
  exact select.normal_toFragment

/-! ## What compilers answer -/

theorem yields_of_mapError {answer : Except CompileError Fragment}
    {result : Except Violation Fragment} (h : ∀ {fragment}, result = .ok fragment → fragment.Normal)
    (hanswer : answer = result.mapError .violation) : Yields Fragment.Normal answer := by
  intro fragment hfragment
  rw [hanswer, mapError_eq_ok] at hfragment
  exact h hfragment

/-- A compiler that was just made, where the invariant asks for the normal
form alone. -/
theorem Compiler.lives_of_normal {σ : Type} {idle ready : σ → Prop}
    {result : Except Violation Fragment} {made : Except Violation (Compiler σ)}
    {checked : Except Violation Unit} {compiler : Compiler σ}
    (hmade : Made (Tracks idle ready result) made checked)
    (h : ∀ {fragment}, result = .ok fragment → fragment.Normal) (hcompiler : made = .ok compiler) :
    Lives (fun _ => True) (fun _ => True)
      (fun fragment => Yields Fragment.Normal (.ok fragment : Except CompileError Fragment))
      compiler :=
  (lives_of_made hmade hcompiler).mono (fun _ _ => trivial) (fun _ _ => trivial)
    fun _ hkept => yields_of_mapError h hkept

/-- **Every build of every run answers in normal form.** Joins and queries
put their answer together from whatever the compilers below them keep; the
other nodes give the fragment of the node. -/
theorem Node.yields_of_answers {node : Node} {compiler : Compiler node.State}
    (h : node.compiler = .ok compiler) (uses : List (Dialect × Use)) :
    ∀ answer ∈ Compiler.answers node.interface uses compiler, Yields Fragment.Normal answer := by
  let any : Dialect → Prop := fun _ => True
  have hany : ∀ use ∈ uses, any use.1 := fun _ _ => trivial
  cases node with
  | column showAlias column =>
    have hanswers := (column.endures any showAlias).answers uses hany
      (column.lives_of_compilerWith h _)
    exact fun answer ha => yields_of_mapError Column.normal_of_fragment (hanswers answer ha)
  | comparison filter =>
    have hlives := Compiler.lives_of_made filter.made_compiler h
    have hanswers := (filter.endures any).answers uses hany hlives
    have hnormal {fragment : Fragment}
        (hfragment : (Filter.comparison filter).fragment = .ok fragment) : fragment.Normal :=
      Filter.normal_fragment hfragment
    exact fun answer ha => yields_of_mapError hnormal (hanswers answer ha)
  | filter filter =>
    have hlives := Compiler.lives_of_made filter.made_compiler h
    have hanswers := (filter.endures any).answers uses hany hlives
    exact fun answer ha => yields_of_mapError Filter.normal_fragment (hanswers answer ha)
  | ordering elements =>
    have hlives := Compiler.lives_of_made (OrderByElement.made_compiler elements) h
    have hanswers := (OrderByElement.endures any elements).answers uses hany hlives
    exact fun answer ha => yields_of_mapError OrderByElement.normal_of_joinedFragment
      (hanswers answer ha)
  | nestedJoin join =>
    have hmade : Made (join.Tracks (fun _ _ => False) Query.refuse) _ _ :=
      join.made_compiler Query.made_refuse
    exact (Compiler.Endures.of_yields (JoinState.yields_compile _)).answers uses hany
      (Compiler.lives_of_normal hmade Join.normal_of_fragment h)
  | join join =>
    -- the dialect that the compiler is tracked in at first does not matter
    have hmade :
        Made (join.Tracks (Query.TracksNested .sqlite) (Query.nestedFragment .sqlite)) _ _ :=
      join.made_compiler (Query.made_nestedCompiler .sqlite)
    exact (Compiler.Endures.of_yields (JoinState.yields_compile _)).answers uses hany
      (Compiler.lives_of_normal hmade Join.normal_of_fragment h)
  | nestedQuery query =>
    exact (Compiler.Endures.of_yields (QueryState.yields_compile _)).answers uses hany
      (Compiler.lives_of_normal (query.made_nestedCompiler .sqlite) Query.normal_of_fragmentWith h)
  | query query =>
    exact (Compiler.Endures.of_yields (QueryState.yields_compile _)).answers uses hany
      (Compiler.lives_of_normal (query.made_compiler .sqlite) Query.normal_of_fragmentWith h)

/-! ## Nothing is written for nothing alone -/

theorem QualifiedName.text_ne_nil (quote : Char) {parts : List (List Char)} (h : parts ≠ []) :
    text quote parts ≠ [] := by
  have hpart (part : List Char) : partText quote part ≠ [] := by
    unfold partText
    split <;> simp [Text.quoted]
  obtain ⟨part, rest, rfl⟩ := List.exists_cons_of_ne_nil h
  cases rest with
  | nil => exact hpart part
  | cons next rest => simp [text, hpart]

/-- **Something is written for every symbol.** -/
theorem Symbol.written_ne_nil (dialect : Dialect) (number : Nat) (symbol : Symbol)
    (symbols : List Symbol) : written dialect number (symbol :: symbols) ≠ [] := by
  intro hnil
  cases symbol with
  | char c => cases hnil
  | identifier name =>
    rw [written, List.append_eq_nil_iff, Statement.toList_identifierText] at hnil
    exact QualifiedName.text_ne_nil _ (Text.pointParts_ne_nil _) hnil.1
  | aliasName name =>
    rw [written, List.append_eq_nil_iff, Dialect.toList_quoteName] at hnil
    cases hnil.1
  | param p =>
    rw [written, List.append_eq_nil_iff, Dialect.toList_placeholder] at hnil
    cases dialect <;> cases hnil.1

namespace Fragment

/-- A part of a fragment in normal form has symbols. -/
theorem Normal.symbols_ne_nil {fragment : Fragment} (h : fragment.Normal)
    (hne : fragment.parts ≠ []) : fragment.symbols ≠ [] := by
  obtain ⟨part, parts, hparts⟩ := List.exists_cons_of_ne_nil hne
  have hpart : part.symbols ≠ [] := by
    cases part with
    | text text =>
      have htext : text ≠ "" := h.text_ne_empty text (by simp [hparts])
      simpa [Part.symbols, Symbol.ofText] using htext
    | _ => simp [Part.symbols]
  rw [symbols, hparts, List.flatMap_cons]
  exact List.append_ne_nil_of_left_ne_nil hpart _

/-- **A fragment in normal form is empty exactly where nothing is written
for it.** -/
theorem Normal.isEmpty_iff {fragment : Fragment} (h : fragment.Normal) (dialect : Dialect) :
    fragment.isEmpty = true ↔ (fragment.render dialect).sql = "" := by
  have hsql : (fragment.render dialect).sql = "" ↔
      Symbol.written dialect 0 fragment.symbols = [] := by
    rw [← Fragment.sql_render, String.toList_eq_nil_iff]
  rw [hsql, isEmpty, List.isEmpty_iff]
  constructor
  · intro hparts
    rw [symbols, hparts]
    rfl
  · intro hwritten
    by_contra hne
    obtain ⟨symbol, symbols, hsymbols⟩ := List.exists_cons_of_ne_nil (h.symbols_ne_nil hne)
    rw [hsymbols] at hwritten
    exact Symbol.written_ne_nil dialect 0 symbol symbols hwritten

/-! ## Ways to a fragment -/

/-- **A fragment that comes about:** it is built up by additions; a template
is filled, fragments are joined, or put in parentheses, or a statement is
put together, whatever the fragments in it are like; or the compiler of a
node answers with it, in whatever run. -/
inductive Reached : Fragment → Prop
  | added (additions : List Addition) : Reached (additions.foldl add empty)
  | filled {template : String} {fillings : List Fragment} {fragment : Fragment}
      (h : Template.fill template fillings = .ok fragment) : Reached fragment
  | joined (separator : String) (fragments : List Fragment) : Reached (.joined separator fragments)
  | parenthesized (fragment : Fragment) : Reached fragment.parenthesized
  | select (select : Select) : Reached select.toFragment
  | built {node : Node} {compiler : Compiler node.State} {uses : List (Dialect × Use)}
      {fragment : Fragment} (hcompiler : node.compiler = .ok compiler)
      (hanswer : .ok fragment ∈ Compiler.answers node.interface uses compiler) : Reached fragment

/-- **Every fragment that comes about is in normal form:** no text in it is
empty and no two texts are neighbours. So it is empty exactly where it is
written as the empty text, in any dialect. -/
theorem normal_of_reached {fragment : Fragment} (h : fragment.Reached) :
    fragment.Normal ∧
      ∀ dialect, fragment.isEmpty = true ↔ (fragment.render dialect).sql = "" := by
  have hnormal : fragment.Normal := by
    cases h with
    | added additions => exact normal_empty.foldl_add additions
    | filled hfill => exact Template.normal_of_fill hfill
    | joined separator fragments => exact normal_joined separator fragments
    | parenthesized fragment => exact normal_parenthesized fragment
    | select select => exact select.normal_toFragment
    | built hcompiler hanswer => exact Node.yields_of_answers hcompiler _ _ hanswer fragment rfl
  exact ⟨hnormal, hnormal.isEmpty_iff⟩

/-- Additions that bring empty texts and neighbouring ones. -/
theorem normal_scatteredTexts :
    ∃ fragment : Fragment, fragment = ⟨[.text "abc", .aliasName "", .text "d"]⟩ ∧
      fragment.Reached ∧ fragment.Normal ∧
      ∀ dialect, (fragment.render dialect).sql ≠ "" := by
  have hreached : Reached ⟨[.text "abc", .aliasName "", .text "d"]⟩ := .added [
    .text "", .fragment ⟨[.text "a", .text "", .text "b"]⟩, .text "c", .binding (.aliasName ""),
    .binding (.fragment ⟨[.text "", .text "d"]⟩)]
  obtain ⟨hnormal, hempty⟩ := normal_of_reached hreached
  refine ⟨_, rfl, hreached, hnormal, fun dialect hsql => ?_⟩
  have hisEmpty := (hempty dialect).mpr hsql
  cases hisEmpty

end Fragment

end QueryTree
