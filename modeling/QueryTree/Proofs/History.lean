import QueryTree.Proofs.QueryTracking
import QueryTree.Proofs.Usage
/-!
# History — what a compiler was used for before does not show

A compiler is a tree of caches, and a use that fails leaves some of them
full and some empty. Whatever it was used for, it builds what a compiler
that was just made of the same node builds (`Node.answers_eq_build`). For
each kind of node it is enough that its compilers endure any use
(`Compiler.Endures`); the invariants are those under which compilers
track their nodes.
-/

namespace QueryTree

open Step

/-! ## Columns -/

namespace Column

theorem buildAll_nil (columns : List Column) (dialect : Dialect) :
    buildAll columns dialect [] = (.ok [], []) := by
  cases columns with
  | nil => rfl
  | cons column columns => rw [buildAll]

/-- Building the parameters of a function keeps what is kept of them, also
where the function was never prepared and there are no compilers. -/
theorem keeps_buildAll (columns : List Column) (dialect : Dialect) :
    Keeps (fun _ => True)
      (fun compilers => compilers = [] ∨
        Column.AllTrack columns compilers ∧ checkAll columns = .ok ())
      (buildAll columns dialect) := by
  rintro compilers (rfl | ⟨htrack, hcheck⟩)
  · rw [buildAll_nil]
    exact ⟨fun _ _ => trivial, .inl rfl⟩
  · obtain ⟨-, hkept⟩ := gives_buildAll dialect columns hcheck compilers htrack
    exact ⟨fun _ _ => trivial, .inr ⟨hkept, hcheck⟩⟩

/-- Compiling a function changes the compilers of its parameters and
nothing else. -/
theorem keeps_compile_function {call : FunctionColumn Column} {inv : ColumnCache → Prop}
    (dialect : Dialect) (showAlias : Bool)
    (h : Keeps (fun _ => True) (fun compilers => inv ⟨compilers⟩)
      (buildAll call.parameters dialect)) :
    Keeps (fun _ => True) inv ((stages (.function call) showAlias).compile dialect) := by
  obtain ⟨name, parameters, aliasName⟩ := call
  have hparameters : Keeps (fun _ => True) inv
      (Step.on ColumnCache.parameters (fun compilers _ => ⟨compilers⟩)
        (buildAll parameters dialect)) :=
    h.on (fun ⟨_⟩ hs => hs) fun _ _ _ ht => ht
  exact hparameters.andThen fun _ => (keeps_ofTemplate fun _ _ => trivial).andThen fun _ =>
    keeps_ofTemplate fun _ _ => trivial

/-- **Compiling keeps what is kept of a column** before it is prepared and
after. -/
theorem keeps_compile (dialect : Dialect) (column : Column) (showAlias : Bool) :
    Keeps (fun _ => True) (fun cache => column.Tracks showAlias ⟨cache, .constructed⟩)
        ((column.stages showAlias).compile dialect) ∧
      Keeps (fun _ => True) (fun cache => column.Tracks showAlias ⟨cache, .prepared⟩)
        ((column.stages showAlias).compile dialect) := by
  match column with
  | .named column =>
    exact ⟨fun _ _ => ⟨fun _ _ => trivial, trivial⟩, fun _ _ => ⟨fun _ _ => trivial, trivial⟩⟩
  | .value literal =>
    exact ⟨fun _ _ => ⟨fun _ _ => trivial, trivial⟩, fun _ _ => ⟨fun _ _ => trivial, trivial⟩⟩
  | .function ⟨name, parameters, aliasName⟩ =>
    refine ⟨keeps_compile_function dialect showAlias (keeps_buildAll parameters dialect),
      keeps_compile_function dialect showAlias ?_⟩
    rintro compilers ⟨htrack, hcheck⟩
    obtain ⟨-, hkept⟩ := gives_buildAll dialect parameters hcheck compilers htrack
    exact ⟨fun _ _ => trivial, hkept, hcheck⟩

/-- What preparing does to what is kept of a column. -/
theorem tracks_prepare (column : Column) (showAlias : Bool) {cache : ColumnCache}
    (h : column.Tracks showAlias ⟨cache, .constructed⟩) :
    column.Tracks showAlias ⟨((column.stages showAlias).prepare cache).2, .constructed⟩ ∧
      (((column.stages showAlias).prepare cache).1 = .ok () →
        column.Tracks showAlias ⟨((column.stages showAlias).prepare cache).2, .prepared⟩) ∧
      ∀ error, ((column.stages showAlias).prepare cache).1 = .error error →
        .error error = (column.fragment showAlias).mapError CompileError.violation := by
  match column with
  | .named column => exact ⟨trivial, fun _ => trivial, fun _ he => (nomatch he)⟩
  | .value literal => exact ⟨trivial, fun _ => trivial, fun _ he => (nomatch he)⟩
  | .function ⟨name, parameters, aliasName⟩ =>
    obtain ⟨hanswer, hok, herror⟩ :=
      prepare_function ⟨name, parameters, aliasName⟩ showAlias cache
    cases hchecked : checkAll parameters with
    | ok =>
      have hready := And.intro (hok hchecked) hchecked
      refine ⟨.inr hready, fun _ => hready, fun error he => ?_⟩
      rw [hanswer, hchecked] at he
      cases he
    | error violation =>
      have hrefused : checkAll parameters ≠ .ok () := by
        rw [hchecked]
        exact nofun
      rw [herror hrefused, hanswer, hchecked]
      refine ⟨h, fun he => (nomatch he), ?_⟩
      rintro _ ⟨⟩
      rw [fragment, hchecked]
      rfl

/-- Preparing a column again leaves it prepared. -/
theorem tracks_prepare_again (column : Column) (showAlias : Bool) {cache : ColumnCache}
    (h : column.Tracks showAlias ⟨cache, .prepared⟩) :
    column.Tracks showAlias ⟨((column.stages showAlias).prepare cache).2, .prepared⟩ := by
  match column with
  | .named column => exact trivial
  | .value literal => exact trivial
  | .function ⟨name, parameters, aliasName⟩ =>
    obtain ⟨-, hok, -⟩ := prepare_function ⟨name, parameters, aliasName⟩ showAlias cache
    exact ⟨hok h.2, h.2⟩

/-- What is kept of a prepared column would do before it was prepared. -/
theorem tracks_constructed_of_prepared (column : Column) (showAlias : Bool) {cache : ColumnCache}
    (h : column.Tracks showAlias ⟨cache, .prepared⟩) :
    column.Tracks showAlias ⟨cache, .constructed⟩ := by
  match column with
  | .named column => exact trivial
  | .value literal => exact trivial
  | .function ⟨name, parameters, aliasName⟩ => exact .inr h

/-- Only columns that keep the rules have compilers. -/
theorem checkAll_of_tracks {showAlias : Bool} {columns : List Column}
    {compilers : List ColumnCompiler}
    (h : List.Forall₂ (ColumnCompiler.Tracks showAlias) columns compilers) :
    checkAll columns = .ok () := by
  induction h with
  | nil => rfl
  | cons hcolumn _ ih =>
    obtain ⟨-, -, hcheck, -⟩ := hcolumn
    exact bind_eq_ok.mpr ⟨(), hcheck, ih⟩

/-- **Compilers of columns endure any use.** -/
theorem endures (allowed : Dialect → Prop) (showAlias : Bool) (column : Column) :
    Compiler.Endures { ColumnState.stages with } allowed
      (fun state => ColumnCompiler.Tracks showAlias column ⟨state, .constructed⟩)
      (fun state => ColumnCompiler.Tracks showAlias column ⟨state, .prepared⟩)
      (fun answer => answer = (column.fragment showAlias).mapError .violation) where
  idle_of_ready := by
    rintro state ⟨hcolumn, halias, hcheck, htracks⟩
    exact ⟨hcolumn, halias, hcheck, column.tracks_constructed_of_prepared showAlias htracks⟩
  prepare := by
    rintro ⟨_, _, cache⟩ ⟨rfl, rfl, hcheck, htracks⟩
    rename_i column showAlias
    obtain ⟨hidle, hready, herror⟩ := column.tracks_prepare showAlias htracks
    exact ⟨⟨rfl, rfl, hcheck, hidle⟩, fun hok => ⟨rfl, rfl, hcheck, hready hok⟩, herror⟩
  prepare_ready := by
    rintro ⟨_, _, cache⟩ ⟨rfl, rfl, hcheck, htracks⟩
    rename_i column showAlias
    exact ⟨rfl, rfl, hcheck, column.tracks_prepare_again showAlias htracks⟩
  compile := by
    rintro dialect - ⟨_, _, cache⟩ ⟨rfl, rfl, hcheck, htracks⟩
    rename_i column showAlias
    have hready := ((column.keeps_compile dialect showAlias).2 cache htracks).2
    -- what compiling answers is what building a prepared compiler answers
    obtain ⟨hanswer, -⟩ := gives_build dialect column showAlias hcheck ⟨cache, .prepared⟩ htracks
    rw [Compiler.build_prepared, Compiler.keep_fst] at hanswer
    exact ⟨hanswer, rfl, rfl, hcheck, hready⟩
  compile_idle := by
    rintro dialect - ⟨_, _, cache⟩ ⟨rfl, rfl, hcheck, htracks⟩
    rename_i column showAlias
    have hidle := ((column.keeps_compile dialect showAlias).1 cache htracks).2
    exact ⟨fun _ _ => trivial, rfl, rfl, hcheck, hidle⟩
  clause _ hc := by cases hc

/-- A compiler that was just made of a column has its whole life before it. -/
theorem lives_of_compilerWith {showAlias : Bool} {column : Column} {compiler : ColumnCompiler}
    (h : column.compilerWith showAlias = .ok compiler) (kept : Fragment → Prop) :
    Compiler.Lives (fun state => ColumnCompiler.Tracks showAlias column ⟨state, .constructed⟩)
      (fun state => ColumnCompiler.Tracks showAlias column ⟨state, .prepared⟩) kept compiler := by
  obtain ⟨_, hcheck, hmade⟩ := bind_eq_ok.mp h
  cases hmade
  exact ⟨rfl, rfl, hcheck, column.tracks_constructed showAlias⟩

end Column

/-! ## Filters and orderings -/

/-- **Compilers of comparisons endure any use.** -/
theorem ComparisonFilter.endures (allowed : Dialect → Prop) (filter : ComparisonFilter) :
    Compiler.Endures { ComparisonState.stages with } allowed filter.Holds filter.Holds
      (fun answer => answer = filter.fragment.mapError .violation) :=
  .of_compile rfl rfl fun dialect _ => filter.gives_compile dialect

/-- **Compilers of filters endure any use.** -/
theorem Filter.endures (allowed : Dialect → Prop) (filter : Filter) :
    Compiler.Endures { FilterState.stages with } allowed filter.Holds filter.Holds
      (fun answer => answer = filter.fragment.mapError .violation) :=
  .of_compile rfl rfl fun dialect _ => filter.gives_compile dialect

/-- **Compilers of orderings endure any use.** -/
theorem OrderByElement.endures (allowed : Dialect → Prop) (elements : List OrderByElement) :
    Compiler.Endures { OrderByState.stages with } allowed
      (fun state => List.Forall₂ Holds elements state.elements)
      (fun state => List.Forall₂ Holds elements state.elements)
      (fun answer => answer = (joinedFragment elements).mapError .violation) :=
  .of_compile rfl rfl fun dialect _ => gives_compile dialect elements

/-! ## Joins and queries -/

section Subqueries

variable {Sub : Type} {tracks : Query → Sub → Prop}
variable {fragment : Query → Except Violation Fragment}
variable {dialect : Dialect} {build : Dialect → Step Sub Fragment}

/-- **Compilers of joins endure any use** in the dialect that their
subqueries are tracked in. -/
theorem Join.endures (hsub : ∀ query, Gives (tracks query) (fragment query) (build dialect))
    (join : Join Query) :
    Compiler.Endures { JoinState.stages build with } (· = dialect) (join.Holds tracks)
      (join.Holds tracks) (fun answer => answer = (join.fragment fragment).mapError .violation) :=
  .of_compile rfl rfl fun _ hdialect => hdialect ▸ join.gives_compile hsub

namespace Query

/-- Asking for the distinct clause changes the compilers of that clause and
nothing else. -/
theorem keeps_buildDistinct {kept : Option (List ColumnCompiler) → Prop} (dialect : Dialect)
    (query : Query) :
    Keeps (fun _ => True) (query.Holds tracks fragment kept)
      (QueryState.buildDistinct dialect) := by
  have hdistinct : Gives (query.Holds tracks fragment kept)
      (query.distinct.mapM Distinct.fragment)
      (Step.on QueryState.distinct (fun distinct state => { state with distinct })
        (Step.optional (DistinctState.build dialect))) :=
    (gives_optional query.distinct (Distinct.gives_build dialect)).on (fun _ hs => hs.distinct)
      fun _ _ hs ht => { hs with distinct := ht }
  refine (hdistinct.keeps fun _ => trivial).andThen fun distinct => ?_
  cases distinct with
  | none => exact keeps_fail trivial
  | some distinct => exact keeps_answer distinct

/-- What compiles a query before it is prepared either finds the select
list of an earlier preparation or stops before it does anything. -/
theorem ready_or_compile_eq (build : Dialect → Step Sub Fragment) (dialect : Dialect)
    {query : Query} {state : QueryState Sub} (h : query.Idle tracks fragment state) :
    query.Ready tracks fragment state ∨
      QueryState.compile build dialect state =
        (.error (.misuse (.notPrepared "columns")), state) := by
  obtain ⟨action, table, tableAlias, aliasName, columnNodes, _ | compilers, distinct, joins, filter,
    groupBy, having, orderBy, limit, offset⟩ := state
  · exact .inr rfl
  · have hcompilers := h.columns compilers rfl
    have hcheck : Column.checkAll query.selectedColumns = .ok () :=
      Column.checkAll_of_tracks hcompilers
    exact .inl ⟨{ h with columns := ⟨compilers, rfl, hcompilers⟩ }, hcheck⟩

/-- **Compiling keeps what is kept of a query** before it is prepared. -/
theorem keeps_compile (hsub : ∀ query, Gives (tracks query) (fragment query) (build dialect))
    (query : Query) :
    Keeps (fun _ => True) (query.Idle tracks fragment) (QueryState.compile build dialect) := by
  intro state hs
  refine ⟨fun _ _ => trivial, ?_⟩
  obtain hready | hstopped := ready_or_compile_eq build dialect hs
  · exact idle_of_ready (query.gives_compile hsub state hready).2
  · rw [hstopped]
    exact hs

/-- What preparing a query refuses is refused of the query. -/
theorem error_of_prepare {query : Query} {state : QueryState Sub}
    (h : query.Idle tracks fragment state) {error : CompileError}
    (herror : (QueryState.prepare state).1 = .error error) :
    .error error = (query.fragmentWith fragment dialect).mapError CompileError.violation := by
  obtain ⟨hanswer, -⟩ := query.gives_prepare state h
  rw [hanswer] at herror
  cases hchecked : Column.checkAll query.selectedColumns with
  | ok =>
    rw [hchecked] at herror
    cases herror
  | error violation =>
    rw [hchecked] at herror
    cases herror
    rw [fragmentWith, hchecked]
    rfl

/-- **Compilers of queries endure any use** in the dialect that their
subqueries are tracked in. -/
theorem endures (hsub : ∀ query, Gives (tracks query) (fragment query) (build dialect))
    (query : Query) :
    Compiler.Endures
      { QueryState.stages build with clause? := some QueryState.buildDistinct } (· = dialect)
      (query.Idle tracks fragment) (query.Ready tracks fragment)
      (fun answer => answer = (query.fragmentWith fragment dialect).mapError .violation) where
  idle_of_ready _ := idle_of_ready
  prepare state hs := by
    obtain ⟨hanswer, hidle, hready⟩ := query.gives_prepare state hs
    refine ⟨hidle, fun hok => hready ?_, fun error herror => error_of_prepare hs herror⟩
    exact mapError_eq_ok.mp (hanswer.symm.trans hok)
  prepare_ready state hs := (query.gives_prepare state (idle_of_ready hs)).2.2 hs.2
  compile := by
    rintro _ rfl state hs
    obtain ⟨hanswer, hready⟩ := query.gives_compile hsub state hs
    rw [fragmentWith, hs.2]
    exact ⟨hanswer, hready⟩
  compile_idle := by
    rintro _ rfl
    exact query.keeps_compile hsub
  clause := by
    rintro _ ⟨⟩ dialect -
    refine ⟨query.keeps_buildDistinct dialect, fun state hs => ?_⟩
    obtain ⟨hanswer, hkept⟩ := query.keeps_buildDistinct dialect state hs.1
    exact ⟨hanswer, hkept, hs.2⟩

end Query

end Subqueries

/-! ## Nodes -/

namespace Node

/-- **What a compiler builds does not depend on what it was used for.** In
every run in one dialect, from the compiler that was made of a node, every
build answers what the first one would have answered if it had been the
only use: the same fragment, or the same error. -/
theorem answers_eq_build {node : Node} {compiler : Compiler node.State}
    (h : node.compiler = .ok compiler) (dialect : Dialect) (uses : List Use) :
    ∀ answer ∈ Compiler.answers node.interface (uses.map (dialect, ·)) compiler,
      answer = (Compiler.build node.interface.toStages dialect compiler).1 := by
  cases node with
  | column showAlias column =>
    exact (column.endures _ showAlias).answers_eq uses (column.lives_of_compilerWith h _)
  | comparison filter =>
    exact (filter.endures _).answers_eq uses (Compiler.lives_of_made filter.made_compiler h)
  | filter filter =>
    exact (filter.endures _).answers_eq uses (Compiler.lives_of_made filter.made_compiler h)
  | ordering elements =>
    have hmade := OrderByElement.made_compiler elements
    exact (OrderByElement.endures _ elements).answers_eq uses (Compiler.lives_of_made hmade h)
  | nestedJoin join =>
    have hmade : Made (join.Tracks (fun _ _ => False) Query.refuse) _ _ :=
      join.made_compiler Query.made_refuse
    exact (join.endures (Query.gives_refuse dialect)).answers_eq uses
      (Compiler.lives_of_made hmade h)
  | join join =>
    have hmade :
        Made (join.Tracks (Query.TracksNested dialect) (Query.nestedFragment dialect)) _ _ :=
      join.made_compiler (Query.made_nestedCompiler dialect)
    exact (join.endures (Query.gives_nestedBuild dialect)).answers_eq uses
      (Compiler.lives_of_made hmade h)
  | nestedQuery query =>
    have hmade := query.made_nestedCompiler dialect
    exact (query.endures (Query.gives_refuse dialect)).answers_eq uses
      (Compiler.lives_of_made hmade h)
  | query query =>
    have hmade := query.made_compiler dialect
    exact (query.endures (Query.gives_nestedBuild dialect)).answers_eq uses
      (Compiler.lives_of_made hmade h)

/-- A query that is refused half way: one column of its select list can be
built, and of the next one the function but not its parameter. -/
def badParameter : Query where
  action := some "query"
  table := some (.name "t")
  columns := some [.ofName "a", .function ⟨"f", [.function ⟨"g", [badCast], none⟩], none⟩]
  distinct := some { columns := [.ofName "b"] }
where
  /-- A column with a cast that is no type. -/
  badCast : Column := .named { column := "c", cast := some "int;" }

theorem answers_badParameter :
    ∃ compiler, badParameter.compiler = .ok compiler ∧
      (TopCompiler.build .mysql compiler).1 = .error (.violation (.invalidCastType "int;")) ∧
      ∀ answer ∈ Compiler.answers (query badParameter).interface
          ([.build, .clause, .reset, .compile, .build].map (.mysql, ·)) compiler,
        answer = (TopCompiler.build .mysql compiler).1 := by
  have hcheck : badParameter.check = .ok () := rfl
  have hmade := badParameter.made_compiler .mysql
  rw [hcheck] at hmade
  obtain ⟨compiler, hcompiler, -⟩ := hmade.exists_ok
  have hnode : (query badParameter).compiler = .ok compiler := hcompiler
  refine ⟨compiler, hcompiler, ?_, answers_eq_build hnode .mysql _⟩
  rw [(Query.build_of_compiler hcompiler .mysql).2]
  rfl

end Node

end QueryTree
