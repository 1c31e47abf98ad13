import QueryTree.Proofs.History
/-!
# Misuse — no use of a compiler is a wrong one

What is built depends on the dialect, and where the dialect changes
between two uses, compilers keep fragments of different dialects at the
same time. Then it is no longer so that a compiler builds the fragment of
its node. It is so still that every template fits what is put into it and
that nothing is built before it is prepared: a build in any run fails for
a broken rule alone (`Node.ne_misuse_of_answers`). A state is sound where every
compiler in it is one of some node, whatever it keeps.
-/

namespace QueryTree

open Step

/-- **An error that a broken rule is the reason for.** -/
def CompileError.BreaksRule (error : CompileError) : Prop :=
  ∃ violation, error = .violation violation

open CompileError

/-- **An answer that is an error only for a broken rule.** -/
def Lawful (answer : Except CompileError Fragment) : Prop :=
  ∀ error, answer = .error error → error.BreaksRule

theorem breaksRule_violation (violation : Violation) :
    (CompileError.violation violation).BreaksRule := ⟨violation, rfl⟩

theorem lawful_ok (fragment : Fragment) : Lawful (.ok fragment) := fun _ h => (nomatch h)

theorem lawful_violation (violation : Violation) : Lawful (.error (.violation violation)) := by
  rintro _ ⟨⟩
  exact breaksRule_violation violation

theorem lawful_of_mapError {answer : Except CompileError Fragment}
    {result : Except Violation Fragment} (h : answer = result.mapError .violation) :
    Lawful answer := by
  rw [h]
  cases result with
  | ok fragment => exact lawful_ok fragment
  | error violation => exact lawful_violation violation

namespace Step

variable {σ τ ν α β : Type}
variable {permitted : CompileError → Prop}

/-- A step that gives the result of a node keeps what is a state of some
node. -/
theorem keeps_of_gives {tracks : ν → σ → Prop} {f : ν → Except Violation α} {step : Step σ α}
    (h : ∀ node, Gives (tracks node) (f node) step) :
    Keeps BreaksRule (fun s => ∃ node, tracks node s) step := by
  rintro s ⟨node, hs⟩
  obtain ⟨herror, hkept⟩ := (h node).keeps breaksRule_violation s hs
  exact ⟨herror, node, hkept⟩

theorem keeps_each {part : τ → Prop} {step : Step τ α} (h : Keeps permitted part step) :
    Keeps permitted (fun states => ∀ t ∈ states, part t) (each step) := by
  intro states hstates
  induction states with
  | nil => exact ⟨fun _ herror => (nomatch herror), hstates⟩
  | cons t states ih =>
    obtain ⟨ht, hrest⟩ := List.forall_mem_cons.mp hstates
    obtain ⟨herror, hkept⟩ := h t ht
    rw [each]
    rcases hstep : step t with ⟨error | a, next⟩
    · -- the states after one that fails are left as they were
      rw [hstep] at herror hkept
      refine ⟨?_, List.forall_mem_cons.mpr ⟨hkept, hrest⟩⟩
      rintro _ ⟨⟩
      exact herror error rfl
    · rw [hstep] at hkept
      obtain ⟨herrors, hall⟩ := ih hrest
      refine ⟨fun error he => ?_, List.forall_mem_cons.mpr ⟨hkept, hall⟩⟩
      exact herrors error (map_eq_error.mp he)

theorem keeps_optional {part : τ → Prop} {step : Step τ α} (h : Keeps permitted part step) :
    Keeps permitted (fun state => ∀ t ∈ state, part t) (optional step) := by
  rintro (_ | t) hstate
  · exact ⟨fun _ herror => (nomatch herror), hstate⟩
  · obtain ⟨herror, hkept⟩ := h t (hstate t rfl)
    refine ⟨fun error he => herror error (map_eq_error.mp he), ?_⟩
    rintro _ ⟨⟩
    exact hkept

end Step

/-! ## Columns, filters and orderings -/

/-- A compiler of some column. -/
def ColumnCompiler.Sound (compiler : ColumnCompiler) : Prop :=
  ∃ column : Bool × Column, Tracks column.1 column.2 compiler

theorem ColumnCompiler.keeps_build (dialect : Dialect) :
    Keeps BreaksRule Sound (build dialect) :=
  keeps_of_gives fun column => gives_build dialect column.1 column.2

/-- A compiler of some filter. -/
def FilterCompiler.Sound (compiler : FilterCompiler) : Prop := ∃ filter, Tracks filter compiler

theorem FilterCompiler.keeps_build (dialect : Dialect) :
    Keeps BreaksRule Sound (build dialect) :=
  keeps_of_gives (gives_build dialect)

/-- A compiler of some ordering. -/
def OrderByCompiler.Sound (compiler : OrderByCompiler) : Prop :=
  ∃ elements, OrderByElement.Tracks elements compiler

theorem OrderByCompiler.keeps_build (dialect : Dialect) :
    Keeps BreaksRule Sound (Compiler.build OrderByState.stages dialect) :=
  keeps_of_gives (OrderByElement.gives_build dialect)

/-- The compilers of some distinct clause. -/
def DistinctState.Sound (state : DistinctState) : Prop :=
  ∃ distinct : Distinct, distinct.Holds state

theorem DistinctState.keeps_build (dialect : Dialect) :
    Keeps BreaksRule Sound (build dialect) :=
  keeps_of_gives (Distinct.gives_build dialect)

/-! ## Joins -/

section Subqueries

variable {Sub : Type} {sub : Sub → Prop} {build : Dialect → Step Sub Fragment}
variable {tracks : Query → Sub → Prop} {fragment : Query → Except Violation Fragment}
variable {permitted : CompileError → Prop}

/-- A table whose query, if it is one, has a sound compiler. -/
def Table.Sound (sub : Sub → Prop) : Table Sub → Prop
  | .name _ => True
  | .query compiler => sub compiler

theorem Table.keeps_buildSource {step : Step Sub Fragment} (hsub : Keeps BreaksRule sub step)
    (aliasName : Option String) :
    Keeps BreaksRule (Table.Sound sub) (buildSource step aliasName) := by
  rintro (n | compiler) h
  · exact ⟨fun _ herror => (nomatch herror), trivial⟩
  · obtain ⟨herror, hkept⟩ := hsub compiler h
    exact ⟨fun error he => herror error (map_eq_error.mp he), hkept⟩

theorem Table.sound_of_rel (hsub : ∀ query compiler, tracks query compiler → sub compiler)
    {node : Option (Table Query)} {table : Table Sub}
    (h : Option.Rel (Table.Tracks tracks) node (some table)) : table.Sound sub := by
  cases h with
  | some h =>
    rename_i node
    cases node with
    | name n =>
      cases table with
      | name kept => exact trivial
      | query compiler => exact h.elim
    | query query =>
      cases table with
      | name kept => exact h.elim
      | query compiler => exact hsub query compiler h

/-- **A sound state of a join's compiler.** -/
structure JoinState.Sound (sub : Sub → Prop) (state : JoinState Sub) : Prop where
  table : state.table.Sound sub
  condition : ∀ compiler ∈ state.condition, compiler.Sound

/-- A sound compiler of a join. -/
def JoinCompiler.Sound (sub : Sub → Prop) : JoinCompiler Sub → Prop :=
  Compiler.Lives (JoinState.Sound sub) (JoinState.Sound sub) fun fragment => Lawful (.ok fragment)

namespace JoinState

/-- **Compiling a join fails for a broken rule alone.** -/
theorem keeps_compile {dialect : Dialect} (hsub : Keeps BreaksRule sub (build dialect)) :
    Keeps BreaksRule (JoinState.Sound sub) ((stages build).compile dialect) := by
  intro state hstate
  have hsource : Keeps BreaksRule (JoinState.Sound sub)
      (Step.on table (fun table state => { state with table })
        (Table.buildSource (build dialect) state.aliasName)) :=
    (Table.keeps_buildSource hsub _).on (fun _ hs => hs.table)
      fun _ _ hs ht => { hs with table := ht }
  have hcondition : Keeps BreaksRule (JoinState.Sound sub)
      (Step.on condition (fun condition state => { state with condition })
        (Step.optional (FilterCompiler.build dialect))) :=
    (keeps_optional (FilterCompiler.keeps_build dialect)).on (fun _ hs => hs.condition)
      fun _ _ hs ht => { hs with condition := ht }
  exact (hsource.andThen fun _ => hcondition.andThen fun _ => keeps_answer _) state hstate

/-- **Compilers of joins endure any use** in any dialect. -/
theorem endures (hsub : ∀ dialect, Keeps BreaksRule sub (build dialect)) :
    Compiler.Endures { stages build with } (fun _ => True) (JoinState.Sound sub)
      (JoinState.Sound sub) Lawful :=
  .of_compile rfl rfl fun dialect _ => keeps_compile (hsub dialect)

theorem keeps_build (hsub : ∀ dialect, Keeps BreaksRule sub (build dialect)) (dialect : Dialect) :
    Keeps BreaksRule (JoinCompiler.Sound sub) (Compiler.build (stages build) dialect) := by
  intro compiler h
  exact (endures hsub).build trivial h

end JoinState

theorem Join.sound_of_tracks (hsub : ∀ query compiler, tracks query compiler → sub compiler)
    {join : Join Query} {compiler : JoinCompiler Sub} (h : join.Tracks tracks fragment compiler) :
    compiler.Sound sub := by
  have hstate : ∀ state, join.Holds tracks state → state.Sound sub := fun state hs =>
    { table := Table.sound_of_rel hsub hs.table
      condition := forall_mem_of_rel hs.condition fun filter _ hf => ⟨filter, hf⟩ }
  exact (Compiler.lives_of_tracks h).mono hstate hstate fun fragment _ => lawful_ok fragment

/-! ## Queries -/

/-- **A sound state of a query's compiler,** given what there has to be of
the select list. -/
structure QueryState.Sound (sub : Sub → Prop) (kept : Option (List ColumnCompiler) → Prop)
    (state : QueryState Sub) : Prop where
  table : state.table.Sound sub
  columns : kept state.columns
  distinct : ∀ distinct ∈ state.distinct, distinct.Sound
  joins : ∀ join ∈ state.joins, join.Sound sub
  filter : ∀ filter ∈ state.filter, filter.Sound
  groupBy : ∀ column ∈ state.groupBy, column.Sound
  having : ∀ having ∈ state.having, having.Sound
  orderBy : ∀ orderBy ∈ state.orderBy, orderBy.Sound

namespace QueryState

/-- The compilers of the select list before the query is prepared, if
there are any. -/
def KeepsColumns (kept : Option (List ColumnCompiler)) : Prop :=
  ∀ columns ∈ kept, ∀ column ∈ columns, column.Sound

/-- The compilers of the select list once the query is prepared. -/
def HasColumns (kept : Option (List ColumnCompiler)) : Prop :=
  ∃ columns, kept = some columns ∧ ∀ column ∈ columns, column.Sound

theorem keepsColumns_of_hasColumns {kept : Option (List ColumnCompiler)} (h : HasColumns kept) :
    KeepsColumns kept := by
  obtain ⟨columns, rfl, hcolumns⟩ := h
  rintro _ ⟨⟩
  exact hcolumns

theorem Sound.idle {state : QueryState Sub} (h : state.Sound sub HasColumns) :
    state.Sound sub KeepsColumns :=
  { h with columns := keepsColumns_of_hasColumns h.columns }

/-- What preparing does: it makes sound compilers or refuses. -/
theorem prepare_cases {kept : Option (List ColumnCompiler) → Prop} {state : QueryState Sub}
    (h : state.Sound sub kept) :
    (∃ next, prepare state = (.ok (), next) ∧ next.Sound sub HasColumns) ∨
      ∃ violation, prepare state = (.error (.violation violation), state) := by
  have hmade := Column.made_compilersWith true state.columnNodes
  unfold prepare
  cases hcolumns : Column.compilersWith true state.columnNodes with
  | ok columns =>
    rw [hcolumns] at hmade
    have hsound : ∀ column ∈ columns, column.Sound :=
      forall_mem_of_forall₂ hmade.of_ok.2 fun column _ hc => ⟨(true, column), hc⟩
    exact .inl ⟨_, rfl, { h with columns := ⟨columns, rfl, hsound⟩ }⟩
  | error violation => exact .inr ⟨violation, rfl⟩

theorem sound_prepare {state : QueryState Sub} (h : state.Sound sub KeepsColumns) :
    (prepare state).2.Sound sub KeepsColumns ∧
      ((prepare state).1 = .ok () → (prepare state).2.Sound sub HasColumns) ∧
      ∀ error, (prepare state).1 = .error error → Lawful (.error error) := by
  obtain ⟨next, hprepare, hnext⟩ | ⟨violation, hprepare⟩ := prepare_cases h
  · rw [hprepare]
    exact ⟨hnext.idle, fun _ => hnext, fun _ herror => (nomatch herror)⟩
  · rw [hprepare]
    refine ⟨h, fun hok => (nomatch hok), ?_⟩
    rintro _ ⟨⟩
    exact lawful_violation violation

/-- Preparing again, also where it refuses, leaves compilers for the select
list. -/
theorem sound_prepare_again {state : QueryState Sub} (h : state.Sound sub HasColumns) :
    (prepare state).2.Sound sub HasColumns := by
  obtain ⟨next, hprepare, hnext⟩ | ⟨violation, hprepare⟩ := prepare_cases h
  · rw [hprepare]
    exact hnext
  · rw [hprepare]
    exact h

theorem keeps_buildColumns (dialect : Dialect) :
    Keeps BreaksRule HasColumns (buildColumns dialect) := by
  rintro _ ⟨columns, rfl, h⟩
  obtain ⟨herror, hkept⟩ := keeps_each (ColumnCompiler.keeps_build dialect) columns h
  exact ⟨herror, _, rfl, hkept⟩

/-- Before the query is prepared there may be nothing to build. -/
theorem keeps_buildColumns_idle (dialect : Dialect) :
    Keeps (fun _ => True) KeepsColumns (buildColumns dialect) := by
  rintro (_ | columns) h
  · exact ⟨fun _ _ => trivial, h⟩
  · obtain ⟨-, hkept⟩ := keeps_buildColumns dialect (some columns) ⟨columns, rfl, h columns rfl⟩
    exact ⟨fun _ _ => trivial, keepsColumns_of_hasColumns hkept⟩

/-- Building the distinct clause, if there is one, keeps a state sound. -/
theorem keeps_buildDistinct? {kept : Option (List ColumnCompiler) → Prop} (dialect : Dialect) :
    Keeps BreaksRule (QueryState.Sound sub kept) (buildDistinct? dialect) :=
  (keeps_optional (DistinctState.keeps_build dialect)).on (fun _ hs => hs.distinct)
    fun _ _ hs ht => { hs with distinct := ht }

theorem keeps_buildDistinct {kept : Option (List ColumnCompiler) → Prop} (dialect : Dialect) :
    Keeps (fun _ => True) (QueryState.Sound sub kept) (buildDistinct dialect) := by
  refine ((keeps_buildDistinct? dialect).mono fun _ _ => trivial).andThen fun distinct => ?_
  cases distinct with
  | none => exact keeps_fail trivial
  | some distinct => exact keeps_answer distinct

/-- **Compiling a query fails for a broken rule,** or where building its
select list fails. Each clause is built by its own compiler and leaves
those of the others as they are. -/
theorem keeps_compile {dialect : Dialect} {kept : Option (List ColumnCompiler) → Prop}
    (hpermitted : ∀ error, BreaksRule error → permitted error)
    (hcolumns : Keeps permitted kept (buildColumns dialect))
    (hsub : ∀ dialect, Keeps BreaksRule sub (build dialect)) :
    Keeps permitted (QueryState.Sound sub kept) (compile build dialect) := by
  intro state hstate
  have hcolumns : Keeps permitted (QueryState.Sound sub kept)
      (Step.on columns (fun columns state => { state with columns }) (buildColumns dialect)) :=
    hcolumns.on (fun _ hs => hs.columns) fun _ _ hs ht => { hs with columns := ht }
  have hsource : Keeps BreaksRule (QueryState.Sound sub kept)
      (Step.on table (fun table state => { state with table })
        (Table.buildSource (build dialect) state.tableAlias)) :=
    (Table.keeps_buildSource (hsub dialect) _).on (fun _ hs => hs.table)
      fun _ _ hs ht => { hs with table := ht }
  have hjoins : Keeps BreaksRule (QueryState.Sound sub kept)
      (Step.on joins (fun joins state => { state with joins })
        (Step.each (Compiler.build (JoinState.stages build) dialect))) :=
    (keeps_each (JoinState.keeps_build hsub dialect)).on (fun _ hs => hs.joins)
      fun _ _ hs ht => { hs with joins := ht }
  have hfilter : Keeps BreaksRule (QueryState.Sound sub kept)
      (Step.on filter (fun filter state => { state with filter })
        (Step.optional (FilterCompiler.build dialect))) :=
    (keeps_optional (FilterCompiler.keeps_build dialect)).on (fun _ hs => hs.filter)
      fun _ _ hs ht => { hs with filter := ht }
  have hgroupBy : Keeps BreaksRule (QueryState.Sound sub kept)
      (Step.on groupBy (fun groupBy state => { state with groupBy })
        (Step.each (ColumnCompiler.build dialect))) :=
    (keeps_each (ColumnCompiler.keeps_build dialect)).on (fun _ hs => hs.groupBy)
      fun _ _ hs ht => { hs with groupBy := ht }
  have hhaving : Keeps BreaksRule (QueryState.Sound sub kept)
      (Step.on having (fun having state => { state with having })
        (Step.optional (FilterCompiler.build dialect))) :=
    (keeps_optional (FilterCompiler.keeps_build dialect)).on (fun _ hs => hs.having)
      fun _ _ hs ht => { hs with having := ht }
  have horderBy : Keeps BreaksRule (QueryState.Sound sub kept)
      (Step.on orderBy (fun orderBy state => { state with orderBy })
        (Step.optional (Compiler.build OrderByState.stages dialect))) :=
    (keeps_optional (OrderByCompiler.keeps_build dialect)).on (fun _ hs => hs.orderBy)
      fun _ _ hs ht => { hs with orderBy := ht }
  -- past the select list nothing but a broken rule is an error
  exact (hcolumns.andThen fun _ => ((keeps_buildDistinct? dialect).andThen fun _ =>
    hsource.andThen fun _ => hjoins.andThen fun _ => hfilter.andThen fun _ =>
    hgroupBy.andThen fun _ => hhaving.andThen fun _ => horderBy.andThen fun _ =>
    keeps_answer _).mono hpermitted) state hstate

/-- **Compilers of queries endure any use** in any dialect. -/
theorem endures (hsub : ∀ dialect, Keeps BreaksRule sub (build dialect)) :
    Compiler.Endures { stages build with clause? := some buildDistinct } (fun _ => True)
      (QueryState.Sound sub KeepsColumns) (QueryState.Sound sub HasColumns) Lawful where
  idle_of_ready _ hs := hs.idle
  prepare _ := sound_prepare
  prepare_ready _ := sound_prepare_again
  compile dialect _ := keeps_compile (fun _ h => h) (keeps_buildColumns dialect) hsub
  compile_idle dialect _ :=
    keeps_compile (fun _ _ => trivial) (keeps_buildColumns_idle dialect) hsub
  clause := by
    rintro _ ⟨⟩ dialect -
    exact ⟨keeps_buildDistinct dialect, keeps_buildDistinct dialect⟩

end QueryState

/-- **A sound compiler of a query.** -/
def QueryCompiler.Sound (sub : Sub → Prop) : QueryCompiler Sub → Prop :=
  Compiler.Lives (QueryState.Sound sub QueryState.KeepsColumns)
    (QueryState.Sound sub QueryState.HasColumns) fun fragment => Lawful (.ok fragment)

theorem Query.sound_of_tracks (hsub : ∀ query compiler, tracks query compiler → sub compiler)
    {dialect : Dialect} {query : Query} {compiler : QueryCompiler Sub}
    (h : query.Tracks tracks fragment dialect compiler) : QueryCompiler.Sound sub compiler := by
  have hcolumn : ∀ showAlias : Bool, ∀ column compiler,
      ColumnCompiler.Tracks showAlias column compiler → compiler.Sound :=
    fun showAlias column _ hc => ⟨(showAlias, column), hc⟩
  have hstate : ∀ {kept kept' : Option (List ColumnCompiler) → Prop} (state : QueryState Sub),
      (kept state.columns → kept' state.columns) → query.Holds tracks fragment kept state →
      state.Sound sub kept' := fun state hkept hs =>
    { table := Table.sound_of_rel hsub hs.table
      columns := hkept hs.columns
      distinct := forall_mem_of_rel hs.distinct fun distinct _ hd => ⟨distinct, hd⟩
      joins := forall_mem_of_forall₂ hs.joins fun _ _ hj => Join.sound_of_tracks hsub hj
      filter := forall_mem_of_rel hs.filter fun filter _ hf => ⟨filter, hf⟩
      groupBy := forall_mem_of_forall₂ hs.groupBy (hcolumn false)
      having := forall_mem_of_rel hs.having fun filter _ hf => ⟨filter, hf⟩
      orderBy := forall_mem_of_rel hs.orderBy fun elements _ ho => ⟨elements, ho⟩ }
  refine (Compiler.lives_of_tracks h).mono (fun state hs => hstate state (fun hkept => ?_) hs)
    (fun state hs => hstate state (fun hkept => ?_) hs.1) fun fragment _ => lawful_ok fragment
  · intro columns hcolumns
    exact forall_mem_of_forall₂ (hkept columns hcolumns) (hcolumn true)
  · obtain ⟨columns, hcolumns, htracks⟩ := hkept
    exact ⟨columns, hcolumns, forall_mem_of_forall₂ htracks (hcolumn true)⟩

end Subqueries

/-! ## Nested queries -/

theorem keeps_buildNone (dialect : Dialect) :
    Keeps BreaksRule (fun _ => True)
      ((fun _ none => none.elim : Dialect → Step Empty Fragment) dialect) := by
  intro none
  exact none.elim

/-- A sound compiler of a nested query. -/
def NestedCompiler.Sound : NestedCompiler → Prop := QueryCompiler.Sound fun _ => True

theorem NestedCompiler.keeps_build (dialect : Dialect) :
    Keeps BreaksRule Sound (build dialect) := by
  intro compiler (h : QueryCompiler.Sound _ compiler)
  exact (QueryState.endures keeps_buildNone).build trivial h

theorem Query.sound_of_tracksNested {dialect : Dialect} (query : Query) (compiler : NestedCompiler)
    (h : query.TracksNested dialect compiler) : compiler.Sound :=
  sound_of_tracks (fun _ _ _ => trivial) h

/-! ## Nodes -/

namespace Node

theorem lawful_of_answers {node : Node} {compiler : Compiler node.State}
    (h : node.compiler = .ok compiler) (uses : List (Dialect × Use)) :
    ∀ answer ∈ Compiler.answers node.interface uses compiler, Lawful answer := by
  let any : Dialect → Prop := fun _ => True
  have hany : ∀ use ∈ uses, any use.1 := fun _ _ => trivial
  cases node with
  | column showAlias column =>
    have hanswers := (column.endures any showAlias).answers uses hany
      (column.lives_of_compilerWith h _)
    exact fun answer ha => lawful_of_mapError (hanswers answer ha)
  | comparison filter =>
    have hlives := Compiler.lives_of_made filter.made_compiler h
    have hanswers := (filter.endures any).answers uses hany hlives
    exact fun answer ha => lawful_of_mapError (hanswers answer ha)
  | filter filter =>
    have hlives := Compiler.lives_of_made filter.made_compiler h
    have hanswers := (filter.endures any).answers uses hany hlives
    exact fun answer ha => lawful_of_mapError (hanswers answer ha)
  | ordering elements =>
    have hlives := Compiler.lives_of_made (OrderByElement.made_compiler elements) h
    have hanswers := (OrderByElement.endures any elements).answers uses hany hlives
    exact fun answer ha => lawful_of_mapError (hanswers answer ha)
  | nestedJoin join =>
    have hmade : Made (join.Tracks (fun _ _ => False) Query.refuse) _ _ :=
      join.made_compiler Query.made_refuse
    have hsound : JoinCompiler.Sound (fun _ => True) compiler :=
      Join.sound_of_tracks (fun _ _ _ => trivial) (hmade.of_eq_ok h)
    exact (JoinState.endures keeps_buildNone).answers uses hany hsound
  | join join =>
    -- the dialect that the compiler is tracked in at first does not matter
    have hmade :
        Made (join.Tracks (Query.TracksNested .sqlite) (Query.nestedFragment .sqlite)) _ _ :=
      join.made_compiler (Query.made_nestedCompiler .sqlite)
    have hsound := Join.sound_of_tracks Query.sound_of_tracksNested (hmade.of_eq_ok h)
    exact (JoinState.endures NestedCompiler.keeps_build).answers uses hany hsound
  | nestedQuery query =>
    have hsound := query.sound_of_tracksNested compiler
      ((query.made_nestedCompiler .sqlite).of_eq_ok h)
    exact (QueryState.endures keeps_buildNone).answers uses hany hsound
  | query query =>
    have hsound := Query.sound_of_tracks Query.sound_of_tracksNested
      ((query.made_compiler .sqlite).of_eq_ok h)
    exact (QueryState.endures NestedCompiler.keeps_build).answers uses hany hsound

/-- **No use of a compiler is a wrong one.** Whatever the compiler of a node
was used for before, in whatever dialects, a build of it does not fail for
a misuse: no template has the wrong number of holes, nothing is built
before it is prepared, and no clause is missing. -/
theorem ne_misuse_of_answers {node : Node} {compiler : Compiler node.State}
    (h : node.compiler = .ok compiler) (uses : List (Dialect × Use)) :
    ∀ answer ∈ Compiler.answers node.interface uses compiler,
      ∀ misuse, answer ≠ .error (.misuse misuse) := by
  intro answer hanswer misuse hmisuse
  obtain ⟨violation, hviolation⟩ := lawful_of_answers h uses answer hanswer _ hmisuse
  cases hviolation

/-- A query of rows of a query, both with an offset, which the dialects
write in different ways. -/
def offsetTwice : Query where
  action := some "query"
  table := some (.query { table := some (.name "t"), aliasName := some "s", offset := some 2 })
  columns := some [.function ⟨"count", [.named { column := "a?", cast := some "int[]" }], some "?"⟩]
  offset := some 1

/-- The nested query keeps its fragment where the one around it is reset. -/
theorem ne_misuse_offsetTwice :
    ∃ compiler, offsetTwice.compiler = .ok compiler ∧
      ∀ answer ∈ Compiler.answers (query offsetTwice).interface
          [(.mysql, .compile), (.mysql, .build), (.postgres, .reset), (.postgres, .clause),
            (.sqlite, .build), (.postgres, .reset), (.postgres, .prepare), (.mysql, .build)] compiler,
        ∀ misuse, answer ≠ .error (.misuse misuse) := by
  have hcheck : offsetTwice.check = .ok () := rfl
  have hmade := offsetTwice.made_compiler .sqlite
  rw [hcheck] at hmade
  obtain ⟨compiler, hcompiler, -⟩ := hmade.exists_ok
  have hnode : (query offsetTwice).compiler = .ok compiler := hcompiler
  exact ⟨compiler, hcompiler, ne_misuse_of_answers hnode _⟩

end Node

end QueryTree
