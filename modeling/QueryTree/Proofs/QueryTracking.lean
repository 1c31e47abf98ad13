import QueryTree.Proofs.Assembly
import QueryTree.Proofs.ClauseTracking
/-!
# Tracking queries — the statement of a query is that of its assembly

A query is tracked clause by clause, over any way to track its
subqueries; that is used for nested queries first, which have none, and
then for queries at the top. The main result is `Query.toStatement_eq`:
compiling a query in its stages, where each compiler keeps what it has
built, is checking the query and then assembling it.
-/

namespace QueryTree

open Step

section Subqueries

variable {Sub : Type} {tracks : Query → Sub → Prop}
variable {fragment : Query → Except Violation Fragment} {checked : Query → Except Violation Unit}
variable {made : Query → Except Violation Sub}
variable {dialect : Dialect} {build : Dialect → Step Sub Fragment}

namespace Query

/-- The compilers of the select list before the query is prepared, if
there are any. -/
def KeepsColumns (query : Query) (kept : Option (List ColumnCompiler)) : Prop :=
  ∀ compilers ∈ kept, List.Forall₂ (ColumnCompiler.Tracks true) query.selectedColumns compilers

/-- The compilers of the select list once the query is prepared. -/
def HasColumns (query : Query) (kept : Option (List ColumnCompiler)) : Prop :=
  ∃ compilers, kept = some compilers ∧
    List.Forall₂ (ColumnCompiler.Tracks true) query.selectedColumns compilers

/-- **What the state of a compiler has to do with its query,** given what
there has to be of the select list. -/
structure Holds (tracks : Query → Sub → Prop) (fragment : Query → Except Violation Fragment)
    (kept : Option (List ColumnCompiler) → Prop) (query : Query) (state : QueryState Sub) :
    Prop where
  table : Option.Rel (Table.Tracks tracks) query.table (some state.table)
  tableAlias : state.tableAlias = query.tableAlias
  columnNodes : state.columnNodes = query.selectedColumns
  columns : kept state.columns
  distinct : Option.Rel Distinct.Holds query.distinct state.distinct
  joins : List.Forall₂ (Join.Tracks tracks fragment) query.joins state.joins
  filter : Option.Rel FilterCompiler.Tracks query.filter state.filter
  groupBy : List.Forall₂ (ColumnCompiler.Tracks false) (query.groupBy.getD []) state.groupBy
  having : Option.Rel FilterCompiler.Tracks query.having state.having
  orderBy : Option.Rel OrderByElement.Tracks query.orderBy state.orderBy
  limit : state.limit = query.limit
  offset : state.offset = query.offset

/-- What holds of a state before it is prepared. -/
def Idle (tracks : Query → Sub → Prop) (fragment : Query → Except Violation Fragment)
    (query : Query) : QueryState Sub → Prop :=
  query.Holds tracks fragment query.KeepsColumns

/-- What holds of a state once it is prepared. -/
def Ready (tracks : Query → Sub → Prop) (fragment : Query → Except Violation Fragment)
    (query : Query) (state : QueryState Sub) : Prop :=
  query.Holds tracks fragment query.HasColumns state ∧
    Column.checkAll query.selectedColumns = .ok ()

/-- **The invariant of a query's compiler.** -/
def Tracks (tracks : Query → Sub → Prop) (fragment : Query → Except Violation Fragment)
    (dialect : Dialect) (query : Query) : QueryCompiler Sub → Prop :=
  Compiler.Tracks (query.Idle tracks fragment) (query.Ready tracks fragment)
    (query.fragmentWith fragment dialect)

/-! ## Preparing -/

theorem idle_of_ready {query : Query} {state : QueryState Sub}
    (h : query.Ready tracks fragment state) : query.Idle tracks fragment state := by
  obtain ⟨compilers, hkept, hcompilers⟩ := h.1.columns
  refine { h.1 with columns := fun other hother => ?_ }
  rw [hkept, Option.mem_some_iff] at hother
  exact hother ▸ hcompilers

/-- What preparing does: the select list is checked, and where it passes
there are compilers of it. -/
theorem gives_prepare (query : Query) (state : QueryState Sub)
    (h : query.Idle tracks fragment state) :
    (QueryState.prepare state).1 =
        (Column.checkAll query.selectedColumns).mapError .violation ∧
      query.Idle tracks fragment (QueryState.prepare state).2 ∧
      (Column.checkAll query.selectedColumns = .ok () →
        query.Ready tracks fragment (QueryState.prepare state).2) := by
  have hmade : Made
      (List.Forall₂ (ColumnCompiler.Tracks true) query.selectedColumns)
      (Column.compilersWith true state.columnNodes) (Column.checkAll query.selectedColumns) := by
    rw [h.columnNodes]
    exact Column.made_compilersWith true query.selectedColumns
  unfold QueryState.prepare
  cases hcompilers : Column.compilersWith true state.columnNodes with
  | ok compilers =>
    rw [hcompilers] at hmade
    obtain ⟨hcheck, hcolumns⟩ := hmade.of_ok
    -- compilers that were there before are dropped for new ones
    have hready : query.Ready tracks fragment { state with columns := some compilers } :=
      ⟨{ h with columns := ⟨compilers, rfl, hcolumns⟩ }, hcheck⟩
    rw [hcheck]
    exact ⟨rfl, idle_of_ready hready, fun _ => hready⟩
  | error violation =>
    rw [hcompilers] at hmade
    rw [hmade.of_error]
    exact ⟨rfl, h, fun hc => (nomatch hc)⟩

/-! ## Building -/

theorem gives_buildColumns (query : Query) :
    Gives query.HasColumns (Column.fragments query.selectedColumns true)
      (QueryState.buildColumns dialect) := by
  rintro _ ⟨compilers, rfl, h⟩
  obtain ⟨hfragments, hkept⟩ :=
    Column.gives_buildEach dialect true query.selectedColumns compilers h
  exact ⟨hfragments, _, rfl, hkept⟩

/-- The source of a query, with the alias that its table brings. -/
theorem gives_buildSource (hsub : ∀ query, Gives (tracks query) (fragment query) (build dialect))
    (query : Query) :
    Gives (query.Ready tracks fragment) (query.source fragment)
      (Step.on QueryState.table (fun table state => { state with table })
        (Table.buildSource (build dialect) query.tableAlias)) := by
  refine (Table.gives_buildSource_of_rel hsub fun table htable => ?_).on (fun _ hs => hs.1.table)
    fun _ _ hs ht => ⟨{ hs.1 with table := ht }, hs.2⟩
  rw [source, htable]

/-- **Compiling a query gives its clauses put together.** Each clause is
built by its own compiler and leaves those of the others as they are. -/
theorem gives_compile (hsub : ∀ query, Gives (tracks query) (fragment query) (build dialect))
    (query : Query) :
    Gives (query.Ready tracks fragment) ((query.select fragment dialect).map Select.toFragment)
      (QueryState.compile build dialect) := by
  intro state hstate
  have hcolumns : Gives (query.Ready tracks fragment)
      (Column.fragments query.selectedColumns true)
      (Step.on QueryState.columns (fun columns state => { state with columns })
        (QueryState.buildColumns dialect)) :=
    query.gives_buildColumns.on (fun _ hs => hs.1.columns)
      fun _ _ hs ht => ⟨{ hs.1 with columns := ht }, hs.2⟩
  have hdistinct : Gives (query.Ready tracks fragment) (query.distinct.mapM Distinct.fragment)
      (QueryState.buildDistinct? dialect) :=
    (gives_optional query.distinct (Distinct.gives_build dialect)).on (fun _ hs => hs.1.distinct)
      fun _ _ hs ht => ⟨{ hs.1 with distinct := ht }, hs.2⟩
  have hjoins : Gives (query.Ready tracks fragment) (query.joins.mapM (Join.fragment fragment))
      (Step.on QueryState.joins (fun joins state => { state with joins })
        (Step.each (Compiler.build (JoinState.stages build) dialect))) :=
    (gives_each query.joins (Join.gives_build hsub)).on (fun _ hs => hs.1.joins)
      fun _ _ hs ht => ⟨{ hs.1 with joins := ht }, hs.2⟩
  have hfilter : Gives (query.Ready tracks fragment) (query.filter.mapM Filter.fragment)
      (Step.on QueryState.filter (fun filter state => { state with filter })
        (Step.optional (FilterCompiler.build dialect))) :=
    (gives_optional query.filter (FilterCompiler.gives_build dialect)).on
      (fun _ hs => hs.1.filter) fun _ _ hs ht => ⟨{ hs.1 with filter := ht }, hs.2⟩
  have hgroupBy : Gives (query.Ready tracks fragment)
      (Column.fragments (query.groupBy.getD []) false)
      (Step.on QueryState.groupBy (fun groupBy state => { state with groupBy })
        (Step.each (ColumnCompiler.build dialect))) :=
    (Column.gives_buildEach dialect false (query.groupBy.getD [])).on (fun _ hs => hs.1.groupBy)
      fun _ _ hs ht => ⟨{ hs.1 with groupBy := ht }, hs.2⟩
  have hhaving : Gives (query.Ready tracks fragment) (query.having.mapM Filter.fragment)
      (Step.on QueryState.having (fun having state => { state with having })
        (Step.optional (FilterCompiler.build dialect))) :=
    (gives_optional query.having (FilterCompiler.gives_build dialect)).on
      (fun _ hs => hs.1.having) fun _ _ hs ht => ⟨{ hs.1 with having := ht }, hs.2⟩
  have horderBy : Gives (query.Ready tracks fragment)
      (query.orderBy.mapM OrderByElement.joinedFragment)
      (Step.on QueryState.orderBy (fun orderBy state => { state with orderBy })
        (Step.optional (Compiler.build OrderByState.stages dialect))) :=
    (gives_optional query.orderBy (OrderByElement.gives_build dialect)).on
      (fun _ hs => hs.1.orderBy) fun _ _ hs ht => ⟨{ hs.1 with orderBy := ht }, hs.2⟩
  -- what is read of the state before anything is built is what the query says
  rw [select_map_toFragment, QueryState.compile, hstate.1.tableAlias, hstate.1.limit,
    hstate.1.offset]
  exact (hcolumns.andThen fun _ _ => hdistinct.andThen fun _ _ =>
    (query.gives_buildSource hsub).andThen fun _ _ => hjoins.andThen fun _ _ =>
    hfilter.andThen fun _ _ => hgroupBy.andThen fun _ _ => hhaving.andThen fun _ _ =>
    horderBy.andThen fun _ _ => gives_answer _) state hstate

/-- **A compiler of a query gives the fragment of it.** -/
theorem gives_build (hsub : ∀ query, Gives (tracks query) (fragment query) (build dialect))
    (query : Query) :
    Gives (query.Tracks tracks fragment dialect) (query.fragmentWith fragment dialect)
      (Compiler.build (QueryState.stages build) dialect) :=
  Compiler.gives_build query.gives_prepare (query.gives_compile hsub) fun _ hs =>
    ⟨idle_of_ready hs, hs.2⟩

/-! ## Making compilers -/

theorem made_tableOf (hsub : ∀ query, Made (tracks query) (made query) (checked query))
    (query : Query) :
    Made (fun kept => Option.Rel (Table.Tracks tracks) query.table (some kept.1) ∧
        kept.2 = query.tableAlias)
      (query.tableOf made) (query.checkTable checked) := by
  rw [tableOf, checkTable, tableAlias]
  rcases query.table with _ | name | inner
  · exact made_error _
  · by_cases hempty : name.isEmpty = true
    · simp only [hempty, if_true]
      exact made_error _
    · simp only [hempty]
      exact made_ok ⟨.some rfl, rfl⟩
  · exact (hsub inner).bind_ok fun _ h => ⟨.some h, rfl⟩

/-- A compiler of a query, with the clauses that may be missing as values
that may be. -/
theorem compilerWith_eq (action : Action) (query : Query) :
    query.compilerWith made action = (do
      let (table, tableAlias) ← query.tableOf made
      checkAlias "query alias" query.aliasName
      let joins ← Join.compilers made query.joins
      let filter ← Filter.compiler? query.filter
      let groupBy ← Column.compilersWith false (query.groupBy.getD [])
      let having ← Filter.compiler? query.having
      let orderBy ← query.orderBy.mapM OrderByElement.compiler
      let distinct ← query.distinct.mapM distinctState
      .ok ⟨{
        action, table, tableAlias, aliasName := query.aliasName,
        columnNodes := query.selectedColumns, columns := none, distinct, joins, filter, groupBy,
        having, orderBy, limit := query.limit, offset := query.offset }, .constructed⟩) := by
  obtain ⟨_, _, _, _, _, _, _, _, orderBy, _, _, distinct⟩ := query
  cases orderBy <;> cases distinct <;> rfl

/-- A compiler is made of a query that keeps the rules. -/
theorem made_compilerWith (hsub : ∀ query, Made (tracks query) (made query) (checked query))
    (action : Action) (query : Query) :
    Made (query.Tracks tracks fragment dialect) (query.compilerWith made action)
      (query.checkWith checked) := by
  have hjoins : Made (List.Forall₂ (Join.Tracks tracks fragment) query.joins)
      (Join.compilers made query.joins) (query.joins.forM (Join.check checked)) :=
    Join.made_compilers hsub query.joins
  rw [compilerWith_eq, checkWith]
  refine (query.made_tableOf hsub).bind ?_
  rintro ⟨table, tableAlias⟩ ⟨htable, halias⟩
  refine (made_check (checkAlias "query alias" query.aliasName)).bind fun _ _ => ?_
  refine hjoins.bind fun joins hjoins => ?_
  refine (Filter.made_compiler? query.filter).bind fun filter hfilter => ?_
  refine (Column.made_compilersWith false _).bind fun groupBy hgroupBy => ?_
  refine (Filter.made_compiler? query.having).bind fun having hhaving => ?_
  refine (made_optional query.orderBy OrderByElement.made_compiler).bind fun orderBy horder => ?_
  refine (made_optional query.distinct Distinct.made_distinctState).bind_ok fun distinct hd => ?_
  exact {
    table := htable, tableAlias := halias, columnNodes := rfl, columns := fun _ h => (nomatch h)
    distinct := hd, joins := hjoins, filter := hfilter, groupBy := hgroupBy, having := hhaving
    orderBy := horder, limit := rfl, offset := rfl }

end Query

end Subqueries

/-! ## Nested queries -/

namespace Query

/-- Where no query may be, there is no compiler to build. -/
theorem gives_refuse (dialect : Dialect) (query : Query) :
    Gives (fun _ => False) (refuse query)
      ((fun _ none => none.elim : Dialect → Step Empty Fragment) dialect) := by
  intro compiler h
  exact h.elim

theorem made_refuse (query : Query) :
    Made (fun _ => False) (refuse query : Except Violation Empty) (refuse query) :=
  made_error .nestedTooDeep

/-- **The invariant of a nested query's compiler.** It has no subqueries to
track. -/
def TracksNested (dialect : Dialect) (query : Query) : NestedCompiler → Prop :=
  query.Tracks (fun _ _ => False) refuse dialect

/-- **A compiler of a nested query gives the fragment of it.** -/
theorem gives_nestedBuild (dialect : Dialect) (query : Query) :
    Gives (query.TracksNested dialect) (query.nestedFragment dialect)
      (NestedCompiler.build dialect) :=
  query.gives_build (gives_refuse dialect)

theorem made_nestedCompiler (dialect : Dialect) (query : Query) :
    Made (query.TracksNested dialect) query.nestedCompiler query.nestedCheck :=
  query.made_compilerWith made_refuse .temporaryTable

/-! ## Queries at the top -/

/-- **The invariant of the compiler of a query at the top.** -/
def TracksTop (dialect : Dialect) (query : Query) : TopCompiler → Prop :=
  query.Tracks (TracksNested dialect) (nestedFragment dialect) dialect

/-- **A compiler of a query at the top gives the fragment of it.** -/
theorem gives_topBuild (dialect : Dialect) (query : Query) :
    Gives (query.TracksTop dialect) (query.fragment dialect) (TopCompiler.build dialect) :=
  query.gives_build (gives_nestedBuild dialect)

theorem made_compiler (dialect : Dialect) (query : Query) :
    Made (query.TracksTop dialect) query.compiler query.check := by
  unfold compiler check
  cases query.action.bind Action.ofName? with
  | none => exact made_error _
  | some action =>
    refine query.made_compilerWith (fun inner => ?_) action
    cases action.isNested with
    | true => exact made_error .nestedTooDeep
    | false => exact inner.made_nestedCompiler dialect

/-! ## Statements -/

/-- What a compiler that was just made of a query builds. -/
theorem build_of_compiler {query : Query} {compiler : TopCompiler}
    (h : query.compiler = .ok compiler) (dialect : Dialect) :
    query.check = .ok () ∧
      (TopCompiler.build dialect compiler).1 =
        (query.fragment dialect).mapError .violation := by
  have hmade := query.made_compiler dialect
  rw [h] at hmade
  obtain ⟨hcheck, htracks⟩ := hmade.of_ok
  exact ⟨hcheck, (query.gives_topBuild dialect compiler htracks).1⟩

/-- **The statement of a query is its assembly, rendered,** and a query
that breaks a rule is refused for the first rule it breaks. No query is
refused for anything else. -/
theorem toStatement_eq (dialect : Dialect) (query : Query) :
    query.toStatement dialect =
      ((query.outcome dialect).mapError .violation).map (Fragment.render dialect) := by
  unfold toStatement outcome
  cases hcompiler : query.compiler with
  | ok compiler =>
    obtain ⟨hcheck, hbuild⟩ := build_of_compiler hcompiler dialect
    rw [hcheck]
    exact congrArg (Except.map (Fragment.render dialect)) hbuild
  | error violation =>
    have hmade := query.made_compiler dialect
    rw [hcompiler] at hmade
    rw [hmade.of_error]
    rfl

/-- What there is where a query becomes a statement: a compiler, and the
fragment that it builds and that is rendered. -/
theorem built_of_toStatement {dialect : Dialect} {query : Query} {statement : Statement}
    (h : query.toStatement dialect = .ok statement) :
    ∃ compiler fragment, query.compiler = .ok compiler ∧
      (TopCompiler.build dialect compiler).1 = .ok fragment ∧
      query.outcome dialect = .ok fragment ∧ statement = fragment.render dialect := by
  unfold toStatement at h
  cases hcompiler : query.compiler with
  | error violation => rw [hcompiler] at h; cases h
  | ok compiler =>
    rw [hcompiler] at h
    obtain ⟨fragment, hbuilt, hrender⟩ := map_eq_ok.mp h
    obtain ⟨hcheck, hbuild⟩ := build_of_compiler hcompiler dialect
    refine ⟨compiler, fragment, rfl, hbuilt, ?_, hrender.symm⟩
    rw [hbuild, mapError_eq_ok] at hbuilt
    rw [outcome, hcheck]
    exact hbuilt

end Query

end QueryTree
