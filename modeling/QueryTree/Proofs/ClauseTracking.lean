import QueryTree.Proofs.FilterTracking
/-!
# Tracking clauses — orderings, distinct clauses and joins

The clauses that have compilers of their own are tracked like columns and
filters (`OrderByElement.gives_build`, `Distinct.gives_build`,
`Join.gives_build`). The queries that joins read from come as a
parameter: what is asked of them is that their compilers give their
fragments too.
-/

namespace QueryTree

open Step

/-! ## Orderings -/

namespace OrderByElement

/-- What is kept for an element of an ordering. -/
def Holds (element : OrderByElement) (kept : ColumnCompiler × Direction) : Prop :=
  ColumnCompiler.Tracks false element.column.toColumn kept.1 ∧ element.directionOf = .ok kept.2

/-- **The invariant of an ordering's compiler.** -/
def Tracks (elements : List OrderByElement) : OrderByCompiler → Prop :=
  Compiler.Tracks (fun state => List.Forall₂ Holds elements state.elements)
    (fun state => List.Forall₂ Holds elements state.elements) (joinedFragment elements)

theorem gives_buildElement (dialect : Dialect) (element : OrderByElement) :
    Gives element.Holds element.fragment (OrderByState.buildElement dialect) := by
  rintro ⟨compiler, direction⟩ h
  obtain ⟨htracks, hdirection⟩ := h
  obtain ⟨hcolumn, hkept⟩ :=
    ColumnCompiler.gives_build dialect false element.column.toColumn compiler htracks
  rw [OrderByState.buildElement, fragment, hdirection]
  refine ⟨?_, hkept, hdirection⟩
  simp only [hcolumn]
  cases element.column.toColumn.fragment false <;> rfl

theorem gives_compile (dialect : Dialect) (elements : List OrderByElement) :
    Gives (fun state : OrderByState => List.Forall₂ Holds elements state.elements)
      (joinedFragment elements) (OrderByState.stages.compile dialect) := by
  have helements : Gives (fun state : OrderByState => List.Forall₂ Holds elements state.elements)
      (elements.mapM fragment)
      (Step.on OrderByState.elements (fun elements _ => ⟨elements⟩)
        (Step.each (OrderByState.buildElement dialect))) :=
    (gives_each elements (gives_buildElement dialect)).on (fun _ hs => hs) fun _ _ _ ht => ht
  rw [joinedFragment, map_eq_bind]
  exact helements.andThen fun fragments _ => gives_answer _

/-- **A compiler of an ordering gives the fragment of it.** -/
theorem gives_build (dialect : Dialect) (elements : List OrderByElement) :
    Gives (Tracks elements) (joinedFragment elements)
      (Compiler.build OrderByState.stages dialect) :=
  Compiler.gives_build_of_compile rfl (gives_compile dialect elements)

theorem made_compilers (elements : List OrderByElement) :
    Made (List.Forall₂ Holds elements) (compilers elements) (elements.forM check) := by
  induction elements with
  | nil => exact made_ok .nil
  | cons element elements ih =>
    show Made _ _ (element.check >>= fun _ => elements.forM check)
    rw [check, bind_assoc]
    refine (Column.made_compilerWith false element.column.toColumn).bind fun column hcolumn => ?_
    refine (made_discard element.directionOf).bind fun direction hdirection => ?_
    exact ih.bind_ok fun rest hrest => .cons ⟨hcolumn, hdirection⟩ hrest

/-- A compiler is made of an ordering that keeps the rules. -/
theorem made_compiler (elements : List OrderByElement) :
    Made (Tracks elements) (compiler elements) (checkAll elements) := by
  unfold compiler checkAll
  refine Made.guard ?_ elements.isEmpty (.emptyList "order_by")
  exact (made_compilers elements).bind_ok fun _ h => h

end OrderByElement

/-! ## Distinct clauses -/

namespace Distinct

/-- What the compilers of a distinct clause have to do with it. -/
structure Holds (distinct : Distinct) (state : DistinctState) : Prop where
  key : Option.Rel (ColumnCompiler.Tracks false) distinct.key state.key
  columns : List.Forall₂ (ColumnCompiler.Tracks true) distinct.columns state.columns

/-- **The compilers of a distinct clause give the fragment of it.** -/
theorem gives_build (dialect : Dialect) (distinct : Distinct) :
    Gives distinct.Holds distinct.fragment (DistinctState.build dialect) := by
  have hcolumns : Gives distinct.Holds (Column.fragments distinct.columns true)
      (Step.on DistinctState.columns (fun columns state => { state with columns })
        (Step.each (ColumnCompiler.build dialect))) :=
    (Column.gives_buildEach dialect true distinct.columns).on (fun _ hs => hs.columns)
      fun _ _ hs ht => { hs with columns := ht }
  have hkey : Gives distinct.Holds (distinct.key.mapM (Column.fragment · false))
      (Step.on DistinctState.key (fun key state => { state with key })
        (Step.optional (ColumnCompiler.build dialect))) :=
    (gives_optional distinct.key (ColumnCompiler.gives_build dialect false)).on
      (fun _ hs => hs.key) fun _ _ hs ht => { hs with key := ht }
  refine hcolumns.andThen fun columns _ => hkey.andThen fun key _ => ?_
  cases key with
  | none => exact gives_ofTemplate (Template.fill_distinct _)
  | some key => exact gives_ofTemplate (Template.fill_distinctOn key _)

/-- The compilers are made of a clause that keeps the rules. -/
theorem made_distinctState (distinct : Distinct) :
    Made distinct.Holds (Query.distinctState distinct) distinct.check := by
  have hcolumns : ∀ key, Option.Rel (ColumnCompiler.Tracks false) distinct.key key →
      Made distinct.Holds
        (Column.compilersWith true distinct.columns >>= fun columns => .ok { key, columns })
        (Column.checkAll distinct.columns) := fun key hkey =>
    (Column.made_compilersWith true distinct.columns).bind_ok fun _ hcolumns => ⟨hkey, hcolumns⟩
  unfold Query.distinctState check
  refine Made.guard ?_ distinct.columns.isEmpty (.emptyList "distinct.columns")
  cases hkey : distinct.key with
  | none => exact hcolumns none (hkey ▸ .none)
  | some column =>
    have hcompiler := (Column.made_compilerWith false column).map fun _ h => Option.Rel.some h
    exact hcompiler.bind fun key h => hcolumns key (hkey ▸ h)

end Distinct

/-! ## Tables and joins -/

section Subqueries

variable {Sub : Type} {tracks : Query → Sub → Prop}
variable {fragment : Query → Except Violation Fragment} {checked : Query → Except Violation Unit}
variable {made : Query → Except Violation Sub}
variable {dialect : Dialect} {build : Dialect → Step Sub Fragment}

/-- A table with the compiler of its query, given what a compiler has to
do with a query. -/
def Table.Tracks (tracks : Query → Sub → Prop) : Table Query → Table Sub → Prop
  | .name n, .name kept => kept = n
  | .query inner, .query compiler => tracks inner compiler
  | _, _ => False

theorem Table.gives_buildSource (hsub : ∀ query, Gives (tracks query) (fragment query)
    (build dialect)) (table : Table Query) (aliasName : Option String) :
    Gives (table.Tracks tracks) (table.source fragment aliasName)
      (buildSource (build dialect) aliasName) := by
  rintro (kept | compiler) h
  · cases table with
    | name n =>
      have hname : kept = n := h
      subst hname
      exact ⟨rfl, rfl⟩
    | query inner => exact h.elim
  · cases table with
    | name n => exact h.elim
    | query inner =>
      obtain ⟨hinner, hkept⟩ := hsub inner compiler h
      unfold buildSource source
      refine ⟨?_, hkept⟩
      rw [← map_mapError, ← hinner]

/-- The same where the table is that of a node that may lack one: what is
kept says that it does not. -/
theorem Table.gives_buildSource_of_rel
    (hsub : ∀ query, Gives (tracks query) (fragment query) (build dialect))
    {node : Option (Table Query)} {aliasName : Option String} {source : Except Violation Source}
    (hsource : ∀ table, node = some table → source = table.source fragment aliasName) :
    Gives (fun kept => Option.Rel (Table.Tracks tracks) node (some kept)) source
      (buildSource (build dialect) aliasName) := by
  rintro kept (h | _)
  rename_i table
  obtain ⟨hresult, hkept⟩ := Table.gives_buildSource hsub table aliasName kept h
  rw [hsource table rfl]
  exact ⟨hresult, .some hkept⟩

namespace Join

/-- What the state of a compiler has to do with its join. -/
structure Holds (tracks : Query → Sub → Prop) (join : Join Query) (state : JoinState Sub) :
    Prop where
  kind : JoinKind.ofName? join.kind = some state.kind
  table : Option.Rel (Table.Tracks tracks) join.table (some state.table)
  aliasName : state.aliasName = join.sourceAlias
  condition : Option.Rel FilterCompiler.Tracks join.condition state.condition

/-- **The invariant of a join's compiler.** -/
def Tracks (tracks : Query → Sub → Prop) (fragment : Query → Except Violation Fragment)
    (join : Join Query) : JoinCompiler Sub → Prop :=
  Compiler.Tracks (join.Holds tracks) (join.Holds tracks) (join.fragment fragment)

theorem gives_compile (hsub : ∀ query, Gives (tracks query) (fragment query) (build dialect))
    (join : Join Query) :
    Gives (join.Holds tracks) (join.fragment fragment)
      ((JoinState.stages build).compile dialect) := by
  intro state hstate
  have hsource : Gives (join.Holds tracks) (join.source fragment)
      (Step.on JoinState.table (fun table state => { state with table })
        (Table.buildSource (build dialect) join.sourceAlias)) := by
    refine (Table.gives_buildSource_of_rel hsub fun table htable => ?_).on (fun _ hs => hs.table)
      fun _ _ hs ht => { hs with table := ht }
    rw [source, htable]
  have hcondition : Gives (join.Holds tracks) (join.condition.mapM Filter.fragment)
      (Step.on JoinState.condition (fun condition state => { state with condition })
        (Step.optional (FilterCompiler.build dialect))) :=
    (gives_optional join.condition (FilterCompiler.gives_build dialect)).on
      (fun _ hs => hs.condition) fun _ _ hs ht => { hs with condition := ht }
  have hjoin : Gives (join.Holds tracks)
      (join.source fragment >>= fun source => join.condition.mapM Filter.fragment >>=
        fun condition => .ok (joinFragment state.kind source condition)) _ :=
    hsource.andThen fun source _ => hcondition.andThen fun condition _ => gives_answer _
  -- kind and alias are those of the state before its parts are built
  have hkind : join.kindOf = .ok state.kind := by
    rw [kindOf, hstate.kind]
  rw [Join.fragment, hkind]
  unfold JoinState.stages
  simp only [hstate.aliasName]
  exact hjoin state hstate

/-- **A compiler of a join gives the fragment of it.** -/
theorem gives_build (hsub : ∀ query, Gives (tracks query) (fragment query) (build dialect))
    (join : Join Query) :
    Gives (join.Tracks tracks fragment) (join.fragment fragment)
      (Compiler.build (JoinState.stages build) dialect) :=
  Compiler.gives_build_of_compile rfl (join.gives_compile hsub)

theorem made_tableOf (hsub : ∀ query, Made (tracks query) (made query) (checked query))
    (join : Join Query) :
    Made (fun kept => Option.Rel (Table.Tracks tracks) join.table (some kept.1) ∧
        kept.2 = join.sourceAlias)
      (join.tableOf made) (join.checkTable checked) := by
  rw [tableOf, checkTable, sourceAlias]
  rcases join.table with _ | name | query
  · exact made_error _
  · exact (made_check (checkName "join table" name)).bind_ok fun _ _ => ⟨.some rfl, rfl⟩
  · exact (hsub query).bind_ok fun _ h => ⟨.some h, rfl⟩

theorem made_conditionOf (kind : JoinKind) (join : Join Query) :
    Made (Option.Rel FilterCompiler.Tracks join.condition) (join.conditionOf kind)
      (join.checkCondition kind) := by
  obtain ⟨name, table, aliasName, _ | filter⟩ := join
  · cases kind with
    | cross => exact made_ok .none
    | _ => exact made_error _
  · cases kind with
    | cross => exact made_error _
    | _ => exact filter.made_compiler.map fun _ h => .some h

/-- A compiler is made of a join that keeps the rules. -/
theorem made_compiler (hsub : ∀ query, Made (tracks query) (made query) (checked query))
    (join : Join Query) :
    Made (join.Tracks tracks fragment) (join.compiler made) (join.check checked) := by
  unfold compiler check
  cases hkind : JoinKind.ofName? join.kind with
  | none => exact made_error _
  | some kind =>
    refine (join.made_tableOf hsub).bind ?_
    rintro ⟨table, aliasName⟩ ⟨htable, halias⟩
    refine (join.made_conditionOf kind).bind fun condition hcondition => ?_
    refine (made_check (checkAlias "join alias" join.aliasName)).bind_ok fun _ _ => ?_
    exact ⟨hkind, htable, halias, hcondition⟩

theorem made_compilers (hsub : ∀ query, Made (tracks query) (made query) (checked query))
    (joins : List (Join Query)) :
    Made (List.Forall₂ (Tracks tracks fragment) joins) (compilers made joins)
      (joins.forM (check checked)) := by
  induction joins with
  | nil => exact made_ok .nil
  | cons join joins ih =>
    have hjoin : Made (Tracks tracks fragment join) (join.compiler made) (join.check checked) :=
      join.made_compiler hsub
    refine hjoin.bind fun compiler hcompiler => ?_
    refine ih.bind_ok fun compilers hcompilers => ?_
    exact .cons hcompiler hcompilers

end Join

end Subqueries

end QueryTree
