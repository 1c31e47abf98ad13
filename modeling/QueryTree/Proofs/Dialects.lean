import QueryTree.Proofs.QueryTracking
import QueryTree.Proofs.Rendering
/-!
# Dialects — what of a dialect gets into a fragment

A fragment is built before a dialect is chosen, but for one number: the
limit that some dialects demand where rows are skipped. This file runs a
query in two dialects at once. Both runs refuse it for the same rule, or
both answer, with fragments that are related by anything that compositions
keep (`Query.agree_outcome`); having the same parameters is such a
relation, and where no level of the query skips rows and keeps all others
(`Query.SkipsOnly`), being equal is one. The main result is
`Query.reusable_across_dialects`.
-/

namespace QueryTree

/-! ## Two results -/

section Agree

variable {ε α β γ δ ν : Type}

/-- **Two results agree:** both are answers, which are related, or both are
refused for the same reason. -/
def Agree (R : α → β → Prop) : Except ε α → Except ε β → Prop
  | .ok a, .ok b => R a b
  | .error e, .error f => e = f
  | _, _ => False

variable {R : α → β → Prop} {S : γ → δ → Prop}

theorem agree_refl {R : α → α → Prop} (h : ∀ a, R a a) (result : Except ε α) :
    Agree R result result := by
  cases result with
  | ok a => exact h a
  | error e => rfl

theorem Agree.bind {first : Except ε α} {second : Except ε β} {f : α → Except ε γ}
    {g : β → Except ε δ} (h : Agree R first second) (hnext : ∀ a b, R a b → Agree S (f a) (g b)) :
    Agree S (first >>= f) (second >>= g) := by
  cases first with
  | ok a =>
    cases second with
    | ok b => exact hnext a b h
    | error e => exact h.elim
  | error e =>
    cases second with
    | ok b => exact h.elim
    | error other => exact h

theorem Agree.map {first : Except ε α} {second : Except ε β} {f : α → γ} {g : β → δ}
    (h : Agree R first second) (hf : ∀ a b, R a b → S (f a) (g b)) :
    Agree S (first.map f) (second.map g) := by
  rw [map_eq_bind, map_eq_bind]
  exact h.bind hf

/-- What comes before two chains is the same for both. -/
theorem agree_bind (result : Except ε α) {f : α → Except ε γ} {g : α → Except ε δ}
    (hnext : ∀ a, Agree S (f a) (g a)) : Agree S (result >>= f) (result >>= g) :=
  (agree_refl (R := Eq) (fun _ => rfl) result).bind fun a _ hab => hab ▸ hnext a

theorem agree_mapM {f : ν → Except ε α} {g : ν → Except ε β} {nodes : List ν}
    (h : ∀ node ∈ nodes, Agree R (f node) (g node)) :
    Agree (List.Forall₂ R) (nodes.mapM f) (nodes.mapM g) := by
  induction nodes with
  | nil => exact .nil
  | cons node nodes ih =>
    obtain ⟨hnode, hnodes⟩ := List.forall_mem_cons.mp h
    rw [List.mapM_cons, List.mapM_cons]
    refine hnode.bind fun a b hab => ?_
    refine (ih hnodes).bind fun as bs habs => ?_
    exact .cons hab habs

theorem Agree.eq {first second : Except ε α} (h : Agree Eq first second) : first = second := by
  cases first with
  | ok a =>
    cases second with
    | ok b => exact congrArg Except.ok h
    | error e => exact h.elim
  | error e =>
    cases second with
    | ok b => exact h.elim
    | error other => exact congrArg Except.error h

end Agree

/-! ## Fragments that may stand for each other -/

/-- **A relation of fragments that compositions keep.** -/
structure Fragment.Congruence (R : Fragment → Fragment → Prop) : Prop where
  refl : ∀ fragment, R fragment fragment
  append : ∀ {first second third fourth}, R first second → R third fourth →
    R (first ++ third) (second ++ fourth)

/-- Fragments that are equal. -/
theorem Fragment.congruence_eq : Congruence Eq where
  refl _ := rfl
  append h k := by rw [h, k]

/-- Fragments with the same parameters. -/
theorem Fragment.congruence_params :
    Congruence fun first second => first.params = second.params where
  refl _ := rfl
  append h k := by rw [params_append, params_append, h, k]

namespace Fragment.Congruence

variable {R : Fragment → Fragment → Prop}

theorem appendText (h : Congruence R) {first second : Fragment} (hR : R first second)
    (text : String) : R (first.appendText text) (second.appendText text) := by
  rw [← append_ofText, ← append_ofText]
  exact h.append hR (h.refl _)

theorem parenthesized (h : Congruence R) {first second : Fragment} (hR : R first second) :
    R first.parenthesized second.parenthesized :=
  h.appendText (h.append (h.refl _) hR) ")"

theorem joinedAfter (h : Congruence R) (separator : String) {firsts seconds : List Fragment}
    (hall : List.Forall₂ R firsts seconds) {first second : Fragment} (hR : R first second) :
    R (.joinedAfter separator first firsts) (.joinedAfter separator second seconds) := by
  induction hall generalizing first second with
  | nil => exact hR
  | cons hnext _ ih => exact ih (h.append (h.appendText hR separator) hnext)

theorem joinFragment (h : Congruence R) {first second : Source}
    (hR : R first.toFragment second.toFragment) (kind : JoinKind) (condition : Option Fragment) :
    R (joinFragment kind first condition) (joinFragment kind second condition) := by
  have hjoined := h.append (h.refl (.ofText (kind.keywords ++ " "))) hR
  cases condition with
  | none => exact hjoined
  | some condition => exact h.append (h.appendText hjoined " ON ") (h.refl condition)

/-- **Two statements that differ only in what they read from and in how
many rows they keep and skip.** -/
theorem toFragment (h : Congruence R) (select : Select) {first second : Source}
    {firsts seconds : List Fragment} {limit other : Limit}
    (hsource : R first.toFragment second.toFragment) (hjoins : List.Forall₂ R firsts seconds)
    (hlimit : R (Select.countClause " LIMIT " limit.limit)
      (Select.countClause " LIMIT " other.limit))
    (hoffset : limit.offset = other.offset) :
    R { select with source := some first, joins := firsts, limit }.toFragment
      { select with source := some second, joins := seconds, limit := other }.toFragment := by
  have hjoinList := h.joinedAfter " " hjoins (h.refl .empty)
  rw [Select.toFragment, Select.toFragment, Select.joinList_eq, Select.joinList_eq]
  refine h.append (h.append ?_ hlimit) (hoffset ▸ h.refl _)
  refine h.append (h.append (h.append (h.append ?_ (h.refl _)) (h.refl _)) (h.refl _)) (h.refl _)
  exact h.append (h.append (h.refl _) (h.append (h.refl _) hsource)) hjoinList

end Fragment.Congruence

/-! ## The limit of a dialect -/

theorem Dialect.offset_limit (dialect : Dialect) (limit offset : Option UInt64) :
    (dialect.limit limit offset).offset = offset := by
  cases limit <;> cases offset <;> rfl

theorem Select.params_countClause (keyword : String) (count : Option UInt64) :
    (countClause keyword count).params = [] := by
  cases count with
  | none => rfl
  | some count => exact Fragment.params_appendText .empty _

namespace Query

/-- **A query that skips rows and keeps all others:** its offset is
positive, and no positive limit comes with it. -/
def SkipsOnly (query : Query) : Prop :=
  (∃ offset ∈ query.offset, 0 < offset) ∧ ∀ limit ∈ query.limit, ¬ 0 < limit

/-- The limit of a query, as it is written in a dialect. -/
def limitClause (dialect : Dialect) (query : Query) : Fragment :=
  Select.countClause " LIMIT "
    (dialect.limit (QueryState.positive? query.limit) (QueryState.positive? query.offset)).limit

theorem limitClause_eq {query : Query} (h : ¬ query.SkipsOnly) (first second : Dialect) :
    query.limitClause first = query.limitClause second := by
  unfold limitClause Dialect.limit
  cases hlimit : QueryState.positive? query.limit with
  | some limit => rfl
  | none =>
    cases hoffset : QueryState.positive? query.offset with
    | none => rfl
    | some offset =>
      -- the one case in which a dialect is asked, which is excluded
      refine absurd ⟨⟨offset, ?_⟩, fun limit hmem hpos => ?_⟩ h
      · obtain ⟨hmem, hpos⟩ := Option.filter_eq_some_iff.mp hoffset
        exact ⟨hmem, of_decide_eq_true hpos⟩
      · exact Option.filter_eq_none_iff.mp hlimit limit hmem (decide_eq_true hpos)

end Query

/-! ## Two runs of a query -/

section Runs

variable {R : Fragment → Fragment → Prop} {first second : Dialect}
variable {sub other : Query → Except Violation Fragment}

theorem Table.agree_source (h : Fragment.Congruence R) (aliasName : Option String)
    {table : Table Query}
    (hsub : ∀ inner ∈ queries (some table), Agree R (sub inner) (other inner)) :
    Agree (fun source other => R source.toFragment other.toFragment)
      (table.source sub aliasName) (table.source other aliasName) := by
  cases table with
  | name n => exact h.refl _
  | query inner =>
    refine (hsub inner (List.mem_singleton_self inner)).map fun fragment other hR => ?_
    exact h.append (h.parenthesized hR) (h.refl _)

theorem Join.agree_fragment (h : Fragment.Congruence R) {join : Join Query}
    (hsub : ∀ inner ∈ Table.queries join.table, Agree R (sub inner) (other inner)) :
    Agree R (join.fragment sub) (join.fragment other) := by
  have hsource : Agree (fun source other => R source.toFragment other.toFragment)
      (join.source sub) (join.source other) := by
    unfold source
    cases htable : join.table with
    | none => rfl
    | some table => exact Table.agree_source h _ (htable ▸ hsub)
  unfold fragment
  refine agree_bind _ fun kind => hsource.bind fun source other hR => ?_
  refine agree_bind _ fun condition => ?_
  exact h.joinFragment hR kind condition

namespace Query

/-- **One level of a query in two dialects,** given the same for the queries
that it reads from. -/
theorem agree_fragmentWith (h : Fragment.Congruence R) {query : Query}
    (hlimit : R (query.limitClause first) (query.limitClause second))
    (hsub : ∀ inner ∈ query.sources, Agree R (sub inner) (other inner)) :
    Agree R (query.fragmentWith sub first) (query.fragmentWith other second) := by
  have hsource : Agree (fun source other => R source.toFragment other.toFragment)
      (query.source sub) (query.source other) := by
    unfold source
    cases htable : query.table with
    | none => rfl
    | some table =>
      refine Table.agree_source h _ fun inner hinner => hsub inner ?_
      exact mem_sources_of_table (htable ▸ hinner)
  have hjoins : Agree (List.Forall₂ R) (query.joins.mapM (Join.fragment sub))
      (query.joins.mapM (Join.fragment other)) :=
    agree_mapM fun join hjoin => Join.agree_fragment h fun inner hinner =>
      hsub inner (mem_sources_of_join hjoin hinner)
  unfold fragmentWith
  rw [select_map_toFragment, select_map_toFragment]
  refine agree_bind _ fun _ => agree_bind _ fun columns => agree_bind _ fun distinct => ?_
  refine hsource.bind fun source other hR => hjoins.bind fun joins others hall => ?_
  refine agree_bind _ fun filter => agree_bind _ fun groupBy => ?_
  refine agree_bind _ fun having => agree_bind _ fun orderBy => ?_
  refine h.toFragment { distinct, columns, filter, groupBy, having, orderBy } hR hall hlimit ?_
  rw [Dialect.offset_limit, Dialect.offset_limit]

/-- **A query in two dialects:** either both refuse it, for the same rule, or
the fragments are related, provided that the limits of every level are. -/
theorem agree_outcome (h : Fragment.Congruence R) {query : Query}
    (hlimit : ∀ level ∈ query :: query.sources,
      R (level.limitClause first) (level.limitClause second)) :
    Agree R (query.outcome first) (query.outcome second) := by
  obtain ⟨htop, hinner⟩ := List.forall_mem_cons.mp hlimit
  have hnested : ∀ inner ∈ query.sources,
      Agree R (inner.nestedFragment first) (inner.nestedFragment second) :=
    -- a nested query reads from no queries
    fun inner hmem => agree_fragmentWith h (hinner inner hmem) fun _ _ => rfl
  exact agree_bind _ fun _ => agree_fragmentWith h htop hnested

theorem params_outcome (query : Query) (first second : Dialect) :
    (query.outcome first).map Fragment.params = (query.outcome second).map Fragment.params := by
  have hlimit : ∀ level ∈ query :: query.sources,
      (level.limitClause first).params = (level.limitClause second).params := by
    intro level _
    rw [limitClause, limitClause, Select.params_countClause, Select.params_countClause]
  exact ((agree_outcome Fragment.congruence_params hlimit).map fun _ _ h => h).eq

/-- Where every level that skips rows also says how many it keeps, the
fragment is the same in all dialects. -/
theorem outcome_eq {query : Query} (h : ∀ level ∈ query :: query.sources, ¬ level.SkipsOnly)
    (first second : Dialect) : query.outcome first = query.outcome second :=
  (agree_outcome Fragment.congruence_eq fun level hlevel =>
    limitClause_eq (h level hlevel) first second).eq

/-- **A fragment that was built for one dialect serves for another.** In any
two dialects a query is refused for the same reason or has the same
parameters. If none of its levels skips rows and keeps all others, a
compiler builds the same in both; and if it is asked in the second dialect
after it was asked in the first, what it kept is what the statement in the
second dialect is rendered from. -/
theorem reusable_across_dialects (query : Query) (first second : Dialect) :
    (query.toStatement first).map Statement.params =
        (query.toStatement second).map Statement.params ∧
      ((∀ level ∈ query :: query.sources, ¬ level.SkipsOnly) →
        ∀ compiler, query.compiler = .ok compiler →
          (TopCompiler.build first compiler).1 = (TopCompiler.build second compiler).1 ∧
          ∀ fragment kept, TopCompiler.build first compiler = (.ok fragment, kept) →
            TopCompiler.build second kept = (.ok fragment, kept) ∧
            query.toStatement second = .ok (fragment.render second)) := by
  constructor
  · have hparams := congrArg (Except.mapError CompileError.violation)
      (query.params_outcome first second)
    simpa only [toStatement_eq, map_of_map, Fragment.params_render, map_mapError] using hparams
  · intro hlevels compiler hcompiler
    obtain ⟨hcheck, hfirst⟩ := build_of_compiler hcompiler first
    obtain ⟨-, hsecond⟩ := build_of_compiler hcompiler second
    have hfragment : query.fragment first = query.fragment second := by
      have houtcome := outcome_eq hlevels first second
      rwa [outcome, outcome, hcheck] at houtcome
    refine ⟨by rw [hfirst, hsecond, hfragment], fun fragment kept hbuild => ⟨?_, ?_⟩⟩
    · obtain ⟨state, lifecycle⟩ := kept
      have hkept : lifecycle = .built fragment := Compiler.lifecycle_of_build_ok hbuild
      rw [hkept]
      rfl
    · rw [hbuild] at hfirst
      have hok : query.fragment second = .ok fragment := by
        rw [← hfragment]
        exact mapError_eq_ok.mp hfirst.symm
      rw [toStatement_eq, outcome, hcheck, hok]
      rfl

/-- A page of a page: each level skips some rows and keeps some. -/
def secondPage : Query where
  action := some "query"
  table := some (.query firstPage)
  columns := some [.ofName "a.title"]
  limit := some 10
  offset := some 20
where
  /-- The query that is the table. -/
  firstPage : Query := {
    table := some (.name "albums")
    aliasName := some "a"
    filter := some (.like { column := .name "title", pattern := .string "A%" })
    limit := some 100
    offset := some 5 }

theorem secondPage_reusable :
    (∀ level ∈ secondPage :: secondPage.sources, ¬ level.SkipsOnly) ∧
      ∃ compiler fragment kept, secondPage.compiler = .ok compiler ∧
        TopCompiler.build .postgres compiler = (.ok fragment, kept) ∧
        TopCompiler.build .mysql kept = (.ok fragment, kept) ∧
        secondPage.toStatement .mysql = .ok (fragment.render .mysql) ∧
        (fragment.render .mysql).sql =
          "SELECT `a`.`title` FROM (SELECT * FROM `albums` WHERE `title` LIKE ? " ++
            "LIMIT 100 OFFSET 5) AS `a` LIMIT 10 OFFSET 20" := by
  have hlevels : ∀ level ∈ secondPage :: secondPage.sources, ¬ level.SkipsOnly := by
    refine List.forall_mem_cons.mpr ⟨fun hskips => ?_, fun level hlevel hskips => ?_⟩
    · exact hskips.2 10 rfl (by decide)
    · rw [List.mem_singleton.mp hlevel] at hskips
      exact hskips.2 100 rfl (by decide)
  have hsql : ((secondPage.toStatement .mysql).map Statement.sql).toOption = some
      ("SELECT `a`.`title` FROM (SELECT * FROM `albums` WHERE `title` LIKE ? " ++
        "LIMIT 100 OFFSET 5) AS `a` LIMIT 10 OFFSET 20") := by decide +kernel
  obtain ⟨statement, hstatement, hsql⟩ := map_eq_ok.mp (eq_ok_of_toOption hsql)
  obtain ⟨compiler, other, hcompiler, hother, -, -⟩ := built_of_toStatement hstatement
  obtain ⟨hsame, hreuse⟩ :=
    (reusable_across_dialects secondPage .postgres .mysql).2 hlevels compiler hcompiler
  rcases hbuild : TopCompiler.build .postgres compiler with ⟨result, kept⟩
  rw [hbuild, hother] at hsame
  obtain rfl : result = .ok other := hsame
  obtain ⟨hkept, hrender⟩ := hreuse other kept hbuild
  refine ⟨hlevels, compiler, other, kept, hcompiler, hbuild, hkept, hrender, ?_⟩
  rw [hstatement] at hrender
  rw [← Except.ok.inj hrender, hsql]

end Query

end Runs

end QueryTree
