import QueryTree.Proofs.Assembly
import QueryTree.Proofs.Symbols
/-!
# Collecting — what is gathered along a fragment

Fragments are put one after the other, with texts between them. Where the
texts have nothing of a kind of thing, and two fragments have what the one
has and then what the other has, the things of a node are those of its
parts, one after the other. Here this is followed from lists up to the
clauses of a query (`Collecting.fragmentWith`) for any kind of thing: for
literals, names, or queries in parentheses.
-/

namespace QueryTree

variable {β ν : Type}

namespace Fragment

/-- **What may be collected along fragments:** nothing from a text, and from
fragments one after the other what is collected from each. -/
structure Collecting (collects : List β → Fragment → Prop) : Prop where
  ofText : ∀ text, collects [] (ofText text)
  append : ∀ {first second : List β} {fragment other : Fragment}, collects first fragment →
    collects second other → collects (first ++ second) (fragment ++ other)
  eq_nil : ∀ {first : List β}, collects first empty → first = []

namespace Collecting

variable {collects : List β → Fragment → Prop} (h : Collecting collects)
variable {first : List β} {fragment : Fragment} {of : ν → List β} {nodes : List ν}
variable {fragments : List Fragment}

include h

theorem empty : collects [] Fragment.empty := h.ofText ""

theorem append_ofText (hf : collects first fragment) (text : String) :
    collects first (fragment ++ .ofText text) := by
  have happended := h.append hf (h.ofText text)
  rwa [List.append_nil] at happended

theorem ofText_append (hf : collects first fragment) (text : String) :
    collects first (.ofText text ++ fragment) := h.append (h.ofText text) hf

theorem appendText (hf : collects first fragment) (text : String) :
    collects first (fragment.appendText text) := by
  rw [← Fragment.append_ofText]
  exact h.append_ofText hf text

theorem parenthesized (hf : collects first fragment) : collects first fragment.parenthesized :=
  h.appendText (h.ofText_append hf "(") ")"

theorem castTo (hf : collects first fragment) (cast : Option String) :
    collects first (fragment.castTo cast) := by
  cases cast with
  | none => exact hf
  | some cast => exact h.append_ofText hf _

theorem call (hf : collects first (.joined ", " fragments)) (name : String) :
    collects first (.call name fragments) :=
  h.append_ofText (h.ofText_append hf (name ++ "(")) ")"

theorem eq_nil_of_isEmpty (hf : collects first fragment) (hempty : fragment.isEmpty = true) :
    first = [] := by
  obtain ⟨parts⟩ := fragment
  have hparts : parts = [] := List.isEmpty_iff.mp hempty
  subst hparts
  exact h.eq_nil hf

/-! ## Lists -/

theorem joinedAfter (hs : List.Forall₂ (fun node fragment => collects (of node) fragment) nodes
    fragments) (separator : String) (hf : collects first fragment) :
    collects (first ++ nodes.flatMap of) (.joinedAfter separator fragment fragments) := by
  induction hs generalizing fragment first with
  | nil =>
    rw [List.flatMap_nil, List.append_nil]
    exact hf
  | cons hnode _ ih =>
    have hnext := h.append (h.appendText hf separator) hnode
    rw [List.flatMap_cons, ← List.append_assoc]
    exact ih hnext

/-- **From a list is collected what is collected from its elements.** -/
theorem joined (hs : List.Forall₂ (fun node fragment => collects (of node) fragment) nodes
    fragments) (separator : String) :
    collects (nodes.flatMap of) (.joined separator fragments) := by
  cases hs with
  | nil => exact h.empty
  | cons hnode hs => exact h.joinedAfter hs separator (h.append h.empty hnode)

/-! ## Clauses -/

theorem selectList (select : Select) {distinct : Option Distinct} {columns : List Column}
    {ofDistinct : Distinct → List β} {ofColumn : Column → List β}
    (hdistinct : Option.Rel (fun distinct fragment => collects (ofDistinct distinct) fragment)
      distinct select.distinct)
    (hcolumns : List.Forall₂ (fun column fragment => collects (ofColumn column) fragment)
      columns select.columns) :
    collects (distinct.elim [] ofDistinct ++ columns.flatMap ofColumn) select.selectList := by
  have hlist := h.joined hcolumns ", "
  -- nothing is collected from a list that is not written
  have hnone : select.columns.isEmpty = true → columns = [] := by
    intro hempty
    rw [List.isEmpty_iff.mp hempty] at hcolumns
    exact List.forall₂_nil_right_iff.mp hcolumns
  cases hselect : select.distinct with
  | none =>
    rw [hselect] at hdistinct
    cases hdistinct
    rw [Select.selectList_of_none hselect]
    by_cases hempty : select.columns.isEmpty
    · rw [if_pos hempty, hnone hempty]
      exact h.ofText "*"
    · rw [if_neg hempty]
      exact hlist
  | some fragment =>
    rw [hselect] at hdistinct
    rw [Select.selectList_of_some hselect]
    cases hdistinct with
    | some hkey =>
      by_cases hempty : select.columns.isEmpty
      · rw [if_pos hempty, hnone hempty, List.flatMap_nil, List.append_nil]
        exact hkey
      · rw [if_neg hempty]
        exact h.append (h.appendText hkey ", ") hlist

/-- What is collected from a clause that may be missing. -/
theorem clause {node : Option ν} {body : Option Fragment} (keyword : String)
    (hbody : Option.Rel (fun node fragment => collects (of node) fragment) node body) :
    collects (node.elim [] of) (Select.clause keyword body) := by
  cases hbody with
  | none => exact h.empty
  | some hbody => exact h.ofText_append hbody keyword

theorem grouping (select : Select)
    (hs : List.Forall₂ (fun node fragment => collects (of node) fragment) nodes select.groupBy) :
    collects (nodes.flatMap of) select.grouping := by
  unfold Select.grouping
  by_cases hempty : select.groupBy.isEmpty
  · rw [List.isEmpty_iff.mp hempty, List.forall₂_nil_right_iff] at hs
    rw [if_pos hempty, hs]
    exact h.empty
  · rw [if_neg hempty]
    exact h.ofText_append (h.joined hs ", ") " GROUP BY "

theorem ordering (select : Select) {node : Option ν}
    (hbody : Option.Rel (fun node fragment => collects (of node) fragment) node select.orderBy) :
    collects (node.elim [] of) select.ordering := by
  cases hselect : select.orderBy with
  | none =>
    rw [hselect] at hbody
    rw [Select.ordering_of_none hselect]
    cases hbody
    exact h.empty
  | some fragment =>
    rw [hselect] at hbody
    rw [Select.ordering_of_some hselect]
    cases hbody with
    | some hbody =>
      by_cases hempty : fragment.isEmpty
      · rw [if_pos hempty, Option.elim_some, h.eq_nil_of_isEmpty hbody hempty]
        exact h.empty
      · rw [if_neg hempty]
        exact h.ofText_append hbody " ORDER BY "

/-- A join: its table, and then its condition if there is one. -/
theorem joinFragment (kind : JoinKind) {source : Source} {node : Option ν}
    {condition : Option Fragment} (hsource : collects first source.toFragment)
    (hcondition : Option.Rel (fun node fragment => collects (of node) fragment) node condition) :
    collects (first ++ node.elim [] of) (QueryTree.joinFragment kind source condition) := by
  have hjoined := h.ofText_append hsource (kind.keywords ++ " ")
  cases hcondition with
  | none =>
    rw [Option.elim_none, List.append_nil]
    exact hjoined
  | some hcondition => exact h.append (h.appendText hjoined " ON ") hcondition

theorem countClause (keyword : String) (count : Option UInt64) :
    collects [] (Select.countClause keyword count) := by
  cases count with
  | none => exact h.empty
  | some count => exact h.ofText _

/-! ## Queries -/

/-- **From a query is collected what is collected from its clauses,** in the
order of the text. This is not the order they are built in: the select
list is built before what makes its rows distinct. -/
theorem fragmentWith {sub : Query → Except Violation Fragment} {query : Query}
    {ofColumn : Column → List β} {ofDistinct : Distinct → List β} {ofSource : List β}
    {ofJoin : Join Query → List β} {ofFilter : Filter → List β}
    {ofOrdering : List OrderByElement → List β} (dialect : Dialect)
    (hselected : Column.checkAll query.selectedColumns = .ok () →
      Yields (List.Forall₂ (fun column fragment => collects (ofColumn column) fragment)
        query.selectedColumns) (Column.fragments query.selectedColumns true))
    (hdistinct : ∀ distinct ∈ query.distinct,
      Yields (collects (ofDistinct distinct)) distinct.fragment)
    (hsource : Yields (fun source => collects ofSource source.toFragment) (query.source sub))
    (hjoins : ∀ join ∈ query.joins, Yields (collects (ofJoin join)) (join.fragment sub))
    (hfilter : ∀ filter ∈ query.filter, Yields (collects (ofFilter filter)) filter.fragment)
    (hgroupBy : Yields (List.Forall₂ (fun column fragment => collects (ofColumn column) fragment)
      (query.groupBy.getD [])) (Column.fragments (query.groupBy.getD []) false))
    (hhaving : ∀ having ∈ query.having, Yields (collects (ofFilter having)) having.fragment)
    (horderBy : ∀ elements ∈ query.orderBy,
      Yields (collects (ofOrdering elements)) (OrderByElement.joinedFragment elements)) :
    Yields (collects (query.distinct.elim [] ofDistinct ++
        query.selectedColumns.flatMap ofColumn ++ ofSource ++ query.joins.flatMap ofJoin ++
        query.filter.elim [] ofFilter ++ (query.groupBy.getD []).flatMap ofColumn ++
        query.having.elim [] ofFilter ++ query.orderBy.elim [] ofOrdering))
      (query.fragmentWith sub dialect) := by
  unfold Query.fragmentWith
  refine (yields_self (Column.checkAll query.selectedColumns)).bind fun _ hcolumns => ?_
  rw [Query.select_map_toFragment]
  refine (hselected hcolumns).bind fun columns hc => ?_
  refine (yields_optional_of_mem hdistinct).bind fun distinct hd => ?_
  refine hsource.bind fun source hs => ?_
  refine (yields_each_of_mem hjoins).bind fun joins hj => ?_
  refine (yields_optional_of_mem hfilter).bind fun filter hf => ?_
  refine hgroupBy.bind fun groupBy hg => ?_
  refine (yields_optional_of_mem hhaving).bind fun having hh => ?_
  refine (yields_optional_of_mem horderBy).bind fun orderBy ho => yields_ok ?_
  -- all clauses are built; from here on they come in the order of the text
  let select : Select := {
    distinct, columns, source := some source, joins, filter, groupBy, having, orderBy,
    limit := dialect.limit (QueryState.positive? query.limit) (QueryState.positive? query.offset) }
  have hlist := h.ofText_append (h.selectList select hd hc) "SELECT "
  have hjoined : collects (query.joins.flatMap ofJoin) select.joinList := by
    rw [select.joinList_eq]
    exact h.joinedAfter hj " " h.empty
  have hfrom := h.append (h.append hlist (h.ofText_append hs " FROM ")) hjoined
  have hwhere := h.append hfrom (h.clause " WHERE " hf)
  have hhaving := h.append (h.append hwhere (h.grouping select hg)) (h.clause " HAVING " hh)
  have hlimit := h.append (h.append hhaving (h.ordering select ho))
    (h.countClause " LIMIT " select.limit.limit)
  have hwhole := h.append hlimit (h.countClause " OFFSET " select.limit.offset)
  rwa [List.append_nil, List.append_nil] at hwhole

end Collecting

end Fragment

end QueryTree
