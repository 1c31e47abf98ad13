import QueryTree.Proofs.QueryTracking
import QueryTree.Proofs.Spelling
import QueryTree.Proofs.Usage
/-!
# Clauses — a query is its clauses, one after the other

Compilers build the clauses of a query in their own order and keep what
they built; the text has them in another order, and texts that meet grow
together. Here the built fragment is a plain list: keywords, and for each
node of a clause the fragment that a compiler made of that node alone
builds (`Node.Builds`). That list is `Query.Pieces.inOrder`, and the main
result is `Query.assembled_of_builds`.
-/

namespace QueryTree

open Step

/-! ## What a compiler of its own builds -/

/-- **What is built of a node alone:** a compiler can be made of it, and
the first thing it is asked gives the fragment. -/
def Node.Builds (dialect : Dialect) (node : Node) (fragment : Fragment) : Prop :=
  ∃ compiler, node.compiler = .ok compiler ∧
    (Compiler.build node.interface.toStages dialect compiler).1 = .ok fragment

/-- What comes of a step on a thing that is made, read off the check of the
thing and the result of the step. -/
theorem Step.Gives.built_iff {σ : Type} {inv : σ → Prop} {step : Step σ Fragment}
    {made : Except Violation σ} {checked : Except Violation Unit}
    {result : Except Violation Fragment} {fragment : Fragment} (hgives : Gives inv result step)
    (hmade : Made inv made checked) :
    (∃ s, made = .ok s ∧ (step s).1 = .ok fragment) ↔
      checked = .ok () ∧ result = .ok fragment := by
  constructor
  · rintro ⟨s, rfl, hstep⟩
    obtain ⟨hcheck, hs⟩ := hmade.of_ok
    rw [(hgives s hs).1, mapError_eq_ok] at hstep
    exact ⟨hcheck, hstep⟩
  · rintro ⟨hcheck, hresult⟩
    rw [hcheck] at hmade
    obtain ⟨s, hs, hinv⟩ := hmade.exists_ok
    refine ⟨s, hs, ?_⟩
    rw [(hgives s hinv).1, mapError_eq_ok]
    exact hresult

namespace Node

variable {dialect : Dialect} {fragment : Fragment}

theorem builds_column_iff {showAlias : Bool} {c : Column} :
    (column showAlias c).Builds dialect fragment ↔
      c.check = .ok () ∧ c.fragment showAlias = .ok fragment :=
  (ColumnCompiler.gives_build dialect showAlias c).built_iff (c.made_compilerWith showAlias)

theorem builds_filter_iff {f : Filter} :
    (filter f).Builds dialect fragment ↔ f.check = .ok () ∧ f.fragment = .ok fragment :=
  (FilterCompiler.gives_build dialect f).built_iff f.made_compiler

theorem builds_ordering_iff {elements : List OrderByElement} :
    (ordering elements).Builds dialect fragment ↔
      OrderByElement.checkAll elements = .ok () ∧
        OrderByElement.joinedFragment elements = .ok fragment :=
  (OrderByElement.gives_build dialect elements).built_iff (OrderByElement.made_compiler elements)

theorem builds_join_iff {j : Join Query} :
    (join j).Builds dialect fragment ↔
      j.check Query.nestedCheck = .ok () ∧
        j.fragment (Query.nestedFragment dialect) = .ok fragment :=
  (j.gives_build (Query.gives_nestedBuild dialect)).built_iff
    (j.made_compiler (Query.made_nestedCompiler dialect))

theorem builds_nestedJoin_iff {j : Join Query} :
    (nestedJoin j).Builds dialect fragment ↔
      j.check Query.refuse = .ok () ∧ j.fragment Query.refuse = .ok fragment :=
  (j.gives_build (Query.gives_refuse dialect)).built_iff (j.made_compiler Query.made_refuse)

theorem builds_nestedQuery_iff {q : Query} :
    (nestedQuery q).Builds dialect fragment ↔
      q.nestedCheck = .ok () ∧ q.nestedFragment dialect = .ok fragment :=
  (q.gives_nestedBuild dialect).built_iff (q.made_nestedCompiler dialect)

theorem builds_query_iff {q : Query} :
    (query q).Builds dialect fragment ↔ q.check = .ok () ∧ q.fragment dialect = .ok fragment :=
  (q.gives_topBuild dialect).built_iff (q.made_compiler dialect)

end Node

/-! ## The pieces of a query -/

namespace Fragment

/-- An alias after what it names, if there is one. -/
def aliased : Option String → List Fragment
  | none => []
  | some name => [ofText " AS ", ofAlias name]

/-- Fragments with commas between them. -/
def commaList (fragments : List Fragment) : List Fragment := fragments.intersperse (ofText ", ")

/-- A keyword and what it introduces, if that is there. -/
def introduced (keyword : String) : Option Fragment → List Fragment
  | none => []
  | some body => [ofText keyword, body]

/-- A keyword and a number of rows, if there is one. -/
def counted (keyword : String) : Option UInt64 → List Fragment
  | none => []
  | some count => [ofText keyword, ofText (toString count.toNat)]

end Fragment

open Fragment

/-- **The fragments that a query is put together from.** -/
structure Query.Pieces where
  /-- The key and the columns of the distinct clause. -/
  distinct : Option (Option Fragment × List Fragment)
  columns : List Fragment
  source : List Fragment
  joins : List Fragment
  filter : Option Fragment
  groupBy : List Fragment
  having : Option Fragment
  orderBy : Option Fragment

namespace Query.Pieces

/-- What makes the rows distinct, by a key or by all of some columns. -/
def distinctList : Option Fragment × List Fragment → List Fragment
  | (none, columns) => ofText "DISTINCT " :: commaList columns
  | (some key, columns) => [ofText "DISTINCT ON (", key, ofText ") "] ++ commaList columns

/-- What is selected: all columns where none is listed, unless there are
distinct columns. -/
def selectList (pieces : Pieces) : List Fragment :=
  match pieces.distinct, pieces.columns with
  | none, [] => [ofText "*"]
  | none, columns => commaList columns
  | some _, [] => []
  | some _, columns => ofText ", " :: commaList columns

/-- The grouping, if there is any. -/
def grouping (pieces : Pieces) : List Fragment :=
  match pieces.groupBy with
  | [] => []
  | columns => ofText " GROUP BY " :: commaList columns

/-- **The pieces in the order of the text,** with the keywords between
them. -/
def inOrder (pieces : Pieces) (limit : Limit) : List Fragment :=
  [ofText "SELECT "] ++ pieces.distinct.elim [] distinctList ++ pieces.selectList ++
    [ofText " FROM "] ++ pieces.source ++
    (pieces.joins.flatMap fun join => [ofText " ", join]) ++
    introduced " WHERE " pieces.filter ++ pieces.grouping ++
    introduced " HAVING " pieces.having ++ introduced " ORDER BY " pieces.orderBy ++
    counted " LIMIT " limit.limit ++ counted " OFFSET " limit.offset

end Query.Pieces

/-! ## Where the pieces come from -/

/-- **What stands for a table:** its name, or what is built of the query
alone, in parentheses; an alias comes after either. -/
inductive Table.Stands (dialect : Dialect) (aliasName : Option String) :
    Table Query → List Fragment → Prop
  | name (n : String) : Stands dialect aliasName (.name n) (.identifier n :: aliased aliasName)
  | query {inner : Query} {fragment : Fragment}
      (h : (Node.nestedQuery inner).Builds dialect fragment) :
      Stands dialect aliasName (.query inner)
        ([ofText "(", fragment, ofText ")"] ++ aliased aliasName)

/-- **A join is its parts, one after the other:** the kind, the table under
the alias of the join or else that of its query, and the condition. -/
def Join.Assembled (dialect : Dialect) (join : Join Query) (fragment : Fragment) : Prop :=
  ∃ kind table source condition, JoinKind.ofName? join.kind = some kind ∧
    join.table = some table ∧ table.Stands dialect join.sourceAlias source ∧
    Option.Rel (fun filter => (Node.filter filter).Builds dialect) join.condition condition ∧
    fragment = concat ([ofText (kind.keywords ++ " ")] ++ source ++ introduced " ON " condition)

/-- The key and the columns of a distinct clause, each built alone. -/
def Distinct.BuiltAs (dialect : Dialect) (distinct : Distinct)
    (piece : Option Fragment × List Fragment) : Prop :=
  Option.Rel (fun key => (Node.column false key).Builds dialect) distinct.key piece.1 ∧
    List.Forall₂ (fun column => (Node.column true column).Builds dialect) distinct.columns piece.2

/-- **Each piece is what is built of its node alone.** Aliases are kept in
the select list and in the distinct columns, and dropped elsewhere. A
select list that is missing is the default one. What node a join is
depends on the query that it belongs to. -/
structure Query.Pieces.BuiltOf (dialect : Dialect) (joinNode : Join Query → Node) (query : Query)
    (pieces : Pieces) : Prop where
  distinct : Option.Rel (Distinct.BuiltAs dialect) query.distinct pieces.distinct
  columns : List.Forall₂ (fun column => (Node.column true column).Builds dialect)
    (query.columns.getD query.defaultColumns) pieces.columns
  source : ∃ table, query.table = some table ∧
    table.Stands dialect query.tableAlias pieces.source
  joins : List.Forall₂
    (fun join piece => (joinNode join).Builds dialect piece ∧ join.Assembled dialect piece)
    query.joins pieces.joins
  filter : Option.Rel (fun filter => (Node.filter filter).Builds dialect) query.filter pieces.filter
  groupBy : List.Forall₂ (fun column => (Node.column false column).Builds dialect)
    (query.groupBy.getD []) pieces.groupBy
  having : Option.Rel (fun filter => (Node.filter filter).Builds dialect) query.having pieces.having
  orderBy : Option.Rel (fun elements => (Node.ordering elements).Builds dialect) query.orderBy
    pieces.orderBy

/-- **A query is its pieces in order,** limited to the rows that are asked
for. A limit or an offset of no rows is none. -/
def Query.Assembled (dialect : Dialect) (joinNode : Join Query → Node) (query : Query)
    (fragment : Fragment) : Prop :=
  ∃ pieces : Pieces, pieces.BuiltOf dialect joinNode query ∧
    fragment = concat (pieces.inOrder
      (dialect.limit (query.limit.filter (0 < ·)) (query.offset.filter (0 < ·))))

/-! ## The symbols of the pieces -/

namespace Fragment

theorem symbols_commaList (fragments : List Fragment) :
    (commaList fragments).flatMap symbols = (joined ", " fragments).symbols := by
  induction fragments with
  | nil => rfl
  | cons first rest ih =>
    cases rest with
    | nil => simp [commaList]
    | cons second rest =>
      rw [symbols_joined_cons_cons, ← ih, commaList, List.intersperse_cons_cons]
      simp [commaList]

theorem symbols_aliased (aliasName : Option String) :
    (aliased aliasName).flatMap symbols = (Source.aliasFragment aliasName).symbols := by
  cases aliasName <;> simp [aliased, Source.aliasFragment]

theorem symbols_introduced (keyword : String) (body : Option Fragment) :
    (introduced keyword body).flatMap symbols = (Select.clause keyword body).symbols := by
  cases body <;> simp [introduced, Select.clause]

theorem symbols_counted (keyword : String) (count : Option UInt64) :
    (counted keyword count).flatMap symbols = (Select.countClause keyword count).symbols := by
  cases count <;> simp [counted, Select.countClause, Symbol.ofText_append]

end Fragment

theorem Fragment.isEmpty_eq_false_of_symbols_ne_nil {fragment : Fragment}
    (h : fragment.symbols ≠ []) : fragment.isEmpty = false := by
  obtain ⟨parts⟩ := fragment
  cases parts with
  | nil => exact absurd rfl h
  | cons part parts => rfl

theorem normal_joinFragment (kind : JoinKind) (source : Source) (condition : Option Fragment) :
    (joinFragment kind source condition).Normal := by
  have hjoined := (normal_ofText (kind.keywords ++ " ")).append source.toFragment
  cases condition with
  | none => exact hjoined
  | some condition => exact (hjoined.appendText " ON ").append condition

theorem symbols_joinFragment (kind : JoinKind) (source : Source) (condition : Option Fragment) :
    (joinFragment kind source condition).symbols =
      (ofText (kind.keywords ++ " ")).symbols ++ source.toFragment.symbols ++
        (Select.clause " ON " condition).symbols := by
  cases condition <;> simp [joinFragment, Select.clause]

theorem Source.symbols_table (n : String) (aliasName : Option String) :
    (Source.table n aliasName).toFragment.symbols =
      (.identifier n :: aliased aliasName).flatMap symbols := by
  simp [Source.toFragment, symbols_aliased]

theorem Source.symbols_subquery (query : Fragment) (aliasName : Option String) :
    (Source.subquery query aliasName).toFragment.symbols =
      ([ofText "(", query, ofText ")"] ++ aliased aliasName).flatMap symbols := by
  simp [Source.toFragment, symbols_aliased]

namespace Query.Pieces

/-- **The select list and what makes the rows distinct,** symbol by symbol. -/
theorem symbols_selectList {select : Select} {pieces : Pieces}
    (hcolumns : pieces.columns = select.columns)
    (hdistinct : Option.Rel (fun piece fragment =>
      (distinctList piece).flatMap symbols = fragment.symbols) pieces.distinct select.distinct) :
    (pieces.distinct.elim [] distinctList ++ pieces.selectList).flatMap symbols =
      select.selectList.symbols := by
  unfold selectList
  rw [hcolumns]
  generalize hp : pieces.distinct = piece at hdistinct
  generalize hs : select.distinct = distinct at hdistinct
  cases hdistinct with
  | none =>
    rw [Select.selectList_of_none hs]
    cases select.columns <;> simp [symbols_commaList]
  | some hd =>
    rw [Select.selectList_of_some hs]
    cases select.columns <;> simp [symbols_commaList, hd]

theorem symbols_grouping {select : Select} {pieces : Pieces}
    (h : pieces.groupBy = select.groupBy) :
    pieces.grouping.flatMap symbols = select.grouping.symbols := by
  unfold grouping Select.grouping
  rw [h]
  cases select.groupBy <;> simp [symbols_commaList, Select.commaSeparated]

theorem symbols_joins (select : Select) :
    (select.joins.flatMap fun join => [ofText " ", join]).flatMap symbols =
      select.joinList.symbols := by
  rw [Select.joinList_eq, symbols_joinedAfter, List.flatMap_assoc]
  simp

end Query.Pieces

theorem Select.normal_toFragment (select : Select) : select.toFragment.Normal :=
  (((((((((normal_ofText "SELECT ").append _).append _).append _).append _).append _).append
    _).append _).append _).append _

theorem Query.Pieces.symbols_ordering {select : Select}
    (h : ∀ fragment ∈ select.orderBy, fragment.isEmpty = false) :
    (introduced " ORDER BY " select.orderBy).flatMap symbols = select.ordering.symbols := by
  cases horder : select.orderBy with
  | none => rw [Select.ordering_of_none horder]; rfl
  | some elements =>
    have hempty : elements.isEmpty = false := h elements horder
    rw [Select.ordering_of_some horder, hempty]
    simp [introduced]

/-- **The pieces of a statement in order are its text,** symbol by symbol. -/
theorem Query.Pieces.symbols_inOrder {select : Select} {source : Source} {pieces : Pieces}
    (hcolumns : pieces.columns = select.columns)
    (hdistinct : Option.Rel (fun piece fragment =>
      (distinctList piece).flatMap symbols = fragment.symbols) pieces.distinct select.distinct)
    (hsource : pieces.source.flatMap symbols = source.toFragment.symbols)
    (hselect : select.source = some source) (hjoins : pieces.joins = select.joins)
    (hfilter : pieces.filter = select.filter) (hgroupBy : pieces.groupBy = select.groupBy)
    (hhaving : pieces.having = select.having) (horderBy : pieces.orderBy = select.orderBy)
    (htext : ∀ fragment ∈ select.orderBy, fragment.isEmpty = false) :
    (pieces.inOrder select.limit).flatMap symbols = select.toFragment.symbols := by
  have hlist := pieces.symbols_selectList hcolumns hdistinct
  have hgrouping := pieces.symbols_grouping hgroupBy
  rw [List.flatMap_append] at hlist
  rw [inOrder, Select.toFragment, hselect, hjoins, hfilter, hhaving, horderBy]
  simp only [List.flatMap_append, symbols_append, ← hlist, hgrouping, symbols_joins,
    symbols_introduced, symbols_ordering htext, symbols_counted, hsource]
  simp [Select.clause]

/-! ## Pieces of nodes that keep the rules -/

theorem Column.yields_built (dialect : Dialect) {showAlias : Bool} {columns : List Column}
    (hcheck : Column.checkAll columns = .ok ()) :
    Yields (List.Forall₂ (fun column => (Node.column showAlias column).Builds dialect) columns)
      (Column.fragments columns showAlias) := by
  induction columns with
  | nil => exact yields_ok .nil
  | cons column columns ih =>
    obtain ⟨hcolumn, hcolumns⟩ := Column.checkAll_cons hcheck
    unfold Column.fragments
    refine (yields_self _).bind fun fragment hfragment => ?_
    refine (ih hcolumns).bind fun fragments hfragments => ?_
    exact yields_ok (.cons (Node.builds_column_iff.mpr ⟨hcolumn, hfragment⟩) hfragments)

theorem Filter.yields_built (dialect : Dialect) {filter : Option Filter}
    (hcheck : ∀ f ∈ filter, f.check = .ok ()) :
    Yields (Option.Rel (fun f => (Node.filter f).Builds dialect) filter)
      (filter.mapM Filter.fragment) := by
  refine yields_optional_of_mem fun f hf fragment hfragment => ?_
  exact Node.builds_filter_iff.mpr ⟨hcheck f hf, hfragment⟩

/-- An ordering that keeps the rules has a text: that of a direction at
least. -/
theorem OrderByElement.not_isEmpty_joinedFragment {elements : List OrderByElement}
    (hcheck : checkAll elements = .ok ()) :
    Yields (fun fragment => fragment.isEmpty = false) (joinedFragment elements) := by
  intro fragment hfragment
  cases elements with
  | nil => cases hcheck
  | cons element elements =>
    obtain ⟨fragments, hfragments, rfl⟩ := map_eq_ok.mp hfragment
    rw [List.mapM_cons] at hfragments
    obtain ⟨first, hfirst, hfragments⟩ := bind_eq_ok.mp hfragments
    obtain ⟨rest, -, hfragments⟩ := bind_eq_ok.mp hfragments
    cases hfragments
    obtain ⟨direction, -, hfirst⟩ := bind_eq_ok.mp hfirst
    obtain ⟨column, -, hfirst⟩ := bind_eq_ok.mp hfirst
    cases hfirst
    refine isEmpty_eq_false_of_symbols_ne_nil ?_
    rw [symbols_joined_cons, symbols_appendText]
    cases direction <;> simp [Direction.keyword, Symbol.ofText]

theorem OrderByElement.yields_built (dialect : Dialect) {elements : Option (List OrderByElement)}
    (hcheck : ∀ es ∈ elements, checkAll es = .ok ()) :
    Yields (Option.Rel (fun es => (Node.ordering es).Builds dialect) elements)
      (elements.mapM joinedFragment) := by
  refine yields_optional_of_mem fun es hes fragment hfragment => ?_
  exact Node.builds_ordering_iff.mpr ⟨hcheck es hes, hfragment⟩

/-- A distinct clause is a piece. -/
theorem Distinct.yields_built (dialect : Dialect) {distinct : Distinct}
    (hcheck : distinct.check = .ok ()) :
    Yields (fun fragment => ∃ piece, distinct.BuiltAs dialect piece ∧
        (Query.Pieces.distinctList piece).flatMap symbols = fragment.symbols)
      distinct.fragment := by
  obtain ⟨_, hkeys, hcolumns⟩ := bind_eq_ok.mp (eq_ok_of_guard hcheck)
  have hkey : Yields (Option.Rel (fun key => (Node.column false key).Builds dialect) distinct.key)
      (distinct.key.mapM (Column.fragment · false)) := by
    refine yields_optional_of_mem fun key hkey fragment hfragment => ?_
    exact Node.builds_column_iff.mpr ⟨eq_ok_of_option_forM hkeys key hkey, hfragment⟩
  unfold Distinct.fragment
  refine (Column.yields_built dialect hcolumns).bind fun columns hcolumns => ?_
  refine hkey.bind fun key hkey => ?_
  have hbuilt : distinct.BuiltAs dialect (key, columns) := ⟨hkey, hcolumns⟩
  cases key <;>
    exact yields_ok ⟨_, hbuilt, by simp [symbols_commaList, Query.Pieces.distinctList]⟩

section Subqueries

variable {dialect : Dialect}
variable {sub : Query → Except Violation Fragment} {checked : Query → Except Violation Unit}

theorem Table.yields_stands {table : Table Query} (aliasName : Option String)
    (hsub : ∀ inner ∈ Table.queries (some table),
      Yields ((Node.nestedQuery inner).Builds dialect) (sub inner)) :
    Yields (fun source => ∃ pieces, table.Stands dialect aliasName pieces ∧
        pieces.flatMap symbols = source.toFragment.symbols)
      (table.source sub aliasName) := by
  cases table with
  | name n => exact yields_ok ⟨_, .name n, (Source.symbols_table n aliasName).symm⟩
  | query inner =>
    refine (hsub inner (List.mem_singleton_self inner)).map fun fragment hfragment => ?_
    exact ⟨_, .query hfragment, (Source.symbols_subquery fragment aliasName).symm⟩

theorem Join.yields_assembled {join : Join Query} (hcheck : join.Checked checked)
    (hsub : ∀ inner, checked inner = .ok () →
      Yields ((Node.nestedQuery inner).Builds dialect) (sub inner)) :
    Yields (join.Assembled dialect) (join.fragment sub) := by
  obtain ⟨table, htable⟩ := Option.isSome_iff_exists.mp hcheck.hasTable
  have hsource : Yields (fun source => ∃ pieces, table.Stands dialect join.sourceAlias pieces ∧
      pieces.flatMap symbols = source.toFragment.symbols) (join.source sub) := by
    unfold source
    rw [htable]
    refine Table.yields_stands _ fun inner hinner => hsub inner (hcheck.queries inner ?_)
    rw [htable]
    exact hinner
  unfold fragment
  refine (yields_self join.kindOf).bind fun kind hkind => ?_
  refine hsource.bind ?_
  rintro source ⟨pieces, hstands, hsymbols⟩
  refine (Filter.yields_built dialect hcheck.condition).bind fun condition hcondition => ?_
  refine yields_ok ⟨kind, table, pieces, condition, ?_, htable, hstands, hcondition, ?_⟩
  · unfold kindOf at hkind
    split at hkind
    · cases hkind
    · cases hkind
      assumption
  · refine eq_concat (normal_joinFragment kind source condition) ?_
    rw [List.flatMap_append, List.flatMap_append, hsymbols, symbols_introduced,
      symbols_joinFragment]
    simp

theorem Query.check_of_mem_joins {query : Query} (h : query.checkWith checked = .ok ()) :
    ∀ join ∈ query.joins, join.check checked = .ok () := by
  obtain ⟨_, -, h⟩ := bind_eq_ok.mp h
  obtain ⟨_, -, h⟩ := bind_eq_ok.mp h
  obtain ⟨_, hjoins, -⟩ := bind_eq_ok.mp h
  exact eq_ok_of_forM hjoins

theorem Query.assembled_of_fragmentWith {query : Query} {joinNode : Join Query → Node}
    (hcheck : query.checkWith checked = .ok ())
    (hsub : ∀ inner, checked inner = .ok () →
      Yields ((Node.nestedQuery inner).Builds dialect) (sub inner))
    (hjoin : ∀ join, join.check checked = .ok () →
      Yields ((joinNode join).Builds dialect) (join.fragment sub)) :
    Yields (query.Assembled dialect joinNode) (query.fragmentWith sub dialect) := by
  have hclauses := checked_of_checkWith hcheck
  obtain ⟨table, htable⟩ := Option.isSome_iff_exists.mp hclauses.hasTable
  have hsource : Yields (fun source => ∃ pieces, table.Stands dialect query.tableAlias pieces ∧
      pieces.flatMap symbols = source.toFragment.symbols) (query.source sub) := by
    unfold source
    rw [htable]
    refine Table.yields_stands _ fun inner hinner => hsub inner (hclauses.queries inner ?_)
    rw [htable]
    exact hinner
  have hjoins : Yields
      (List.Forall₂ (fun join piece => (joinNode join).Builds dialect piece ∧
        join.Assembled dialect piece) query.joins)
      (query.joins.mapM (Join.fragment sub)) := by
    refine yields_each_of_mem fun join hmem piece hpiece => ?_
    exact ⟨hjoin join (check_of_mem_joins hcheck join hmem) piece hpiece,
      Join.yields_assembled (hclauses.joins join hmem) hsub piece hpiece⟩
  have hdistinct := yields_optional_of_mem fun d hd =>
    Distinct.yields_built dialect (hclauses.distinct d hd)
  unfold fragmentWith
  refine (yields_self (Column.checkAll query.selectedColumns)).bind fun _ hcolumns => ?_
  rw [select_map_toFragment]
  refine (Column.yields_built dialect hcolumns).bind fun columns hcolumns => ?_
  refine hdistinct.bind fun distinct hdistinct => ?_
  refine hsource.bind fun source hsource => ?_
  refine hjoins.bind fun joins hjoins => ?_
  refine (Filter.yields_built dialect hclauses.filter).bind fun filter hfilter => ?_
  refine (Column.yields_built dialect hclauses.groupBy).bind fun groupBy hgroupBy => ?_
  refine (Filter.yields_built dialect hclauses.having).bind fun having hhaving => ?_
  refine (yields_self (query.orderBy.mapM OrderByElement.joinedFragment)).bind
    fun orderBy horderBy => yields_ok ?_
  have hordering := OrderByElement.yields_built dialect hclauses.orderBy orderBy horderBy
  have htext : ∀ fragment ∈ orderBy, fragment.isEmpty = false :=
    yields_option_mapM (fun elements helements => OrderByElement.not_isEmpty_joinedFragment
      (hclauses.orderBy elements helements)) orderBy horderBy
  -- what is built of the distinct clause and of the table are lists of pieces
  obtain ⟨distinctPiece, hdistinct, hdistinctSymbols⟩ := exists_rel_of_rel hdistinct
  obtain ⟨sourcePieces, hstands, hsourceSymbols⟩ := hsource
  let pieces : Pieces :=
    { distinct := distinctPiece, columns, source := sourcePieces, joins, filter, groupBy, having
      orderBy }
  let select : Select := {
    distinct, columns, source := some source, joins, filter, groupBy, having, orderBy
    limit := dialect.limit (QueryState.positive? query.limit) (QueryState.positive? query.offset) }
  have hbuilt : pieces.BuiltOf dialect joinNode query := {
    distinct := hdistinct, columns := query.selectedColumns_eq ▸ hcolumns
    source := ⟨table, htable, hstands⟩, joins := hjoins, filter := hfilter, groupBy := hgroupBy
    having := hhaving, orderBy := hordering }
  have hsymbols : (pieces.inOrder select.limit).flatMap symbols = select.toFragment.symbols :=
    Pieces.symbols_inOrder rfl hdistinctSymbols hsourceSymbols rfl rfl rfl rfl rfl rfl htext
  exact ⟨pieces, hbuilt, eq_concat select.normal_toFragment hsymbols⟩

end Subqueries

/-! ## Queries -/

theorem Join.check_mono {strict checked : Query → Except Violation Unit} {join : Join Query}
    (hsub : ∀ inner, strict inner = .ok () → checked inner = .ok ())
    (h : join.check strict = .ok ()) : join.check checked = .ok () := by
  unfold check at h ⊢
  split at h
  · cases h
  · obtain ⟨_, htable, h⟩ := bind_eq_ok.mp h
    refine bind_eq_ok.mpr ⟨(), ?_, h⟩
    unfold checkTable at htable ⊢
    split
    · rename_i hnone
      rw [hnone] at htable
      cases htable
    · rename_i hname
      rw [hname] at htable
      exact htable
    · rename_i hquery
      rw [hquery] at htable
      exact hsub _ htable

namespace Query

variable {dialect : Dialect} {query : Query} {fragment : Fragment}

/-- **A query is put together from what is built of its nodes alone.** The
fragment that its compiler builds is the keywords and the pieces of the
clauses that are there, in the order of the text. Where a clause reads
from a query, the piece is in turn what is built of that query as a
nested one, for which the same holds. -/
theorem assembled_of_builds :
    ((Node.query query).Builds dialect fragment → query.Assembled dialect .join fragment) ∧
      ((Node.nestedQuery query).Builds dialect fragment →
        query.Assembled dialect .nestedJoin fragment) := by
  constructor
  · intro h
    obtain ⟨hcheck, hfragment⟩ := Node.builds_query_iff.mp h
    unfold check at hcheck
    split at hcheck
    · cases hcheck
    · rename_i action _
      have hnested : ∀ inner, (if action.isNested then refuse else nestedCheck) inner = .ok () →
          inner.nestedCheck = .ok () := by
        intro inner hinner
        split at hinner
        · cases hinner
        · exact hinner
      refine assembled_of_fragmentWith hcheck (fun inner hinner piece hpiece => ?_)
        (fun join hjoin piece hpiece => ?_) fragment hfragment
      · exact Node.builds_nestedQuery_iff.mpr ⟨hnested inner hinner, hpiece⟩
      · exact Node.builds_join_iff.mpr ⟨join.check_mono hnested hjoin, hpiece⟩
  · intro h
    obtain ⟨hcheck, hfragment⟩ := Node.builds_nestedQuery_iff.mp h
    refine assembled_of_fragmentWith hcheck (fun inner hinner => ?_)
      (fun join hjoin piece hpiece => ?_) fragment hfragment
    · -- where no query may be, there is none
      cases hinner
    · exact Node.builds_nestedJoin_iff.mpr ⟨hjoin, hpiece⟩

/-- A query with a query in two of its clauses, and rows that are skipped
without a limit. -/
def albumsWithTracks : Query where
  action := some "query"
  table := some (.query albums)
  columns := some [.named { column := "a.title", aliasName := some "title" }]
  distinct := some { columns := [.ofName "a.id"], key := some (.ofName "a.id") }
  join := some (.list [
    { kind := "LEFT"
      table := some (.query { table := some (.name "tracks"), aliasName := some "t" })
      aliasName := some "songs"
      condition := some (.isNull { column := .name "songs.id", isNull := false }) },
    { kind := "cross", table := some (.name "formats") }])
  groupBy := some [.named { column := "a.id", aliasName := some "dropped" }, .ofName "a.title"]
  orderBy := some [{ column := .name "a.id", direction := some "desc" }, { column := .name "b" }]
  limit := some 0
  offset := some 20
where
  /-- The query that is the table. -/
  albums : Query := {
    table := some (.name "albums")
    aliasName := some "a"
    filter := some (.like { column := .name "title", pattern := .string "A%" }) }

theorem assembled_albumsWithTracks :
    ∃ fragment inner, (Node.query albumsWithTracks).Builds .sqlite fragment ∧
      (fragment.render .sqlite).sql =
        "SELECT DISTINCT ON (`a`.`id`) `a`.`id`, `a`.`title` AS `title` " ++
          "FROM (SELECT * FROM `albums` WHERE `title` LIKE ?) AS `a` " ++
          "LEFT JOIN (SELECT * FROM `tracks`) AS `songs` ON `songs`.`id` IS NOT NULL " ++
          "CROSS JOIN `formats` GROUP BY `a`.`id`, `a`.`title` ORDER BY `a`.`id` DESC, `b` ASC " ++
          "LIMIT 9223372036854775807 OFFSET 20" ∧
      albumsWithTracks.Assembled .sqlite .join fragment ∧
      (Node.nestedQuery albumsWithTracks.albums).Builds .sqlite inner ∧
      albumsWithTracks.albums.Assembled .sqlite .nestedJoin inner := by
  have hsql : ((albumsWithTracks.fragment .sqlite).map fun fragment =>
      (fragment.render .sqlite).sql).toOption = some
        ("SELECT DISTINCT ON (`a`.`id`) `a`.`id`, `a`.`title` AS `title` " ++
          "FROM (SELECT * FROM `albums` WHERE `title` LIKE ?) AS `a` " ++
          "LEFT JOIN (SELECT * FROM `tracks`) AS `songs` ON `songs`.`id` IS NOT NULL " ++
          "CROSS JOIN `formats` GROUP BY `a`.`id`, `a`.`title` ORDER BY `a`.`id` DESC, `b` ASC " ++
          "LIMIT 9223372036854775807 OFFSET 20") := by decide +kernel
  obtain ⟨fragment, hfragment, hrender⟩ := map_eq_ok.mp (eq_ok_of_toOption hsql)
  have hinner : (albumsWithTracks.albums.nestedFragment .sqlite).toOption = some
      ⟨[.text "SELECT ", .identifier "*", .text " FROM ", .identifier "albums", .text " WHERE ",
        .identifier "title", .text " LIKE ", .param (.string "A%")]⟩ := by decide +kernel
  have hcheck : albumsWithTracks.check.toOption = some () := by decide +kernel
  have hbuilds : (Node.query albumsWithTracks).Builds .sqlite fragment :=
    Node.builds_query_iff.mpr ⟨eq_ok_of_toOption hcheck, hfragment⟩
  have hnested := Node.builds_nestedQuery_iff.mpr ⟨rfl, eq_ok_of_toOption hinner⟩
  exact ⟨fragment, _, hbuilds, hrender, assembled_of_builds.1 hbuilds, hnested,
    assembled_of_builds.2 hnested⟩

end Query

end QueryTree
