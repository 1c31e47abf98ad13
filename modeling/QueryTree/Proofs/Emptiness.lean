import QueryTree.Proofs.Collecting
import QueryTree.Proofs.Occurrence
import QueryTree.Proofs.Quotation
/-!
# Emptiness — which quoted names of a statement are empty

No name of a query is empty as a whole, and neither is an alias: this is
what the rules ask. A name is quoted part by part, and any of its parts
may be empty, as in `a..b`. Here the names of a fragment are shown to be
those of its node (`Fragment.Mentions`), whatever it is put together of, so
a quoted name of a statement is empty exactly where a name in its query
has an empty part (`Query.emptyName_iff_of_toStatement`).
-/

namespace QueryTree

open Text Fragment

/-! ## The names in a node -/

/-- The name that a column is, if it is one. -/
def Column.name? : Column → Option String
  | named column => some column.column
  | _ => none

/-- **The names of columns** in a column. -/
def Column.names (column : Column) : List String := (column :: column.inside).filterMap name?

theorem Column.names_function (call : FunctionColumn Column) :
    (function call).names = call.parameters.flatMap names := by
  rw [names, List.filterMap_cons_none rfl, inside_function, List.filterMap_flatMap]
  rfl

/-- The name that a table is, if it is one. -/
def Table.names : Option (Table Query) → List String
  | some (.name n) => [n]
  | _ => []

namespace Query

/-- **The names in the clauses of a query,** which may be qualified: those of
columns, of its table and of the tables of its joins. -/
def ownNames (query : Query) : List String :=
  query.allColumns.flatMap Column.names ++ Table.names query.table ++
    query.joins.flatMap fun join => Table.names join.table

/-- **The names anywhere in a query.** -/
def qualifiedNames (query : Query) : List String := (query :: query.inside).flatMap ownNames

end Query

/-! ## The names in a fragment -/

namespace Fragment

/-- **A fragment mentions some names:** its names are these, none of them is
empty, and neither is an alias. -/
structure Mentions (names : List String) (fragment : Fragment) : Prop where
  identifier : ∀ name, .identifier name ∈ fragment.symbols ↔ name ∈ names
  name_ne_empty : "" ∉ names
  alias_ne_empty : .aliasName "" ∉ fragment.symbols

variable {first second : List String} {fragment other : Fragment}

theorem Mentions.congr (h : fragment.Mentions first)
    (hnames : ∀ name, name ∈ first ↔ name ∈ second) : fragment.Mentions second where
  identifier name := (h.identifier name).trans (hnames name)
  name_ne_empty := fun hmem => h.name_ne_empty ((hnames "").mpr hmem)
  alias_ne_empty := h.alias_ne_empty

theorem mentions_ofText (text : String) : Mentions [] (ofText text) :=
  ⟨by simp [Symbol.ofText], by simp, by simp [Symbol.ofText]⟩

theorem mentions_identifier {name : String} (h : name ≠ "") : Mentions [name] (identifier name) :=
  ⟨by simp, by simpa using h.symm, by simp⟩

theorem mentions_ofAlias {name : String} (h : name ≠ "") : Mentions [] (ofAlias name) :=
  ⟨by simp, by simp, by simpa using h.symm⟩

theorem mentions_ofParam (param : Param) : Mentions [] (ofParam param) :=
  ⟨by simp, by simp, by simp⟩

/-- **Fragments one after the other mention what they mention.** -/
theorem Mentions.append (hf : fragment.Mentions first) (hs : other.Mentions second) :
    (fragment ++ other).Mentions (first ++ second) where
  identifier name := by
    rw [symbols_append, List.mem_append, List.mem_append, hf.identifier, hs.identifier]
  name_ne_empty := fun hmem =>
    (List.mem_append.mp hmem).elim hf.name_ne_empty hs.name_ne_empty
  alias_ne_empty := by
    rw [symbols_append, List.mem_append]
    exact fun hmem => hmem.elim hf.alias_ne_empty hs.alias_ne_empty

/-- **Names are collected along fragments.** -/
theorem collecting_mentions : Collecting Mentions where
  ofText := mentions_ofText
  append := Mentions.append
  eq_nil h := List.eq_nil_iff_forall_not_mem.mpr fun name hname =>
    nomatch (h.identifier name).mpr hname

theorem mentions_ofParams (params : List Param) (separator : String) :
    (joined separator (params.map ofParam)).Mentions [] := by
  have hparams : List.Forall₂ (fun (_ : Param) fragment => Mentions [] fragment) params
      (params.map ofParam) := by
    rw [List.forall₂_map_right_iff, List.forall₂_same]
    exact fun param _ => mentions_ofParam param
  have hjoined := collecting_mentions.joined hparams separator
  rwa [List.flatMap_eq_nil_iff.mpr fun _ _ => rfl] at hjoined

theorem Mentions.under (h : fragment.Mentions first) {aliasName : Option String}
    (halias : aliasName ≠ some "") : (fragment.under aliasName).Mentions first := by
  cases aliasName with
  | none => exact h
  | some name =>
    have hname : name ≠ "" := fun heq => halias (congrArg some heq)
    have hshown := (collecting_mentions.append_ofText h " AS ").append (mentions_ofAlias hname)
    rwa [List.append_nil] at hshown

end Fragment

/-! ## Columns -/

theorem ne_empty_of_checkAlias {context : String} {aliasName : Option String}
    (h : checkAlias context aliasName = .ok ()) : aliasName ≠ some "" := by
  rintro rfl
  cases h

/-- An alias that is shown or not. -/
theorem ne_empty_of_shown {aliasName : Option String} (h : aliasName ≠ some "") (showAlias : Bool) :
    (if showAlias then aliasName else none) ≠ some "" := by
  cases showAlias with
  | true => exact h
  | false => exact nofun

mutual

/-- **A column mentions its names.** -/
theorem Column.mentions_fragment : ∀ (column : Column) (showAlias : Bool), column.check = .ok () →
    Yields (Mentions column.names) (column.fragment showAlias)
  | .named column, showAlias, hcheck => by
    obtain ⟨hname, -, halias⟩ := Column.check_named hcheck
    have hshown := ne_empty_of_shown (ne_empty_of_checkAlias halias) showAlias
    unfold Column.fragment
    have hcast := collecting_mentions.castTo (mentions_identifier hname) column.cast
    exact yields_ok (hcast.under hshown)
  | .function ⟨name, parameters, aliasName⟩, showAlias, hcheck => by
    obtain ⟨-, halias⟩ := Column.check_function hcheck
    have hshown := ne_empty_of_shown (ne_empty_of_checkAlias halias) showAlias
    rw [Column.fragment, Column.names_function]
    refine (yields_self (Column.checkAll parameters)).bind fun _ hparameters => ?_
    refine (Column.mentions_fragments parameters false hparameters).bind fun fragments h => ?_
    have hlist := collecting_mentions.joined h ", "
    exact yields_ok ((collecting_mentions.call hlist name).under hshown)
  | .value literal, showAlias, hcheck => by
    obtain ⟨-, -, halias⟩ := Column.check_value hcheck
    have hshown := ne_empty_of_shown (ne_empty_of_checkAlias halias) showAlias
    unfold Column.fragment
    refine (yields_self literal.value.toParam).bind fun param _ => ?_
    have hcast := collecting_mentions.castTo (mentions_ofParam param) literal.cast
    exact yields_ok (hcast.under hshown)

/-- Columns mention their names one by one. -/
theorem Column.mentions_fragments : ∀ (columns : List Column) (showAlias : Bool),
    Column.checkAll columns = .ok () →
    Yields (List.Forall₂ (fun column fragment => fragment.Mentions (Column.names column)) columns)
      (Column.fragments columns showAlias)
  | [], _, _ => yields_ok .nil
  | column :: columns, showAlias, hcheck => by
    obtain ⟨hcolumn, hcolumns⟩ := Column.checkAll_cons hcheck
    unfold Column.fragments
    refine (Column.mentions_fragment column showAlias hcolumn).bind fun fragment h => ?_
    refine (Column.mentions_fragments columns showAlias hcolumns).bind fun fragments hs => ?_
    exact yields_ok (.cons h hs)

end

/-! ## Filters -/

/-- The names in a filter. -/
def Filter.names (filter : Filter) : List String := filter.columns.flatMap Column.names

theorem ComparisonFilter.mentions_operandFragment (filter : ComparisonFilter)
    (hcheck : filter.checkOperand = .ok ()) :
    Yields (Mentions (filter.rightColumn.toList.flatMap Column.names))
      filter.operandFragment := by
  obtain ⟨column, operator, _ | value, _ | right⟩ := filter
  · exact yields_error _
  · rw [Option.toList_some, List.flatMap_singleton]
    exact right.mentions_fragment false hcheck
  · exact (yields_self value.toParam).map fun param _ => mentions_ofParam param
  · exact yields_error _

theorem ComparisonFilter.mentions_fragment (filter : ComparisonFilter)
    (hcheck : filter.check = .ok ()) :
    Yields (Mentions (Filter.comparison filter).names) filter.fragment := by
  unfold check at hcheck
  split at hcheck
  · cases hcheck
  · obtain ⟨_, hright, hleft⟩ := bind_eq_ok.mp hcheck
    rw [Filter.names, Filter.columns_of_parts rfl, Filter.sides, List.flatMap_cons]
    refine (filter.column.toColumn.mentions_fragment false hleft).bind fun left hl => ?_
    refine (filter.mentions_operandFragment hright).bind fun right hr => ?_
    exact yields_ok ((collecting_mentions.append_ofText hl _).append hr)

/-- A filter that looks at one column mentions the names of this one. -/
theorem Filter.names_of_sides {filter : Filter} {column : Column} (hparts : filter.parts = [filter])
    (hsides : filter.sides = [column]) : filter.names = column.names := by
  rw [names, columns_of_parts hparts, hsides, List.flatMap_singleton]

mutual

/-- **A filter mentions the names of its columns.** -/
theorem Filter.mentions_fragment : ∀ filter : Filter, filter.check = .ok () →
    Yields (Mentions filter.names) filter.fragment
  | .comparison filter, hcheck => filter.mentions_fragment hcheck
  | .membership filter, hcheck => by
    unfold Filter.check at hcheck
    obtain ⟨_, hcolumn, -⟩ := bind_eq_ok.mp (eq_ok_of_guard hcheck)
    rw [Filter.names_of_sides rfl rfl]
    refine (filter.column.toColumn.mentions_fragment false hcolumn).bind fun column h => ?_
    refine (yields_self (paramsOf filter.values)).bind fun params _ => yields_ok ?_
    have hopening := collecting_mentions.append_ofText h " IN ("
    have hlist := hopening.append (mentions_ofParams params ", ")
    rw [List.append_nil] at hlist
    exact collecting_mentions.append_ofText hlist ")"
  | .like filter, hcheck => by
    obtain ⟨_, hcolumn, -⟩ := bind_eq_ok.mp hcheck
    rw [Filter.names_of_sides rfl rfl]
    refine (filter.column.toColumn.mentions_fragment false hcolumn).bind fun column h => ?_
    refine (yields_self filter.pattern.toParam).bind fun pattern _ => yields_ok ?_
    have hopening := collecting_mentions.append_ofText h " LIKE "
    have hpattern := hopening.append (mentions_ofParam pattern)
    rwa [List.append_nil] at hpattern
  | .isNull filter, hcheck => by
    rw [Filter.names_of_sides rfl rfl]
    refine (filter.column.toColumn.mentions_fragment false hcheck).bind fun column h => ?_
    exact yields_ok (collecting_mentions.append_ofText h _)
  | .and operands, hcheck => by
    rw [Filter.names, Filter.columns_and, List.flatMap_assoc]
    unfold Filter.check at hcheck
    have hoperands := Filter.mentions_operandFragments operands (eq_ok_of_guard hcheck)
    exact hoperands.map fun fragments h => collecting_mentions.joined h " AND "
  | .or operands, hcheck => by
    rw [Filter.names, Filter.columns_or, List.flatMap_assoc]
    unfold Filter.check at hcheck
    have hoperands := Filter.mentions_operandFragments operands (eq_ok_of_guard hcheck)
    exact hoperands.map fun fragments h => collecting_mentions.joined h " OR "
  | .not operand, hcheck => by
    rw [Filter.names, Filter.columns_not]
    refine (Filter.mentions_fragment operand hcheck).map fun fragment h => ?_
    exact collecting_mentions.append_ofText (collecting_mentions.ofText_append h "NOT (") ")"

/-- Operands mention their names one by one. -/
theorem Filter.mentions_operandFragments : ∀ filters : List Filter,
    Filter.checkAll filters = .ok () →
    Yields (List.Forall₂ (fun filter fragment => fragment.Mentions (Filter.names filter)) filters)
      (Filter.operandFragments filters)
  | [], _ => yields_ok .nil
  | filter :: filters, hcheck => by
    obtain ⟨_, hfilter, hfilters⟩ := bind_eq_ok.mp hcheck
    unfold Filter.operandFragments
    refine (Filter.mentions_fragment filter hfilter).bind fun fragment h => ?_
    refine (Filter.mentions_operandFragments filters hfilters).bind fun fragments hs => ?_
    refine yields_ok (.cons ?_ hs)
    split
    · exact collecting_mentions.parenthesized h
    · exact h

end

/-! ## Clauses -/

/-- The names in an ordering. -/
def OrderByElement.names (elements : List OrderByElement) : List String :=
  (columns elements).flatMap Column.names

theorem OrderByElement.mentions_joinedFragment {elements : List OrderByElement}
    (hcheck : checkAll elements = .ok ()) :
    Yields (Mentions (names elements)) (joinedFragment elements) := by
  have helement : ∀ element ∈ elements,
      Yields (Mentions element.column.toColumn.names) element.fragment := by
    intro element hmem
    have helements := eq_ok_of_forM (eq_ok_of_guard hcheck)
    obtain ⟨_, hcolumn, -⟩ := bind_eq_ok.mp (helements element hmem)
    refine (yields_self element.directionOf).bind fun direction _ => ?_
    refine (element.column.toColumn.mentions_fragment false hcolumn).bind fun _ h => ?_
    exact yields_ok (collecting_mentions.appendText h _)
  rw [names, columns, List.flatMap_map]
  exact (yields_each_of_mem helement).map fun fragments h => collecting_mentions.joined h ", "

/-- The names in a distinct clause. -/
def Distinct.names (distinct : Distinct) : List String := distinct.allColumns.flatMap Column.names

theorem Distinct.mentions_fragment {distinct : Distinct} (hcheck : distinct.check = .ok ()) :
    Yields (Mentions distinct.names) distinct.fragment := by
  unfold check at hcheck
  obtain ⟨_, hkey, hcolumns⟩ := bind_eq_ok.mp (eq_ok_of_guard hcheck)
  have hkeys : ∀ column ∈ distinct.key,
      Yields (Mentions column.names) (column.fragment false) :=
    fun column hc => column.mentions_fragment false (eq_ok_of_option_forM hkey column hc)
  rw [names, allColumns, List.flatMap_append]
  refine (Column.mentions_fragments distinct.columns true hcolumns).bind fun fragments h => ?_
  have hlist := collecting_mentions.joined h ", "
  refine (yields_optional_of_mem hkeys).bind fun key hk => ?_
  generalize distinct.key = column at hk
  cases hk with
  | none =>
    rw [Option.toList_none, List.flatMap_nil, List.append_nil]
    exact yields_ok (collecting_mentions.ofText_append hlist _)
  | some hk =>
    -- the key stands before the columns
    rw [Option.toList_some, List.flatMap_singleton]
    have hopening :=
      collecting_mentions.append_ofText (collecting_mentions.ofText_append hk "DISTINCT ON (") ") "
    refine yields_ok ((hopening.append hlist).congr fun name => ?_)
    rw [List.mem_append, List.mem_append, or_comm]

theorem Source.mentions_aliasFragment {aliasName : Option String} (h : aliasName ≠ some "") :
    (aliasFragment aliasName).Mentions [] := by
  cases aliasName with
  | none => exact collecting_mentions.empty
  | some name =>
    have hname : name ≠ "" := fun heq => h (congrArg some heq)
    exact collecting_mentions.ofText_append (mentions_ofAlias hname) " AS "

section Subqueries

variable {checked : Query → Except Violation Unit} {inside : Query → List String}
variable {fragment : Query → Except Violation Fragment}

/-- **What is known of a query that is a table:** its alias is not empty, and
it mentions some names. -/
structure Query.MentionsAs (inside : Query → List String)
    (fragment : Query → Except Violation Fragment) (inner : Query) : Prop where
  alias_ne_empty : inner.aliasName ≠ some ""
  mentions : Yields (Mentions (inside inner)) (fragment inner)

theorem Table.mentions_source {table : Table Query} {aliasName : Option String}
    (hsub : ∀ inner ∈ queries (some table), inner.MentionsAs inside fragment)
    (hname : "" ∉ names (some table)) (halias : aliasName ≠ some "") :
    Yields (fun source => source.toFragment.Mentions
        (names (some table) ++ (queries (some table)).flatMap inside))
      (table.source fragment aliasName) := by
  have hshown := Source.mentions_aliasFragment halias
  cases table with
  | name n =>
    have hne : n ≠ "" := fun heq => hname (List.mem_singleton.mpr heq.symm)
    exact yields_ok ((mentions_identifier hne).append hshown)
  | query inner =>
    refine (hsub inner List.mem_cons_self).mentions.map fun piece h => ?_
    have hsource := (collecting_mentions.parenthesized h).append hshown
    rw [List.append_nil] at hsource
    rwa [queries, List.flatMap_singleton]

/-- What a join mentions, with the queries inside it. -/
def Join.mentioned (inside : Query → List String) (join : Join Query) : List String :=
  Table.names join.table ++ (Table.queries join.table).flatMap inside ++
    join.columns.flatMap Column.names

/-- The names and aliases of a join that keeps the rules. -/
theorem Join.ne_empty_of_check {join : Join Query} (hcheck : join.check checked = .ok ()) :
    "" ∉ Table.names join.table ∧ join.aliasName ≠ some "" := by
  unfold check at hcheck
  split at hcheck
  · cases hcheck
  · obtain ⟨_, htable, hcheck⟩ := bind_eq_ok.mp hcheck
    obtain ⟨_, -, halias⟩ := bind_eq_ok.mp hcheck
    refine ⟨?_, ne_empty_of_checkAlias halias⟩
    unfold checkTable at htable
    rcases hjoin : join.table with _ | name | inner
    · exact List.not_mem_nil
    · rw [hjoin] at htable
      exact fun hmem => ne_empty_of_checkName htable (List.mem_singleton.mp hmem).symm
    · exact List.not_mem_nil

theorem Join.sourceAlias_ne_empty {join : Join Query} (h : join.aliasName ≠ some "")
    (hsub : ∀ inner ∈ Table.queries join.table, inner.aliasName ≠ some "") :
    join.sourceAlias ≠ some "" := by
  unfold sourceAlias
  rcases htable : join.table with _ | name | inner
  · exact h
  · exact h
  · have hinner := hsub inner (htable ▸ List.mem_cons_self)
    cases halias : join.aliasName with
    | none => exact hinner
    | some name => exact fun heq => h (halias.trans heq)

/-- **A join mentions its names.** -/
theorem Join.mentions_fragment {join : Join Query}
    (hsub : ∀ inner ∈ Table.queries join.table, inner.MentionsAs inside fragment)
    (hcheck : join.check checked = .ok ()) :
    Yields (Mentions (join.mentioned inside)) (join.fragment fragment) := by
  obtain ⟨hname, halias⟩ := ne_empty_of_check hcheck
  have hsource : Yields (fun source => source.toFragment.Mentions
      (Table.names join.table ++ (Table.queries join.table).flatMap inside))
      (join.source fragment) := by
    have hshown := sourceAlias_ne_empty halias fun inner h => (hsub inner h).alias_ne_empty
    unfold source
    rcases htable : join.table with _ | table
    · exact yields_error _
    · exact Table.mentions_source (htable ▸ hsub) (htable ▸ hname) hshown
  have hfilter : ∀ filter ∈ join.condition,
      Yields (Mentions filter.names) filter.fragment :=
    fun filter hf => filter.mentions_fragment ((checked_of_check hcheck).condition filter hf)
  refine (yields_self join.kindOf).bind fun kind _ => ?_
  refine hsource.bind fun source hs => ?_
  refine (yields_optional_of_mem hfilter).bind fun condition hc => yields_ok ?_
  have hcolumns : join.columns.flatMap Column.names = join.condition.elim [] Filter.names :=
    flatMap_elim _ _ _
  rw [mentioned, hcolumns]
  exact collecting_mentions.joinFragment kind hs hc

/-! ## Queries -/

namespace Query

/-- The names and aliases of a query that keeps the rules, beside its
columns. -/
theorem ne_empty_of_checkWith {query : Query} (hcheck : query.checkWith checked = .ok ()) :
    "" ∉ Table.names query.table ∧ query.aliasName ≠ some "" ∧
      ∀ join ∈ query.joins, join.check checked = .ok () := by
  unfold checkWith at hcheck
  obtain ⟨_, htable, hcheck⟩ := bind_eq_ok.mp hcheck
  obtain ⟨_, halias, hcheck⟩ := bind_eq_ok.mp hcheck
  obtain ⟨_, hjoins, -⟩ := bind_eq_ok.mp hcheck
  refine ⟨?_, ne_empty_of_checkAlias halias, fun join hj => eq_ok_of_forM hjoins join hj⟩
  unfold checkTable at htable
  rcases hquery : query.table with _ | name | inner
  · exact List.not_mem_nil
  · rw [hquery] at htable
    intro hmem
    obtain rfl := List.mem_singleton.mp hmem
    cases htable
  · exact List.not_mem_nil

/-- What the clauses of a query mention are its own names and those of the
queries that it reads from. -/
theorem mem_mentioned (inside : Query → List String) (query : Query) (name : String) :
    name ∈ query.distinct.elim [] Distinct.names ++
        query.selectedColumns.flatMap Column.names ++
        (Table.names query.table ++ (Table.queries query.table).flatMap inside) ++
        query.joins.flatMap (Join.mentioned inside) ++ query.filter.elim [] Filter.names ++
        (query.groupBy.getD []).flatMap Column.names ++ query.having.elim [] Filter.names ++
        query.orderBy.elim [] OrderByElement.names ↔
      name ∈ query.ownNames ++ query.sources.flatMap inside := by
  have hjoins : name ∈ query.joins.flatMap (Join.mentioned inside) ↔
      (name ∈ query.joins.flatMap fun join => Table.names join.table) ∨
        (name ∈ (query.joins.flatMap fun join => Table.queries join.table).flatMap inside) ∨
        name ∈ (query.joins.flatMap Join.columns).flatMap Column.names := by
    simp only [Join.mentioned, List.flatMap_assoc, List.mem_flatMap, List.mem_append, and_or_left,
      exists_or, or_assoc]
  have hdistinct : (query.distinct.elim [] Distinct.allColumns).flatMap Column.names =
      query.distinct.elim [] Distinct.names := flatMap_elim _ _ _
  have hfilter (filter : Option Filter) : (filter.elim [] Filter.columns).flatMap Column.names =
      filter.elim [] Filter.names := flatMap_elim _ _ _
  have horder : (query.orderBy.elim [] OrderByElement.columns).flatMap Column.names =
      query.orderBy.elim [] OrderByElement.names := flatMap_elim _ _ _
  simp only [ownNames, allColumns_eq, clauseColumns, sources, List.flatMap_append, hdistinct,
    hfilter, horder, List.mem_append, hjoins]
  grind

/-- **A query mentions its own names and those of the queries that it reads
from.** -/
theorem mentions_fragmentWith {query : Query}
    (hsub : ∀ inner ∈ query.sources, inner.MentionsAs inside fragment) (dialect : Dialect)
    (hcheck : query.checkWith checked = .ok ()) :
    Yields (Mentions (query.ownNames ++ query.sources.flatMap inside))
      (query.fragmentWith fragment dialect) := by
  obtain ⟨hname, -, hchecks⟩ := ne_empty_of_checkWith hcheck
  have hchecked := checked_of_checkWith hcheck
  have hsource : Yields (fun source => source.toFragment.Mentions
      (Table.names query.table ++ (Table.queries query.table).flatMap inside))
      (query.source fragment) := by
    have halias : query.tableAlias ≠ some "" := by
      unfold tableAlias
      rcases htable : query.table with _ | n | inner
      · exact nofun
      · exact nofun
      · exact (hsub inner (mem_sources_of_table (htable ▸ List.mem_cons_self))).alias_ne_empty
    unfold source
    rcases htable : query.table with _ | table
    · exact yields_error _
    · refine Table.mentions_source (fun inner h => ?_) (htable ▸ hname) halias
      exact hsub inner (mem_sources_of_table (htable ▸ h))
  have hdistinct : ∀ distinct ∈ query.distinct,
      Yields (Mentions distinct.names) distinct.fragment :=
    fun distinct hd => Distinct.mentions_fragment (hchecked.distinct distinct hd)
  have hjoins : ∀ join ∈ query.joins,
      Yields (Mentions (join.mentioned inside)) (join.fragment fragment) := fun join hj =>
    Join.mentions_fragment (fun inner h => hsub inner (mem_sources_of_join hj h)) (hchecks join hj)
  have hfilter : ∀ filter ∈ query.filter, Yields (Mentions filter.names) filter.fragment :=
    fun filter hf => filter.mentions_fragment (hchecked.filter filter hf)
  have hhaving : ∀ having ∈ query.having, Yields (Mentions having.names) having.fragment :=
    fun having hh => having.mentions_fragment (hchecked.having having hh)
  have horderBy : ∀ elements ∈ query.orderBy, Yields
      (Mentions (OrderByElement.names elements)) (OrderByElement.joinedFragment elements) :=
    fun elements ho => OrderByElement.mentions_joinedFragment (hchecked.orderBy elements ho)
  have hclauses := collecting_mentions.fragmentWith dialect (Column.mentions_fragments _ true)
    hdistinct hsource hjoins hfilter (Column.mentions_fragments _ false hchecked.groupBy) hhaving
    horderBy
  exact fun piece hpiece => (hclauses piece hpiece).congr (mem_mentioned inside query)

end Query

end Subqueries

namespace Query

variable {dialect : Dialect} {query : Query}

/-- The names anywhere in a query are its own and those anywhere in the
queries that it reads from. -/
theorem qualifiedNames_eq (query : Query) :
    query.qualifiedNames = query.ownNames ++ query.sources.flatMap qualifiedNames := by
  rw [qualifiedNames, List.flatMap_cons, inside_eq_flatMap, List.flatMap_assoc]
  rfl

/-- **A query that is a table mentions the names in it.** -/
theorem mentionsAs_of_nestedCheck (dialect : Dialect) {inner : Query}
    (hcheck : inner.nestedCheck = .ok ()) :
    inner.MentionsAs qualifiedNames (nestedFragment dialect) where
  alias_ne_empty := (ne_empty_of_checkWith hcheck).2.1
  mentions := by
    have hnone : inner.sources = [] := (checked_of_checkWith hcheck).sources_eq_nil
    have hsub : ∀ source ∈ inner.sources, source.MentionsAs qualifiedNames refuse := by
      rw [hnone]
      exact fun _ hsource => nomatch hsource
    rw [qualifiedNames_eq]
    exact mentions_fragmentWith hsub dialect hcheck

/-- **What becomes of a query mentions the names anywhere in it.** -/
theorem mentions_outcome (dialect : Dialect) (query : Query) :
    Yields (Mentions query.qualifiedNames) (query.outcome dialect) := by
  refine (yields_self query.check).bind fun _ hcheck => ?_
  have hsub : ∀ inner ∈ query.sources, inner.MentionsAs qualifiedNames (nestedFragment dialect) :=
    fun inner hinner =>
      mentionsAs_of_nestedCheck dialect ((checked_of_check hcheck).sources inner hinner)
  rw [qualifiedNames_eq]
  unfold check at hcheck
  split at hcheck
  · cases hcheck
  · exact mentions_fragmentWith hsub dialect hcheck

end Query

/-! ## Empty parts -/

namespace Text

/-- **Whether a point of a text has no name beside it:** it is the first or
the last character, or next to another one. -/
def HasLoosePoint (text : List Char) : Prop :=
  text.head? = some '.' ∨ text.getLast? = some '.' ∨ ['.', '.'] <:+: text

instance (text : List Char) : Decidable (HasLoosePoint text) :=
  inferInstanceAs (Decidable (_ ∨ _ ∨ _))

/-- The first part of a text ends where the text does or at a point. -/
theorem head_pointParts_eq_nil (text : List Char) :
    (pointParts text).head? = some [] ↔ text = [] ∨ text.head? = some '.' := by
  cases text with
  | nil => simp [pointParts]
  | cons c text =>
    unfold pointParts
    split
    · rename_i hpoint
      simp [hpoint]
    · rename_i hpoint
      cases pointParts text <;> simp [hpoint]

/-- A part after the first is empty where a point ends the text or follows
another one. -/
theorem nil_mem_tail_pointParts (text : List Char) :
    [] ∈ (pointParts text).tail ↔ text.getLast? = some '.' ∨ ['.', '.'] <:+: text := by
  induction text with
  | nil => simp [pointParts]
  | cons c text ih =>
    obtain ⟨part, parts, hparts⟩ := List.exists_cons_of_ne_nil (pointParts_ne_nil text)
    have hhead := head_pointParts_eq_nil text
    rw [hparts, List.head?_cons, Option.some_inj] at hhead
    rw [hparts, List.tail_cons] at ih
    have hopens : ['.', '.'] <+: c :: text ↔ c = '.' ∧ text.head? = some '.' := by
      cases text <;> simp [eq_comm]
    have hlast : (c :: text).getLast? = some '.' ↔
        text = [] ∧ c = '.' ∨ text.getLast? = some '.' := by
      rcases List.eq_nil_or_concat text with rfl | ⟨init, last, rfl⟩
      · simp
      · simp [List.getLast?_cons]
    rw [List.infix_cons_iff, hopens, hlast]
    unfold pointParts
    by_cases hpoint : c = '.'
    · -- the parts of the rest are those after an empty one
      rw [if_pos hpoint, hparts, List.tail_cons, List.mem_cons, eq_comm, hhead, ih]
      simp only [hpoint, and_true, true_and]
      grind
    · rw [if_neg hpoint, hparts]
      simp only [List.tail_cons, hpoint, and_false, false_and, false_or]
      exact ih

/-- **A part of a text is empty where the text is, or has a loose point.** -/
theorem nil_mem_pointParts (text : List Char) :
    [] ∈ pointParts text ↔ text = [] ∨ HasLoosePoint text := by
  have hhead := head_pointParts_eq_nil text
  have htail := nil_mem_tail_pointParts text
  obtain ⟨part, parts, hparts⟩ := List.exists_cons_of_ne_nil (pointParts_ne_nil text)
  rw [hparts] at hhead htail ⊢
  rw [List.head?_cons, Option.some_inj] at hhead
  rw [List.tail_cons] at htail
  rw [List.mem_cons, eq_comm, hhead, htail, or_assoc, HasLoosePoint]

end Text

/-! ## The quoted names of a statement -/

namespace Fragment

/-- A name or an alias is a symbol of a fragment where it is a part of it. -/
theorem identifier_mem_parts {fragment : Fragment} {name : String} :
    .identifier name ∈ fragment.parts ↔ .identifier name ∈ fragment.symbols := by
  rw [symbols, List.mem_flatMap]
  constructor
  · exact fun h => ⟨_, h, List.mem_singleton.mpr rfl⟩
  · rintro ⟨part, hpart, hsymbol⟩
    cases part with
    | text text => simp [Part.symbols, Symbol.ofText] at hsymbol
    | identifier other =>
      obtain rfl : name = other := by simpa [Part.symbols] using hsymbol
      exact hpart
    | aliasName other => simp [Part.symbols] at hsymbol
    | param p => simp [Part.symbols] at hsymbol

theorem aliasName_mem_symbols {fragment : Fragment} {name : String}
    (h : .aliasName name ∈ fragment.parts) : .aliasName name ∈ fragment.symbols :=
  List.mem_flatMap.mpr ⟨_, h, List.mem_singleton.mpr rfl⟩

/-- **A fragment has an empty quoted name where one of its names has an empty
part.** -/
theorem Mentions.nil_mem_quotedNames {names : List String} {fragment : Fragment}
    (h : fragment.Mentions names) :
    [] ∈ fragment.parts.flatMap Part.quotedNames ↔
      ∃ name ∈ names, HasLoosePoint name.toList := by
  have hparts (name : String) (hname : name ∈ names) :
      [] ∈ pointParts name.toList ↔ HasLoosePoint name.toList := by
    have hne : name.toList ≠ [] := by
      intro hnil
      have hempty : name = "" := String.toList_eq_nil_iff.mp hnil
      exact h.name_ne_empty (hempty ▸ hname)
    rw [nil_mem_pointParts, or_iff_right hne]
  rw [List.mem_flatMap]
  constructor
  · rintro ⟨part, hpart, hnil⟩
    cases part with
    | text text => cases hnil
    | param p => cases hnil
    | identifier name =>
      have hname := (h.identifier name).mp (identifier_mem_parts.mp hpart)
      exact ⟨name, hname, (hparts name hname).mp (List.mem_filter.mp hnil).1⟩
    | aliasName name =>
      have hempty : name = "" := String.toList_eq_nil_iff.mp (List.mem_singleton.mp hnil).symm
      rw [hempty] at hpart
      exact absurd (aliasName_mem_symbols hpart) h.alias_ne_empty
  · rintro ⟨name, hname, hloose⟩
    have hpart := identifier_mem_parts.mpr ((h.identifier name).mpr hname)
    have hnil := (hparts name hname).mpr hloose
    exact ⟨.identifier name, hpart, List.mem_filter.mpr ⟨hnil, rfl⟩⟩

end Fragment

namespace Query

variable {dialect : Dialect} {query : Query}

/-- **A statement has an empty quoted name exactly where a name in its query
has a loose point.** No alias in it is empty, and no name as a whole: the
names in the fragment that is rendered are those in the query, and none
of these is empty. -/
theorem emptyName_iff_of_toStatement {statement : Statement}
    (h : query.toStatement dialect = .ok statement) :
    ∃ compiler fragment lexemes, query.compiler = .ok compiler ∧
      (TopCompiler.build dialect compiler).1 = .ok fragment ∧
      statement = fragment.render dialect ∧
      scan dialect.quote statement.sql.toList = some lexemes ∧
      (∀ name, .aliasName name ∈ fragment.parts → name ≠ "") ∧
      (∀ name, .identifier name ∈ fragment.parts ↔ name ∈ query.qualifiedNames) ∧
      (∀ name ∈ query.qualifiedNames, name ≠ "") ∧
      ([] ∈ Lexeme.names lexemes ↔ ∃ name ∈ query.qualifiedNames, HasLoosePoint name.toList) := by
  obtain ⟨compiler, fragment, hcompiler, hbuild, houtcome, rfl⟩ := built_of_toStatement h
  have htidy := query.tidy_outcome dialect fragment houtcome
  have hmentions := query.mentions_outcome dialect fragment houtcome
  refine ⟨compiler, fragment, Symbol.lexemes dialect 0 fragment.symbols, hcompiler, hbuild, rfl,
    ?_, ?_, ?_, ?_, ?_⟩
  · rw [Fragment.sql_render]
    exact Symbol.scan_written 0 htidy.isBare htidy.isChain
  · rintro name hpart rfl
    exact hmentions.alias_ne_empty (Fragment.aliasName_mem_symbols hpart)
  · exact fun name => Fragment.identifier_mem_parts.trans (hmentions.identifier name)
  · rintro name hname rfl
    exact hmentions.name_ne_empty hname
  · rw [Symbol.names_lexemes, Fragment.flatMap_quotedNames]
    exact hmentions.nil_mem_quotedNames

/-- A query with a point at the end of the name of a column, in a nested
query. -/
def trailingPoint : Query where
  action := some "query"
  table := some (.query {
    table := some (.name "t")
    aliasName := some "s"
    filter := some (.isNull { column := .name "a.", isNull := true }) })
  columns := some [.named { column := "s.*", aliasName := some "." }]

theorem emptyName_trailingPoint :
    ∃ statement lexemes, trailingPoint.toStatement .postgres = .ok statement ∧
      statement.sql = "SELECT \"s\".* AS \".\" " ++
        "FROM (SELECT * FROM \"t\" WHERE \"a\".\"\" IS NULL) AS \"s\"" ∧
      scan Dialect.postgres.quote statement.sql.toList = some lexemes ∧
      ([] ∈ Lexeme.names lexemes ↔
        ∃ name ∈ trailingPoint.qualifiedNames, HasLoosePoint name.toList) := by
  have hsql : (trailingPoint.toStatement .postgres).toOption = some {
      sql := "SELECT \"s\".* AS \".\" " ++
        "FROM (SELECT * FROM \"t\" WHERE \"a\".\"\" IS NULL) AS \"s\""
      params := [] } := by decide +kernel
  have hstatement := eq_ok_of_toOption hsql
  obtain ⟨_, _, lexemes, -, -, -, hscan, -, -, -, hiff⟩ := emptyName_iff_of_toStatement hstatement
  exact ⟨_, lexemes, hstatement, rfl, hscan, hiff⟩

/-- A query for a column whose name has two points in a row. -/
def doublePoint : Query where
  action := some "query"
  table := some (.name "t")
  columns := some [.ofName "a..b"]

/-- **Names are checked as a whole,** so one with an empty part goes through,
and an empty name is quoted. -/
theorem nil_mem_names_doublePoint :
    ∃ statement lexemes, doublePoint.toStatement .sqlite = .ok statement ∧
      statement.sql = "SELECT `a`.``.`b` FROM `t`" ∧
      scan Dialect.sqlite.quote statement.sql.toList = some lexemes ∧
      [] ∈ Lexeme.names lexemes := by
  have hsql : (doublePoint.toStatement .sqlite).toOption =
      some { sql := "SELECT `a`.``.`b` FROM `t`", params := [] } := by decide +kernel
  have hscan : (scan Dialect.sqlite.quote "SELECT `a`.``.`b` FROM `t`".toList).any
      fun lexemes => [] ∈ Lexeme.names lexemes := by decide +kernel
  obtain ⟨lexemes, hlexemes, hnil⟩ := (Option.any_eq_true _ _).mp hscan
  exact ⟨_, lexemes, eq_ok_of_toOption hsql, rfl, hlexemes, of_decide_eq_true hnil⟩

end Query

end QueryTree
