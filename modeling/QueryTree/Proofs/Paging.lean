import QueryTree.Proofs.Clauses
import QueryTree.Proofs.Collecting
import QueryTree.Proofs.Rendering
import Mathlib.Algebra.Group.Nat.Defs
/-!
# Paging — the end of a statement selects the rows that are asked for

A query asks for some rows by two numbers, each of which may be missing or
zero. What they add to its statement is a text at the end, and the same
holds of a query inside another one, in its parentheses. Here that text is
read again as a database reads it, digit by digit, into a window of rows.
The window selects what the query asks for, whatever the numbers and the
dialect (`Query.paged_of_toStatement`).
-/

namespace QueryTree

variable {α : Type}

/-! ## Windows -/

/-- **A window of rows:** how many are skipped, and how many are kept of the
others, all of them if it does not say. -/
structure Window where
  kept : Option Nat
  skipped : Option Nat

namespace Window

/-- The rows in a window. -/
def select (window : Window) (rows : List α) : List α :=
  let rest := rows.drop (window.skipped.getD 0)
  match window.kept with
  | none => rest
  | some count => rest.take count

/-- The number after a keyword that a text begins with, and what follows
it. -/
def readCount (keyword text : List Char) : Option Nat × List Char :=
  let digits := (text.drop keyword.length).takeWhile Char.isDigit
  if keyword <+: text ∧ digits ≠ [] then
    (some (Nat.ofDigitChars 10 digits 0), text.drop (keyword.length + digits.length))
  else (none, text)

/-- **The window that a text at the end of a statement says,** if it says
nothing else. A limit comes before an offset. -/
def read? (text : List Char) : Option Window :=
  let (kept, text) := readCount " LIMIT ".toList text
  let (skipped, text) := readCount " OFFSET ".toList text
  if text = [] then some ⟨kept, skipped⟩ else none

/-! ### What is written is read -/

/-- A keyword and a number after it, if there is one. -/
def countText (keyword : List Char) : Option UInt64 → List Char
  | none => []
  | some count => keyword ++ Nat.toDigits 10 count.toNat

theorem readCount_none {keyword text : List Char} (h : ¬ keyword <+: text) :
    readCount keyword text = (none, text) :=
  if_neg fun hboth => h hboth.1

/-- **A number is read as what was written,** where no digit follows. -/
theorem readCount_append {keyword rest : List Char} (count : UInt64)
    (hrest : rest.head?.any Char.isDigit = false) :
    readCount keyword (keyword ++ Nat.toDigits 10 count.toNat ++ rest) =
      (some count.toNat, rest) := by
  have hdigits : ∀ c ∈ Nat.toDigits 10 count.toNat, c.isDigit = true :=
    fun c hc => Nat.isDigit_of_mem_toDigits (by decide) (by decide) hc
  have hnone : rest.takeWhile Char.isDigit = [] := by
    cases rest with
    | nil => rfl
    | cons c rest =>
      have hc : ¬ c.isDigit = true := by simpa using hrest
      exact List.takeWhile_cons_of_neg hc
  have htake : ((keyword ++ Nat.toDigits 10 count.toNat ++ rest).drop keyword.length).takeWhile
      Char.isDigit = Nat.toDigits 10 count.toNat := by
    rw [List.append_assoc, List.drop_left, List.takeWhile_append_of_pos hdigits, hnone,
      List.append_nil]
  have hkeyword : keyword <+: keyword ++ Nat.toDigits 10 count.toNat ++ rest := by
    rw [List.append_assoc]
    exact List.prefix_append _ _
  have hdrop : (keyword ++ Nat.toDigits 10 count.toNat ++ rest).drop
      (keyword.length + (Nat.toDigits 10 count.toNat).length) = rest := by
    rw [← List.length_append, List.drop_left]
  unfold readCount
  simp only [htake]
  rw [if_pos ⟨hkeyword, Nat.toDigits_ne_nil⟩, hdrop,
    Nat.ofDigitChars_toDigits (by decide) (by decide)]

/-- **A window that is written is read.** -/
theorem read?_countText (kept skipped : Option UInt64) :
    read? (countText " LIMIT ".toList kept ++ countText " OFFSET ".toList skipped) =
      some ⟨kept.map UInt64.toNat, skipped.map UInt64.toNat⟩ := by
  have hkept : readCount " LIMIT ".toList
      (countText " LIMIT ".toList kept ++ countText " OFFSET ".toList skipped) =
        (kept.map UInt64.toNat, countText " OFFSET ".toList skipped) := by
    cases kept with
    | none =>
      refine readCount_none ?_
      cases skipped with
      | none => decide
      | some count => simp [countText]
    | some count =>
      refine readCount_append count ?_
      cases skipped <;> rfl
  have hskipped : readCount " OFFSET ".toList (countText " OFFSET ".toList skipped) =
      (skipped.map UInt64.toNat, []) := by
    cases skipped with
    | none => rfl
    | some count =>
      have h : readCount " OFFSET ".toList (countText " OFFSET ".toList (some count) ++ []) =
          (some count.toNat, []) := readCount_append count rfl
      rwa [List.append_nil] at h
  unfold read?
  rw [hkept]
  dsimp only
  rw [hskipped]
  rfl

end Window

/-! ## The rows that a query asks for -/

namespace Query

/-- **The rows that a query asks for,** of those that it selects: its offset
is skipped, and its limit is kept where it is positive. -/
def page (query : Query) (rows : List α) : List α :=
  let rest := rows.drop ((query.offset.map UInt64.toNat).getD 0)
  let limit := (query.limit.map UInt64.toNat).getD 0
  if limit = 0 then rest else rest.take limit

/-- A query without the numbers by which it asks for some rows only. -/
def unpaged (query : Query) : Query := { query with limit := none, offset := none }

/-- The limit and the offset that are written for a query. -/
def rowLimit (dialect : Dialect) (query : Query) : Limit :=
  dialect.limit (QueryState.positive? query.limit) (QueryState.positive? query.offset)

/-- The window that is written for a query. -/
def window (dialect : Dialect) (query : Query) : Window :=
  ⟨(query.rowLimit dialect).limit.map UInt64.toNat,
    (query.rowLimit dialect).offset.map UInt64.toNat⟩

theorem getD_of_positive?_none {count : Option UInt64} (h : QueryState.positive? count = none) :
    (count.map UInt64.toNat).getD 0 = 0 := by
  cases count with
  | none => rfl
  | some n =>
    have hzero : ¬ 0 < n := by simpa [QueryState.positive?, Option.filter] using h
    have hnat : ¬ 0 < n.toNat := fun hpos => hzero (UInt64.lt_iff_toNat_lt.mpr hpos)
    exact Nat.eq_zero_of_not_pos hnat

theorem getD_of_positive?_some {count : Option UInt64} {n : UInt64}
    (h : QueryState.positive? count = some n) :
    (count.map UInt64.toNat).getD 0 = n.toNat ∧ n.toNat ≠ 0 := by
  obtain ⟨rfl, hpos⟩ := Option.filter_eq_some_iff.mp h
  have hpos : 0 < n := by simpa using hpos
  have hnat : 0 < n.toNat := UInt64.lt_iff_toNat_lt.mp hpos
  exact ⟨rfl, hnat.ne'⟩

/-- What a dialect demands beside an offset alone keeps all rows. -/
theorem take_unboundedLimit {dialect : Dialect} {limit : UInt64}
    (h : dialect.unboundedLimit? = some limit) {rows : List α} (hrows : rows.length < 2 ^ 63) :
    rows.take limit.toNat = rows := by
  refine List.take_of_length_le ?_
  cases dialect with
  | postgres => cases h
  | sqlite =>
    obtain rfl := Option.some.inj h
    have hlimit : (9223372036854775807 : UInt64).toNat = 2 ^ 63 - 1 := rfl
    omega
  | mysql =>
    obtain rfl := Option.some.inj h
    have hlimit : (18446744073709551615 : UInt64).toNat = 2 ^ 64 - 1 := rfl
    omega

/-- **The window that is written selects what is asked for.** -/
theorem select_window (dialect : Dialect) (query : Query) {rows : List α}
    (hrows : rows.length < 2 ^ 63) : (query.window dialect).select rows = query.page rows := by
  unfold window rowLimit page
  cases hlimit : QueryState.positive? query.limit with
  | some limit =>
    obtain ⟨hkept, hne⟩ := getD_of_positive?_some hlimit
    rw [hkept]
    dsimp only
    rw [if_neg hne]
    cases hoffset : QueryState.positive? query.offset with
    | none =>
      rw [getD_of_positive?_none hoffset]
      rfl
    | some offset =>
      rw [(getD_of_positive?_some hoffset).1]
      rfl
  | none =>
    rw [getD_of_positive?_none hlimit]
    dsimp only
    rw [if_pos rfl]
    cases hoffset : QueryState.positive? query.offset with
    | none =>
      rw [getD_of_positive?_none hoffset]
      rfl
    | some offset =>
      rw [(getD_of_positive?_some hoffset).1]
      cases hunbounded : dialect.unboundedLimit? with
      | none => simp [Window.select, Dialect.limit, hunbounded]
      | some limit =>
        have hrest : (rows.drop offset.toNat).length < 2 ^ 63 := by
          rw [List.length_drop]
          omega
        have htake := take_unboundedLimit hunbounded hrest
        simp [Window.select, Dialect.limit, hunbounded, htake]

/-- **An offset is written without a limit in no dialect but one.** -/
theorem isSome_kept_window {dialect : Dialect} (hdialect : dialect ≠ .postgres) (query : Query)
    (h : (query.window dialect).skipped.isSome = true) :
    (query.window dialect).kept.isSome = true := by
  unfold window rowLimit at h ⊢
  cases hlimit : QueryState.positive? query.limit with
  | some limit => rfl
  | none =>
    rw [hlimit] at h
    cases hoffset : QueryState.positive? query.offset with
    | none =>
      rw [hoffset] at h
      cases h
    | some offset =>
      cases dialect with
      | postgres => exact absurd rfl hdialect
      | sqlite => rfl
      | mysql => rfl

/-! ## What the numbers add -/

variable {sub : Query → Except Violation Fragment} {dialect : Dialect} {query : Query}

/-- What is written for the limit and the offset of a query. -/
def pageText (dialect : Dialect) (query : Query) : List Char :=
  Window.countText " LIMIT ".toList (query.rowLimit dialect).limit ++
    Window.countText " OFFSET ".toList (query.rowLimit dialect).offset

theorem symbols_countClause (keyword : String) (count : Option UInt64) :
    (Select.countClause keyword count).symbols =
      (Window.countText keyword.toList count).map .char := by
  cases count with
  | none => rfl
  | some count =>
    rw [Select.countClause, Fragment.symbols_ofText, Symbol.ofText, Nat.toString_eq_repr,
      String.toList_append, Nat.toList_repr]
    rfl

/-- **A query is the same query without its numbers, and these at its end.** -/
theorem fragmentWith_unpaged (sub : Query → Except Violation Fragment) (dialect : Dialect)
    (query : Query) :
    query.fragmentWith sub dialect = (query.unpaged.fragmentWith sub dialect).map fun body =>
      body ++ Select.countClause " LIMIT " (query.rowLimit dialect).limit ++
        Select.countClause " OFFSET " (query.rowLimit dialect).offset := by
  rw [fragmentWith, fragmentWith, select_map_toFragment, select_map_toFragment]
  simp only [map_of_bind]
  rfl

/-- The rules do not look at the two numbers. -/
theorem check_unpaged (query : Query) : query.unpaged.check = query.check := rfl

/-- What a query and the same query without its numbers become. -/
theorem exists_unpaged {fragment : Fragment} (h : query.fragmentWith sub dialect = .ok fragment) :
    ∃ body, query.unpaged.fragmentWith sub dialect = .ok body ∧
      fragment.symbols = body.symbols ++ (query.pageText dialect).map .char := by
  rw [fragmentWith_unpaged] at h
  obtain ⟨body, hbody, rfl⟩ := map_eq_ok.mp h
  refine ⟨body, hbody, ?_⟩
  rw [Fragment.symbols_append, Fragment.symbols_append, symbols_countClause, symbols_countClause,
    pageText, List.map_append, List.append_assoc]

end Query

namespace Symbol

theorem params_map_char (text : List Char) : params (text.map char) = [] := by
  simp [params]

theorem written_map_char {dialect : Dialect} {number : Nat} (text : List Char) :
    written dialect number (text.map char) = text := by
  induction text with
  | nil => rfl
  | cons c text ih => rw [List.map_cons, written, ih]

end Symbol

/-! ## Queries in parentheses -/

namespace Fragment

/-- **A fragment with another one in parentheses.** -/
def Encloses (whole inner : Fragment) : Prop :=
  ∃ before after, whole.symbols =
    before ++ (Symbol.ofText "(" ++ inner.symbols ++ Symbol.ofText ")") ++ after

variable {whole inner : Fragment}

theorem encloses_parenthesized (inner : Fragment) : inner.parenthesized.Encloses inner :=
  ⟨[], [], by rw [symbols_parenthesized, List.nil_append, List.append_nil]⟩

theorem Encloses.append (h : whole.Encloses inner) (next : Fragment) :
    (whole ++ next).Encloses inner := by
  obtain ⟨before, after, hwhole⟩ := h
  refine ⟨before, after ++ next.symbols, ?_⟩
  rw [symbols_append, hwhole, List.append_assoc _ after]

theorem Encloses.prepend (h : whole.Encloses inner) (previous : Fragment) :
    (previous ++ whole).Encloses inner := by
  obtain ⟨before, after, hwhole⟩ := h
  refine ⟨previous.symbols ++ before, after, ?_⟩
  rw [symbols_append, hwhole]
  simp only [List.append_assoc]

/-- What is enclosed stands in parentheses in the text. -/
theorem Encloses.sql_render (h : whole.Encloses inner) (dialect : Dialect) :
    ∃ before after number, (whole.render dialect).sql.toList =
      before ++ '(' :: Symbol.written dialect number inner.symbols ++ ')' :: after := by
  obtain ⟨before, after, hwhole⟩ := h
  rw [Fragment.sql_render, hwhole]
  simp only [Symbol.written_append, Symbol.written_ofText, List.append_assoc]
  exact ⟨_, _, _, rfl⟩

end Fragment

section Sources

open Fragment

variable {sub : Query → Except Violation Fragment}

/-- **Some queries stand in a fragment:** what becomes of each is in
parentheses there. -/
def Query.StandIn (sub : Query → Except Violation Fragment) (inners : List Query)
    (fragment : Fragment) : Prop :=
  ∀ inner ∈ inners, ∃ piece, sub inner = .ok piece ∧ fragment.Encloses piece

/-- **Queries in parentheses are collected along fragments.** -/
theorem Query.collecting_standIn (sub : Query → Except Violation Fragment) :
    Collecting (StandIn sub) where
  ofText _ := fun _ hinner => nomatch hinner
  append := by
    intro first second fragment other hf hs inner hinner
    rcases List.mem_append.mp hinner with hfirst | hsecond
    · obtain ⟨piece, hpiece, hencloses⟩ := hf inner hfirst
      exact ⟨piece, hpiece, hencloses.append other⟩
    · obtain ⟨piece, hpiece, hencloses⟩ := hs inner hsecond
      exact ⟨piece, hpiece, hencloses.prepend fragment⟩
  eq_nil := by
    intro first h
    refine List.eq_nil_iff_forall_not_mem.mpr fun inner hinner => ?_
    -- nothing is in parentheses where there are no symbols
    obtain ⟨_, -, before, after, hsymbols⟩ := h inner hinner
    simp [Symbol.ofText] at hsymbols

theorem Table.standIn_source (table : Table Query) (aliasName : Option String) :
    Yields (fun source => Query.StandIn sub (queries (some table)) source.toFragment)
      (table.source sub aliasName) := by
  cases table with
  | name n => exact yields_ok fun _ hinner => nomatch hinner
  | query inner =>
    refine (yields_self (sub inner)).map fun piece hpiece => ?_
    have henclosed := (encloses_parenthesized piece).append (Source.aliasFragment aliasName)
    exact List.forall_mem_singleton.mpr ⟨piece, hpiece, henclosed⟩

theorem Join.standIn_fragment (join : Join Query) :
    Yields (Query.StandIn sub (Table.queries join.table)) (join.fragment sub) := by
  have hsource : Yields (fun source => Query.StandIn sub (Table.queries join.table)
      source.toFragment) (join.source sub) := by
    unfold source
    rcases join.table with _ | table
    · exact yields_error _
    · exact table.standIn_source join.sourceAlias
  have hcondition : ∀ filter : Filter, Yields (Query.StandIn sub []) filter.fragment :=
    fun _ _ _ _ hinner => nomatch hinner
  refine (yields_self join.kindOf).bind fun kind _ => ?_
  refine hsource.bind fun source hs => ?_
  refine (yields_optional join.condition hcondition).bind fun condition hc => yields_ok ?_
  have hwhole := (Query.collecting_standIn sub).joinFragment kind hs hc
  exact fun inner hinner => hwhole inner (List.mem_append_left _ hinner)

/-- **The queries that a query reads from stand in what becomes of it.** They
stand in its table and its joins, and in no other clause. -/
theorem Query.standIn_fragmentWith (dialect : Dialect) (query : Query) :
    Yields (StandIn sub query.sources) (query.fragmentWith sub dialect) := by
  have hnone {result : Except Violation Fragment} : Yields (StandIn sub []) result :=
    fun _ _ _ hinner => nomatch hinner
  have hcolumns (columns : List Column) (showAlias : Bool) :
      Yields (List.Forall₂ (fun _ fragment => StandIn sub [] fragment) columns)
        (Column.fragments columns showAlias) := by
    rw [Column.fragments_eq_mapM]
    exact yields_each columns fun _ => hnone
  have hsource : Yields (fun source => StandIn sub (Table.queries query.table) source.toFragment)
      (query.source sub) := by
    unfold source
    rcases query.table with _ | table
    · exact yields_error _
    · exact table.standIn_source query.tableAlias
  have hclauses := (collecting_standIn sub).fragmentWith dialect (fun _ => hcolumns _ true)
    (fun _ _ => hnone) hsource (fun join _ => join.standIn_fragment) (fun _ _ => hnone)
    (hcolumns _ false) (fun _ _ => hnone) (fun _ _ => hnone)
  intro fragment hfragment inner hinner
  refine hclauses fragment hfragment inner ?_
  rw [sources, List.mem_append] at hinner
  simp only [List.mem_append]
  tauto

end Sources

/-! ## The main result -/

namespace Query

variable {dialect : Dialect} {query : Query}

/-- The queries inside a query that keeps the rules are those that it reads
from: these read from none. -/
theorem Checked.mem_sources_of_mem_inside (h : query.Checked nestedCheck) {inner : Query}
    (hinner : inner ∈ query.inside) : inner ∈ query.sources := by
  rw [inside_eq_flatMap] at hinner
  obtain ⟨source, hsource, hmem⟩ := List.mem_flatMap.mp hinner
  have hsourceChecked : source.Checked refuse := checked_of_checkWith (h.sources source hsource)
  rw [inside_eq_nil_of_sources hsourceChecked.sources_eq_nil] at hmem
  rwa [List.mem_singleton.mp hmem]

/-- **A text from which a database reads the rows that a query asks for.** The
window it says selects them, and in all dialects but one it does not skip
rows without a limit before. -/
def Pages (dialect : Dialect) (query : Query) (text : List Char) : Prop :=
  ∃ window, Window.read? text = some window ∧
    (∀ (α : Type) (rows : List α), rows.length < 2 ^ 63 → window.select rows = query.page rows) ∧
    (dialect ≠ .postgres → window.skipped.isSome = true → window.kept.isSome = true)

theorem pages_pageText (dialect : Dialect) (query : Query) :
    query.Pages dialect (query.pageText dialect) :=
  ⟨query.window dialect, Window.read?_countText _ _,
    fun _ _ hrows => query.select_window dialect hrows,
    fun hdialect => isSome_kept_window hdialect query⟩

/-- **A statement that ends in the page of its query,** and has that of each
query inside at the end of what is built of this one. Without the page it
is the statement of the same query without its two numbers. -/
structure Paged (dialect : Dialect) (query : Query) (statement : Statement) : Prop where
  atEnd : ∃ body text, query.unpaged.toStatement dialect = .ok body ∧
    statement.params = body.params ∧ statement.sql.toList = body.sql.toList ++ text ∧
    query.Pages dialect text
  inside : ∀ inner ∈ query.inside, ∃ body text before after number,
    (Node.nestedQuery inner.unpaged).Builds dialect body ∧
    statement.sql.toList =
      before ++ '(' :: (Symbol.written dialect number body.symbols ++ text) ++ ')' :: after ∧
    inner.Pages dialect text

/-- **The end of a statement selects the rows that its query asks for,** and
so does what stands before the closing parenthesis of a query inside. -/
theorem paged_of_toStatement {statement : Statement}
    (h : query.toStatement dialect = .ok statement) : query.Paged dialect statement := by
  obtain ⟨_, fragment, -, -, houtcome, rfl⟩ := built_of_toStatement h
  obtain ⟨_, hcheck, hfragment⟩ := bind_eq_ok.mp houtcome
  constructor
  · obtain ⟨body, hbody, hsymbols⟩ := exists_unpaged hfragment
    have hunpaged : query.unpaged.outcome dialect = .ok body :=
      bind_eq_ok.mpr ⟨(), query.check_unpaged.trans hcheck, hbody⟩
    refine ⟨body.render dialect, query.pageText dialect, ?_, ?_, ?_, pages_pageText dialect query⟩
    · rw [toStatement_eq, hunpaged]
      rfl
    · rw [Fragment.params_render, Fragment.params_render, ← Fragment.params_symbols, hsymbols,
        Symbol.params_append, Symbol.params_map_char, List.append_nil, Fragment.params_symbols]
    · rw [Fragment.sql_render, Fragment.sql_render, hsymbols, Symbol.written_append,
        Symbol.written_map_char]
  · intro inner hinside
    have hchecked := checked_of_check hcheck
    have hinner := hchecked.mem_sources_of_mem_inside hinside
    obtain ⟨piece, hpiece, hencloses⟩ :=
      query.standIn_fragmentWith dialect fragment hfragment inner hinner
    obtain ⟨body, hbody, hsymbols⟩ := exists_unpaged hpiece
    obtain ⟨before, after, number, hsql⟩ := hencloses.sql_render dialect
    have hbuilds : (Node.nestedQuery inner.unpaged).Builds dialect body :=
      Node.builds_nestedQuery_iff.mpr ⟨hchecked.sources inner hinner, hbody⟩
    refine ⟨body, inner.pageText dialect, before, after, number, hbuilds, ?_,
      pages_pageText dialect inner⟩
    rw [hsql, hsymbols, Symbol.written_append, Symbol.written_map_char]

/-- A query whose limit of zero limits nothing, over a query that skips rows
too. -/
def laterAlbums : Query where
  action := some "query"
  table := some (.query {
    table := some (.name "albums"), aliasName := some "a", limit := some 50, offset := some 10 })
  limit := some 0
  offset := some 20

theorem paged_laterAlbums :
    ∃ statement, laterAlbums.toStatement .sqlite = .ok statement ∧
      statement.sql = "SELECT * FROM (SELECT * FROM `albums` LIMIT 50 OFFSET 10) AS `a`" ++
        " LIMIT 9223372036854775807 OFFSET 20" ∧
      laterAlbums.Paged .sqlite statement := by
  have hsql : (laterAlbums.toStatement .sqlite).toOption = some {
      sql := "SELECT * FROM (SELECT * FROM `albums` LIMIT 50 OFFSET 10) AS `a`" ++
        " LIMIT 9223372036854775807 OFFSET 20"
      params := [] } := by decide +kernel
  have hstatement := eq_ok_of_toOption hsql
  exact ⟨_, hstatement, rfl, paged_of_toStatement hstatement⟩

end Query

end QueryTree
