import QueryTree.Proofs.QueryTracking
import QueryTree.Proofs.Violations
import Mathlib.Data.List.Perm.Basic
/-!
# Validation — a query is refused for the rules that it breaks, and only for those

The checks go through a query in some order and stop at the first rule
that is broken, and some of them wait until the query is built. Here they
are compared with the list of all the rules that the query breaks
(`Query.earlyViolations`, `Query.lateViolations`): no rule is forgotten,
none is made up, and what a query is refused for is in the list.

One relation carries this from the names up to the query: a chain of
checks `Decides` a list of violations.
-/

namespace QueryTree

variable {α β : Type} {broken others : List Violation}

/-! ## Deciding -/

/-- **A result decides some violations:** it is an answer if there are none,
and else it refuses for one of them. -/
def Decides (broken : List Violation) : Except Violation α → Prop
  | .ok _ => broken = []
  | .error violation => violation ∈ broken

theorem decides_ok (a : α) : Decides [] (.ok a) := rfl

theorem decides_error (violation : Violation) :
    Decides [violation] (.error violation : Except Violation α) := List.mem_singleton_self violation

theorem decides_unless (violation : Violation) (rule : Bool) :
    Decides (violation.unless rule) (if rule then .ok () else .error violation) := by
  cases rule with
  | true => exact decides_ok ()
  | false => exact decides_error violation

namespace Decides

variable {result : Except Violation α}

/-- A result may decide more violations than it looks for, if these are
there only together with some that it does look for. -/
theorem mono (h : Decides broken result) (hsub : broken ⊆ others)
    (hnil : broken = [] → others = []) : Decides others result := by
  cases result with
  | ok a => exact hnil h
  | error violation => exact hsub h

/-- The order of the violations does not matter, nor how often each is
listed. -/
theorem congr (h : Decides broken result)
    (hmem : ∀ violation, violation ∈ broken ↔ violation ∈ others) :
    Decides others result := by
  refine h.mono (fun violation => (hmem violation).mp) fun hnil => ?_
  refine List.eq_nil_iff_forall_not_mem.mpr fun violation hv => ?_
  have hmem := (hmem violation).mpr hv
  rw [hnil] at hmem
  exact List.not_mem_nil hmem

theorem map (h : Decides broken result) (f : α → β) : Decides broken (result.map f) := by
  cases result <;> exact h

/-- **One check after another** decides the violations of both. -/
theorem bind {next : α → Except Violation β} (h : Decides broken result)
    (hnext : ∀ a, result = .ok a → Decides others (next a)) :
    Decides (broken ++ others) (result >>= next) := by
  cases result with
  | ok a =>
    have hnil : broken = [] := h
    rw [hnil]
    exact hnext a rfl
  | error violation => exact List.mem_append_left others h

/-- What comes after the last check. -/
theorem bind_ok (h : Decides broken result) (f : α → β) :
    Decides broken (result >>= fun a => .ok (f a)) := by
  cases result <;> exact h

theorem guard (h : Decides broken result) (violation : Violation) (condition : Bool) :
    Decides (violation.unless (!condition) ++ broken) (do
      if condition then .error violation
      result) := by
  cases condition with
  | true => exact List.mem_cons_self
  | false => exact h

theorem exists_ok_iff (h : Decides broken result) :
    (∃ a, result = .ok a) ↔ broken = [] := by
  cases result with
  | ok a => exact ⟨fun _ => h, fun _ => ⟨a, rfl⟩⟩
  | error violation =>
    refine ⟨fun ⟨a, ha⟩ => (nomatch ha), fun hnil => ?_⟩
    rw [hnil] at h
    cases h

theorem mem_of_eq_error {violation : Violation}
    (h : Decides broken result) (herror : result = .error violation) : violation ∈ broken := by
  rw [herror] at h
  exact h

/-- What is made while rules are checked decides what the check does. -/
theorem of_made {good : α → Prop} {made : Except Violation α}
    {checked : Except Violation Unit} (h : Decides broken checked)
    (hmade : Made good made checked) : Decides broken made := by
  cases made with
  | ok a =>
    rw [hmade.of_ok.1] at h
    exact h
  | error violation =>
    rw [hmade.of_error] at h
    exact h

end Decides

/-- What was looked at before. -/
theorem decides_nil_of_map {result : Except Violation α} {f : α → β} {b : β}
    (h : result.map f = .ok b) : Decides [] result := by
  obtain ⟨a, rfl, -⟩ := map_eq_ok.mp h
  exact decides_ok a

section Lists

variable {ν : Type} {collected : ν → List Violation}

theorem decides_forM {check : ν → Except Violation Unit} (nodes : List ν)
    (h : ∀ node, Decides (collected node) (check node)) :
    Decides (nodes.flatMap collected) (nodes.forM check) := by
  induction nodes with
  | nil => exact decides_ok ()
  | cons node nodes ih =>
    rw [List.flatMap_cons]
    exact (h node).bind fun _ _ => ih

theorem decides_option_forM {check : ν → Except Violation Unit} (node : Option ν)
    (h : ∀ node, Decides (collected node) (check node)) :
    Decides (node.elim [] collected) (node.forM check) := by
  cases node with
  | none => exact decides_ok ()
  | some node => exact h node

theorem decides_mapM {f : ν → Except Violation α} {nodes : List ν}
    (h : ∀ node ∈ nodes, Decides (collected node) (f node)) :
    Decides (nodes.flatMap collected) (nodes.mapM f) := by
  induction nodes with
  | nil => exact decides_ok []
  | cons node nodes ih =>
    obtain ⟨hnode, hnodes⟩ := List.forall_mem_cons.mp h
    rw [List.flatMap_cons, List.mapM_cons]
    exact hnode.bind fun a _ => (ih hnodes).bind_ok (a :: ·)

theorem decides_option_mapM {f : ν → Except Violation α} {node : Option ν}
    (h : ∀ n ∈ node, Decides (collected n) (f n)) :
    Decides (node.elim [] collected) (node.mapM f) := by
  cases node with
  | none => exact decides_ok none
  | some node => exact (h node rfl).map some

end Lists

/-! ## Names and literals -/

/-- A name is refused where it is empty, for whatever that breaks. -/
theorem decides_nonempty (violation : Violation) (name : String) :
    Decides (violation.unless (name ≠ ""))
      (if name.isEmpty then .error violation else .ok ()) := by
  by_cases hname : name = ""
  · subst hname
    exact decides_error violation
  · have hempty : name.isEmpty = false := by simpa using hname
    simp only [hempty, hname, ne_eq, not_false_eq_true, decide_true]
    exact decides_ok ()

theorem decides_checkName (context name : String) :
    Decides (nameViolations context name) (checkName context name) :=
  decides_nonempty (.emptyName context) name

theorem decides_checkAlias (context : String) (aliasName : Option String) :
    Decides (aliasViolations context aliasName) (checkAlias context aliasName) := by
  cases aliasName with
  | none => exact decides_ok ()
  | some name => exact decides_checkName context name

theorem decides_checkCastType (cast : Option String) :
    Decides (castViolations cast) (checkCastType cast) := by
  cases cast with
  | none => exact decides_ok ()
  | some type => exact decides_unless (.invalidCastType type) (isCastType type)

theorem Json.decides_toParam (value : Json) : Decides value.violations value.toParam := by
  rcases value with _ | b | (n | x) | s | values | members
  · exact decides_ok _
  · exact decides_ok _
  · change Decides [] (if _ then _ else _)
    split <;> exact decides_ok _
  · exact decides_ok _
  · exact decides_ok _
  · exact decides_error _
  · exact decides_error _

theorem decides_paramsOf (values : List Json) :
    Decides (values.flatMap Json.violations) (paramsOf values) := by
  induction values with
  | nil => exact decides_ok []
  | cons value values ih =>
    rw [List.flatMap_cons]
    exact value.decides_toParam.bind fun param _ => ih.bind_ok (param :: ·)

/-! ## Columns -/

namespace Column

theorem decides_check (column : Column) : Decides column.violations column.check := by
  cases column with
  | named column =>
    rw [violations, List.append_assoc]
    refine (decides_checkName "column" column.column).bind fun _ _ => ?_
    exact (decides_checkCastType column.cast).bind fun _ _ => decides_checkAlias _ _
  | function call =>
    have hname := decides_unless (.invalidFunctionName call.function) (isFunctionName call.function)
    exact hname.bind fun _ _ => decides_checkAlias _ _
  | value literal =>
    rw [violations, List.append_assoc]
    refine literal.value.decides_toParam.bind fun _ _ => ?_
    exact (decides_checkCastType literal.cast).bind fun _ _ => decides_checkAlias _ _

theorem decides_checkAll (columns : List Column) :
    Decides (columns.flatMap violations) (checkAll columns) := by
  induction columns with
  | nil => exact decides_ok ()
  | cons column columns ih =>
    rw [List.flatMap_cons]
    exact column.decides_check.bind fun _ _ => ih

theorem mem_insideViolations_function {call : FunctionColumn Column} {violation : Violation} :
    violation ∈ (function call).insideViolations ↔
      violation ∈ call.parameters.flatMap violations ++
        call.parameters.flatMap insideViolations := by
  rw [insideViolations, inside_function, List.flatMap_assoc]
  exact (List.flatMap_append_perm call.parameters violations insideViolations).symm.mem_iff

end Column

mutual

/-- **A column that keeps its own rules** is built if what is inside it
keeps them too. -/
theorem Column.decides_fragment : ∀ (column : Column) (showAlias : Bool),
    column.check = .ok () → Decides column.insideViolations (column.fragment showAlias)
  | .named column, showAlias, _ => decides_ok _
  | .function ⟨name, parameters, aliasName⟩, showAlias, _ => by
    refine Decides.congr ?_ fun _ => Column.mem_insideViolations_function.symm
    unfold Column.fragment
    refine (Column.decides_checkAll parameters).bind fun _ hcheck => ?_
    exact (Column.decides_fragments parameters false hcheck).bind_ok _
  | .value literal, showAlias, hcheck => by
    obtain ⟨⟨param, hparam⟩, -, -⟩ := Column.check_value hcheck
    unfold Column.fragment
    rw [hparam]
    exact decides_ok _

/-- Columns that keep their own rules. -/
theorem Column.decides_fragments : ∀ (columns : List Column) (showAlias : Bool),
    Column.checkAll columns = .ok () →
    Decides (columns.flatMap Column.insideViolations) (Column.fragments columns showAlias)
  | [], _, _ => decides_ok []
  | column :: columns, showAlias, hcheck => by
    obtain ⟨hcolumn, hcolumns⟩ := Column.checkAll_cons hcheck
    rw [List.flatMap_cons]
    unfold Column.fragments
    refine (Column.decides_fragment column showAlias hcolumn).bind fun fragment _ => ?_
    exact (Column.decides_fragments columns showAlias hcolumns).bind_ok _

end
/-! ## Filters -/

namespace ComparisonFilter

theorem decides_checkOperand (filter : ComparisonFilter) :
    Decides
      (Violation.comparisonOperand.unless (filter.value.isSome ≠ filter.rightColumn.isSome) ++
        filter.value.elim [] Json.violations ++ filter.rightColumn.toList.flatMap Column.violations)
      filter.checkOperand := by
  obtain ⟨column, operator, _ | value, _ | right⟩ := filter
  · exact decides_error .comparisonOperand
  · exact right.decides_check.congr fun _ => by simp [Violation.unless]
  · exact (value.decides_toParam.map _).congr fun _ => by simp [Violation.unless]
  · exact List.mem_cons_self

theorem decides_check (filter : ComparisonFilter) :
    Decides (Filter.comparison filter).violations filter.check := by
  rw [Filter.violations_of_parts rfl, Filter.stepViolations, Filter.ownViolations, Filter.sides,
    List.flatMap_cons]
  unfold check
  cases hoperator : Operator.ofText? filter.operator with
  | none => exact List.mem_append_left _ List.mem_cons_self
  | some operator =>
    have hsides := filter.decides_checkOperand.bind fun _ _ =>
      filter.column.toColumn.decides_check
    refine hsides.congr fun _ => ?_
    simp only [List.mem_append, Option.isSome_some, Violation.unless, if_true, List.nil_append]
    exact iff_of_eq (by ac_rfl)

end ComparisonFilter

mutual

/-- **The checks of a filter decide its violations,** through the whole
tree. -/
theorem Filter.decides_check : ∀ filter : Filter, Decides filter.violations filter.check
  | .comparison filter => filter.decides_check
  | .membership filter => by
    rw [Filter.violations_of_parts rfl, Filter.stepViolations, Filter.ownViolations, Filter.sides,
      List.flatMap_singleton]
    have hrest := filter.column.toColumn.decides_check.bind fun _ _ =>
      (decides_paramsOf filter.values).map fun _ => ()
    refine (hrest.guard (.emptyList "in") filter.values.isEmpty).congr fun _ => ?_
    simp only [List.mem_append]
    exact iff_of_eq (by ac_rfl)
  | .like filter => by
    rw [Filter.violations_of_parts rfl, Filter.stepViolations, Filter.ownViolations, Filter.sides,
      List.flatMap_singleton]
    have hrest := filter.column.toColumn.decides_check.bind fun _ _ =>
      filter.pattern.decides_toParam.map fun _ => ()
    refine hrest.congr fun _ => ?_
    rw [List.mem_append, List.mem_append, or_comm]
  | .isNull filter => by
    rw [Filter.violations_of_parts rfl, Filter.stepViolations, Filter.ownViolations, Filter.sides,
      List.flatMap_singleton, List.nil_append]
    exact filter.column.toColumn.decides_check
  | .and operands => by
    rw [Filter.violations_and]
    exact (Filter.decides_checkAll operands).guard (.emptyList "and") operands.isEmpty
  | .or operands => by
    rw [Filter.violations_or]
    exact (Filter.decides_checkAll operands).guard (.emptyList "or") operands.isEmpty
  | .not operand => by
    rw [Filter.violations_not]
    exact Filter.decides_check operand

theorem Filter.decides_checkAll : ∀ filters : List Filter,
    Decides (filters.flatMap Filter.violations) (Filter.checkAll filters)
  | [] => decides_ok ()
  | filter :: filters => by
    rw [List.flatMap_cons]
    exact (Filter.decides_check filter).bind fun _ _ => Filter.decides_checkAll filters

end

namespace ComparisonFilter

theorem decides_operandFragment {filter : ComparisonFilter} (h : filter.checkOperand = .ok ()) :
    Decides (filter.rightColumn.toList.flatMap Column.insideViolations) filter.operandFragment := by
  obtain ⟨column, operator, _ | value, _ | right⟩ := filter
  · cases h
  · rw [Option.toList_some, List.flatMap_singleton]
    exact right.decides_fragment false h
  · exact (decides_nil_of_map h : Decides [] value.toParam).map _
  · cases h

theorem decides_fragment {filter : ComparisonFilter} (h : filter.check = .ok ()) :
    Decides ((Filter.comparison filter).columns.flatMap Column.insideViolations)
      filter.fragment := by
  unfold check at h
  cases hoperator : Operator.ofText? filter.operator with
  | none =>
    rw [hoperator] at h
    cases h
  | some operator =>
    rw [hoperator] at h
    obtain ⟨_, hright, hleft⟩ := bind_eq_ok.mp h
    rw [Filter.columns_of_parts rfl, Filter.sides, List.flatMap_cons]
    refine (filter.column.toColumn.decides_fragment false hleft).bind fun left _ => ?_
    exact (decides_operandFragment hright).bind_ok _

end ComparisonFilter

theorem InFilter.decides_fragment {filter : InFilter}
    (hcolumn : filter.column.toColumn.check = .ok ())
    (hvalues : (paramsOf filter.values).map (fun _ => ()) = .ok ()) :
    Decides filter.column.toColumn.insideViolations filter.fragment := by
  rw [← List.append_nil (Column.insideViolations _)]
  refine (filter.column.toColumn.decides_fragment false hcolumn).bind fun column _ => ?_
  exact (decides_nil_of_map hvalues).bind_ok _

theorem LikeFilter.decides_fragment {filter : LikeFilter}
    (hcolumn : filter.column.toColumn.check = .ok ())
    (hpattern : filter.pattern.toParam.map (fun _ => ()) = .ok ()) :
    Decides filter.column.toColumn.insideViolations filter.fragment := by
  rw [← List.append_nil (Column.insideViolations _)]
  refine (filter.column.toColumn.decides_fragment false hcolumn).bind fun column _ => ?_
  exact (decides_nil_of_map hpattern).bind_ok _

mutual

/-- **A filter that keeps its own rules** is built if what is inside its
columns keeps them too. -/
theorem Filter.decides_fragment : ∀ filter : Filter, filter.check = .ok () →
    Decides (filter.columns.flatMap Column.insideViolations) filter.fragment
  | .comparison _, hcheck => ComparisonFilter.decides_fragment hcheck
  | .membership filter, hcheck => by
    unfold Filter.check at hcheck
    obtain ⟨_, hcolumn, hvalues⟩ := bind_eq_ok.mp (eq_ok_of_guard hcheck)
    rw [Filter.columns_of_parts rfl, Filter.sides, List.flatMap_singleton]
    exact InFilter.decides_fragment hcolumn hvalues
  | .like filter, hcheck => by
    obtain ⟨_, hcolumn, hpattern⟩ := bind_eq_ok.mp hcheck
    rw [Filter.columns_of_parts rfl, Filter.sides, List.flatMap_singleton]
    exact LikeFilter.decides_fragment hcolumn hpattern
  | .isNull filter, hcheck => by
    rw [Filter.columns_of_parts rfl, Filter.sides, List.flatMap_singleton]
    exact (filter.column.toColumn.decides_fragment false hcheck).bind_ok _
  | .and operands, hcheck => by
    unfold Filter.check at hcheck
    rw [Filter.columns_and]
    exact (Filter.decides_operandFragments operands (eq_ok_of_guard hcheck)).map _
  | .or operands, hcheck => by
    unfold Filter.check at hcheck
    rw [Filter.columns_or]
    exact (Filter.decides_operandFragments operands (eq_ok_of_guard hcheck)).map _
  | .not operand, hcheck => by
    rw [Filter.columns_not]
    exact (Filter.decides_fragment operand hcheck).map _

theorem Filter.decides_operandFragments : ∀ filters : List Filter,
    Filter.checkAll filters = .ok () →
    Decides ((filters.flatMap Filter.columns).flatMap Column.insideViolations)
      (Filter.operandFragments filters)
  | [], _ => decides_ok []
  | filter :: filters, hcheck => by
    obtain ⟨_, hfilter, hfilters⟩ := bind_eq_ok.mp hcheck
    rw [List.flatMap_cons, List.flatMap_append]
    unfold Filter.operandFragments
    refine (Filter.decides_fragment filter hfilter).bind fun fragment _ => ?_
    exact (Filter.decides_operandFragments filters hfilters).bind_ok _

end

/-! ## Clauses -/

namespace OrderByElement

theorem decides_directionOf (element : OrderByElement) :
    Decides element.directionViolations element.directionOf := by
  unfold directionViolations directionOf
  cases element.direction with
  | none => exact decides_ok _
  | some name =>
    cases hdirection : Direction.ofName? name with
    | none => simp [hdirection, Violation.unless, Decides]
    | some direction => simp [hdirection, Violation.unless, Decides]

theorem decides_checkAll (elements : List OrderByElement) :
    Decides (violations elements) (checkAll elements) := by
  refine Decides.guard ?_ (.emptyList "order_by") elements.isEmpty
  refine decides_forM elements fun element => ?_
  exact element.column.toColumn.decides_check.bind fun _ _ => element.decides_directionOf.map _

theorem decides_joinedFragment {elements : List OrderByElement}
    (hcheck : checkAll elements = .ok ()) :
    Decides ((columns elements).flatMap Column.insideViolations) (joinedFragment elements) := by
  unfold columns
  rw [List.flatMap_map]
  refine (decides_mapM fun element helement => ?_).map _
  have hcheck := eq_ok_of_forM (eq_ok_of_guard hcheck) element helement
  obtain ⟨_, hcolumn, hdirection⟩ := bind_eq_ok.mp hcheck
  refine (decides_nil_of_map hdirection).bind fun direction _ => ?_
  exact (element.column.toColumn.decides_fragment false hcolumn).bind_ok _

end OrderByElement

namespace Distinct

theorem decides_check (distinct : Distinct) : Decides distinct.violations distinct.check := by
  unfold violations
  rw [List.append_assoc]
  refine Decides.guard ?_ (.emptyList "distinct.columns") distinct.columns.isEmpty
  refine (decides_option_forM distinct.key Column.decides_check).bind fun _ _ => ?_
  exact Column.decides_checkAll distinct.columns

theorem decides_fragment {distinct : Distinct} (hcheck : distinct.check = .ok ()) :
    Decides (distinct.allColumns.flatMap Column.insideViolations) distinct.fragment := by
  unfold check at hcheck
  obtain ⟨_, hkey, hcolumns⟩ := bind_eq_ok.mp (eq_ok_of_guard hcheck)
  have hkeys : ∀ column ∈ distinct.key,
      Decides column.insideViolations (column.fragment false) := by
    intro column hc
    exact column.decides_fragment false (eq_ok_of_option_forM hkey column hc)
  have hkeyList : distinct.key.toList.flatMap Column.insideViolations =
      distinct.key.elim [] Column.insideViolations ++ [] := by
    cases distinct.key <;> simp
  rw [allColumns, List.flatMap_append, hkeyList]
  refine (Column.decides_fragments distinct.columns true hcolumns).bind fun columns _ => ?_
  refine (decides_option_mapM hkeys).bind fun key _ => ?_
  cases key <;> exact decides_ok _

end Distinct

section Subqueries

variable {sub : Query → Except Violation Unit} {collected : Query → List Violation}
variable {built : Query → Except Violation Fragment}

namespace Join

theorem decides_checkTable (hsub : ∀ inner, Decides (collected inner) (sub inner))
    (join : Join Query) :
    Decides (join.tableViolations ++ (Table.queries join.table).flatMap collected)
      (join.checkTable sub) := by
  unfold tableViolations checkTable
  rcases join.table with _ | name | inner
  · exact decides_error .missingJoinTable
  · change Decides (nameViolations "join table" name ++ []) _
    rw [List.append_nil]
    exact decides_checkName "join table" name
  · rw [Table.queries, List.flatMap_singleton]
    exact hsub inner

theorem decides_checkCondition {join : Join Query} {kind : JoinKind}
    (h : JoinKind.ofName? join.kind = some kind) :
    Decides (join.conditionViolations ++ join.condition.elim [] Filter.violations)
      (join.checkCondition kind) := by
  unfold conditionViolations checkCondition
  rw [h]
  cases join.condition with
  | none =>
    cases kind
    case cross => exact decides_ok ()
    all_goals exact decides_error (.missingCondition join.kind)
  | some filter =>
    cases kind
    case cross => exact List.mem_cons_self
    all_goals exact filter.decides_check

theorem decides_check (hsub : ∀ inner, Decides (collected inner) (sub inner)) (join : Join Query) :
    Decides (join.violations ++ (Table.queries join.table).flatMap collected) (join.check sub) := by
  unfold violations check
  cases hkind : JoinKind.ofName? join.kind with
  | none => exact List.mem_append_left _ (by simp [Violation.unless])
  | some kind =>
    have hrest := (decides_checkCondition hkind).bind fun _ _ =>
      decides_checkAlias "join alias" join.aliasName
    refine ((join.decides_checkTable hsub).bind fun _ _ => hrest).congr fun _ => ?_
    simp only [List.mem_append, Option.isSome_some, Violation.unless, if_true, List.not_mem_nil,
      false_or]
    exact iff_of_eq (by ac_rfl)

end Join

namespace Query

theorem decides_checkTable (hsub : ∀ inner, Decides (collected inner) (sub inner))
    (query : Query) :
    Decides (query.tableViolations ++ (Table.queries query.table).flatMap collected)
      (query.checkTable sub) := by
  unfold tableViolations checkTable
  rcases query.table with _ | name | inner
  · exact decides_error .missingTable
  · change Decides (Violation.missingTable.unless (name ≠ "") ++ []) _
    rw [List.append_nil]
    exact decides_nonempty .missingTable name
  · rw [Table.queries, List.flatMap_singleton]
    exact hsub inner

/-- **The checks of a query decide its violations,** where the checks of the
queries that it reads from decide theirs. -/
theorem decides_checkWith (hsub : ∀ inner, Decides (collected inner) (sub inner))
    (query : Query) :
    Decides (query.ownViolations ++ query.sources.flatMap collected) (query.checkWith sub) := by
  have hchecks := (query.decides_checkTable hsub).bind fun _ _ =>
    (decides_checkAlias "query alias" query.aliasName).bind fun _ _ =>
    (decides_forM query.joins (Join.decides_check hsub)).bind fun _ _ =>
    (decides_option_forM query.filter Filter.decides_check).bind fun _ _ =>
    (Column.decides_checkAll (query.groupBy.getD [])).bind fun _ _ =>
    (decides_option_forM query.having Filter.decides_check).bind fun _ _ =>
    (decides_option_forM query.orderBy OrderByElement.decides_checkAll).bind fun _ _ =>
    decides_option_forM query.distinct Distinct.decides_check
  refine hchecks.congr fun violation => ?_
  have hjoins := (List.flatMap_append_perm query.joins Join.violations fun join =>
    (Table.queries join.table).flatMap collected).mem_iff (a := violation)
  simp only [ownViolations, sources, List.flatMap_append, List.flatMap_assoc, List.mem_append]
  rw [← hjoins, List.mem_append]
  exact iff_of_eq (by ac_rfl)

end Query

theorem Table.decides_source {table : Table Query}
    (hsub : ∀ inner ∈ queries (some table), Decides (collected inner) (built inner))
    (aliasName : Option String) :
    Decides ((queries (some table)).flatMap collected) (table.source built aliasName) := by
  cases table with
  | name n => exact decides_ok _
  | query inner =>
    rw [queries, List.flatMap_singleton]
    exact (hsub inner List.mem_cons_self).map _

theorem Join.decides_fragment {join : Join Query}
    (hsub : ∀ inner ∈ Table.queries join.table, Decides (collected inner) (built inner))
    (hcheck : join.Checked sub) :
    Decides
      (join.columns.flatMap Column.insideViolations ++
        (Table.queries join.table).flatMap collected)
      (join.fragment built) := by
  obtain ⟨kind, hkind⟩ := hcheck.kind
  have hsource : Decides ((Table.queries join.table).flatMap collected) (join.source built) := by
    obtain ⟨table, htable⟩ := Option.isSome_iff_exists.mp hcheck.hasTable
    unfold source
    rw [htable] at hsub ⊢
    exact Table.decides_source hsub join.sourceAlias
  have hcondition : Decides (join.columns.flatMap Column.insideViolations)
      (join.condition.mapM Filter.fragment) := by
    rw [columns, flatMap_elim]
    exact decides_option_mapM fun filter hf =>
      filter.decides_fragment (hcheck.condition filter hf)
  have hboth := hsource.bind fun source _ => hcondition.bind_ok (joinFragment kind source)
  unfold Join.fragment
  rw [hkind]
  exact hboth.congr fun _ => by rw [List.mem_append, List.mem_append, or_comm]

namespace Query

/-- What stands for a missing select list breaks no rule. -/
theorem flatMap_violations_selectedColumns (query : Query) :
    query.selectedColumns.flatMap Column.violations =
      (query.columns.getD []).flatMap Column.violations := by
  have hdefault : query.defaultColumns.flatMap Column.violations = [] := by
    rw [defaultColumns]
    split <;> rfl
  rw [selectedColumns_eq]
  cases query.columns with
  | none => exact hdefault
  | some columns => rfl

/-- **A query that keeps the rules for its clauses** is built if its columns
keep theirs, and the queries that it reads from are built. -/
theorem decides_fragmentWith {query : Query} (dialect : Dialect)
    (hsub : ∀ inner ∈ query.sources, Decides (collected inner) (built inner))
    (hcheck : query.Checked sub) :
    Decides (query.columnViolations ++ query.sources.flatMap collected)
      (query.fragmentWith built dialect) := by
  have hsource : Decides ((Table.queries query.table).flatMap collected)
      (query.source built) := by
    obtain ⟨table, htable⟩ := Option.isSome_iff_exists.mp hcheck.hasTable
    unfold source
    rw [htable]
    refine Table.decides_source (fun inner h => ?_) query.tableAlias
    exact hsub inner (mem_sources_of_table (htable ▸ h))
  have hjoins := decides_mapM fun join hj =>
    Join.decides_fragment (fun inner h => hsub inner (mem_sources_of_join hj h))
      (hcheck.joins join hj)
  have hfilter := decides_option_mapM fun filter hf =>
    Filter.decides_fragment filter (hcheck.filter filter hf)
  have hgroupBy := Column.decides_fragments _ false hcheck.groupBy
  have hhaving := decides_option_mapM fun having hh =>
    Filter.decides_fragment having (hcheck.having having hh)
  have horderBy := decides_option_mapM fun elements ho =>
    OrderByElement.decides_joinedFragment (hcheck.orderBy elements ho)
  have hdistinct := decides_option_mapM fun distinct hd =>
    Distinct.decides_fragment (hcheck.distinct distinct hd)
  -- in the order they are built in
  have hbuilt := (Column.decides_checkAll query.selectedColumns).bind fun _ hcolumns =>
    (Column.decides_fragments _ true hcolumns).bind fun columns _ =>
    hdistinct.bind fun distinct _ => hsource.bind fun source _ => hjoins.bind fun joins _ =>
    hfilter.bind fun filter _ => hgroupBy.bind fun groupBy _ => hhaving.bind fun having _ =>
    horderBy.bind_ok fun orderBy => Select.toFragment {
      distinct, columns, source := some source, joins, filter, groupBy, having, orderBy
      limit := dialect.limit (QueryState.positive? query.limit)
        (QueryState.positive? query.offset) }
  rw [fragmentWith, select_map_toFragment]
  refine hbuilt.congr fun violation => ?_
  have hjoined := (List.flatMap_append_perm query.joins
    (fun join => join.columns.flatMap Column.insideViolations)
    fun join => (Table.queries join.table).flatMap collected).mem_iff (a := violation)
  simp only [columnViolations, ← flatMap_violations_selectedColumns, allColumns_eq, clauseColumns,
    sources, List.flatMap_append, List.flatMap_assoc, flatMap_elim, List.mem_append]
  rw [← hjoined, List.mem_append]
  exact iff_of_eq (by ac_rfl)

end Query

end Subqueries

/-! ## Queries at the top -/

namespace Action

/-- The names of actions. -/
theorem isSome_ofName? (action : Option String) : (action.bind ofName?).isSome =
    decide (action ∈ [some "query", some "subquery", some "temporary_table"]) := by
  cases action with
  | none => decide
  | some name =>
    rw [Option.bind_some]
    unfold ofName?
    split <;> simp_all

/-- Only for the action `query` may there be queries. -/
theorem isNested_of_ofName? {action : Option String} {kind : Action}
    (h : action.bind ofName? = some kind) : kind.isNested = decide (action ≠ some "query") := by
  cases action with
  | none => cases h
  | some name =>
    rw [Option.bind_some] at h
    unfold ofName? at h
    split at h <;> cases h
    · rfl
    · rfl
    · rfl

end Action

namespace Query

theorem mem_nestingViolations {query : Query} {violation : Violation} :
    violation ∈ query.nestingViolations ↔
      (∃ inner, inner ∈ query.sources) ∧ violation = .nestedTooDeep := by
  unfold nestingViolations
  cases query.sources with
  | nil => exact ⟨fun h => (nomatch h), fun h => (nomatch h.1.choose_spec)⟩
  | cons inner rest =>
    rw [List.isEmpty_cons, Violation.unless, if_neg Bool.false_ne_true, List.mem_singleton]
    exact ⟨fun h => ⟨⟨inner, List.mem_cons_self⟩, h⟩, And.right⟩

/-- **The checks of a query where no query may be.** -/
theorem decides_refusing (query : Query) :
    Decides query.nestedViolations (query.checkWith refuse) := by
  have hrefuse : ∀ inner, Decides [.nestedTooDeep] (refuse inner : Except Violation Unit) :=
    fun _ => decides_error .nestedTooDeep
  refine (query.decides_checkWith hrefuse).congr fun violation => ?_
  simp only [nestedViolations, List.mem_append, mem_nestingViolations, List.mem_flatMap,
    List.mem_singleton, exists_and_right]

/-- The same, with the violations inside queries that must not be there. -/
theorem decides_nestedCheck (query : Query) :
    Decides ((query :: query.inside).flatMap nestedViolations) query.nestedCheck := by
  refine query.decides_refusing.mono (List.subset_append_left _ _) fun h => ?_
  have hsources : query.sources = [] := by
    refine List.eq_nil_iff_forall_not_mem.mpr fun inner hinner => ?_
    have hnested := List.mem_append_right query.ownViolations
      (mem_nestingViolations.mpr ⟨⟨inner, hinner⟩, rfl⟩)
    rw [nestedViolations] at h
    rw [h] at hnested
    exact List.not_mem_nil hnested
  rw [List.flatMap_cons, inside_eq_nil_of_sources hsources, h]
  rfl

/-- **The checks of a query decide its early violations.** -/
theorem decides_check (query : Query) : Decides query.earlyViolations query.check := by
  have hname := Action.isSome_ofName? query.action
  unfold earlyViolations check
  cases haction : query.action.bind Action.ofName? with
  | none =>
    rw [← hname, haction]
    simp [Violation.unless, Decides]
  | some action =>
    have hnested := Action.isNested_of_ofName? haction
    rw [← hname, haction]
    change Decides _ (query.checkWith (if action.isNested then refuse else nestedCheck))
    rw [hnested, Option.isSome_some, Violation.unless, if_pos rfl, List.nil_append]
    by_cases hquery : query.action = some "query"
    · have hinside := query.decides_checkWith decides_nestedCheck
      rw [← List.flatMap_assoc, ← inside_eq_flatMap] at hinside
      simpa [hquery] using hinside
    · have hinside := query.decides_nestedCheck
      rw [List.flatMap_cons, nestedViolations, nestedCheck] at hinside
      simpa [hquery] using hinside

/-- A query that keeps the rules where no query may be. -/
theorem decides_nestedFragment {query : Query} (dialect : Dialect)
    (h : query.nestedCheck = .ok ()) :
    Decides ((query :: query.inside).flatMap columnViolations) (query.nestedFragment dialect) := by
  have hchecked := checked_of_checkWith h
  have hsub : ∀ inner ∈ query.sources, Decides [.nestedTooDeep]
      (refuse inner : Except Violation Fragment) := fun _ _ => decides_error .nestedTooDeep
  have hbuilt := decides_fragmentWith dialect hsub hchecked
  rw [hchecked.sources_eq_nil] at hbuilt
  rw [inside_eq_nil_of_sources hchecked.sources_eq_nil]
  exact hbuilt

/-- **Building a query that keeps the rules so far decides its late
violations.** -/
theorem decides_fragment {query : Query} (dialect : Dialect) (h : query.check = .ok ()) :
    Decides query.lateViolations (query.fragment dialect) := by
  have hchecked := checked_of_check h
  have hsub : ∀ inner ∈ query.sources, Decides ((inner :: inner.inside).flatMap columnViolations)
      (inner.nestedFragment dialect) := fun inner hinner =>
    decides_nestedFragment dialect (hchecked.sources inner hinner)
  have hbuilt := decides_fragmentWith dialect hsub hchecked
  rw [← List.flatMap_assoc, ← inside_eq_flatMap] at hbuilt
  exact hbuilt

/-- **What becomes of a query** decides all its violations. -/
theorem decides_outcome (query : Query) (dialect : Dialect) :
    Decides (query.earlyViolations ++ query.lateViolations) (query.outcome dialect) :=
  query.decides_check.bind fun _ hcheck => decides_fragment dialect hcheck

/-- Nothing is refused for a late violation where there is an early one. -/
theorem mem_violations_of_outcome {query : Query} {dialect : Dialect} {violation : Violation}
    (h : query.outcome dialect = .error violation) :
    violation ∈ query.earlyViolations ∨
      query.earlyViolations = [] ∧ violation ∈ query.lateViolations := by
  have hearly := query.decides_check
  unfold outcome at h
  cases hcheck : query.check with
  | error other =>
    rw [hcheck] at h
    cases h
    exact .inl (hearly.mem_of_eq_error hcheck)
  | ok =>
    rw [hcheck] at h
    have hlate := decides_fragment dialect hcheck
    exact .inr ⟨hearly.exists_ok_iff.mp ⟨_, hcheck⟩, hlate.mem_of_eq_error h⟩

/-- **A query is refused exactly for the rules that it breaks.** It gets a
compiler if none is broken that is looked at then, and else is refused for
one of these; and it becomes a statement, in any dialect, if no rule is
broken at all. Where it does not, the error is a violation of it, and a
late one only if there is no early one. -/
theorem refused_iff_violations (query : Query) (dialect : Dialect) :
    ((∃ compiler, query.compiler = .ok compiler) ↔ query.earlyViolations = []) ∧
      (∀ violation, query.compiler = .error violation → violation ∈ query.earlyViolations) ∧
      ((∃ statement, query.toStatement dialect = .ok statement) ↔
        query.earlyViolations = [] ∧ query.lateViolations = []) ∧
      ∀ error, query.toStatement dialect = .error error → ∃ violation,
        error = .violation violation ∧ (violation ∈ query.earlyViolations ∨
          query.earlyViolations = [] ∧ violation ∈ query.lateViolations) := by
  have hcompiler := query.decides_check.of_made (query.made_compiler dialect)
  have houtcome := query.decides_outcome dialect
  refine ⟨hcompiler.exists_ok_iff, fun _ herror => hcompiler.mem_of_eq_error herror, ?_, ?_⟩
  · rw [toStatement_eq, ← List.append_eq_nil_iff, ← houtcome.exists_ok_iff]
    constructor
    · rintro ⟨_, hstatement⟩
      obtain ⟨fragment, hfragment, -⟩ := map_eq_ok.mp hstatement
      exact ⟨fragment, mapError_eq_ok.mp hfragment⟩
    · rintro ⟨fragment, hfragment⟩
      exact ⟨_, map_eq_ok.mpr ⟨fragment, mapError_eq_ok.mpr hfragment, rfl⟩⟩
  · intro error herror
    rw [toStatement_eq, map_eq_error, mapError_eq_error] at herror
    obtain ⟨violation, hviolation, herror⟩ := herror
    exact ⟨violation, herror.symm, mem_violations_of_outcome hviolation⟩

end Query

/-- A missing table and an empty alias are found at once, a literal that is
a list only when the query is built. -/
example :
    let query : Query := {
      action := some "query", aliasName := some ""
      columns := some [.value { value := .array [] }] }
    query.earlyViolations = [.missingTable, .emptyName "query alias"] ∧
      query.lateViolations = [.unsupportedValue "[]"] := by decide

end QueryTree
