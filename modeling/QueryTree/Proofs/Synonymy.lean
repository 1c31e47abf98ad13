import QueryTree.Proofs.QueryTracking
import QueryTree.Proofs.Wording
import Mathlib.Logic.Relation
/-!
# Synonymy — other words give the same statement

What passes the check still passes it in other words, and what is built of
it is the same (`Remains`). Each kind of node has its two lemmas, which
rest on those of the nodes inside it. A query is compared given that those
it reads from are `Interchangeable`; where no query may be they are, so
nested queries are, and with them those at the top. The main result is
`Query.toStatement_of_rewordings`.
-/

namespace QueryTree

/-! ## Results that remain -/

section Remains

variable {ε α β ν : Type} {first second : Except ε α}

/-- **A result remains** another one: what the first lets through the second
lets through too, unchanged. Of what the first refuses nothing is said. -/
def Remains (first second : Except ε α) : Prop := ∀ a, first = .ok a → second = .ok a

theorem remains_refl (result : Except ε α) : Remains result result := fun _ h => h

theorem remains_error (e : ε) (result : Except ε α) : Remains (.error e) result := by
  intro a ha
  cases ha

theorem Remains.bind {next further : α → Except ε β} (h : Remains first second)
    (hnext : ∀ a, Remains (next a) (further a)) :
    Remains (first >>= next) (second >>= further) := by
  intro b hb
  obtain ⟨a, ha, hb⟩ := bind_eq_ok.mp hb
  exact bind_eq_ok.mpr ⟨a, h a ha, hnext a b hb⟩

theorem Remains.map (h : Remains first second) (f : α → β) :
    Remains (first.map f) (second.map f) := by
  rw [map_eq_bind, map_eq_bind]
  exact h.bind fun a => remains_refl (.ok (f a))

theorem Remains.mapError {δ : Type} (h : Remains first second) (e : ε → δ) :
    Remains (first.mapError e) (second.mapError e) := by
  intro a ha
  exact mapError_eq_ok.mpr (h a (mapError_eq_ok.mp ha))

/-- What comes after a condition that must not hold. -/
theorem Remains.guard (h : Remains first second) {condition other : Bool}
    (hcondition : other = condition) (e : ε) :
    Remains
      (do
        if condition then .error e
        first)
      (do
        if other then .error e
        second) := by
  subst hcondition
  cases other with
  | true => exact remains_error e _
  | false => exact h

variable {R : ν → ν → Prop} {f : ν → Except ε α} {check : ν → Except ε Unit}

theorem remains_mapM {nodes others : List ν} (hall : List.Forall₂ R nodes others)
    (h : ∀ {node other}, R node other → Remains (f node) (f other)) :
    Remains (nodes.mapM f) (others.mapM f) := by
  induction hall with
  | nil => exact remains_refl _
  | cons hR _ ih =>
    rw [List.mapM_cons, List.mapM_cons]
    exact (h hR).bind fun _ => ih.bind fun _ => remains_refl _

theorem remains_forM {nodes others : List ν} (hall : List.Forall₂ R nodes others)
    (h : ∀ {node other}, R node other → Remains (check node) (check other)) :
    Remains (nodes.forM check) (others.forM check) := by
  induction hall with
  | nil => exact remains_refl _
  | cons hR _ ih => exact (h hR).bind fun _ => ih

theorem remains_optional {node other : Option ν} (hrel : Option.Rel R node other)
    (h : ∀ {node other}, R node other → Remains (f node) (f other)) :
    Remains (node.mapM f) (other.mapM f) := by
  cases hrel with
  | some hR => exact (h hR).map some
  | none => exact remains_refl _

theorem remains_optional_forM {node other : Option ν} (hrel : Option.Rel R node other)
    (h : ∀ {node other}, R node other → Remains (check node) (check other)) :
    Remains (node.forM check) (other.forM check) := by
  cases hrel with
  | some hR => exact h hR
  | none => exact remains_refl _

theorem isEmpty_eq_of_forall₂ {nodes others : List ν} (hall : List.Forall₂ R nodes others) :
    others.isEmpty = nodes.isEmpty := by
  cases hall <;> rfl

theorem isSome_eq_of_rel {node other : Option ν} (hrel : Option.Rel R node other) :
    other.isSome = node.isSome := by
  cases hrel <;> rfl

end Remains

/-! ## Columns -/

namespace AliasReworded

variable {shown : Bool} {first second : Option String}

theorem remains_checkAlias (h : AliasReworded shown first second) (context : String) :
    Remains (checkAlias context first) (checkAlias context second) := by
  cases h with
  | same => exact remains_refl _
  | dropped =>
    intro _ _
    rfl
  | replaced hother =>
    intro _ _
    rw [checkAlias, checkName, hother]
    rfl

/-- An alias that is shown is the same. -/
theorem shown_eq (h : AliasReworded shown first second) :
    (if shown then second else none) = (if shown then first else none) := by
  cases h <;> rfl

end AliasReworded

namespace Column

theorem Reworded.remains_check {shown : Bool} {first second : Column}
    (h : first.Reworded shown second) : Remains first.check second.check := by
  cases h with
  | same => exact remains_refl _
  | named halias | value halias =>
    refine (remains_refl _).bind fun _ => ?_
    exact (remains_refl _).bind fun _ => halias.remains_checkAlias "column alias"
  | function _ halias =>
    exact (remains_refl _).bind fun _ => halias.remains_checkAlias "column alias"

theorem remains_checkAll {shown : Bool} {first second : List Column}
    (h : List.Forall₂ (Reworded shown) first second) :
    Remains (checkAll first) (checkAll second) := by
  induction h with
  | nil => exact remains_refl _
  | cons hcolumn _ ih => exact hcolumn.remains_check.bind fun _ => ih

end Column

mutual

/-- **The fragment of a column in other words is the same.** -/
theorem Column.remains_fragment : ∀ {first second : Column} {shown : Bool},
    first.Reworded shown second → Remains (first.fragment shown) (second.fragment shown)
  | _, _, _, .same => remains_refl _
  | .named column, _, shown, .named halias => by
    unfold Column.fragment
    rw [halias.shown_eq]
    exact remains_refl _
  | .function ⟨name, parameters, aliasName⟩, _, shown, .function hparameters halias => by
    rw [Column.fragment, Column.fragment, halias.shown_eq]
    refine (Column.remains_checkAll hparameters).bind fun _ => ?_
    exact (Column.remains_fragments hparameters).bind fun _ => remains_refl _
  | .value literal, _, shown, .value halias => by
    unfold Column.fragment
    rw [halias.shown_eq]
    exact remains_refl _

/-- So are those of some columns. -/
theorem Column.remains_fragments : ∀ {first second : List Column} {shown : Bool},
    List.Forall₂ (Column.Reworded shown) first second →
    Remains (Column.fragments first shown) (Column.fragments second shown)
  | [], _, _, .nil => remains_refl _
  | column :: columns, _, shown, .cons hcolumn hcolumns => by
    rw [Column.fragments, Column.fragments]
    refine (Column.remains_fragment hcolumn).bind fun _ => ?_
    exact (Column.remains_fragments hcolumns).bind fun _ => remains_refl _

end

/-! ## Filters -/

namespace ColumnRef

variable {first second : ColumnRef}

theorem Reworded.remains_check (h : first.Reworded second) :
    Remains first.toColumn.check second.toColumn.check :=
  h.toColumn.remains_check

theorem Reworded.remains_fragment (h : first.Reworded second) :
    Remains (first.toColumn.fragment false) (second.toColumn.fragment false) :=
  Column.remains_fragment h.toColumn

end ColumnRef

namespace ComparisonFilter

variable {column : ColumnRef} {rightColumn : Option Column}

theorem remains_check {filter : ComparisonFilter} (hcolumn : filter.column.Reworded column)
    (hright : Option.Rel (Column.Reworded false) filter.rightColumn rightColumn) :
    Remains filter.check { filter with column, rightColumn }.check := by
  obtain ⟨left, operator, value, right⟩ := filter
  have hoperand : Remains (checkOperand ⟨left, operator, value, right⟩)
      (checkOperand ⟨column, operator, value, rightColumn⟩) := by
    cases hright with
    | none => exact remains_refl _
    | some hright =>
      cases value with
      | none => exact hright.remains_check
      | some value => exact remains_error _ _
  unfold check
  cases Operator.ofText? operator with
  | none => exact remains_error _ _
  | some operator => exact hoperand.bind fun _ => hcolumn.remains_check

theorem remains_fragment {filter : ComparisonFilter} (hcolumn : filter.column.Reworded column)
    (hright : Option.Rel (Column.Reworded false) filter.rightColumn rightColumn) :
    Remains filter.fragment { filter with column, rightColumn }.fragment := by
  obtain ⟨left, operator, value, right⟩ := filter
  have hoperand : Remains (operandFragment ⟨left, operator, value, right⟩)
      (operandFragment ⟨column, operator, value, rightColumn⟩) := by
    cases hright with
    | none => exact remains_refl _
    | some hright =>
      cases value with
      | none => exact Column.remains_fragment hright
      | some value => exact remains_error _ _
  refine hcolumn.remains_fragment.bind fun _ => ?_
  exact hoperand.bind fun _ => remains_refl _

end ComparisonFilter

theorem Filter.Reworded.isGroup_eq {first second : Filter} (h : first.Reworded second) :
    second.isGroup = first.isGroup := by
  cases h <;> rfl

mutual

/-- **A condition that passes the check passes it in other words.** -/
theorem Filter.remains_check : ∀ {first second : Filter}, first.Reworded second →
    Remains first.check second.check
  | _, _, .same => remains_refl _
  | .comparison _, _, .comparison hcolumn hright => by
    unfold Filter.check
    exact ComparisonFilter.remains_check hcolumn hright
  | .membership filter, _, .membership hcolumn => by
    unfold Filter.check
    refine Remains.guard ?_ rfl (Violation.emptyList "in")
    exact hcolumn.remains_check.bind fun _ => remains_refl _
  | .like _, _, .like hcolumn => by
    unfold Filter.check
    exact hcolumn.remains_check.bind fun _ => remains_refl _
  | .isNull _, _, .isNull hcolumn => by
    unfold Filter.check
    exact hcolumn.remains_check
  | .and operands, _, .and hoperands => by
    unfold Filter.check
    exact (Filter.remains_checkAll hoperands).guard (isEmpty_eq_of_forall₂ hoperands) _
  | .or operands, _, .or hoperands => by
    unfold Filter.check
    exact (Filter.remains_checkAll hoperands).guard (isEmpty_eq_of_forall₂ hoperands) _
  | .not operand, _, .not hoperand => by
    unfold Filter.check
    exact Filter.remains_check hoperand

/-- So do some conditions. -/
theorem Filter.remains_checkAll : ∀ {first second : List Filter},
    List.Forall₂ Filter.Reworded first second →
    Remains (Filter.checkAll first) (Filter.checkAll second)
  | [], _, .nil => remains_refl _
  | filter :: filters, _, .cons hfilter hfilters => by
    unfold Filter.checkAll
    exact (Filter.remains_check hfilter).bind fun _ => Filter.remains_checkAll hfilters

end

mutual

/-- **The fragment of a condition in other words is the same.** -/
theorem Filter.remains_fragment : ∀ {first second : Filter}, first.Reworded second →
    Remains first.fragment second.fragment
  | _, _, .same => remains_refl _
  | .comparison _, _, .comparison hcolumn hright => by
    unfold Filter.fragment
    exact ComparisonFilter.remains_fragment hcolumn hright
  | .membership _, _, .membership hcolumn => by
    unfold Filter.fragment
    exact hcolumn.remains_fragment.bind fun _ => remains_refl _
  | .like _, _, .like hcolumn => by
    unfold Filter.fragment
    exact hcolumn.remains_fragment.bind fun _ => remains_refl _
  | .isNull _, _, .isNull hcolumn => by
    unfold Filter.fragment
    exact hcolumn.remains_fragment.bind fun _ => remains_refl _
  | .and operands, _, .and hoperands => by
    unfold Filter.fragment
    exact (Filter.remains_operandFragments hoperands).map _
  | .or operands, _, .or hoperands => by
    unfold Filter.fragment
    exact (Filter.remains_operandFragments hoperands).map _
  | .not operand, _, .not hoperand => by
    unfold Filter.fragment
    exact (Filter.remains_fragment hoperand).map _

/-- So are those of the operands of a group. -/
theorem Filter.remains_operandFragments : ∀ {first second : List Filter},
    List.Forall₂ Filter.Reworded first second →
    Remains (Filter.operandFragments first) (Filter.operandFragments second)
  | [], _, .nil => remains_refl _
  | filter :: filters, _, .cons hfilter hfilters => by
    unfold Filter.operandFragments
    rw [hfilter.isGroup_eq]
    refine (Filter.remains_fragment hfilter).bind fun _ => ?_
    exact (Filter.remains_operandFragments hfilters).bind fun _ => remains_refl _

end

/-! ## Orderings and distinct clauses -/

theorem Recased.directionOfName_eq {first second : String} (h : Recased first second) :
    Direction.ofName? second = Direction.ofName? first := by
  rw [Direction.ofName?, Direction.ofName?, h.toLower_eq]

/-- The direction that a missing one stands for. -/
theorem Direction.ofName?_asc : ofName? "asc" = some ascending := by
  decide +kernel

theorem Recased.kindOfName_eq {first second : String} (h : Recased first second) :
    JoinKind.ofName? second = JoinKind.ofName? first := by
  rw [JoinKind.ofName?, JoinKind.ofName?, h.toLower_eq]

namespace OrderByElement

theorem Reworded.remains_directionOf {first second : OrderByElement} (h : first.Reworded second) :
    Remains first.directionOf second.directionOf := by
  obtain ⟨column, direction⟩ := first
  obtain ⟨other, written⟩ := second
  have hdirection : Defaulted Recased "asc" direction written := h.direction
  unfold directionOf
  cases hdirection with
  | missing => exact remains_refl _
  | written =>
    simp only [Direction.ofName?_asc]
    exact remains_refl _
  | given hcase =>
    simp only [hcase.directionOfName_eq]
    cases Direction.ofName? _ with
    | none => exact remains_error _ _
    | some direction => exact remains_refl _

theorem Reworded.remains_check {first second : OrderByElement} (h : first.Reworded second) :
    Remains first.check second.check :=
  h.column.remains_check.bind fun _ => h.remains_directionOf.map _

theorem Reworded.remains_fragment {first second : OrderByElement} (h : first.Reworded second) :
    Remains first.fragment second.fragment := by
  refine h.remains_directionOf.bind fun _ => ?_
  exact h.column.remains_fragment.bind fun _ => remains_refl _

variable {first second : List OrderByElement}

theorem remains_checkAll (h : List.Forall₂ Reworded first second) :
    Remains (checkAll first) (checkAll second) :=
  (remains_forM h Reworded.remains_check).guard (isEmpty_eq_of_forall₂ h) _

theorem remains_joinedFragment (h : List.Forall₂ Reworded first second) :
    Remains (joinedFragment first) (joinedFragment second) :=
  (remains_mapM h Reworded.remains_fragment).map _

end OrderByElement

namespace Distinct

variable {first second : Distinct}

theorem Reworded.remains_check (h : first.Reworded second) :
    Remains first.check second.check := by
  refine Remains.guard ?_ (isEmpty_eq_of_forall₂ h.columns) _
  refine (remains_optional_forM h.key Column.Reworded.remains_check).bind fun _ => ?_
  exact Column.remains_checkAll h.columns

theorem Reworded.remains_fragment (h : first.Reworded second) :
    Remains first.fragment second.fragment := by
  refine (Column.remains_fragments h.columns).bind fun _ => ?_
  exact (remains_optional h.key Column.remains_fragment).bind fun _ => remains_refl _

end Distinct

/-! ## Queries that others read from -/

/-- **Queries that are interchangeable** as tables, given how queries are
checked and built there: they have one alias, and what passes the check and
what is built remains. -/
structure Interchangeable (Inner : Query → Query → Prop) (check : Query → Except Violation Unit)
    (sub : Query → Except Violation Fragment) : Prop where
  aliasName : ∀ {first second}, Inner first second → second.aliasName = first.aliasName
  remains_check : ∀ {first second}, Inner first second → Remains (check first) (check second)
  remains_fragment : ∀ {first second}, Inner first second → Remains (sub first) (sub second)

section Inner

variable {Inner : Query → Query → Prop} {check : Query → Except Violation Unit}
variable {sub : Query → Except Violation Fragment}

theorem Table.Reworded.remains_source {first second : Table Query}
    (h : first.Reworded Inner second) (hinner : Interchangeable Inner check sub)
    (aliasName : Option String) :
    Remains (first.source sub aliasName) (second.source sub aliasName) := by
  cases h with
  | name => exact remains_refl _
  | query h => exact (hinner.remains_fragment h).map _

namespace Join

variable {first second : Join Query}

theorem Reworded.remains_checkTable (h : first.Reworded Inner second)
    (hinner : Interchangeable Inner check sub) :
    Remains (first.checkTable check) (second.checkTable check) := by
  obtain ⟨-, htable, -⟩ := h
  cases htable with
  | none => exact remains_refl _
  | some htable =>
    cases htable with
    | name => exact remains_refl _
    | query h => exact hinner.remains_check h

theorem Reworded.remains_checkCondition (h : first.Reworded Inner second) (kind : JoinKind) :
    Remains (first.checkCondition kind) (second.checkCondition kind) := by
  obtain ⟨-, -, hcondition⟩ := h
  cases hcondition with
  | none =>
    -- a kind that asks for a condition is named where there is none
    cases kind with
    | cross => exact remains_refl _
    | inner | left | right | full => exact remains_error _ _
  | some hcondition =>
    cases kind with
    | cross => exact remains_refl _
    | inner | left | right | full => exact Filter.remains_check hcondition

theorem Reworded.remains_check (h : first.Reworded Inner second)
    (hinner : Interchangeable Inner check sub) :
    Remains (first.check check) (second.check check) := by
  have htable := h.remains_checkTable hinner
  have hcondition := h.remains_checkCondition
  obtain ⟨hkind, -, -⟩ := h
  unfold Join.check
  simp only [hkind.kindOfName_eq]
  cases JoinKind.ofName? _ with
  | none => exact remains_error _ _
  | some kind =>
    refine htable.bind fun _ => ?_
    exact (hcondition kind).bind fun _ => remains_refl _

theorem Reworded.sourceAlias_eq (h : first.Reworded Inner second)
    (hinner : Interchangeable Inner check sub) : second.sourceAlias = first.sourceAlias := by
  obtain ⟨-, htable, -⟩ := h
  cases htable with
  | none => rfl
  | some htable =>
    cases htable with
    | name => rfl
    | query h => simp only [sourceAlias, hinner.aliasName h]

theorem Reworded.remains_source (h : first.Reworded Inner second)
    (hinner : Interchangeable Inner check sub) :
    Remains (first.source sub) (second.source sub) := by
  rw [Join.source, Join.source, h.sourceAlias_eq hinner]
  obtain ⟨-, htable, -⟩ := h
  cases htable with
  | none => exact remains_refl _
  | some htable => exact htable.remains_source hinner _

theorem Reworded.remains_kindOf (h : first.Reworded Inner second) :
    Remains first.kindOf second.kindOf := by
  obtain ⟨hkind, -, -⟩ := h
  unfold kindOf
  simp only [hkind.kindOfName_eq]
  cases JoinKind.ofName? _ with
  | none => exact remains_error _ _
  | some kind => exact remains_refl _

/-- **The fragment of a join in other words is the same.** -/
theorem Reworded.remains_fragment (h : first.Reworded Inner second)
    (hinner : Interchangeable Inner check sub) :
    Remains (first.fragment sub) (second.fragment sub) := by
  have hsource := h.remains_source hinner
  refine h.remains_kindOf.bind fun _ => hsource.bind fun _ => ?_
  obtain ⟨-, -, hcondition⟩ := h
  exact (remains_optional hcondition Filter.remains_fragment).bind fun _ => remains_refl _

end Join

/-! ## Queries -/

namespace Query

variable {nested : Bool} {first second : Query}

theorem rewordedAll_selectedColumns
    (columns : Defaulted (List.Forall₂ (Column.Reworded true)) first.defaultColumns
      first.columns second.columns)
    (distinct : Option.Rel Distinct.Reworded first.distinct second.distinct) :
    List.Forall₂ (Column.Reworded true) first.selectedColumns second.selectedColumns := by
  have hdefault : second.defaultColumns = first.defaultColumns := by
    rw [defaultColumns, defaultColumns, isSome_eq_of_rel distinct]
  rw [selectedColumns_eq, selectedColumns_eq, hdefault]
  exact columns.getD (Column.rewordedAll_refl true _)

theorem joins_eq (query : Query) : query.joins = (query.join.getD (.list [])).toList := by
  obtain ⟨_, _, _, _, _, _ | join, _, _, _, _, _, _⟩ := query <;> rfl

theorem rewordedAll_joins
    (join : Defaulted (SingleOrList.Reworded (Join.Reworded Inner)) (.list []) first.join
      second.join) :
    List.Forall₂ (Join.Reworded Inner) first.joins second.joins := by
  rw [joins_eq, joins_eq]
  exact (join.getD (.list .nil)).toList

/-- No rows are a number that is as good as none. -/
theorem positive?_eq {count other : Option UInt64} (h : Defaulted Eq 0 count other) :
    QueryState.positive? other = QueryState.positive? count := by
  cases h with
  | missing => rfl
  | written => rfl
  | given h => rw [h]

section Table

variable (table : Option.Rel (Table.Reworded Inner) first.table second.table)
variable (hinner : Interchangeable Inner check sub)

include table hinner

theorem remains_checkTable : Remains (first.checkTable check) (second.checkTable check) := by
  unfold checkTable
  generalize first.table = read, second.table = other at table
  cases table with
  | none => exact remains_refl _
  | some htable =>
    cases htable with
    | name => exact remains_refl _
    | query h => exact hinner.remains_check h

theorem tableAlias_eq : second.tableAlias = first.tableAlias := by
  unfold tableAlias
  generalize first.table = read, second.table = other at table
  cases table with
  | none => rfl
  | some htable =>
    cases htable with
    | name => rfl
    | query h => exact hinner.aliasName h

theorem remains_source : Remains (first.source sub) (second.source sub) := by
  rw [source, source, tableAlias_eq table hinner]
  generalize first.table = read, second.table = other at table
  cases table with
  | none => exact remains_refl _
  | some htable => exact htable.remains_source hinner _

end Table

/-- **A query that passes the check passes it in other words.** -/
theorem Reworded.remains_checkWith (h : Reworded nested first second)
    (hinner : Interchangeable (Reworded true) check sub) :
    Remains (first.checkWith check) (second.checkWith check) := by
  cases h with
  | same => exact remains_refl _
  | intro _ table aliasName _ filter join groupBy having orderBy _ _ distinct =>
    refine (remains_checkTable table hinner).bind fun _ => ?_
    refine (aliasName.remains_checkAlias "query alias").bind fun _ => ?_
    refine (remains_forM (rewordedAll_joins join) (·.remains_check hinner)).bind fun _ => ?_
    refine (remains_optional_forM filter Filter.remains_check).bind fun _ => ?_
    refine (Column.remains_checkAll (groupBy.getD .nil)).bind fun _ => ?_
    refine (remains_optional_forM having Filter.remains_check).bind fun _ => ?_
    refine (remains_optional_forM orderBy OrderByElement.remains_checkAll).bind fun _ => ?_
    exact remains_optional_forM distinct Distinct.Reworded.remains_check

/-- **The fragment of a query in other words is the same.** -/
theorem Reworded.remains_fragmentWith (h : Reworded nested first second)
    (hinner : Interchangeable (Reworded true) check sub) (dialect : Dialect) :
    Remains (first.fragmentWith sub dialect) (second.fragmentWith sub dialect) := by
  cases h with
  | same => exact remains_refl _
  | intro _ table _ columns filter join groupBy having orderBy limit offset distinct =>
    have hcolumns := rewordedAll_selectedColumns columns distinct
    refine (Column.remains_checkAll hcolumns).bind fun _ => Remains.map ?_ Select.toFragment
    unfold select
    rw [positive?_eq limit, positive?_eq offset]
    refine (Column.remains_fragments hcolumns).bind fun _ => ?_
    refine (remains_optional distinct Distinct.Reworded.remains_fragment).bind fun _ => ?_
    refine (remains_source table hinner).bind fun _ => ?_
    refine (remains_mapM (rewordedAll_joins join) (·.remains_fragment hinner)).bind fun _ => ?_
    refine (remains_optional filter Filter.remains_fragment).bind fun _ => ?_
    refine (Column.remains_fragments (groupBy.getD .nil)).bind fun _ => ?_
    refine (remains_optional having Filter.remains_fragment).bind fun _ => ?_
    exact (remains_optional orderBy OrderByElement.remains_joinedFragment).bind fun _ =>
      remains_refl _

end Query

end Inner

namespace Query

variable {first second : Query} {dialect : Dialect}

theorem Reworded.aliasName_eq (h : Reworded true first second) :
    second.aliasName = first.aliasName := by
  cases h with
  | same => rfl
  | intro _ _ aliasName => exact aliasName.shown_eq

/-- Where no query may be, nothing has to be shown. -/
theorem interchangeable_refuse : Interchangeable (Reworded true) refuse refuse where
  aliasName := Reworded.aliasName_eq
  remains_check _ := remains_error _ _
  remains_fragment _ := remains_error _ _

/-- **Nested queries in other words are interchangeable.** -/
theorem interchangeable_nested (dialect : Dialect) :
    Interchangeable (Reworded true) nestedCheck (nestedFragment dialect) where
  aliasName := Reworded.aliasName_eq
  remains_check h := h.remains_checkWith interchangeable_refuse
  remains_fragment h := h.remains_fragmentWith interchangeable_refuse dialect

theorem Reworded.action_eq (h : Reworded false first second) : second.action = first.action := by
  cases h with
  | same => rfl
  | intro action => exact action rfl

theorem Reworded.remains_check (h : Reworded false first second) :
    Remains first.check second.check := by
  unfold Query.check
  rw [h.action_eq]
  cases first.action.bind Action.ofName? with
  | none => exact remains_error _ _
  | some action =>
    dsimp only
    cases action.isNested with
    | true => exact h.remains_checkWith interchangeable_refuse
    | false => exact h.remains_checkWith (interchangeable_nested .sqlite)

/-- What a query becomes remains when it is put in other words once. -/
theorem Reworded.remains_toStatement (h : Reworded false first second) (dialect : Dialect) :
    Remains (first.toStatement dialect) (second.toStatement dialect) := by
  have houtcome : Remains (first.outcome dialect) (second.outcome dialect) :=
    h.remains_check.bind fun _ => h.remains_fragmentWith (interchangeable_nested dialect) dialect
  rw [toStatement_eq, toStatement_eq]
  exact (houtcome.mapError _).map _

/-- **A query in other words gives the same statement,** with the same text
and the same parameters, however often it is put in other words. -/
theorem toStatement_of_rewordings {statement : Statement}
    (hwords : Relation.ReflTransGen (Reworded false) first second)
    (h : first.toStatement dialect = .ok statement) :
    second.toStatement dialect = .ok statement := by
  induction hwords with
  | refl => exact h
  | tail _ hstep ih => exact hstep.remains_toStatement dialect statement ih

/-- The longest track of each genre, said briefly but with aliases that are
not shown. -/
def longestTracks : Query where
  action := some "query"
  table := some (.query genres)
  aliasName := some "unseen"
  columns := some [.function {
    function := "MAX", parameters := [.named { column := "t.ms", aliasName := some "unseen" }]
    aliasName := some "longest" }]
  filter := some (.not (.and [
    .like { column := .name "g.genre", pattern := .string "R%" },
    .isNull { column := .column (.named { column := "t.ms", aliasName := some "unseen" }) }]))
  join := some (.single {
    kind := "Left", table := some (.name "tracks"), aliasName := some "t"
    condition := some (.comparison {
      column := .name "t.genre", operator := "="
      rightColumn := some (.named { column := "g.genre", aliasName := some "unseen" }) }) })
  groupBy := some [.named { column := "g.genre", aliasName := some "unseen" }]
  orderBy := some [
    { column := .name "g.genre" },
    { column := .name "longest", direction := some "DESC" }]
  limit := some 10
where
  /-- The query that is the table. -/
  genres : Query := {
    action := some "subquery"
    table := some (.name "genres")
    aliasName := some "g"
    distinct := some {
      columns := [.named { column := "name", aliasName := some "genre" }]
      key := some (.named { column := "name", aliasName := some "unseen" }) } }

/-- The same with its defaults written out, and without the aliases that are
not shown, save one that is another. -/
def longestTracksInFull : Query where
  action := some "query"
  table := some (.query genres)
  columns := some [.function {
    function := "MAX", parameters := [.named { column := "t.ms" }], aliasName := some "longest" }]
  filter := some (.not (.and [
    .like { column := .column (.ofName "g.genre"), pattern := .string "R%" },
    .isNull { column := .column (.named { column := "t.ms" }) }]))
  join := some (.list [{
    kind := "LEFT", table := some (.name "tracks"), aliasName := some "t"
    condition := some (.comparison {
      column := .column (.ofName "t.genre"), operator := "="
      rightColumn := some (.named { column := "g.genre", aliasName := some "other" }) }) }])
  groupBy := some [.named { column := "g.genre" }]
  orderBy := some [
    { column := .column (.ofName "g.genre"), direction := some "asc" },
    { column := .name "longest", direction := some "desc" }]
  limit := some 10
  offset := some 0
where
  /-- The query that is the table. -/
  genres : Query := {
    action := some "anything"
    table := some (.name "genres")
    aliasName := some "g"
    columns := some []
    join := some (.list [])
    groupBy := some []
    limit := some 0
    offset := some 0
    distinct := some {
      columns := [.named { column := "name", aliasName := some "genre" }]
      key := some (.named { column := "name" }) } }

/-- The statement of either. -/
def longestTracksStatement : Statement where
  sql :=
    "SELECT MAX(\"t\".\"ms\") AS \"longest\" FROM (SELECT DISTINCT ON (\"name\") \"name\" " ++
      "AS \"genre\" FROM \"genres\") AS \"g\" LEFT JOIN \"tracks\" AS \"t\" ON " ++
      "\"t\".\"genre\" = \"g\".\"genre\" WHERE NOT (\"g\".\"genre\" LIKE $1 AND " ++
      "\"t\".\"ms\" IS NOT NULL) GROUP BY \"g\".\"genre\" ORDER BY \"g\".\"genre\" ASC, " ++
      "\"longest\" DESC LIMIT 10"
  params := [.string "R%"]

theorem toStatement_longestTracks :
    Relation.ReflTransGen (Reworded false) longestTracks longestTracksInFull ∧
      longestTracks.toStatement .postgres = .ok longestTracksStatement ∧
      longestTracksInFull.toStatement .postgres = .ok longestTracksStatement := by
  have hgenres : Reworded true longestTracks.genres longestTracksInFull.genres :=
    .intro (fun hnested => absurd hnested (by decide)) (.some .name) .same .written .none .written
      .written .none .none .written .written (.some ⟨.cons .same .nil, .some (.named .dropped)⟩)
  have hleft : Recased "Left" "LEFT" := by decide +kernel
  have hdesc : Recased "DESC" "desc" := by decide +kernel
  have hstep : Reworded false longestTracks longestTracksInFull := by
    refine .intro (fun _ => rfl) (.some (.query hgenres)) .dropped (.given ?_)
      (.some (.not (.and ?_))) (.given (.listed (.intro hleft (.some .name) (.some ?_))))
      (.given ?_) .none (.some ?_) (.given rfl) .written .none
    · exact .cons (.function (.cons (.named .dropped) .nil) .same) .nil
    · exact .cons (.like .written) (.cons (.isNull (.column (.named .dropped))) .nil)
    · exact .comparison .written (.some (.named (.replaced rfl)))
    · exact .cons (.named .dropped) .nil
    · exact .cons ⟨.written, .written⟩ (.cons ⟨.same, .given hdesc⟩ .nil)
  have h : longestTracks.toStatement .postgres = .ok longestTracksStatement :=
    eq_ok_of_toOption (by decide +kernel)
  exact ⟨.single hstep, h, toStatement_of_rewordings (.single hstep) h⟩

end Query

end QueryTree
