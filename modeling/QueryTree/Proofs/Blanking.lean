import QueryTree.Proofs.Assembly
/-!
# Blanking — nodes and fragments without their literals

`blanked` puts `null` for every literal that can be a parameter, in a
node, and for every parameter in a fragment. Everything that puts
fragments together can be done before blanking or after it.
-/

namespace QueryTree

/-! ## Nodes without their literals -/

/-- **A literal that can be a parameter, made `null`.** Lists and objects,
which cannot be, stay as they are. -/
def Json.blanked : Json → Json
  | .array items => .array items
  | .object members => .object members
  | _ => .null

mutual

/-- **A column without its literals.** -/
def Column.blanked : Column → Column
  | .named column => .named column
  | .function ⟨name, parameters, aliasName⟩ =>
    .function ⟨name, Column.blankedAll parameters, aliasName⟩
  | .value literal => .value { literal with value := literal.value.blanked }

/-- Columns without their literals. -/
def Column.blankedAll : List Column → List Column
  | [] => []
  | column :: columns => Column.blanked column :: Column.blankedAll columns

end

/-- A reference to a column without its literals. -/
def ColumnRef.blanked : ColumnRef → ColumnRef
  | .name n => .name n
  | .column c => .column c.blanked

/-- A comparison without its literals. -/
def ComparisonFilter.blanked (filter : ComparisonFilter) : ComparisonFilter where
  column := filter.column.blanked
  operator := filter.operator
  value := filter.value.map Json.blanked
  rightColumn := filter.rightColumn.map Column.blanked

/-- A membership without its literals. -/
def InFilter.blanked (filter : InFilter) : InFilter where
  column := filter.column.blanked
  values := filter.values.map Json.blanked

/-- A match without its literals. -/
def LikeFilter.blanked (filter : LikeFilter) : LikeFilter where
  column := filter.column.blanked
  pattern := filter.pattern.blanked

/-- A test for null without its literals. -/
def IsNullFilter.blanked (filter : IsNullFilter) : IsNullFilter :=
  { filter with column := filter.column.blanked }

mutual

/-- **A filter without its literals.** -/
def Filter.blanked : Filter → Filter
  | .comparison filter => .comparison filter.blanked
  | .membership filter => .membership filter.blanked
  | .like filter => .like filter.blanked
  | .isNull filter => .isNull filter.blanked
  | .and operands => .and (Filter.blankedAll operands)
  | .or operands => .or (Filter.blankedAll operands)
  | .not operand => .not (Filter.blanked operand)

/-- Filters without their literals. -/
def Filter.blankedAll : List Filter → List Filter
  | [] => []
  | filter :: filters => Filter.blanked filter :: Filter.blankedAll filters

end

/-- An element of an ordering without its literals. -/
def OrderByElement.blanked (element : OrderByElement) : OrderByElement :=
  { element with column := element.column.blanked }

/-- A distinct clause without its literals. -/
def Distinct.blanked (distinct : Distinct) : Distinct where
  columns := distinct.columns.map Column.blanked
  key := distinct.key.map Column.blanked

mutual

/-- **A query without its literals,** through all queries in it. -/
def Query.blanked : Query → Query
  | ⟨action, table, aliasName, columns, filter, join, groupBy, having, orderBy, limit, offset,
      distinct⟩ =>
    ⟨action, Table.optionBlanked table, aliasName, columns.map (List.map Column.blanked),
      filter.map Filter.blanked, Join.optionBlanked join, groupBy.map (List.map Column.blanked),
      having.map Filter.blanked, orderBy.map (List.map OrderByElement.blanked), limit, offset,
      distinct.map Distinct.blanked⟩

/-- A table without the literals of its query. -/
def Table.blanked : Table Query → Table Query
  | .name n => .name n
  | .query inner => .query (Query.blanked inner)

/-- A table that may be missing, without the literals of its query. -/
def Table.optionBlanked : Option (Table Query) → Option (Table Query)
  | none => none
  | some table => some (Table.blanked table)

/-- A join without its literals. -/
def Join.blanked : Join Query → Join Query
  | ⟨kind, table, aliasName, condition⟩ =>
    ⟨kind, Table.optionBlanked table, aliasName, condition.map Filter.blanked⟩

/-- Joins without their literals. -/
def Join.listBlanked : List (Join Query) → List (Join Query)
  | [] => []
  | join :: joins => Join.blanked join :: Join.listBlanked joins

/-- One join or a list of them, without their literals. -/
def Join.singleOrListBlanked : SingleOrList (Join Query) → SingleOrList (Join Query)
  | .single join => .single (Join.blanked join)
  | .list joins => .list (Join.listBlanked joins)

/-- Joins that may be missing, without their literals. -/
def Join.optionBlanked : Option (SingleOrList (Join Query)) → Option (SingleOrList (Join Query))
  | none => none
  | some joins => some (Join.singleOrListBlanked joins)

end

/-! ## Fragments without their parameters -/

/-- A part with `null` for a parameter. -/
def Part.blanked : Part → Part
  | .param _ => .param .null
  | part => part

namespace Fragment

/-- **A fragment without its parameters:** each of them is `null`. -/
def blanked (fragment : Fragment) : Fragment := ⟨fragment.parts.map Part.blanked⟩

@[simp] theorem blanked_empty : empty.blanked = empty := rfl

@[simp] theorem blanked_identifier (name : String) :
    (identifier name).blanked = identifier name := rfl

@[simp] theorem blanked_ofAlias (name : String) : (ofAlias name).blanked = ofAlias name := rfl

@[simp] theorem blanked_ofParam (param : Param) : (ofParam param).blanked = ofParam .null := rfl

@[simp] theorem isEmpty_blanked (fragment : Fragment) :
    fragment.blanked.isEmpty = fragment.isEmpty := by
  simp [blanked, isEmpty]

theorem map_blanked_textAtEnd (text : String) (parts : List Part) :
    (textAtEnd text parts).map Part.blanked = textAtEnd text (parts.map Part.blanked) := by
  induction parts using textAtEnd.induct with
  | case1 => rfl
  | case2 last => rfl
  | case3 part parts hlast ih =>
    -- a part does not become a text, nor the last one
    have hblanked : ∀ last, Part.blanked part = .text last → parts.map Part.blanked = [] →
        False := by
      intro last hpart hparts
      have hnil : parts = [] := List.map_eq_nil_iff.mp hparts
      cases part with
      | text t => exact hlast t rfl hnil
      | _ => cases hpart
    rw [textAtEnd, List.map_cons, ih, List.map_cons, textAtEnd]
    · exact hblanked
    · exact hlast

@[simp] theorem blanked_appendText (fragment : Fragment) (text : String) :
    (fragment.appendText text).blanked = fragment.blanked.appendText text := by
  unfold appendText
  split
  · rfl
  · exact congrArg mk (map_blanked_textAtEnd text fragment.parts)

theorem blanked_push (fragment : Fragment) (part : Part) :
    (fragment.push part).blanked = fragment.blanked.push part.blanked := by
  cases part with
  | text text => exact blanked_appendText fragment text
  | _ => simp [push, blanked, Part.blanked]

/-- **Fragments one after the other, without their parameters.** -/
@[simp] theorem blanked_append (first second : Fragment) :
    (first ++ second).blanked = first.blanked ++ second.blanked := by
  obtain ⟨parts⟩ := second
  show (parts.foldl push first).blanked = (parts.map Part.blanked).foldl push first.blanked
  induction parts generalizing first with
  | nil => rfl
  | cons part parts ih => rw [List.foldl_cons, ih, blanked_push, List.map_cons, List.foldl_cons]

@[simp] theorem blanked_ofText (text : String) : (ofText text).blanked = ofText text :=
  blanked_appendText empty text

@[simp] theorem blanked_joinedAfter (separator : String) (fragment : Fragment)
    (fragments : List Fragment) :
    (joinedAfter separator fragment fragments).blanked =
      joinedAfter separator fragment.blanked (fragments.map blanked) := by
  induction fragments generalizing fragment with
  | nil => rfl
  | cons next fragments ih => simp [joinedAfter, ih]

@[simp] theorem blanked_joined (separator : String) (fragments : List Fragment) :
    (joined separator fragments).blanked = joined separator (fragments.map blanked) := by
  cases fragments with
  | nil => rfl
  | cons first rest => simp [joined]

@[simp] theorem blanked_parenthesized (fragment : Fragment) :
    fragment.parenthesized.blanked = fragment.blanked.parenthesized := by
  simp [parenthesized]

@[simp] theorem blanked_castTo (cast : Option String) (fragment : Fragment) :
    (fragment.castTo cast).blanked = fragment.blanked.castTo cast := by
  cases cast <;> simp [castTo]

@[simp] theorem blanked_under (aliasName : Option String) (fragment : Fragment) :
    (fragment.under aliasName).blanked = fragment.blanked.under aliasName := by
  cases aliasName <;> simp [under]

@[simp] theorem blanked_call (name : String) (parameters : List Fragment) :
    (call name parameters).blanked = call name (parameters.map blanked) := by
  simp [call]

end Fragment

/-! ## Clauses without their parameters -/

/-- A source of rows without the parameters of its query. -/
def Source.blanked : Source → Source
  | .table name aliasName => .table name aliasName
  | .subquery query aliasName => .subquery query.blanked aliasName

@[simp] theorem Source.toFragment_blanked (source : Source) :
    source.blanked.toFragment = source.toFragment.blanked := by
  have halias (aliasName : Option String) :
      (aliasFragment aliasName).blanked = aliasFragment aliasName := by
    cases aliasName <;> simp [aliasFragment]
  cases source <;> simp [toFragment, blanked, halias]

@[simp] theorem joinFragment_blanked (kind : JoinKind) (source : Source)
    (condition : Option Fragment) :
    joinFragment kind source.blanked (condition.map Fragment.blanked) =
      (joinFragment kind source condition).blanked := by
  cases condition <;> simp [joinFragment]

namespace Select

/-- A statement's clauses without their parameters. -/
def blanked (select : Select) : Select :=
  { select with
    distinct := select.distinct.map Fragment.blanked
    columns := select.columns.map Fragment.blanked
    source := select.source.map Source.blanked
    joins := select.joins.map Fragment.blanked
    filter := select.filter.map Fragment.blanked
    groupBy := select.groupBy.map Fragment.blanked
    having := select.having.map Fragment.blanked
    orderBy := select.orderBy.map Fragment.blanked }

@[simp] theorem clause_blanked (keyword : String) (body : Option Fragment) :
    clause keyword (body.map Fragment.blanked) = (clause keyword body).blanked := by
  cases body <;> simp [clause]

@[simp] theorem countClause_blanked (keyword : String) (count : Option UInt64) :
    (countClause keyword count).blanked = countClause keyword count := by
  cases count <;> simp [countClause]

theorem selectList_blanked (select : Select) :
    select.blanked.selectList = select.selectList.blanked := by
  obtain ⟨_ | distinct, columns, _⟩ := select
  · rw [selectList_of_none rfl, selectList_of_none rfl]
    cases columns <;> simp [blanked]
  · rw [selectList_of_some rfl, selectList_of_some rfl]
    cases columns <;> simp [blanked]

theorem joinList_blanked (select : Select) :
    select.blanked.joinList = select.joinList.blanked := by
  rw [joinList_eq, joinList_eq, Fragment.blanked_joinedAfter]
  rfl

theorem grouping_blanked (select : Select) :
    select.blanked.grouping = select.grouping.blanked := by
  unfold grouping
  cases hgroup : select.groupBy <;> simp [blanked, hgroup, commaSeparated]

theorem ordering_blanked (select : Select) :
    select.blanked.ordering = select.ordering.blanked := by
  cases horder : select.orderBy with
  | none =>
    have hblanked : select.blanked.orderBy = none := by rw [blanked, horder]; rfl
    rw [ordering_of_none horder, ordering_of_none hblanked]
    rfl
  | some elements =>
    have hblanked : select.blanked.orderBy = some elements.blanked := by rw [blanked, horder]; rfl
    rw [ordering_of_some horder, ordering_of_some hblanked, Fragment.isEmpty_blanked]
    split <;> simp

theorem toFragment_blanked (select : Select) :
    select.blanked.toFragment = select.toFragment.blanked := by
  have hsource : select.blanked.source.map Source.toFragment =
      (select.source.map Source.toFragment).map Fragment.blanked := by
    unfold blanked
    cases select.source <;> simp
  have hfilter : select.blanked.filter = select.filter.map Fragment.blanked := rfl
  have hhaving : select.blanked.having = select.having.map Fragment.blanked := rfl
  have hlimit : select.blanked.limit = select.limit := rfl
  rw [toFragment, toFragment, selectList_blanked, joinList_blanked, grouping_blanked,
    ordering_blanked, hsource, hfilter, hhaving, hlimit]
  simp only [clause_blanked, countClause_blanked, Fragment.blanked_append, Fragment.blanked_ofText]

end Select

end QueryTree
