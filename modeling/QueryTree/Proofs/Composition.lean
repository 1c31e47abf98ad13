import QueryTree.Proofs.FilterTracking
import QueryTree.Proofs.Occurrence
/-!
# Composition — the few ways in which fragments are put together

Names, parameters and words stand one after another with words between
them; a type stands after the expression that is cast to it; and what is
enclosed in parentheses stands between two words of which the one opens
what the other closes. Every query that keeps the rules becomes a fragment
composed so (`Query.composed_outcome`), and what is true of these ways of
putting fragments together is true of every statement. The texts of the
ways are fixed or checked, save for the types: what is asked of these is a
parameter.
-/

namespace QueryTree

open Text

/-! ## Words -/

namespace Text

/-- The characters that open or close something. -/
def brackets : List Char := ['(', ')', '[', ']']

/-- Whether a text is bare and neither opens nor closes anything. -/
def IsPlain (text : List Char) : Prop := ∀ c ∈ text, isBare c = true ∧ c ∉ brackets

instance (text : List Char) : Decidable (IsPlain text) :=
  List.decidableBAll (fun c => isBare c = true ∧ c ∉ brackets) text

theorem IsPlain.allBare {text : List Char} (h : IsPlain text) : AllBare text :=
  fun c hc => (h c hc).1

theorem IsPlain.append {first second : List Char} (hf : IsPlain first) (hs : IsPlain second) :
    IsPlain (first ++ second) := List.forall_mem_append.mpr ⟨hf, hs⟩

/-- Whether a text may stand after any fragment: no digit comes first,
which a parameter before it would be read with. -/
structure IsLead (text : String) : Prop where
  isPlain : IsPlain text.toList
  head : text.toList.head?.any Char.isDigit = false

instance (text : String) : Decidable (IsLead text) :=
  decidable_of_iff (IsPlain text.toList ∧ text.toList.head?.any Char.isDigit = false)
    ⟨fun h => ⟨h.1, h.2⟩, fun h => ⟨h.isPlain, h.head⟩⟩

/-- Whether a text may stand between any two fragments. -/
structure IsSeparator (text : String) : Prop extends IsLead text where
  ne_empty : text ≠ ""

instance (text : String) : Decidable (IsSeparator text) :=
  decidable_of_iff (IsLead text ∧ text ≠ "")
    ⟨fun h => ⟨h.1, h.2⟩, fun h => ⟨h.toIsLead, h.ne_empty⟩⟩

theorem isSeparator_comma : IsSeparator ", " := by decide

theorem isPlain_of_isAlphanum {c : Char} (h : c.isAlphanum = true) :
    isBare c = true ∧ c ∉ brackets := by
  refine ⟨isBare_of_isAlphanum h, fun hc => ?_⟩
  have hbrackets : brackets.all (fun d => !d.isAlphanum) = true := rfl
  have hbracket := List.all_eq_true.mp hbrackets c hc
  rw [h] at hbracket
  cases hbracket

theorem isLead_of_isFunctionName {name : String} (h : isFunctionName name = true) :
    IsLead name where
  isPlain c hc := by
    rcases mem_of_isFunctionName h c hc with halnum | rfl | rfl
    · exact isPlain_of_isAlphanum halnum
    · decide
    · decide
  head := head_of_isFunctionName h

theorem isPlain_count (count : UInt64) : IsPlain (toString count.toNat).toList := by
  intro c hc
  have hdigits : c ∈ Nat.toDigits 10 count.toNat := by
    rwa [Nat.toString_eq_repr, Nat.toList_repr] at hc
  have hdigit := Nat.isDigit_of_mem_toDigits (by decide) (by decide) hdigits
  exact isPlain_of_isAlphanum (by simp [Char.isAlphanum, hdigit])

end Text

/-! ## Composed fragments -/

namespace Fragment

/-- **A composed fragment,** whose types are good. -/
inductive Composed (good : String → Prop) : Fragment → Prop
  | empty : Composed good .empty
  | identifier (name : String) : Composed good (.identifier name)
  | ofAlias (name : String) : Composed good (.ofAlias name)
  | ofParam (param : Param) : Composed good (.ofParam param)
  | ofText {text : String} (ht : IsPlain text.toList) : Composed good (.ofText text)
  /-- Two fragments with a text between them. -/
  | between {first second : Fragment} {text : String} (hf : Composed good first)
      (ht : IsSeparator text) (hs : Composed good second) :
      Composed good (first ++ .ofText text ++ second)
  /-- An expression with a cast after it. -/
  | cast {expression : Fragment} {type : String} (h : Composed good expression)
      (ht : isCastType type = true) (hg : good type) :
      Composed good (expression ++ .ofText ("::" ++ type))
  /-- A fragment in parentheses, after another one and a text. -/
  | enclosed {first second : Fragment} {text : String} (hf : Composed good first)
      (ht : IsLead text) (hs : Composed good second) :
      Composed good (first ++ .ofText (text ++ "(") ++ second ++ .ofText ")")

namespace Composed

variable {good : String → Prop} {first second fragment : Fragment} {text : String}

theorem normal (h : Composed good fragment) : fragment.Normal := by
  induction h with
  | empty => exact normal_empty
  | identifier name => exact normal_identifier name
  | ofAlias name => exact normal_ofAlias name
  | ofParam param => exact normal_ofParam param
  | ofText _ => exact normal_ofText _
  | between _ _ _ hf _ => exact (hf.append _).append _
  | cast _ _ _ h => exact h.append _
  | enclosed _ _ _ hf _ => exact ((hf.append _).append _).append _

/-! ### Texts before and after -/

theorem append_ofText (h : Composed good fragment) (ht : IsSeparator text) :
    Composed good (fragment ++ .ofText text) := h.between ht .empty

theorem appendText (h : Composed good fragment) (ht : IsSeparator text) :
    Composed good (fragment.appendText text) := by
  rw [← Fragment.append_ofText]
  exact h.append_ofText ht

theorem ofText_append (h : Composed good fragment) (ht : IsSeparator text) :
    Composed good (.ofText text ++ fragment) := by
  have hbetween : Composed good (.empty ++ .ofText text ++ fragment) := .between .empty ht h
  rwa [(normal_ofText text).empty_append] at hbetween

/-- What a text opens and another one closes. -/
theorem inside (h : Composed good fragment) (ht : IsLead text) :
    Composed good (.ofText (text ++ "(") ++ fragment ++ .ofText ")") := by
  have henclosed : Composed good (.empty ++ .ofText (text ++ "(") ++ fragment ++ .ofText ")") :=
    .enclosed .empty ht h
  rwa [(normal_ofText (text ++ "(")).empty_append] at henclosed

theorem parenthesized (h : Composed good fragment) : Composed good fragment.parenthesized := by
  have hinside := h.inside (by decide : IsLead "")
  rwa [Fragment.append_ofText] at hinside

/-! ### Lists -/

theorem joinedAfter (h : Composed good fragment) {separator : String} (ht : IsSeparator separator)
    {fragments : List Fragment} (hs : ∀ next ∈ fragments, Composed good next) :
    Composed good (Fragment.joinedAfter separator fragment fragments) := by
  induction fragments generalizing fragment with
  | nil => exact h
  | cons next fragments ih =>
    obtain ⟨hnext, hrest⟩ := List.forall_mem_cons.mp hs
    have hbetween := h.between ht hnext
    rw [Fragment.append_ofText] at hbetween
    exact ih hbetween hrest

theorem joined {separator : String} (ht : IsSeparator separator) {fragments : List Fragment}
    (hs : ∀ fragment ∈ fragments, Composed good fragment) :
    Composed good (Fragment.joined separator fragments) := by
  cases fragments with
  | nil => exact .empty
  | cons first rest =>
    obtain ⟨hfirst, hrest⟩ := List.forall_mem_cons.mp hs
    rw [Fragment.joined, hfirst.normal.empty_append]
    exact hfirst.joinedAfter ht hrest

/-! ### Expressions -/

theorem castTo (h : Composed good fragment) {type : Option String}
    (hcheck : checkCastType type = .ok ()) (hgood : ∀ t ∈ type, good t) :
    Composed good (fragment.castTo type) := by
  cases type with
  | none => exact h
  | some type => exact h.cast (isCastType_of_check hcheck) (hgood type rfl)

theorem under (h : Composed good fragment) (aliasName : Option String) :
    Composed good (fragment.under aliasName) := by
  cases aliasName with
  | none => exact h
  | some name => exact h.between (by decide) (.ofAlias name)

theorem call {name : String} (hname : isFunctionName name = true) {parameters : List Fragment}
    (hs : ∀ fragment ∈ parameters, Composed good fragment) :
    Composed good (Fragment.call name parameters) :=
  (joined isSeparator_comma hs).inside (isLead_of_isFunctionName hname)

end Composed

end Fragment

open Fragment

variable {good : String → Prop}

/-! ## Columns and filters -/

/-- Whether all types that are cast to in a column are good. -/
def Column.CastsTo (good : String → Prop) (column : Column) : Prop :=
  ∀ type ∈ column.casts, good type

mutual

/-- **A column that keeps the rules is composed.** -/
theorem Column.composed_fragment : ∀ (column : Column) (showAlias : Bool),
    column.check = .ok () → column.CastsTo good →
    Yields (Composed good) (column.fragment showAlias)
  | .named column, showAlias, hcheck, hgood => by
    obtain ⟨-, hcast, -⟩ := Column.check_named hcheck
    unfold Column.fragment
    refine yields_ok (((Composed.identifier _).castTo hcast fun type ht => ?_).under _)
    exact hgood type (List.mem_filterMap.mpr ⟨_, List.mem_cons_self, ht⟩)
  | .function ⟨name, parameters, aliasName⟩, showAlias, hcheck, hgood => by
    obtain ⟨hname, -⟩ := Column.check_function hcheck
    have hinside : ∀ column ∈ parameters, column.CastsTo good := by
      intro column hc type ht
      refine hgood type ?_
      rw [Column.casts_function]
      exact List.mem_flatMap.mpr ⟨column, hc, ht⟩
    unfold Column.fragment
    refine (yields_self (Column.checkAll parameters)).bind fun _ hparameters => ?_
    refine (Column.composed_fragments parameters false hparameters hinside).bind fun _ h => ?_
    exact yields_ok ((Composed.call hname h).under _)
  | .value literal, showAlias, hcheck, hgood => by
    obtain ⟨-, hcast, -⟩ := Column.check_value hcheck
    unfold Column.fragment
    refine (yields_self literal.value.toParam).bind fun param _ => ?_
    refine yields_ok (((Composed.ofParam param).castTo hcast fun type ht => ?_).under _)
    exact hgood type (List.mem_filterMap.mpr ⟨_, List.mem_cons_self, ht⟩)

/-- Columns that keep the rules are composed. -/
theorem Column.composed_fragments : ∀ (columns : List Column) (showAlias : Bool),
    Column.checkAll columns = .ok () → (∀ column ∈ columns, column.CastsTo good) →
    Yields (fun fragments => ∀ fragment ∈ fragments, Composed good fragment)
      (Column.fragments columns showAlias)
  | [], _, _, _ => yields_ok fun _ h => (nomatch h)
  | column :: columns, showAlias, hcheck, hgood => by
    obtain ⟨hcolumn, hcolumns⟩ := Column.checkAll_cons hcheck
    obtain ⟨hgood, hgoods⟩ := List.forall_mem_cons.mp hgood
    unfold Column.fragments
    refine (Column.composed_fragment column showAlias hcolumn hgood).bind fun fragment h => ?_
    refine (Column.composed_fragments columns showAlias hcolumns hgoods).bind fun fragments hs => ?_
    exact yields_ok (List.forall_mem_cons.mpr ⟨h, hs⟩)

end

namespace ComparisonFilter

theorem isSeparator_operator {filter : ComparisonFilter} {operator : Operator}
    (h : Operator.ofText? filter.operator = some operator) :
    IsSeparator (" " ++ filter.operator ++ " ") := by
  rw [← Operator.text_of_ofText? h]
  cases operator <;> decide

theorem composed_operandFragment (filter : ComparisonFilter) (hcheck : filter.checkOperand = .ok ())
    (hgood : ∀ column ∈ filter.rightColumn, column.CastsTo good) :
    Yields (Composed good) filter.operandFragment := by
  obtain ⟨column, operator, _ | value, _ | right⟩ := filter
  · exact yields_error _
  · exact right.composed_fragment false hcheck (hgood right rfl)
  · exact (yields_self value.toParam).map fun param _ => .ofParam param
  · exact yields_error _

theorem composed_fragment (filter : ComparisonFilter) (hcheck : filter.check = .ok ())
    (hgood : ∀ column ∈ (Filter.comparison filter).sides, column.CastsTo good) :
    Yields (Composed good) filter.fragment := by
  obtain ⟨hgoodLeft, hgoodRight⟩ := List.forall_mem_cons.mp hgood
  unfold check at hcheck
  cases hoperator : Operator.ofText? filter.operator with
  | none =>
    rw [hoperator] at hcheck
    cases hcheck
  | some operator =>
    rw [hoperator] at hcheck
    obtain ⟨_, hright, hleft⟩ := bind_eq_ok.mp hcheck
    have hseparator := isSeparator_operator hoperator
    have hgoodRight : ∀ column ∈ filter.rightColumn, column.CastsTo good :=
      fun column hc => hgoodRight column (Option.mem_toList.mpr hc)
    refine (filter.column.toColumn.composed_fragment false hleft hgoodLeft).bind fun left hl => ?_
    refine (filter.composed_operandFragment hright hgoodRight).bind fun right hr => ?_
    exact yields_ok (hl.between hseparator hr)

end ComparisonFilter

theorem Fragment.composed_ofParams (params : List Param) :
    Composed good (joined ", " (params.map ofParam)) := by
  refine Composed.joined isSeparator_comma fun fragment h => ?_
  obtain ⟨param, -, rfl⟩ := List.mem_map.mp h
  exact .ofParam param

theorem InFilter.composed_fragment (filter : InFilter)
    (hcheck : filter.column.toColumn.check = .ok ()) (hgood : filter.column.toColumn.CastsTo good) :
    Yields (Composed good) filter.fragment := by
  refine (filter.column.toColumn.composed_fragment false hcheck hgood).bind fun column hcolumn => ?_
  refine (yields_self (paramsOf filter.values)).bind fun params _ => yields_ok ?_
  have hlead : IsLead " IN " := by decide
  have hopening : " IN (" = " IN " ++ "(" := by decide
  rw [hopening]
  exact hcolumn.enclosed hlead (composed_ofParams params)

theorem LikeFilter.composed_fragment (filter : LikeFilter)
    (hcheck : filter.column.toColumn.check = .ok ()) (hgood : filter.column.toColumn.CastsTo good) :
    Yields (Composed good) filter.fragment := by
  refine (filter.column.toColumn.composed_fragment false hcheck hgood).bind fun column hcolumn => ?_
  refine (yields_self filter.pattern.toParam).bind fun pattern _ => ?_
  exact yields_ok (hcolumn.between (by decide) (.ofParam pattern))

theorem IsNullFilter.composed_fragment (filter : IsNullFilter)
    (hcheck : filter.column.toColumn.check = .ok ()) (hgood : filter.column.toColumn.CastsTo good) :
    Yields (Composed good) filter.fragment := by
  refine (filter.column.toColumn.composed_fragment false hcheck hgood).bind fun column hcolumn => ?_
  refine yields_ok (hcolumn.append_ofText ?_)
  cases filter.isNull <;> decide

mutual

/-- **A filter that keeps the rules is composed.** -/
theorem Filter.composed_fragment : ∀ filter : Filter, filter.check = .ok () →
    (∀ column ∈ filter.columns, column.CastsTo good) → Yields (Composed good) filter.fragment
  | .comparison filter, hcheck, hgood => by
    refine filter.composed_fragment hcheck fun column hc => hgood column ?_
    rwa [Filter.columns_of_parts rfl]
  | .membership filter, hcheck, hgood => by
    unfold Filter.check at hcheck
    obtain ⟨_, hcolumn, -⟩ := bind_eq_ok.mp (eq_ok_of_guard hcheck)
    exact filter.composed_fragment hcolumn (hgood _ List.mem_cons_self)
  | .like filter, hcheck, hgood => by
    obtain ⟨_, hcolumn, -⟩ := bind_eq_ok.mp hcheck
    exact filter.composed_fragment hcolumn (hgood _ List.mem_cons_self)
  | .isNull filter, hcheck, hgood => filter.composed_fragment hcheck (hgood _ List.mem_cons_self)
  | .and operands, hcheck, hgood => by
    rw [Filter.columns_and] at hgood
    unfold Filter.check at hcheck
    have hoperands := Filter.composed_operandFragments operands (eq_ok_of_guard hcheck) hgood
    refine hoperands.map fun fragments h => ?_
    exact Composed.joined (by decide) h
  | .or operands, hcheck, hgood => by
    rw [Filter.columns_or] at hgood
    unfold Filter.check at hcheck
    have hoperands := Filter.composed_operandFragments operands (eq_ok_of_guard hcheck) hgood
    refine hoperands.map fun fragments h => ?_
    exact Composed.joined (by decide) h
  | .not operand, hcheck, hgood => by
    rw [Filter.columns_not] at hgood
    refine (Filter.composed_fragment operand hcheck hgood).map fun fragment h => ?_
    have hlead : IsLead "NOT " := by decide
    have hopening : "NOT (" = "NOT " ++ "(" := by decide
    rw [hopening]
    exact h.inside hlead

/-- Operands that keep the rules are composed, in parentheses or not. -/
theorem Filter.composed_operandFragments : ∀ filters : List Filter,
    Filter.checkAll filters = .ok () →
    (∀ column ∈ filters.flatMap Filter.columns, column.CastsTo good) →
    Yields (fun fragments => ∀ fragment ∈ fragments, Composed good fragment)
      (Filter.operandFragments filters)
  | [], _, _ => yields_ok fun _ h => (nomatch h)
  | filter :: filters, hcheck, hgood => by
    obtain ⟨_, hfilter, hfilters⟩ := bind_eq_ok.mp hcheck
    rw [List.flatMap_cons] at hgood
    obtain ⟨hgood, hgoods⟩ := List.forall_mem_append.mp hgood
    unfold Filter.operandFragments
    refine (Filter.composed_fragment filter hfilter hgood).bind fun fragment h => ?_
    refine (Filter.composed_operandFragments filters hfilters hgoods).bind fun fragments hs => ?_
    refine yields_ok (List.forall_mem_cons.mpr ⟨?_, hs⟩)
    split
    · exact h.parenthesized
    · exact h

end

/-! ## Clauses -/

theorem Direction.isSeparator_keyword (direction : Direction) : IsSeparator direction.keyword := by
  cases direction <;> decide

theorem OrderByElement.composed_joinedFragment {elements : List OrderByElement}
    (hcheck : checkAll elements = .ok ())
    (hgood : ∀ column ∈ columns elements, column.CastsTo good) :
    Yields (Composed good) (joinedFragment elements) := by
  have helement : ∀ element ∈ elements, Yields (Composed good) element.fragment := by
    intro element hmem
    have helements := eq_ok_of_forM (eq_ok_of_guard hcheck)
    obtain ⟨_, hcolumn, -⟩ := bind_eq_ok.mp (helements element hmem)
    have hgood := hgood _ (List.mem_map_of_mem hmem)
    refine (yields_self element.directionOf).bind fun direction _ => ?_
    refine (element.column.toColumn.composed_fragment false hcolumn hgood).bind fun _ h => ?_
    exact yields_ok (h.appendText direction.isSeparator_keyword)
  refine (yields_mapM helement).map fun fragments h => ?_
  exact Composed.joined isSeparator_comma h

/-- The clause has one text between its key and its columns, which closes
the one and goes on with the other. -/
theorem Fragment.Composed.distinctOn {key columns : Fragment} (hk : Composed good key)
    (hc : Composed good columns) :
    Composed good (.ofText "DISTINCT ON (" ++ key ++ .ofText ") " ++ columns) := by
  have hkey := hk.inside (by decide : IsLead "DISTINCT ON ")
  have hbetween := hkey.between (by decide : IsSeparator " ") hc
  rwa [Fragment.append_ofText, Fragment.append_ofText, ← appendText_append,
    ← Fragment.append_ofText] at hbetween

theorem Distinct.composed_fragment (distinct : Distinct) (hcheck : distinct.check = .ok ())
    (hgood : ∀ column ∈ distinct.allColumns, column.CastsTo good) :
    Yields (Composed good) distinct.fragment := by
  obtain ⟨hgoodColumns, hgoodKey⟩ := List.forall_mem_append.mp hgood
  unfold check at hcheck
  obtain ⟨_, hkey, hcolumns⟩ := bind_eq_ok.mp (eq_ok_of_guard hcheck)
  have hkeys : ∀ column ∈ distinct.key, Yields (Composed good) (column.fragment false) := by
    intro column hc
    exact column.composed_fragment false (eq_ok_of_option_forM hkey column hc)
      (hgoodKey column (Option.mem_toList.mpr hc))
  refine (Column.composed_fragments distinct.columns true hcolumns hgoodColumns).bind fun _ h => ?_
  have hlist := Composed.joined isSeparator_comma h
  refine (yields_option_mapM hkeys).bind fun key hk => ?_
  cases key with
  | none => exact yields_ok (hlist.ofText_append (by decide))
  | some key => exact yields_ok ((hk key rfl).distinctOn hlist)

/-- A source with its alias, if there is one. -/
theorem Source.composed_append_aliasFragment {fragment : Fragment} (h : Composed good fragment)
    (aliasName : Option String) : Composed good (fragment ++ aliasFragment aliasName) := by
  cases aliasName with
  | none => exact h
  | some name =>
    rw [aliasFragment, ← append_assoc]
    exact h.between (by decide) (.ofAlias name)

section Subqueries

variable {checked : Query → Except Violation Unit}
variable {fragment : Query → Except Violation Fragment}

theorem Table.composed_source {table : Table Query}
    (hsub : ∀ inner ∈ queries (some table), Yields (Composed good) (fragment inner))
    (aliasName : Option String) :
    Yields (fun source => Composed good source.toFragment) (table.source fragment aliasName) := by
  cases table with
  | name n => exact yields_ok (Source.composed_append_aliasFragment (.identifier n) aliasName)
  | query inner =>
    refine (hsub inner List.mem_cons_self).map fun fragment h => ?_
    exact Source.composed_append_aliasFragment h.parenthesized aliasName

theorem JoinKind.isSeparator_keywords (kind : JoinKind) : IsSeparator (kind.keywords ++ " ") := by
  cases kind <;> decide

/-- **A join that keeps the rules is composed.** -/
theorem Join.composed_fragment {join : Join Query}
    (hsub : ∀ inner ∈ Table.queries join.table, Yields (Composed good) (fragment inner))
    (hcheck : join.Checked checked) (hgood : ∀ column ∈ join.columns, column.CastsTo good) :
    Yields (Composed good) (join.fragment fragment) := by
  have hsource : Yields (fun source => Composed good source.toFragment) (join.source fragment) := by
    unfold source
    rcases htable : join.table with _ | table
    · exact yields_error _
    · exact Table.composed_source (htable ▸ hsub) join.sourceAlias
  have hfilter : ∀ filter ∈ join.condition, Yields (Composed good) filter.fragment := by
    intro filter hf
    exact filter.composed_fragment (hcheck.condition filter hf)
      (forall_mem_elim.mp hgood filter hf)
  refine (yields_self join.kindOf).bind fun kind _ => ?_
  refine hsource.bind fun source hs => ?_
  refine (yields_option_mapM hfilter).bind fun condition hc => yields_ok ?_
  have hjoined := hs.ofText_append kind.isSeparator_keywords
  cases condition with
  | none => exact hjoined
  | some condition =>
    rw [joinFragment, ← Fragment.append_ofText]
    exact hjoined.between (by decide) (hc condition rfl)

/-! ## Queries -/

namespace Select

variable {select : Select} {first : Fragment}

/-- A clause after others. -/
theorem composed_append_clause (h : Composed good first) {keyword : String}
    (hk : IsSeparator keyword) {body : Option Fragment}
    (hb : ∀ fragment ∈ body, Composed good fragment) :
    Composed good (first ++ clause keyword body) := by
  cases body with
  | none => exact h
  | some fragment =>
    rw [clause, ← append_assoc]
    exact h.between hk (hb fragment rfl)

/-- A clause with a number of rows after others. -/
theorem composed_append_countClause (h : Composed good first) {keyword : String}
    (hk : IsSeparator keyword) (count : Option UInt64) :
    Composed good (first ++ countClause keyword count) := by
  cases count with
  | none => exact h
  | some count =>
    have heq : Fragment.ofText (keyword ++ toString count.toNat) =
        .ofText keyword ++ .ofText (toString count.toNat) := by
      rw [Fragment.append_ofText]
      exact Fragment.appendText_append .empty keyword (toString count.toNat)
    rw [countClause, heq, ← append_assoc]
    exact h.between hk (.ofText (isPlain_count count))

/-- The clauses of a statement are composed. -/
structure Composed (good : String → Prop) (select : Select) : Prop where
  distinct : ∀ fragment ∈ select.distinct, fragment.Composed good
  columns : ∀ fragment ∈ select.columns, fragment.Composed good
  source : ∀ source ∈ select.source, source.toFragment.Composed good
  joins : ∀ fragment ∈ select.joins, fragment.Composed good
  filter : ∀ fragment ∈ select.filter, fragment.Composed good
  groupBy : ∀ fragment ∈ select.groupBy, fragment.Composed good
  having : ∀ fragment ∈ select.having, fragment.Composed good
  orderBy : ∀ fragment ∈ select.orderBy, fragment.Composed good

theorem Composed.selectList (h : select.Composed good) : select.selectList.Composed good := by
  have hlist := Fragment.Composed.joined isSeparator_comma h.columns
  cases hdistinct : select.distinct with
  | none =>
    rw [selectList_of_none hdistinct]
    split
    · exact .ofText (by decide)
    · exact hlist
  | some distinct =>
    have hd := h.distinct distinct hdistinct
    rw [selectList_of_some hdistinct]
    split
    · exact hd
    · rw [← Fragment.append_ofText]
      exact hd.between (by decide) hlist

theorem Composed.append_joinList (h : select.Composed good) (hf : first.Composed good) :
    (first ++ select.joinList).Composed good := by
  rw [joinList_eq, append_joinedAfter]
  exact hf.joinedAfter (by decide) h.joins

theorem Composed.append_grouping (h : select.Composed good) (hf : first.Composed good) :
    (first ++ select.grouping).Composed good := by
  unfold grouping
  split
  · exact hf
  · rw [← append_assoc]
    exact hf.between (by decide) (.joined isSeparator_comma h.groupBy)

theorem Composed.append_ordering (h : select.Composed good) (hf : first.Composed good) :
    (first ++ select.ordering).Composed good := by
  cases horder : select.orderBy with
  | none =>
    rw [ordering_of_none horder]
    exact hf
  | some elements =>
    rw [ordering_of_some horder]
    split
    · exact hf
    · rw [← append_assoc]
      exact hf.between (by decide) (h.orderBy elements horder)

/-- **A statement of composed clauses is composed.** -/
theorem Composed.toFragment (h : select.Composed good) : select.toFragment.Composed good := by
  have hsource : ∀ fragment ∈ select.source.map Source.toFragment, fragment.Composed good := by
    intro fragment hf
    obtain ⟨source, hs, rfl⟩ := Option.mem_map.mp hf
    exact h.source source hs
  have hlist := h.selectList.ofText_append (by decide : IsSeparator "SELECT ")
  have hfrom := composed_append_clause hlist (by decide : IsSeparator " FROM ") hsource
  have hwhere := composed_append_clause (h.append_joinList hfrom)
    (by decide : IsSeparator " WHERE ") h.filter
  have hhaving := composed_append_clause (h.append_grouping hwhere)
    (by decide : IsSeparator " HAVING ") h.having
  have hlimit := composed_append_countClause (h.append_ordering hhaving)
    (by decide : IsSeparator " LIMIT ") select.limit.limit
  exact composed_append_countClause hlimit (by decide : IsSeparator " OFFSET ") select.limit.offset

end Select

namespace Query

/-- Whether all types that are cast to in the clauses of a query are good. -/
def CastsTo (good : String → Prop) (query : Query) : Prop :=
  ∀ column ∈ query.allColumns, column.CastsTo good

/-- **A query that keeps the rules is composed,** if those it reads from
are. -/
theorem composed_fragmentWith {query : Query}
    (hsub : ∀ inner ∈ query.sources, Yields (Composed good) (fragment inner)) (dialect : Dialect)
    (hcheck : query.Checked checked) (hgood : query.CastsTo good) :
    Yields (Composed good) (query.fragmentWith fragment dialect) := by
  -- the types, clause by clause
  rw [CastsTo, allColumns_eq, clauseColumns] at hgood
  simp only [List.forall_mem_append, forall_mem_elim, List.mem_flatMap] at hgood
  obtain ⟨hselected, ⟨⟨⟨⟨hjoined, hfiltered⟩, hgrouped⟩, hhaved⟩, hordered⟩, hdistincted⟩ := hgood
  have hsource : Yields (fun source => source.toFragment.Composed good)
      (query.source fragment) := by
    unfold source
    rcases htable : query.table with _ | table
    · exact yields_error _
    · refine Table.composed_source (fun inner h => ?_) query.tableAlias
      exact hsub inner (mem_sources_of_table (htable ▸ h))
  have hdistinct : ∀ distinct ∈ query.distinct, Yields (Composed good) distinct.fragment := by
    intro distinct hd
    exact distinct.composed_fragment (hcheck.distinct distinct hd) (hdistincted distinct hd)
  have hjoins : ∀ join ∈ query.joins, Yields (Composed good) (join.fragment fragment) := by
    intro join hj
    exact Join.composed_fragment (fun inner h => hsub inner (mem_sources_of_join hj h))
      (hcheck.joins join hj) fun column hc => hjoined column ⟨join, hj, hc⟩
  have hfilter : ∀ filter ∈ query.filter, Yields (Composed good) filter.fragment := by
    intro filter hf
    exact filter.composed_fragment (hcheck.filter filter hf) (hfiltered filter hf)
  have hhaving : ∀ having ∈ query.having, Yields (Composed good) having.fragment := by
    intro having hh
    exact having.composed_fragment (hcheck.having having hh) (hhaved having hh)
  have horderBy : ∀ elements ∈ query.orderBy,
      Yields (Composed good) (OrderByElement.joinedFragment elements) := by
    intro elements ho
    exact OrderByElement.composed_joinedFragment (hcheck.orderBy elements ho)
      (hordered elements ho)
  -- the clauses, in the order they are built in
  unfold fragmentWith
  refine (yields_self (Column.checkAll query.selectedColumns)).bind fun _ hcolumns => ?_
  rw [select_map_toFragment]
  refine (Column.composed_fragments _ true hcolumns hselected).bind fun columns hc => ?_
  refine (yields_option_mapM hdistinct).bind fun distinct hd => ?_
  refine hsource.bind fun source hs => ?_
  refine (yields_mapM hjoins).bind fun joins hj => ?_
  refine (yields_option_mapM hfilter).bind fun filter hf => ?_
  refine (Column.composed_fragments _ false hcheck.groupBy hgrouped).bind fun groupBy hg => ?_
  refine (yields_option_mapM hhaving).bind fun having hh => ?_
  refine (yields_option_mapM horderBy).bind fun orderBy ho => yields_ok ?_
  exact Select.Composed.toFragment {
    distinct := hd, columns := hc, source := fun _ h => Option.some.inj h ▸ hs, joins := hj
    filter := hf, groupBy := hg, having := hh, orderBy := ho }

end Query

end Subqueries

/-- **What becomes of a query is composed.** -/
theorem Query.composed_outcome (dialect : Dialect) {query : Query}
    (hgood : ∀ inner ∈ query :: query.inside, inner.CastsTo good) :
    Yields (Composed good) (query.outcome dialect) := by
  obtain ⟨hquery, hinside⟩ := List.forall_mem_cons.mp hgood
  have hnested : ∀ inner ∈ query.sources, inner.nestedCheck = .ok () →
      Yields (Composed good) (inner.nestedFragment dialect) := by
    intro inner hinner hcheck
    have hmem : inner ∈ query.inside := by
      rw [inside_eq_flatMap]
      exact List.mem_flatMap.mpr ⟨inner, hinner, List.mem_cons_self⟩
    exact composed_fragmentWith (fun _ _ => yields_error Violation.nestedTooDeep) dialect
      (checked_of_checkWith hcheck) (hinside inner hmem)
  refine (yields_self query.check).bind fun _ hcheck => ?_
  have hchecked := checked_of_check hcheck
  refine composed_fragmentWith (fun inner hinner => ?_) dialect hchecked hquery
  exact hnested inner hinner (hchecked.sources inner hinner)

end QueryTree
