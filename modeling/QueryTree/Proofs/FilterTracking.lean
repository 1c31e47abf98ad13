import QueryTree.Proofs.ColumnTracking
/-!
# Tracking filters

A compiler of a filter gives the fragment of the filter wherever it and
the compilers below it are in their lives (`FilterCompiler.gives_build`),
and it is made exactly where the rules are kept (`Filter.made_compiler`).
Both are by induction on the filter; what a state of a compiler has to do
with its filter is `Filter.Holds`.
-/

namespace QueryTree

open Step

/-! ## Fragments of columns are in normal form -/

theorem Column.normal_of_fragment {column : Column} {showAlias : Bool} {fragment : Fragment}
    (h : column.fragment showAlias = .ok fragment) : fragment.Normal := by
  match column with
  | .named column =>
    unfold Column.fragment at h
    cases h
    exact ((Fragment.normal_identifier _).castTo _).under _
  | .function ⟨name, parameters, aliasName⟩ =>
    unfold Column.fragment at h
    obtain ⟨_, -, h⟩ := bind_eq_ok.mp h
    obtain ⟨fragments, -, h⟩ := bind_eq_ok.mp h
    cases h
    exact (Fragment.normal_call name fragments).under _
  | .value literal =>
    unfold Column.fragment at h
    obtain ⟨param, -, h⟩ := bind_eq_ok.mp h
    cases h
    exact ((Fragment.normal_ofParam param).castTo _).under _

/-! ## Comparisons -/

namespace Operator

theorem text_of_ofText? {text : String} {operator : Operator} (h : ofText? text = some operator) :
    operator.text = text := by
  have := List.find?_some h
  exact of_decide_eq_true this

theorem plain_text (operator : Operator) :
    Template.Plain (" " ++ operator.text ++ " ").toList := by
  cases operator <;> decide

end Operator

namespace ComparisonFilter

/-- What the right side that a compiler keeps has to do with that of its
comparison. -/
def HoldsOperand (filter : ComparisonFilter) (operand : Operand) : Prop :=
  match filter.value, filter.rightColumn, operand with
  | some value, none, .value param => value.toParam = .ok param
  | none, some column, .column compiler => ColumnCompiler.Tracks false column compiler
  | _, _, _ => False

/-- What the state of a compiler has to do with its comparison. -/
structure Holds (filter : ComparisonFilter) (state : ComparisonState) : Prop where
  left : ColumnCompiler.Tracks false filter.column.toColumn state.left
  operator : state.operator.text = filter.operator
  right : filter.HoldsOperand state.right

/-- **The invariant of a comparison's compiler.** -/
def Tracks (filter : ComparisonFilter) : ComparisonCompiler → Prop :=
  Compiler.Tracks filter.Holds filter.Holds filter.fragment

theorem gives_operand (dialect : Dialect) (filter : ComparisonFilter) :
    Gives filter.HoldsOperand filter.operandFragment (Operand.build dialect) := by
  obtain ⟨column, operator, value, rightColumn⟩ := filter
  rintro (param | compiler) h
  · cases value with
    | none => cases rightColumn <;> exact h.elim
    | some value =>
      cases rightColumn with
      | some column => exact h.elim
      | none =>
        have hparam : value.toParam = .ok param := h
        simp only [operandFragment, Operand.build, hparam]
        exact ⟨rfl, hparam⟩
  · cases value with
    | some value => cases rightColumn <;> exact h.elim
    | none =>
      cases rightColumn with
      | none => exact h.elim
      | some column =>
        obtain ⟨hresult, hkept⟩ := ColumnCompiler.gives_build dialect false column compiler h
        exact ⟨hresult, hkept⟩

theorem fill_operator (operator : Operator) {left : Fragment} (h : left.Normal)
    (right : Fragment) :
    Template.fill s!"? {operator.text} ?" [left, right] =
      .ok (left ++ .ofText (" " ++ operator.text ++ " ") ++ right) := by
  have htemplate : (s!"? {operator.text} ?" : String) =
      "?" ++ (" " ++ operator.text ++ " ") ++ "?" := by
    apply String.toList_injective
    simp [toString]
  rw [htemplate]
  exact Template.fill_between operator.plain_text h right

theorem gives_compile (dialect : Dialect) (filter : ComparisonFilter) :
    Gives filter.Holds filter.fragment (ComparisonState.stages.compile dialect) := by
  intro state hstate
  have hleft : Gives filter.Holds (filter.column.toColumn.fragment false)
      (Step.on ComparisonState.left (fun left state => { state with left })
        (ColumnCompiler.build dialect)) :=
    (ColumnCompiler.gives_build dialect false filter.column.toColumn).on (fun _ hs => hs.left)
      fun _ _ hs ht => { hs with left := ht }
  have hright : Gives filter.Holds filter.operandFragment
      (Step.on ComparisonState.right (fun right state => { state with right })
        (Operand.build dialect)) :=
    (filter.gives_operand dialect).on (fun _ hs => hs.right)
      fun _ _ hs ht => { hs with right := ht }
  -- the operator is that of the state before its sides are built
  refine (hleft.andThen fun left hl => hright.andThen fun right _ => gives_ofTemplate ?_)
    state hstate
  rw [fill_operator state.operator (Column.normal_of_fragment hl) right, hstate.operator]

/-- **A compiler of a comparison gives the fragment of it.** -/
theorem gives_build (dialect : Dialect) (filter : ComparisonFilter) :
    Gives filter.Tracks filter.fragment (Compiler.build ComparisonState.stages dialect) :=
  Compiler.gives_build_of_compile rfl (filter.gives_compile dialect)

theorem made_operand (filter : ComparisonFilter) :
    Made filter.HoldsOperand filter.operand filter.checkOperand := by
  obtain ⟨column, operator, value, rightColumn⟩ := filter
  cases value with
  | none =>
    cases rightColumn with
    | none => exact made_error .comparisonOperand
    | some column =>
      exact (Column.made_compilerWith false column).map fun _ h => h
  | some value =>
    cases rightColumn with
    | none =>
      exact (made_discard value.toParam).map fun _ h => h
    | some column => exact made_error .comparisonOperand

/-- A compiler is made of a comparison that keeps the rules. -/
theorem made_compiler (filter : ComparisonFilter) :
    Made filter.Tracks filter.compiler filter.check := by
  unfold compiler check
  cases hoperator : Operator.ofText? filter.operator with
  | none => exact made_error _
  | some operator =>
    refine filter.made_operand.bind fun right hright => ?_
    refine (Column.made_compilerWith false filter.column.toColumn).bind_ok fun left hleft => ?_
    exact ⟨hleft, Operator.text_of_ofText? hoperator, hright⟩

end ComparisonFilter

/-! ## The other conditions on a column -/

/-- A column with other fragments in the holes of a template. -/
theorem FilterState.gives_fillAfter (dialect : Dialect) (column : Column) {template : String}
    {others : List Fragment} {f : Fragment → Fragment}
    (h : ∀ fragment, fragment.Normal →
      Template.fill template (fragment :: others) = .ok (f fragment)) :
    Gives (ColumnCompiler.Tracks false column) (column.fragment false >>= fun e => .ok (f e))
      (fillAfter dialect template others) :=
  (ColumnCompiler.gives_build dialect false column).andThen fun fragment hfragment =>
    gives_ofTemplate (h fragment (Column.normal_of_fragment hfragment))

theorem fill_membership (params : List Param) {fragment : Fragment} (h : fragment.Normal) :
    Template.fill s!"? IN ({holeList params.length})" (fragment :: params.map .ofParam) =
      .ok (fragment ++ .ofText " IN (" ++ .joined ", " (params.map .ofParam) ++ .ofText ")") := by
  have hopening : Template.Plain " IN (".toList := by decide
  have hclosing : Template.Plain ")".toList := by decide
  have htemplate : (s!"? IN ({holeList params.length})" : String) =
      "?" ++ " IN (" ++ holeList (params.map Fragment.ofParam).length ++ ")" := by
    apply String.toList_injective
    simp [toString]
  rw [htemplate]
  exact Template.fill_after_list hopening hclosing h _

theorem fill_like (pattern : Param) {fragment : Fragment} (h : fragment.Normal) :
    Template.fill "? LIKE ?" [fragment, .ofParam pattern] =
      .ok (fragment ++ .ofText " LIKE " ++ .ofParam pattern) :=
  have hplain : Template.Plain " LIKE ".toList := by decide
  Template.fill_between hplain h (.ofParam pattern)

theorem fill_isNull (isNull : Bool) {fragment : Fragment} (h : fragment.Normal) :
    Template.fill (if isNull then "? IS NULL" else "? IS NOT NULL") [fragment] =
      .ok (fragment ++ .ofText (if isNull then " IS NULL" else " IS NOT NULL")) := by
  cases isNull with
  | true =>
    have hplain : Template.Plain " IS NULL".toList := by decide
    exact Template.fill_after hplain h
  | false =>
    have hplain : Template.Plain " IS NOT NULL".toList := by decide
    exact Template.fill_after hplain h

/-! ## The invariant -/

mutual

/-- **What the state of a compiler has to do with its filter.** -/
def Filter.Holds : Filter → FilterState → Prop
  | .comparison filter, .comparison compiler => filter.Tracks compiler
  | .membership filter, .membership column values =>
    ColumnCompiler.Tracks false filter.column.toColumn column ∧ paramsOf filter.values = .ok values
  | .like filter, .like column pattern =>
    ColumnCompiler.Tracks false filter.column.toColumn column ∧
      filter.pattern.toParam = .ok pattern
  | .isNull filter, .isNull column positive =>
    ColumnCompiler.Tracks false filter.column.toColumn column ∧ filter.isNull = positive
  | .and operands, .and compilers => Filter.AllTrack operands compilers
  | .or operands, .or compilers => Filter.AllTrack operands compilers
  | .not operand, .not compiler =>
    Compiler.Tracks (Filter.Holds operand) (Filter.Holds operand) (Filter.fragment operand) compiler
  | _, _ => False

/-- The invariant of the compilers of some operands. -/
def Filter.AllTrack : List Filter → List FilterCompiler → Prop
  | [], [] => True
  | filter :: filters, compiler :: compilers =>
    Compiler.Tracks (Filter.Holds filter) (Filter.Holds filter) (Filter.fragment filter) compiler ∧
      Filter.AllTrack filters compilers
  | _, _ => False

end

/-- **The invariant of a filter's compiler.** -/
def FilterCompiler.Tracks (filter : Filter) : FilterCompiler → Prop :=
  Compiler.Tracks filter.Holds filter.Holds filter.fragment

/-- A state is of a group where its filter is one. -/
theorem Filter.isGroup_of_holds {filter : Filter} {state : FilterState} (h : filter.Holds state) :
    state.isGroup = filter.isGroup := by
  cases filter <;> cases state <;> first | rfl | exact h.elim

namespace FilterState

theorem negation_eq (fragment : Fragment) :
    negation fragment = .ok (.ofText "NOT (" ++ fragment ++ .ofText ")") := by
  rw [negation, Template.fill_negation]
  rfl

theorem buildOperand_eq (dialect : Dialect) (operand : FilterCompiler) :
    buildOperand dialect operand = FilterCompiler.build dialect operand := by
  obtain ⟨state, _ | _ | fragment⟩ := operand <;> rfl

theorem buildOperands_cons_of_ok {dialect : Dialect} {operand next : FilterCompiler}
    {fragment : Fragment} (h : FilterCompiler.build dialect operand = (.ok fragment, next))
    (operands : List FilterCompiler) :
    buildOperands dialect (operand :: operands) =
      ((buildOperands dialect operands).1.map (inGroup next.state fragment :: ·),
        next :: (buildOperands dialect operands).2) := by
  rw [← buildOperand_eq] at h
  simp only [buildOperands, h]

theorem buildOperands_cons_of_error {dialect : Dialect} {operand next : FilterCompiler}
    {error : CompileError} (h : FilterCompiler.build dialect operand = (.error error, next))
    (operands : List FilterCompiler) :
    buildOperands dialect (operand :: operands) = (.error error, next :: operands) := by
  rw [← buildOperand_eq] at h
  simp only [buildOperands, h]

end FilterState

/-! ## Building -/

mutual

/-- **Compiling a filter gives the fragment of it.** -/
theorem Filter.gives_compile (dialect : Dialect) : ∀ filter : Filter,
    Gives filter.Holds filter.fragment (FilterState.compile dialect)
  | .comparison filter => by
    rintro (compiler | _ | _ | _ | _ | _ | _) h
    · obtain ⟨hresult, hkept⟩ := filter.gives_build dialect compiler h
      exact ⟨hresult, hkept⟩
    all_goals exact h.elim
  | .membership filter => by
    rintro (_ | ⟨column, values⟩ | _ | _ | _ | _ | _) h
    rotate_left
    · obtain ⟨htracks, hkept⟩ := h
      obtain ⟨hresult, htracks⟩ := FilterState.gives_fillAfter dialect filter.column.toColumn
        (fun _ => fill_membership values) column htracks
      rw [Filter.fragment, InFilter.fragment, hkept]
      exact ⟨hresult, htracks, hkept⟩
    all_goals exact h.elim
  | .like filter => by
    rintro (_ | _ | ⟨column, pattern⟩ | _ | _ | _ | _) h
    rotate_left 2
    · obtain ⟨htracks, hkept⟩ := h
      obtain ⟨hresult, htracks⟩ := FilterState.gives_fillAfter dialect filter.column.toColumn
        (fun _ => fill_like pattern) column htracks
      rw [Filter.fragment, LikeFilter.fragment, hkept]
      exact ⟨hresult, htracks, hkept⟩
    all_goals exact h.elim
  | .isNull filter => by
    rintro (_ | _ | _ | ⟨column, positive⟩ | _ | _ | _) h
    rotate_left 3
    · obtain ⟨htracks, hkept⟩ := h
      obtain ⟨hresult, htracks⟩ := FilterState.gives_fillAfter dialect filter.column.toColumn
        (fun _ => fill_isNull positive) column htracks
      rw [Filter.fragment, IsNullFilter.fragment, hkept]
      exact ⟨hresult, htracks, hkept⟩
    all_goals exact h.elim
  | .and operands => by
    rintro (_ | _ | _ | _ | compilers | _ | _) h
    rotate_left 4
    · obtain ⟨hfragments, hkept⟩ := Filter.gives_buildOperands dialect operands compilers h
      unfold FilterState.compile Filter.fragment
      refine ⟨?_, hkept⟩
      rw [← map_mapError, ← hfragments]
    all_goals exact h.elim
  | .or operands => by
    rintro (_ | _ | _ | _ | _ | compilers | _) h
    rotate_left 5
    · obtain ⟨hfragments, hkept⟩ := Filter.gives_buildOperands dialect operands compilers h
      unfold FilterState.compile Filter.fragment
      refine ⟨?_, hkept⟩
      rw [← map_mapError, ← hfragments]
    all_goals exact h.elim
  | .not operand => by
    rintro (_ | _ | _ | _ | _ | _ | compiler) h
    rotate_left 6
    · have hgives : Gives (FilterCompiler.Tracks operand) operand.fragment
          (FilterCompiler.build dialect) :=
        Compiler.gives_build_of_compile rfl (Filter.gives_compile dialect operand)
      obtain ⟨hoperand, hkept⟩ := hgives compiler h
      rw [FilterState.compile, FilterState.buildOperand_eq, Filter.fragment]
      refine ⟨?_, hkept⟩
      simp only [hoperand]
      cases operand.fragment with
      | ok fragment => exact FilterState.negation_eq fragment
      | error violation => rfl
    all_goals exact h.elim

/-- The compilers of some operands give their fragments. -/
theorem Filter.gives_buildOperands (dialect : Dialect) : ∀ filters : List Filter,
    Gives (Filter.AllTrack filters) (Filter.operandFragments filters)
      (FilterState.buildOperands dialect)
  | [] => by
    rintro (_ | ⟨compiler, compilers⟩) h
    · exact ⟨rfl, h⟩
    · exact h.elim
  | filter :: filters => by
    have hgives : Gives (FilterCompiler.Tracks filter) filter.fragment
        (FilterCompiler.build dialect) :=
      Compiler.gives_build_of_compile rfl (Filter.gives_compile dialect filter)
    rintro (_ | ⟨compiler, compilers⟩) h
    · exact h.elim
    · obtain ⟨htracks, hall⟩ := h
      unfold Filter.operandFragments
      obtain ⟨fragment, next, hstep, hresult, hnext⟩ | ⟨violation, next, hstep, hresult, hnext⟩ :=
        hgives.cases htracks
      · obtain ⟨hrest, hkept⟩ := Filter.gives_buildOperands dialect filters compilers hall
        -- parentheses are decided by the state, which is of a group where the filter is one
        have hgroup : next.state.isGroup = filter.isGroup :=
          Filter.isGroup_of_holds (Compiler.Tracks.holds hnext)
        rw [FilterState.buildOperands_cons_of_ok hstep, hresult]
        refine ⟨?_, hnext, hkept⟩
        simp only [hrest, FilterState.inGroup, hgroup]
        cases Filter.operandFragments filters <;> rfl
      · rw [FilterState.buildOperands_cons_of_error hstep, hresult]
        exact ⟨rfl, hnext, hall⟩

end

/-- **A compiler of a filter gives the fragment of it.** -/
theorem FilterCompiler.gives_build (dialect : Dialect) (filter : Filter) :
    Gives (Tracks filter) filter.fragment (build dialect) :=
  Compiler.gives_build_of_compile rfl (filter.gives_compile dialect)

/-! ## Making compilers -/

mutual

/-- A compiler is made of a filter that keeps the rules. -/
theorem Filter.made_compiler : ∀ filter : Filter,
    Made (FilterCompiler.Tracks filter) filter.compiler filter.check
  | .comparison filter => filter.made_compiler.bind_ok fun _ h => h
  | .membership filter => by
    unfold Filter.compiler Filter.check
    refine Made.guard ?_ filter.values.isEmpty (.emptyList "in")
    refine (Column.made_compilerWith false filter.column.toColumn).bind fun column hcolumn => ?_
    refine (made_discard (paramsOf filter.values)).bind_ok fun values hvalues => ?_
    exact ⟨hcolumn, hvalues⟩
  | .like filter => by
    refine (Column.made_compilerWith false filter.column.toColumn).bind fun column hcolumn => ?_
    refine (made_discard filter.pattern.toParam).bind_ok fun pattern hpattern => ?_
    exact ⟨hcolumn, hpattern⟩
  | .isNull filter => by
    refine (Column.made_compilerWith false filter.column.toColumn).bind_ok fun column hcolumn => ?_
    exact ⟨hcolumn, rfl⟩
  | .and operands => by
    unfold Filter.compiler Filter.check
    refine Made.guard ?_ operands.isEmpty (.emptyList "and")
    exact (Filter.made_compilers operands).bind_ok fun _ h => h
  | .or operands => by
    unfold Filter.compiler Filter.check
    refine Made.guard ?_ operands.isEmpty (.emptyList "or")
    exact (Filter.made_compilers operands).bind_ok fun _ h => h
  | .not operand => (Filter.made_compiler operand).bind_ok fun _ h => h

/-- The compilers of some filters are made in order. -/
theorem Filter.made_compilers : ∀ filters : List Filter,
    Made (Filter.AllTrack filters) (Filter.compilers filters) (Filter.checkAll filters)
  | [] => made_ok trivial
  | filter :: filters => by
    refine (Filter.made_compiler filter).bind fun compiler hcompiler => ?_
    refine (Filter.made_compilers filters).bind_ok fun compilers hcompilers => ?_
    exact ⟨hcompiler, hcompilers⟩

end

/-- The same for a filter that may be missing. -/
theorem Filter.made_compiler? (filter : Option Filter) :
    Made (Option.Rel FilterCompiler.Tracks filter) (compiler? filter)
      (filter.forM Filter.check) := by
  have hmade := made_optional filter Filter.made_compiler
  cases filter <;> exact hmade

/-- **What a compiler that was just made of a filter builds,** if it can be
made and builds anything. -/
theorem Filter.built_iff {dialect : Dialect} {filter : Filter} {fragment : Fragment} :
    (∃ compiler, filter.compiler = .ok compiler ∧
      (FilterCompiler.build dialect compiler).1 = .ok fragment) ↔
      filter.check = .ok () ∧ filter.fragment = .ok fragment := by
  have hmade := filter.made_compiler
  constructor
  · rintro ⟨compiler, hcompiler, hbuild⟩
    rw [hcompiler] at hmade
    obtain ⟨hcheck, htracks⟩ := hmade.of_ok
    rw [(FilterCompiler.gives_build dialect filter compiler htracks).1, mapError_eq_ok] at hbuild
    exact ⟨hcheck, hbuild⟩
  · rintro ⟨hcheck, hfragment⟩
    rw [hcheck] at hmade
    obtain ⟨compiler, hcompiler, htracks⟩ := hmade.exists_ok
    refine ⟨compiler, hcompiler, ?_⟩
    rw [(FilterCompiler.gives_build dialect filter compiler htracks).1, mapError_eq_ok]
    exact hfragment

end QueryTree
