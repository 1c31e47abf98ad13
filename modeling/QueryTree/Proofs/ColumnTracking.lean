import QueryTree.Proofs.Assembly
import QueryTree.Proofs.Names
import QueryTree.Proofs.Tracking
/-!
# Tracking columns

A compiler of a column that keeps the rules gives the fragment of the
column, wherever it is in its life and whatever its parameters have kept
(`Column.gives_build`). The induction is on the column: the compilers of
the parameters are among what the compiler of a function keeps.
-/

namespace QueryTree

open Step

/-! ## What the checks of a column say -/

theorem Column.check_named {column : NamedColumn} (h : Column.check (.named column) = .ok ()) :
    column.column ≠ "" ∧ checkCastType column.cast = .ok () ∧
      checkAlias "column alias" column.aliasName = .ok () := by
  obtain ⟨_, hname, h⟩ := bind_eq_ok.mp h
  obtain ⟨_, hcast, halias⟩ := bind_eq_ok.mp h
  exact ⟨ne_empty_of_checkName hname, hcast, halias⟩

theorem Column.check_function {call : FunctionColumn Column}
    (h : Column.check (.function call) = .ok ()) :
    isFunctionName call.function = true ∧ checkAlias "column alias" call.aliasName = .ok () := by
  obtain ⟨_, hname, halias⟩ := bind_eq_ok.mp h
  exact ⟨isFunctionName_of_check hname, halias⟩

theorem Column.check_value {literal : ValueColumn} (h : Column.check (.value literal) = .ok ()) :
    (∃ param, literal.value.toParam = .ok param) ∧ checkCastType literal.cast = .ok () ∧
      checkAlias "column alias" literal.aliasName = .ok () := by
  obtain ⟨param, hparam, h⟩ := bind_eq_ok.mp h
  obtain ⟨_, hcast, halias⟩ := bind_eq_ok.mp h
  exact ⟨⟨param, hparam⟩, hcast, halias⟩

theorem Column.checkAll_cons {column : Column} {columns : List Column}
    (h : Column.checkAll (column :: columns) = .ok ()) :
    column.check = .ok () ∧ Column.checkAll columns = .ok () := by
  obtain ⟨_, hcolumn, hcolumns⟩ := bind_eq_ok.mp h
  exact ⟨hcolumn, hcolumns⟩

/-! ## The templates of a column -/

theorem Fragment.Normal.castTo {expression : Fragment} (h : expression.Normal)
    (cast : Option String) : (expression.castTo cast).Normal := by
  cases cast with
  | none => exact h
  | some cast => exact h.append _

theorem Fragment.Normal.under {expression : Fragment} (h : expression.Normal)
    (aliasName : Option String) : (expression.under aliasName).Normal := by
  cases aliasName with
  | none => exact h
  | some name => exact (h.append _).append _

theorem Fragment.normal_call (name : String) (parameters : List Fragment) :
    (Fragment.call name parameters).Normal :=
  ((normal_ofText _).append _).append _

theorem withCast_eq {cast : Option String} (hcast : checkCastType cast = .ok ())
    {expression : Fragment} (h : expression.Normal) :
    withCast cast expression = .ok (expression.castTo cast) := by
  cases cast with
  | none => rfl
  | some cast =>
    have hplain := Template.plain_of_allBare (allBare_cast (isCastType_of_check hcast))
    have htemplate : (s!"?::{cast}" : String) = "?" ++ ("::" ++ cast) := by
      apply String.toList_injective
      simp [toString]
    rw [withCast, htemplate, Template.fill_after hplain h]
    rfl

theorem withAlias_eq (aliasName : Option String) {expression : Fragment} (h : expression.Normal) :
    withAlias aliasName expression = .ok (expression.under aliasName) := by
  cases aliasName with
  | none => rfl
  | some name =>
    have hplain : Template.Plain " AS ".toList := by decide
    exact Template.fill_between hplain h (.ofAlias name)

theorem fill_call {name : String} (hname : isFunctionName name = true)
    (parameters : List Fragment) :
    Template.fill s!"{name}({holeList parameters.length})" parameters =
      .ok (.call name parameters) := by
  have hopening := Template.plain_of_allBare (allBare_call hname)
  have hclosing : Template.Plain ")".toList := by decide
  have htemplate : (s!"{name}({holeList parameters.length})" : String) =
      (name ++ "(") ++ holeList parameters.length ++ ")" := by
    apply String.toList_injective
    simp [toString]
  rw [htemplate]
  exact Template.fill_list hopening hclosing parameters

/-! ## The invariant -/

mutual

/-- **The invariant of a column's compiler.** The compilers of a function's
parameters are those of its parameters, once there are any. -/
def Column.Tracks : Column → Bool → Compiler ColumnCache → Prop
  | .named column, showAlias =>
    Compiler.Tracks (fun _ => True) (fun _ => True) (Column.fragment (.named column) showAlias)
  | .function ⟨name, parameters, aliasName⟩, showAlias =>
    Compiler.Tracks
      (fun cache => cache.parameters = [] ∨
        Column.AllTrack parameters cache.parameters ∧ Column.checkAll parameters = .ok ())
      (fun cache =>
        Column.AllTrack parameters cache.parameters ∧ Column.checkAll parameters = .ok ())
      (Column.fragment (.function ⟨name, parameters, aliasName⟩) showAlias)
  | .value literal, showAlias =>
    Compiler.Tracks (fun _ => True) (fun _ => True) (Column.fragment (.value literal) showAlias)

/-- The invariant of the compilers of some parameters. -/
def Column.AllTrack : List Column → List (Compiler ColumnCache) → Prop
  | [], [] => True
  | column :: columns, compiler :: compilers =>
    Column.Tracks column false compiler ∧ Column.AllTrack columns compilers
  | _, _ => False

end

/-- A compiler that was just made is one of its column. -/
theorem Column.tracks_constructed (column : Column) (showAlias : Bool) :
    column.Tracks showAlias ⟨{}, .constructed⟩ := by
  match column with
  | .named column => exact trivial
  | .function ⟨name, parameters, aliasName⟩ => exact .inl rfl
  | .value literal => exact trivial

/-- The compilers that preparing a function makes. -/
theorem Column.made_prepareAll (columns : List Column) :
    Made (fun compilers => Column.AllTrack columns compilers) (Column.prepareAll columns)
      (Column.checkAll columns) := by
  induction columns with
  | nil => exact made_ok trivial
  | cons column columns ih =>
    have hcompiler := column.tracks_constructed false
    refine (made_check column.check).bind fun _ _ => ?_
    refine ih.bind_ok fun compilers hcompilers => ?_
    exact ⟨hcompiler, hcompilers⟩

/-! ## Preparing and building -/

theorem Column.buildAll_cons_of_ok {column : Column} {dialect : Dialect}
    {compiler next : Compiler ColumnCache} {fragment : Fragment}
    (h : Compiler.build (column.stages false) dialect compiler = (.ok fragment, next))
    (columns : List Column) (compilers : List (Compiler ColumnCache)) :
    Column.buildAll (column :: columns) dialect (compiler :: compilers) =
      ((Column.buildAll columns dialect compilers).1.map (fragment :: ·),
        next :: (Column.buildAll columns dialect compilers).2) := by
  simp only [Column.buildAll, h]

theorem Column.buildAll_cons_of_error {column : Column} {dialect : Dialect}
    {compiler next : Compiler ColumnCache} {error : CompileError}
    (h : Compiler.build (column.stages false) dialect compiler = (.error error, next))
    (columns : List Column) (compilers : List (Compiler ColumnCache)) :
    Column.buildAll (column :: columns) dialect (compiler :: compilers) =
      (.error error, next :: compilers) := by
  simp only [Column.buildAll, h]

/-- What preparing a function does: its parameters are checked, and where
they pass there are compilers of them. -/
theorem Column.prepare_function (call : FunctionColumn Column) (showAlias : Bool)
    (cache : ColumnCache) :
    ((Column.stages (.function call) showAlias).prepare cache).1 =
        (Column.checkAll call.parameters).mapError .violation ∧
      (Column.checkAll call.parameters = .ok () →
        Column.AllTrack call.parameters
          ((Column.stages (.function call) showAlias).prepare cache).2.parameters) ∧
      (Column.checkAll call.parameters ≠ .ok () →
        ((Column.stages (.function call) showAlias).prepare cache).2 = cache) := by
  obtain ⟨name, parameters, aliasName⟩ := call
  have hmade := Column.made_prepareAll parameters
  cases hprepared : Column.prepareAll parameters with
  | ok compilers =>
    rw [hprepared] at hmade
    obtain ⟨hcheck, htrack⟩ := hmade.of_ok
    have hprepare : (Column.stages (.function ⟨name, parameters, aliasName⟩) showAlias).prepare
        cache = (.ok (), ⟨compilers⟩) := by
      rw [Column.stages, hprepared]
      rfl
    rw [hprepare, hcheck]
    exact ⟨rfl, fun _ => htrack, fun h => absurd rfl h⟩
  | error violation =>
    rw [hprepared] at hmade
    have hcheck := hmade.of_error
    have hprepare : (Column.stages (.function ⟨name, parameters, aliasName⟩) showAlias).prepare
        cache = (.error (.violation violation), cache) := by
      rw [Column.stages, hprepared]
      rfl
    rw [hprepare, hcheck]
    exact ⟨rfl, fun h => (nomatch h), fun _ => rfl⟩

mutual

/-- **A compiler of a column gives the fragment of the column.** -/
theorem Column.gives_build (dialect : Dialect) : ∀ (column : Column) (showAlias : Bool),
    column.check = .ok () →
    Gives (column.Tracks showAlias) (column.fragment showAlias)
      (Compiler.build (column.stages showAlias) dialect)
  | .named column, showAlias, hcheck => by
    obtain ⟨-, hcast, -⟩ := Column.check_named hcheck
    refine Compiler.gives_build_of_compile rfl ?_
    have hexpression := withCast_eq hcast (Fragment.normal_identifier column.column)
    refine (gives_ofTemplate hexpression).andThen fun expression he => gives_ofTemplate ?_
    cases he
    exact withAlias_eq _ ((Fragment.normal_identifier column.column).castTo column.cast)
  | .value literal, showAlias, hcheck => by
    obtain ⟨⟨param, hparam⟩, hcast, -⟩ := Column.check_value hcheck
    refine Compiler.gives_build_of_compile rfl ?_
    refine (gives_ofCheck literal.value.toParam).andThen fun param hparam => ?_
    have hexpression := withCast_eq hcast (Fragment.normal_ofParam param)
    refine (gives_ofTemplate hexpression).andThen fun expression he => gives_ofTemplate ?_
    cases he
    exact withAlias_eq _ ((Fragment.normal_ofParam param).castTo literal.cast)
  | .function ⟨name, parameters, aliasName⟩, showAlias, hcheck => by
    obtain ⟨hname, -⟩ := Column.check_function hcheck
    refine Compiler.gives_build ?_ ?_ fun cache hcache => ⟨.inr hcache, hcache.2⟩
    · intro cache hcache
      obtain ⟨hanswer, hok, herror⟩ :=
        Column.prepare_function ⟨name, parameters, aliasName⟩ showAlias cache
      refine ⟨hanswer, ?_, fun hchecked => ⟨hok hchecked, hchecked⟩⟩
      by_cases hchecked : Column.checkAll parameters = .ok ()
      · exact .inr ⟨hok hchecked, hchecked⟩
      · -- what was kept before is kept still
        rw [herror hchecked]
        exact hcache
    · -- the parameters are built by what is kept, and then put into the template
      have hparameters : Gives
          (fun cache : ColumnCache =>
            Column.AllTrack parameters cache.parameters ∧ Column.checkAll parameters = .ok ())
          (Column.fragments parameters false)
          (Step.on ColumnCache.parameters (fun compilers _ => ⟨compilers⟩)
            (Column.buildAll parameters dialect)) := by
        rintro cache ⟨htracks, hchecked⟩
        obtain ⟨hfragments, hkept⟩ :=
          Column.gives_buildAll dialect parameters hchecked cache.parameters htracks
        exact ⟨hfragments, hkept, hchecked⟩
      refine hparameters.andThen fun fragments _ => ?_
      refine (gives_ofTemplate (fill_call hname fragments)).andThen fun expression he =>
        gives_ofTemplate ?_
      cases he
      exact withAlias_eq _ (Fragment.normal_call name fragments)

/-- The compilers of some parameters give their fragments. -/
theorem Column.gives_buildAll (dialect : Dialect) : ∀ columns : List Column,
    Column.checkAll columns = .ok () →
    Gives (Column.AllTrack columns) (Column.fragments columns false)
      (Column.buildAll columns dialect)
  | [], _ => by
    rintro (_ | ⟨compiler, compilers⟩) h
    · exact ⟨rfl, h⟩
    · exact h.elim
  | column :: columns, hcheck => by
    obtain ⟨hcolumn, hcolumns⟩ := Column.checkAll_cons hcheck
    rintro (_ | ⟨compiler, compilers⟩) h
    · exact h.elim
    · obtain ⟨htracks, hall⟩ := h
      unfold Column.fragments
      obtain ⟨fragment, next, hstep, hresult, hnext⟩ | ⟨violation, next, hstep, hresult, hnext⟩ :=
        (Column.gives_build dialect column false hcolumn).cases htracks
      · obtain ⟨hrest, hkept⟩ := Column.gives_buildAll dialect columns hcolumns compilers hall
        rw [Column.buildAll_cons_of_ok hstep, hresult]
        refine ⟨?_, hnext, hkept⟩
        simp only [hrest]
        cases Column.fragments columns false <;> rfl
      · -- the compilers after it are not asked
        rw [Column.buildAll_cons_of_error hstep, hresult]
        exact ⟨rfl, hnext, hall⟩

end

/-! ## Compilers that carry their column -/

namespace ColumnCompiler

/-- **The invariant of a compiler that carries its column.** The column
keeps the rules. -/
def Tracks (showAlias : Bool) (column : Column) (compiler : ColumnCompiler) : Prop :=
  compiler.state.column = column ∧ compiler.state.showAlias = showAlias ∧
    column.check = .ok () ∧ column.Tracks showAlias ⟨compiler.state.cache, compiler.lifecycle⟩

/-- **A compiler that carries its column gives the fragment of it.** -/
theorem gives_build (dialect : Dialect) (showAlias : Bool) (column : Column) :
    Gives (Tracks showAlias column) (column.fragment showAlias) (build dialect) := by
  rintro ⟨⟨_, _, cache⟩, lifecycle⟩ ⟨rfl, rfl, hcheck, htracks⟩
  rename_i column showAlias
  obtain ⟨hresult, hkept⟩ := Column.gives_build dialect column showAlias hcheck _ htracks
  have hbuild := Compiler.build_embed ColumnState.stages (column.stages showAlias) dialect
    (fun cache => ⟨column, showAlias, cache⟩) (fun _ => rfl) (fun _ => rfl) ⟨cache, lifecycle⟩
  rw [build, hbuild]
  exact ⟨hresult, rfl, rfl, hcheck, hkept⟩

end ColumnCompiler

namespace Column

theorem fragments_eq_mapM (columns : List Column) (showAlias : Bool) :
    fragments columns showAlias = columns.mapM (fragment · showAlias) := by
  induction columns with
  | nil => rfl
  | cons column columns ih =>
    rw [fragments, List.mapM_cons, ih]
    rfl

/-- Compilers of some columns give the fragments of them. -/
theorem gives_buildEach (dialect : Dialect) (showAlias : Bool) (columns : List Column) :
    Gives (List.Forall₂ (ColumnCompiler.Tracks showAlias) columns) (fragments columns showAlias)
      (Step.each (ColumnCompiler.build dialect)) := by
  rw [fragments_eq_mapM]
  exact gives_each columns (ColumnCompiler.gives_build dialect showAlias)

/-- A compiler is made of a column that keeps the rules. -/
theorem made_compilerWith (showAlias : Bool) (column : Column) :
    Made (ColumnCompiler.Tracks showAlias column) (column.compilerWith showAlias) column.check := by
  have htracks := column.tracks_constructed showAlias
  refine (made_check column.check).bind_ok fun _ hcheck => ?_
  exact ⟨rfl, rfl, hcheck, htracks⟩

theorem made_compilersWith (showAlias : Bool) (columns : List Column) :
    Made (List.Forall₂ (ColumnCompiler.Tracks showAlias) columns)
      (compilersWith showAlias columns) (checkAll columns) := by
  induction columns with
  | nil => exact made_ok .nil
  | cons column columns ih =>
    refine (made_compilerWith showAlias column).bind fun compiler hcompiler => ?_
    refine ih.bind_ok fun compilers hcompilers => ?_
    exact .cons hcompiler hcompilers

end Column

end QueryTree
