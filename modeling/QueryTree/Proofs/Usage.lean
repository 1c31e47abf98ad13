import QueryTree.Compile.Query
import QueryTree.Proofs.Outcome
import QueryTree.Proofs.Tracking
/-!
# Usage — compilers under any sequence of uses

A compiler is meant to be built, but its stages may be asked for one by
one too, and it may be put back to the beginning of its life while what it
keeps stays. `Compiler.answers` runs a sequence of such uses and collects
what its builds answer. `Compiler.Endures` says that a kind of compiler
stands any use: there is an invariant of its state before it is prepared
and one after, no use breaks them, and under them a build gives a good
answer. Then every build of every run gives one (`Endures.answers`). The
compilers that are used so are those of the nodes of a query (`Node`).
-/

namespace QueryTree

/-- **One use of a compiler.** -/
inductive Use where
  | build
  /-- The preparing stage on its own. -/
  | prepare
  /-- The compiling stage on its own, whether the compiler is prepared or not. -/
  | compile
  /-- A clause on its own, where the compiler has one that can be asked for. -/
  | clause
  /-- Back to the beginning of its life, with all that it keeps. -/
  | reset
deriving DecidableEq, Repr

/-- **What can be asked of a kind of compiler:** its stages, and a clause
on its own if it has one. -/
structure Interface (σ : Type) extends Stages σ where
  clause? : Option (Dialect → Step σ Fragment) := none

namespace Step

variable {σ τ α β : Type}
variable {permitted : CompileError → Prop} {inv : σ → Prop}

/-- **A step keeps an invariant,** and where it fails it does so with a
permitted error. -/
def Keeps (permitted : CompileError → Prop) (inv : σ → Prop) (step : Step σ α) : Prop :=
  ∀ s, inv s → (∀ error, (step s).1 = .error error → permitted error) ∧ inv (step s).2

theorem keeps_answer (a : α) : Keeps permitted inv (answer a) := by
  intro s hs
  exact ⟨fun _ h => (nomatch h), hs⟩

theorem keeps_fail {error : CompileError} (h : permitted error) :
    Keeps permitted inv (fail error : Step σ α) := by
  intro s hs
  refine ⟨?_, hs⟩
  rintro _ ⟨⟩
  exact h

theorem keeps_ofTemplate {filled : Except TemplateError α}
    (h : ∀ error, filled = .error error → permitted (.misuse (.template error))) :
    Keeps permitted inv (ofTemplate filled) := by
  cases filled with
  | ok a => exact keeps_answer a
  | error error => exact keeps_fail (h error rfl)

/-- A step may be permitted more errors. -/
theorem Keeps.mono {more : CompileError → Prop} {step : Step σ α}
    (h : Keeps permitted inv step) (hmore : ∀ error, permitted error → more error) :
    Keeps more inv step := by
  intro s hs
  obtain ⟨herror, hkept⟩ := h s hs
  exact ⟨fun error he => hmore error (herror error he), hkept⟩

theorem Keeps.andThen {first : Step σ α} {next : α → Step σ β} (hf : Keeps permitted inv first)
    (hn : ∀ a, Keeps permitted inv (next a)) : Keeps permitted inv (andThen first next) := by
  intro s hs
  obtain ⟨herror, ht⟩ := hf s hs
  unfold Step.andThen
  rcases hstep : first s with ⟨a | error, t⟩
  · rw [hstep] at herror ht
    refine ⟨?_, ht⟩
    rintro _ ⟨⟩
    exact herror _ rfl
  · rw [hstep] at ht
    exact hn _ t ht

/-- A step on a part of a state. -/
theorem Keeps.on {get : σ → τ} {set : τ → σ → σ} {part : τ → Prop} {step : Step τ α}
    (h : Keeps permitted part step) (hget : ∀ s, inv s → part (get s))
    (hset : ∀ s t, inv s → part t → inv (set t s)) : Keeps permitted inv (on get set step) := by
  intro s hs
  obtain ⟨herror, hkept⟩ := h (get s) (hget s hs)
  exact ⟨herror, hset s _ hs hkept⟩

/-- A step that gives a result fails only where a rule is broken. -/
theorem Gives.keeps {step : Step σ α} {result : Except Violation α} (h : Gives inv result step)
    (hpermitted : ∀ violation, permitted (.violation violation)) : Keeps permitted inv step := by
  intro s hs
  obtain ⟨hanswer, hkept⟩ := h s hs
  refine ⟨fun error herror => ?_, hkept⟩
  rw [hanswer] at herror
  cases result with
  | ok a => cases herror
  | error violation =>
    cases herror
    exact hpermitted violation

end Step

open Step

namespace Compiler

variable {σ : Type}

/-! ## Runs -/

/-- **A compiler after one use of it.** -/
def after (interface : Interface σ) (dialect : Dialect) : Use → Compiler σ → Compiler σ
  | .build, compiler => (build interface.toStages dialect compiler).2
  | .prepare, compiler => (prepare interface.toStages compiler).2
  | .compile, compiler => (compile interface.toStages dialect compiler).2
  | .clause, compiler =>
    match interface.clause? with
    | none => compiler
    | some clause => { compiler with state := (clause dialect compiler.state).2 }
  | .reset, compiler => { compiler with lifecycle := .constructed }

/-- **What the builds of a run answer,** in order. Each use comes with a
dialect of its own. -/
def answers (interface : Interface σ) :
    List (Dialect × Use) → Compiler σ → List (Except CompileError Fragment)
  | [], _ => []
  | (dialect, use) :: uses, compiler =>
    let rest := answers interface uses (after interface dialect use compiler)
    if use = .build then (build interface.toStages dialect compiler).1 :: rest else rest

/-! ## Invariants of runs -/

/-- **An invariant of a compiler** that keeps whatever fragments it may:
one of its state before it is prepared, and one after. A compiler that is
built may be reset, so it has the first one. -/
def Lives (idle ready : σ → Prop) (kept : Fragment → Prop) : Compiler σ → Prop
  | ⟨state, .constructed⟩ => idle state
  | ⟨state, .prepared⟩ => ready state
  | ⟨state, .built fragment⟩ => idle state ∧ kept fragment

theorem Lives.mono {idle idle' ready ready' : σ → Prop} {kept kept' : Fragment → Prop}
    {compiler : Compiler σ} (h : Lives idle ready kept compiler) (hidle : ∀ s, idle s → idle' s)
    (hready : ∀ s, ready s → ready' s) (hkept : ∀ fragment, kept fragment → kept' fragment) :
    Lives idle' ready' kept' compiler := by
  obtain ⟨state, _ | _ | fragment⟩ := compiler
  · exact hidle state h
  · exact hready state h
  · exact ⟨hidle state h.1, hkept fragment h.2⟩

theorem lives_of_tracks {idle ready : σ → Prop} {result : Except Violation Fragment}
    {compiler : Compiler σ} (h : Tracks idle ready result compiler) :
    Lives idle ready
      (fun fragment => .ok fragment = result.mapError CompileError.violation) compiler := by
  obtain ⟨state, _ | _ | fragment⟩ := compiler
  · exact h
  · exact h
  · obtain ⟨hstate, rfl⟩ := h
    exact ⟨hstate, rfl⟩

/-- A compiler that was just made. -/
theorem lives_of_made {idle ready : σ → Prop} {result : Except Violation Fragment}
    {made : Except Violation (Compiler σ)} {checked : Except Violation Unit}
    {compiler : Compiler σ} (h : Made (Tracks idle ready result) made checked)
    (hmade : made = .ok compiler) :
    Lives idle ready
      (fun fragment => .ok fragment = result.mapError CompileError.violation) compiler :=
  lives_of_tracks (h.of_eq_ok hmade)

/-- **A kind of compiler that stands any use** in the allowed dialects. -/
structure Endures (interface : Interface σ) (allowed : Dialect → Prop) (idle ready : σ → Prop)
    (good : Except CompileError Fragment → Prop) : Prop where
  idle_of_ready : ∀ s, ready s → idle s
  /-- Preparing refuses for a good reason or makes the state ready. -/
  prepare : ∀ s, idle s → idle (interface.prepare s).2 ∧
    ((interface.prepare s).1 = .ok () → ready (interface.prepare s).2) ∧
    ∀ error, (interface.prepare s).1 = .error error → good (.error error)
  prepare_ready : ∀ s, ready s → ready (interface.prepare s).2
  /-- Compiling a state that is ready gives a good answer. -/
  compile : ∀ dialect, allowed dialect → ∀ s, ready s →
    good (interface.compile dialect s).1 ∧ ready (interface.compile dialect s).2
  /-- Compiling a state that is not ready may give any answer. -/
  compile_idle : ∀ dialect, allowed dialect →
    Keeps (fun _ => True) idle (interface.compile dialect)
  clause : ∀ clause ∈ interface.clause?, ∀ dialect, allowed dialect →
    Keeps (fun _ => True) idle (clause dialect) ∧ Keeps (fun _ => True) ready (clause dialect)

namespace Endures

variable {interface : Interface σ} {allowed : Dialect → Prop} {idle ready : σ → Prop}
variable {good : Except CompileError Fragment → Prop}

/-- Compilers that have nothing to prepare and no clause of their own. -/
theorem of_compile {inv : σ → Prop} (hprepare : interface.prepare = .answer ())
    (hclause : interface.clause? = none)
    (hcompile : ∀ dialect, allowed dialect → ∀ s, inv s →
      good (interface.compile dialect s).1 ∧ inv (interface.compile dialect s).2) :
    Endures interface allowed inv inv good where
  idle_of_ready _ hs := hs
  prepare s hs := by
    rw [hprepare]
    exact ⟨hs, fun _ => hs, fun _ h => (nomatch h)⟩
  prepare_ready s hs := by
    rw [hprepare]
    exact hs
  compile := hcompile
  compile_idle dialect hdialect s hs := ⟨fun _ _ => trivial, (hcompile dialect hdialect s hs).2⟩
  clause clause hc := by
    rw [hclause] at hc
    cases hc

/-- What is kept of a state that was compiled. -/
theorem keep (h : Endures interface allowed idle ready good) {dialect : Dialect}
    (hdialect : allowed dialect) {s : σ} (hs : ready s) :
    good (Compiler.keep (interface.compile dialect s)).1 ∧
      Lives idle ready (fun fragment => good (.ok fragment))
        (Compiler.keep (interface.compile dialect s)).2 := by
  obtain ⟨hgood, hready⟩ := h.compile dialect hdialect s hs
  rcases hstep : interface.compile dialect s with ⟨error | fragment, t⟩
  · rw [hstep] at hgood hready
    exact ⟨hgood, hready⟩
  · rw [hstep] at hgood hready
    exact ⟨hgood, h.idle_of_ready t hready, hgood⟩

/-- **A build gives a good answer** and leaves a compiler that does so
again, also where it fails. -/
theorem build (h : Endures interface allowed idle ready good) {dialect : Dialect}
    (hdialect : allowed dialect) {compiler : Compiler σ}
    (hc : Lives idle ready (fun fragment => good (.ok fragment)) compiler) :
    good (Compiler.build interface.toStages dialect compiler).1 ∧
      Lives idle ready (fun fragment => good (.ok fragment))
        (Compiler.build interface.toStages dialect compiler).2 := by
  obtain ⟨s, _ | _ | fragment⟩ := compiler
  · obtain ⟨hidle, hready, herror⟩ := h.prepare s hc
    rw [Compiler.build]
    rcases hprepare : interface.prepare s with ⟨error | _, t⟩
    · -- what was refused is refused for a good reason, and nothing is kept
      rw [hprepare] at hidle herror
      exact ⟨herror error rfl, hidle⟩
    · rw [hprepare] at hready
      exact h.keep hdialect (hready rfl)
  · exact h.keep hdialect hc
  · exact ⟨hc.2, hc⟩

/-- **No use breaks the invariant.** -/
theorem after (h : Endures interface allowed idle ready good) {dialect : Dialect}
    (hdialect : allowed dialect) (use : Use) {compiler : Compiler σ}
    (hc : Lives idle ready (fun fragment => good (.ok fragment)) compiler) :
    Lives idle ready (fun fragment => good (.ok fragment))
      (Compiler.after interface dialect use compiler) := by
  have hprepare := fun s hs => (h.prepare s hs).1
  have hcompile := fun s hs => (h.compile dialect hdialect s hs).2
  have hcompileIdle := fun s hs => (h.compile_idle dialect hdialect s hs).2
  cases use with
  | build => exact (h.build hdialect hc).2
  | prepare =>
    obtain ⟨s, _ | _ | fragment⟩ := compiler
    · exact hprepare s hc
    · exact h.prepare_ready s hc
    · exact ⟨hprepare s hc.1, hc.2⟩
  | compile =>
    obtain ⟨s, _ | _ | fragment⟩ := compiler
    · exact hcompileIdle s hc
    · exact hcompile s hc
    · exact ⟨hcompileIdle s hc.1, hc.2⟩
  | clause =>
    unfold Compiler.after
    cases hclause : interface.clause? with
    | none => exact hc
    | some clause =>
      obtain ⟨hidle, hready⟩ := h.clause clause hclause dialect hdialect
      obtain ⟨s, _ | _ | fragment⟩ := compiler
      · exact (hidle s hc).2
      · exact (hready s hc).2
      · exact ⟨(hidle s hc.1).2, hc.2⟩
  | reset =>
    obtain ⟨s, _ | _ | fragment⟩ := compiler
    · exact hc
    · exact h.idle_of_ready s hc
    · exact hc.1

/-- **Every build of every run gives a good answer.** By induction on the
uses: each one leaves the invariant to the next. -/
theorem answers (h : Endures interface allowed idle ready good) (uses : List (Dialect × Use))
    (huses : ∀ use ∈ uses, allowed use.1) {compiler : Compiler σ}
    (hc : Lives idle ready (fun fragment => good (.ok fragment)) compiler) :
    ∀ answer ∈ Compiler.answers interface uses compiler, good answer := by
  induction uses generalizing compiler with
  | nil =>
    intro answer hanswer
    cases hanswer
  | cons use uses ih =>
    obtain ⟨dialect, use⟩ := use
    obtain ⟨hdialect, hrest⟩ := List.forall_mem_cons.mp huses
    have hnext := ih hrest (h.after hdialect use hc)
    intro answer hanswer
    unfold Compiler.answers at hanswer
    by_cases hbuild : use = .build
    · rw [if_pos hbuild] at hanswer
      rcases List.mem_cons.mp hanswer with rfl | hanswer
      · exact (h.build hdialect hc).1
      · exact hnext answer hanswer
    · rw [if_neg hbuild] at hanswer
      exact hnext answer hanswer

/-- Where there is one good answer only, every build of a run gives what the
first one would have given. -/
theorem answers_eq {dialect : Dialect} {result : Except CompileError Fragment}
    (h : Endures interface (· = dialect) idle ready (· = result)) (uses : List Use)
    {compiler : Compiler σ}
    (hc : Lives idle ready (fun fragment => .ok fragment = result) compiler) :
    ∀ answer ∈ Compiler.answers interface (uses.map (dialect, ·)) compiler,
      answer = (Compiler.build interface.toStages dialect compiler).1 := by
  have hdialect : ∀ use ∈ uses.map (dialect, ·), use.1 = dialect := by
    intro use huse
    obtain ⟨_, -, rfl⟩ := List.mem_map.mp huse
    rfl
  obtain ⟨hbuild, -⟩ := h.build rfl hc
  intro answer hanswer
  rw [hbuild]
  exact h.answers _ hdialect hc answer hanswer

end Endures

end Compiler

/-! ## Nodes -/

/-- **A node that has a compiler of its own.** A join or a query is nested
where it belongs to a query that is a table. -/
inductive Node where
  | column (showAlias : Bool) (column : Column)
  | comparison (filter : ComparisonFilter)
  | filter (filter : Filter)
  | ordering (elements : List OrderByElement)
  | nestedJoin (join : Join Query)
  | join (join : Join Query)
  | nestedQuery (query : Query)
  | query (query : Query)

namespace Node

/-- What the compiler of a node keeps. -/
def State : Node → Type
  | column _ _ => ColumnState
  | comparison _ => ComparisonState
  | filter _ => FilterState
  | ordering _ => OrderByState
  | nestedJoin _ => JoinState Empty
  | join _ => JoinState NestedCompiler
  | nestedQuery _ => QueryState Empty
  | query _ => QueryState NestedCompiler

/-- **What can be asked of the compiler of a node.** Queries have a clause
that can be asked for. -/
def interface : (node : Node) → Interface node.State
  | column _ _ => { ColumnState.stages with }
  | comparison _ => { ComparisonState.stages with }
  | filter _ => { FilterState.stages with }
  | ordering _ => { OrderByState.stages with }
  | nestedJoin _ => { JoinState.stages fun _ none => none.elim with }
  | join _ => { JoinState.stages NestedCompiler.build with }
  | nestedQuery _ => { NestedCompiler.stages with clause? := some QueryState.buildDistinct }
  | query _ => { TopCompiler.stages with clause? := some QueryState.buildDistinct }

/-- **The compiler of a node,** if the node keeps the rules that are checked
when it is made. -/
def compiler : (node : Node) → Except Violation (Compiler node.State)
  | column showAlias c => c.compilerWith showAlias
  | comparison f => f.compiler
  | filter f => f.compiler
  | ordering elements => OrderByElement.compiler elements
  | nestedJoin j => j.compiler Query.refuse
  | join j => j.compiler Query.nestedCompiler
  | nestedQuery q => q.nestedCompiler
  | query q => q.compiler

end Node

end QueryTree
