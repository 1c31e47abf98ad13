import QueryTree.Compile.Compiler
import Mathlib.Data.List.Forall2
/-!
# Tracking — compilers that remember only what is so

A compiler is a cache: what it answers depends on what it kept. This file
has the invariants under which that does not show. `Step.Gives` says that
a step answers with a given result from every state of an invariant and
keeps the invariant, also where it fails; steps that are put together
give the results put together. `Compiler.Tracks` is the invariant of a
compiler at any place of its life, and `Compiler.gives_build` says that
building gives the result whatever that place is. `Made` compares what
makes a compiler with a check that keeps nothing.
-/

namespace QueryTree

namespace Step

variable {σ τ ν α β : Type}
variable {inv : σ → Prop}

/-- **A step gives a result** under an invariant. The error of a result is
a broken rule. -/
def Gives (inv : σ → Prop) (result : Except Violation α) (step : Step σ α) : Prop :=
  ∀ s, inv s → (step s).1 = result.mapError .violation ∧ inv (step s).2

theorem gives_answer (a : α) : Gives inv (.ok a) (answer a) := by
  intro s hs
  exact ⟨rfl, hs⟩

theorem gives_ofCheck (result : Except Violation α) : Gives inv result (ofCheck result) := by
  intro s hs
  cases result with
  | ok a => exact ⟨rfl, hs⟩
  | error violation => exact ⟨rfl, hs⟩

/-- A template that is filled needs no error of its own. -/
theorem gives_ofTemplate {filled : Except TemplateError α} {a : α} (h : filled = .ok a) :
    Gives inv (.ok a) (ofTemplate filled) := h ▸ gives_answer a

/-- What a step that gives a result does to a state of its invariant. -/
theorem Gives.cases {step : Step σ α} {result : Except Violation α} (h : Gives inv result step)
    {s : σ} (hs : inv s) :
    (∃ a t, step s = (.ok a, t) ∧ result = .ok a ∧ inv t) ∨
      ∃ violation t, step s = (.error (.violation violation), t) ∧ result = .error violation ∧
        inv t := by
  obtain ⟨hresult, ht⟩ := h s hs
  rcases hstep : step s with ⟨answer, t⟩
  rw [hstep] at hresult ht
  cases result with
  | ok a => exact .inl ⟨a, t, Prod.ext hresult rfl, rfl, ht⟩
  | error violation => exact .inr ⟨violation, t, Prod.ext hresult rfl, rfl, ht⟩

/-- **One step after another** gives the one result and then the other. -/
theorem Gives.andThen {first : Step σ α} {next : α → Step σ β} {result : Except Violation α}
    {further : α → Except Violation β} (h : Gives inv result first)
    (hnext : ∀ a, result = .ok a → Gives inv (further a) (next a)) :
    Gives inv (result >>= further) (andThen first next) := by
  intro s hs
  unfold Step.andThen
  obtain ⟨a, t, hstep, hresult, ht⟩ | ⟨violation, t, hstep, hresult, ht⟩ := h.cases hs
  · rw [hstep, hresult]
    exact hnext a hresult t ht
  · -- a step that fails is the last one
    rw [hstep, hresult]
    exact ⟨rfl, ht⟩

/-- A step on a part of a state, where the part has an invariant of its
own. -/
theorem Gives.on {get : σ → τ} {set : τ → σ → σ} {part : τ → Prop} {step : Step τ α}
    {result : Except Violation α} (h : Gives part result step)
    (hget : ∀ s, inv s → part (get s)) (hset : ∀ s t, inv s → part t → inv (set t s)) :
    Gives inv result (on get set step) := by
  intro s hs
  obtain ⟨hresult, hkept⟩ := h (get s) (hget s hs)
  exact ⟨hresult, hset s _ hs hkept⟩

/-- A step on each of some states, one for each of some nodes, gives the
results for the nodes. -/
theorem gives_each {tracks : ν → τ → Prop} {f : ν → Except Violation α} {step : Step τ α}
    (nodes : List ν) (h : ∀ node, Gives (tracks node) (f node) step) :
    Gives (List.Forall₂ tracks nodes) (nodes.mapM f) (each step) := by
  intro states hstates
  induction hstates with
  | nil => exact ⟨rfl, .nil⟩
  | @cons node state nodes states hstate hrest ih =>
    rw [each, List.mapM_cons]
    obtain ⟨a, t, hstep, hnode, ht⟩ | ⟨violation, t, hstep, hnode, ht⟩ := (h node).cases hstate
    · obtain ⟨hresults, hkept⟩ := ih
      rw [hstep, hnode]
      refine ⟨?_, .cons ht hkept⟩
      simp only [hresults]
      cases nodes.mapM f <;> rfl
    · -- the states after one that fails are left as they were
      rw [hstep, hnode]
      exact ⟨rfl, .cons ht hrest⟩

/-- A step on a state that may be missing, as the node it is of. -/
theorem gives_optional {tracks : ν → τ → Prop} {f : ν → Except Violation α} {step : Step τ α}
    (node : Option ν) (h : ∀ node, Gives (tracks node) (f node) step) :
    Gives (Option.Rel tracks node) (node.mapM f) (optional step) := by
  rintro state (hstate | _)
  · rename_i node state
    rw [optional]
    obtain ⟨a, t, hstep, hnode, ht⟩ | ⟨violation, t, hstep, hnode, ht⟩ := (h node).cases hstate
    · rw [hstep, Option.mapM_some, hnode]
      exact ⟨rfl, .some ht⟩
    · rw [hstep, Option.mapM_some, hnode]
      exact ⟨rfl, .some ht⟩
  · exact ⟨rfl, .none⟩

end Step

namespace Compiler

variable {σ : Type}
variable {idle ready : σ → Prop} {stages : Stages σ} {dialect : Dialect}

/-- **The invariant of a compiler.** What holds of its state before it is
prepared may differ from what holds after, and what it keeps is the
result. -/
def Tracks (idle ready : σ → Prop) (result : Except Violation Fragment) : Compiler σ → Prop
  | ⟨state, .constructed⟩ => idle state
  | ⟨state, .prepared⟩ => ready state
  | ⟨state, .built fragment⟩ => idle state ∧ result = .ok fragment

/-- What holds of the state of a compiler at any place of its life. -/
theorem Tracks.holds {result : Except Violation Fragment} {compiler : Compiler σ}
    (h : Tracks ready ready result compiler) : ready compiler.state := by
  obtain ⟨state, _ | _ | fragment⟩ := compiler
  · exact h
  · exact h
  · exact h.1

/-- Keeping a fragment does not change the answer. -/
theorem keep_fst (step : Except CompileError Fragment × σ) : (keep step).1 = step.1 := by
  obtain ⟨_ | _, _⟩ := step <;> rfl

/-- What compiling gives is kept if it is a fragment. -/
theorem tracks_keep {result : Except Violation Fragment} {compile : Step σ Fragment}
    (hidle : ∀ s, ready s → idle s) (hcompile : Step.Gives ready result compile) {state : σ}
    (h : ready state) :
    (keep (compile state)).1 = result.mapError .violation ∧
      Tracks idle ready result (keep (compile state)).2 := by
  obtain ⟨fragment, next, hstep, hresult, hn⟩ | ⟨violation, next, hstep, hresult, hn⟩ :=
    hcompile.cases h
  · rw [hstep, hresult]
    exact ⟨rfl, hidle next hn, rfl⟩
  · rw [hstep, hresult]
    exact ⟨rfl, hn⟩

/-- **Building gives the result at any place of a compiler's life:** what
preparing refuses, and what compiling gives. -/
theorem gives_build {checked : Except Violation Unit} {result : Except Violation Fragment}
    (hprepare : ∀ s, idle s → (stages.prepare s).1 = checked.mapError .violation ∧
      idle (stages.prepare s).2 ∧ (checked = .ok () → ready (stages.prepare s).2))
    (hcompile : Step.Gives ready result (stages.compile dialect))
    (hready : ∀ s, ready s → idle s ∧ checked = .ok ()) :
    Step.Gives (Tracks idle ready (checked >>= fun _ => result)) (checked >>= fun _ => result)
      (build stages dialect) := by
  have hidle : ∀ s, ready s → idle s := fun s hs => (hready s hs).1
  rintro ⟨state, _ | _ | fragment⟩ h
  · obtain ⟨hanswer, hnext, hprepared⟩ := hprepare state h
    rw [build]
    cases checked with
    | ok =>
      have hprepare : stages.prepare state = (.ok (), (stages.prepare state).2) :=
        Prod.ext hanswer rfl
      rw [hprepare]
      exact tracks_keep hidle hcompile (hprepared rfl)
    | error violation =>
      have hprepare : stages.prepare state =
          (.error (.violation violation), (stages.prepare state).2) := Prod.ext hanswer rfl
      rw [hprepare]
      exact ⟨rfl, hnext⟩
  · -- a compiler that was prepared passed the check then
    obtain ⟨-, hchecked⟩ := hready state h
    rw [hchecked]
    exact tracks_keep hidle hcompile h
  · obtain ⟨hstate, hresult⟩ := h
    rw [hresult]
    exact ⟨rfl, hstate, rfl⟩

/-- The same for compilers that have nothing to prepare. -/
theorem gives_build_of_compile {result : Except Violation Fragment}
    (hprepare : stages.prepare = .answer ())
    (hcompile : Step.Gives ready result (stages.compile dialect)) :
    Step.Gives (Tracks ready ready result) result (build stages dialect) := by
  let nothing : Except Violation Unit := .ok ()
  have hnothing : ∀ s, ready s → (stages.prepare s).1 = nothing.mapError .violation ∧
      ready (stages.prepare s).2 ∧ (nothing = .ok () → ready (stages.prepare s).2) := by
    intro s hs
    rw [hprepare]
    exact ⟨rfl, hs, fun _ => hs⟩
  refine gives_build hnothing hcompile fun s hs => ?_
  exact ⟨hs, rfl⟩

/-- A compiler whose state is embedded in a larger one, where the stages
see the smaller one alone. -/
theorem build_embed {τ : Type} (stages : Stages σ) (part : Stages τ) (dialect : Dialect)
    (embed : τ → σ)
    (hprepare : ∀ t, stages.prepare (embed t) =
      ((part.prepare t).1, embed (part.prepare t).2))
    (hcompile : ∀ t, stages.compile dialect (embed t) =
      ((part.compile dialect t).1, embed (part.compile dialect t).2)) (compiler : Compiler τ) :
    build stages dialect ⟨embed compiler.state, compiler.lifecycle⟩ =
      ((build part dialect compiler).1, ⟨embed (build part dialect compiler).2.state,
        (build part dialect compiler).2.lifecycle⟩) := by
  have hkeep : ∀ t, keep (stages.compile dialect (embed t)) =
      ((keep (part.compile dialect t)).1, ⟨embed (keep (part.compile dialect t)).2.state,
        (keep (part.compile dialect t)).2.lifecycle⟩) := by
    intro t
    rw [hcompile]
    rcases part.compile dialect t with ⟨_ | _, next⟩ <;> rfl
  obtain ⟨t, _ | _ | fragment⟩ := compiler
  · rw [build, build, hprepare]
    rcases part.prepare t with ⟨_ | _, next⟩
    · rfl
    · exact hkeep next
  · exact hkeep t
  · rfl

end Compiler

end QueryTree
