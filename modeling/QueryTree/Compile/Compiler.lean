import QueryTree.Compile.Step
import QueryTree.Sql.Dialect
/-!
# Compilers — nodes on their way to SQL

A compiler is made from a node that keeps the rules, is prepared once,
and keeps the fragment it has built. What preparing and compiling do is
given by the stages of the kind of node; they see the state of the
compiler and not its place in its life, which `build` alone moves.
-/

namespace QueryTree

/-- **Where a compiler is in its life.** -/
inductive Lifecycle where
  | constructed
  | prepared
  | built (fragment : Fragment)
deriving DecidableEq, Repr

namespace Lifecycle

/-- The fragment of a compiler that is built. -/
def fragment? : Lifecycle → Option Fragment
  | built fragment => some fragment
  | _ => none

end Lifecycle

/-- **A compiler** with a state of its own. -/
structure Compiler (σ : Type) where
  state : σ
  lifecycle : Lifecycle := .constructed

/-- **What a kind of compiler does.** -/
structure Stages (σ : Type) where
  /-- Make what is needed for compiling. -/
  prepare : Step σ Unit := .answer ()
  /-- Make the fragment. -/
  compile : Dialect → Step σ Fragment

namespace Compiler

variable {σ : Type}

/-- Keep the fragment that was compiled. -/
def keep : Except CompileError Fragment × σ → Except CompileError Fragment × Compiler σ
  | (.ok fragment, state) => (.ok fragment, ⟨state, .built fragment⟩)
  | (.error error, state) => (.error error, ⟨state, .prepared⟩)

/-- Only the state, by the preparing stage. -/
def prepare (stages : Stages σ) : Step (Compiler σ) Unit :=
  Step.on Compiler.state (fun state compiler => { compiler with state }) stages.prepare

/-- Only the state, by the compiling stage. -/
def compile (stages : Stages σ) (dialect : Dialect) : Step (Compiler σ) Fragment :=
  Step.on Compiler.state (fun state compiler => { compiler with state }) (stages.compile dialect)

/-- **The fragment of a compiler.** It is compiled once, after it has been
prepared once, and then kept. -/
def build (stages : Stages σ) (dialect : Dialect) : Step (Compiler σ) Fragment
  | ⟨state, .built fragment⟩ => (.ok fragment, ⟨state, .built fragment⟩)
  | ⟨state, .prepared⟩ => keep (stages.compile dialect state)
  | ⟨state, .constructed⟩ =>
    match stages.prepare state with
    -- what cannot be prepared is prepared anew the next time
    | (.error error, state) => (.error error, ⟨state, .constructed⟩)
    | (.ok (), state) => keep (stages.compile dialect state)

theorem build_prepared (stages : Stages σ) (dialect : Dialect) (state : σ) :
    build stages dialect ⟨state, .prepared⟩ = keep (stages.compile dialect state) := rfl

/-- A compiler that gave a fragment keeps it. -/
theorem lifecycle_of_build_ok {stages : Stages σ} {dialect : Dialect} {compiler next : Compiler σ}
    {fragment : Fragment} (h : build stages dialect compiler = (.ok fragment, next)) :
    next.lifecycle = .built fragment := by
  have keep_ok : ∀ {result}, keep result = (.ok fragment, next) →
      next.lifecycle = .built fragment := by
    rintro ⟨_ | _, state⟩ hk <;> cases hk
    rfl
  obtain ⟨state, _ | _ | cached⟩ := compiler
  · rw [build] at h
    split at h
    · cases h
    · exact keep_ok h
  · exact keep_ok h
  · cases h
    rfl

end Compiler

end QueryTree
