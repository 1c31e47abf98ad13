import QueryTree.Compile.Error
/-!
# Steps — changes of a state that may fail half way

A step that fails has still done what it did before that. So a step gives
an answer or an error, and in either case the state it leaves behind.
-/

namespace QueryTree

/-- **A change of a state,** with an answer or an error. -/
def Step (σ α : Type) := σ → Except CompileError α × σ

namespace Step

variable {σ τ α β : Type}

/-- An answer without a change. -/
def answer (a : α) : Step σ α := fun s => (.ok a, s)

/-- An error without a change. -/
def fail (error : CompileError) : Step σ α := fun s => (.error error, s)

/-- One step after another; the second one is not taken after an error. -/
def andThen (step : Step σ α) (next : α → Step σ β) : Step σ β := fun s =>
  match step s with
  | (.ok a, s) => next a s
  | (.error error, s) => (.error error, s)

instance : Monad (Step σ) where
  pure := answer
  bind := andThen

/-- What is refused for a broken rule. -/
def ofCheck : Except Violation α → Step σ α
  | .ok a => answer a
  | .error violation => fail (.violation violation)

/-- What is refused as a template. -/
def ofTemplate : Except TemplateError α → Step σ α
  | .ok a => answer a
  | .error error => fail (.misuse (.template error))

/-- A step on a part of a state. -/
def on (get : σ → τ) (set : τ → σ → σ) (step : Step τ α) : Step σ α := fun s =>
  match step (get s) with
  | (result, t) => (result, set t s)

/-- A step on each of some states, in order, up to an error. -/
def each (step : Step τ α) : Step (List τ) (List α)
  | [] => (.ok [], [])
  | t :: ts =>
    match step t with
    | (.error error, t) => (.error error, t :: ts)
    | (.ok a, t) =>
      match each step ts with
      | (result, ts) => (result.map (a :: ·), t :: ts)

/-- A step on a state that may be missing. -/
def optional (step : Step τ α) : Step (Option τ) (Option α)
  | none => (.ok none, none)
  | some t =>
    match step t with
    | (result, t) => (result.map some, some t)

end Step

end QueryTree
