import QueryTree.Compile.Compiler
import Mathlib.Data.List.Basic
/-!
# Turns — what the builds of a compiler call

A build of a compiler calls its stages as far as they have not succeeded
yet. This file records the calls (`Stages.recorded`) and says of one build
what it can do at each place of a compiler's life (`Turn.Lawful`). A run of
builds is a chain of such turns (`Run`), and so the stages are called in
one order whatever fails in between: `Compiler.disciplined_turns` holds of
any stages, which may fail and succeed as they like.
-/

namespace QueryTree

variable {σ : Type}

/-! ## Calls -/

/-- **One call of a stage,** with what came of it. -/
inductive Call where
  | prepare (result : Except CompileError Unit)
  | compile (result : Except CompileError Fragment)

namespace Call

/-- Whether the preparing stage was called. -/
def isPrepare : Call → Bool
  | prepare _ => true
  | compile _ => false

/-- Whether the compiling stage was called. -/
def isCompile : Call → Bool
  | prepare _ => false
  | compile _ => true

/-- **Where a call takes a compiler in its life.** Nothing is called once a
fragment is kept. -/
inductive Takes : Lifecycle → Call → Lifecycle → Prop
  | refused (error : CompileError) : Takes .constructed (.prepare (.error error)) .constructed
  | prepared : Takes .constructed (.prepare (.ok ())) .prepared
  | failed (error : CompileError) : Takes .prepared (.compile (.error error)) .prepared
  | built (fragment : Fragment) : Takes .prepared (.compile (.ok fragment)) (.built fragment)

end Call

/-- **Where some calls lead,** one after the other. -/
inductive Leads : Lifecycle → List Call → Lifecycle → Prop
  | nil (place : Lifecycle) : Leads place [] place
  | cons {place next last : Lifecycle} {call : Call} {calls : List Call} :
      call.Takes place next → Leads next calls last → Leads place (call :: calls) last

namespace Lifecycle

/-- How far a compiler has come. -/
def progress : Lifecycle → Nat
  | constructed => 0
  | prepared => 1
  | built _ => 2

end Lifecycle

theorem Call.Takes.progress_le {place next : Lifecycle} {call : Call} (h : call.Takes place next) :
    place.progress ≤ next.progress := by
  cases h <;> simp [Lifecycle.progress]

namespace Leads

variable {place last : Lifecycle} {calls earlier later : List Call}

theorem append {middle : Lifecycle} (h : Leads place earlier middle)
    (hlater : Leads middle later last) : Leads place (earlier ++ later) last := by
  induction h with
  | nil => exact hlater
  | cons htakes _ ih => exact .cons htakes (ih hlater)

theorem exists_of_append (h : Leads place (earlier ++ later) last) :
    ∃ middle, Leads place earlier middle ∧ Leads middle later last := by
  induction earlier generalizing place with
  | nil => exact ⟨place, .nil place, h⟩
  | cons call earlier ih =>
    cases h with
    | cons htakes hrest =>
      obtain ⟨middle, hearlier, hlater⟩ := ih hrest
      exact ⟨middle, .cons htakes hearlier, hlater⟩

theorem progress_le (h : Leads place calls last) : place.progress ≤ last.progress := by
  induction h with
  | nil => exact Nat.le_refl _
  | cons htakes _ ih => exact Nat.le_trans htakes.progress_le ih

/-- A compiler that is not prepared has not been prepared. -/
theorem not_mem_of_constructed (h : Leads place calls last) (hlast : last = .constructed) :
    place = .constructed ∧ .prepare (.ok ()) ∉ calls := by
  induction h with
  | nil => exact ⟨hlast, List.not_mem_nil⟩
  | cons htakes _ ih =>
    obtain ⟨hnext, hcalls⟩ := ih hlast
    cases htakes with
    | refused error => exact ⟨rfl, by simpa using hcalls⟩
    | _ => cases hnext

/-- A compiler that is prepared was prepared by one of the calls, unless it
was before. -/
theorem mem_of_prepared (h : Leads place calls last) (hlast : last = .prepared) :
    place = .prepared ∨ .prepare (.ok ()) ∈ calls := by
  induction h with
  | nil => exact .inl hlast
  | cons htakes _ ih =>
    obtain hnext | hcalls := ih hlast
    · cases htakes with
      | prepared => exact .inr List.mem_cons_self
      | failed error => exact .inl rfl
      | _ => cases hnext
    · exact .inr (List.mem_cons_of_mem _ hcalls)

theorem eq_nil_of_built {fragment : Fragment} (h : Leads (.built fragment) calls last) :
    calls = [] := by
  cases h with
  | nil => rfl
  | cons htakes _ => cases htakes

/-- Where preparing is called, it has not succeeded before. -/
theorem before_prepare {result : Except CompileError Unit}
    (h : Leads place (earlier ++ .prepare result :: later) last) :
    .prepare (.ok ()) ∉ earlier := by
  obtain ⟨middle, hearlier, hlater⟩ := h.exists_of_append
  cases hlater with
  | cons htakes _ =>
    cases htakes <;> exact (hearlier.not_mem_of_constructed rfl).2

/-- Where compiling is called, preparing has succeeded before. -/
theorem before_compile {result : Except CompileError Fragment}
    (h : Leads .constructed (earlier ++ .compile result :: later) last) :
    .prepare (.ok ()) ∈ earlier := by
  obtain ⟨middle, hearlier, hlater⟩ := h.exists_of_append
  have hprepared : Leads .constructed earlier .prepared := by
    cases hlater with
    | cons htakes _ => cases htakes <;> exact hearlier
  exact (hprepared.mem_of_prepared rfl).resolve_left nofun

/-- Where compiling succeeds, nothing is called after it. -/
theorem after_compile {fragment : Fragment}
    (h : Leads place (earlier ++ .compile (.ok fragment) :: later) last) : later = [] := by
  obtain ⟨middle, -, hlater⟩ := h.exists_of_append
  cases hlater with
  | cons htakes hrest =>
    cases htakes
    exact hrest.eq_nil_of_built

end Leads

/-! ## Recording -/

/-- **Stages that record their calls,** after those that were recorded
before. -/
def Stages.recorded (stages : Stages σ) : Stages (σ × List Call) where
  prepare := fun (state, calls) =>
    match stages.prepare state with
    | (result, state) => (result, (state, calls ++ [.prepare result]))
  compile dialect := fun (state, calls) =>
    match stages.compile dialect state with
    | (result, state) => (result, (state, calls ++ [.compile result]))

/-- **What one build did:** where the compiler was in its life before and
after, what was called, and what was answered. -/
structure Turn where
  before : Lifecycle
  calls : List Call
  answer : Except CompileError Fragment
  after : Lifecycle

/-! ## One build -/

namespace Turn

/-- **What a build can do.** It calls nothing if a fragment is kept, and
otherwise the stages that have not succeeded, up to a failure. -/
inductive Lawful : Turn → Prop
  | kept (fragment : Fragment) :
      Lawful ⟨.built fragment, [], .ok fragment, .built fragment⟩
  | refused (error : CompileError) :
      Lawful ⟨.constructed, [.prepare (.error error)], .error error, .constructed⟩
  | failed (error : CompileError) :
      Lawful ⟨.constructed, [.prepare (.ok ()), .compile (.error error)], .error error, .prepared⟩
  | built (fragment : Fragment) :
      Lawful ⟨.constructed, [.prepare (.ok ()), .compile (.ok fragment)], .ok fragment,
        .built fragment⟩
  | failedAgain (error : CompileError) :
      Lawful ⟨.prepared, [.compile (.error error)], .error error, .prepared⟩
  | builtLater (fragment : Fragment) :
      Lawful ⟨.prepared, [.compile (.ok fragment)], .ok fragment, .built fragment⟩

end Turn

namespace Compiler

/-- **A build with a record of its calls.** -/
def turn (stages : Stages σ) (dialect : Dialect) (compiler : Compiler σ) : Turn :=
  match build stages.recorded dialect ⟨(compiler.state, []), compiler.lifecycle⟩ with
  | (answer, ⟨(_, calls), after⟩) => ⟨compiler.lifecycle, calls, answer, after⟩

/-- Recording changes nothing else: what is answered and where the compiler
is afterwards is what the build itself gives. -/
theorem turn_eq_build (stages : Stages σ) (dialect : Dialect) (compiler : Compiler σ) :
    (turn stages dialect compiler).answer = (build stages dialect compiler).1 ∧
      (turn stages dialect compiler).after = (build stages dialect compiler).2.lifecycle := by
  obtain ⟨state, _ | _ | fragment⟩ := compiler
  · rcases hprepare : stages.prepare state with ⟨error | _, prepared⟩
    · simp [turn, build, Stages.recorded, hprepare]
    · rcases hcompile : stages.compile dialect prepared with ⟨error | fragment, next⟩ <;>
        simp [turn, build, Stages.recorded, hprepare, hcompile, keep]
  · rcases hcompile : stages.compile dialect state with ⟨error | fragment, next⟩ <;>
      simp [turn, build, Stages.recorded, hcompile, keep]
  · exact ⟨rfl, rfl⟩

/-- **A build does one of the things that it can do.** -/
theorem lawful_turn (stages : Stages σ) (dialect : Dialect) (compiler : Compiler σ) :
    (turn stages dialect compiler).Lawful := by
  obtain ⟨state, _ | _ | fragment⟩ := compiler
  · rcases hprepare : stages.prepare state with ⟨error | _, prepared⟩
    · simpa [turn, build, Stages.recorded, hprepare] using Turn.Lawful.refused error
    · rcases hcompile : stages.compile dialect prepared with ⟨error | fragment, next⟩
      · simpa [turn, build, Stages.recorded, hprepare, hcompile, keep] using
          Turn.Lawful.failed error
      · simpa [turn, build, Stages.recorded, hprepare, hcompile, keep] using
          Turn.Lawful.built fragment
  · rcases hcompile : stages.compile dialect state with ⟨error | fragment, next⟩
    · simpa [turn, build, Stages.recorded, hcompile, keep] using Turn.Lawful.failedAgain error
    · simpa [turn, build, Stages.recorded, hcompile, keep] using Turn.Lawful.builtLater fragment
  · exact .kept fragment

end Compiler

namespace Turn.Lawful

variable {turn : Turn}

/-- The calls of a build lead from where the compiler was to where it is. -/
theorem leads (h : turn.Lawful) : Leads turn.before turn.calls turn.after := by
  cases h with
  | kept fragment => exact .nil _
  | refused error => exact .cons (.refused error) (.nil _)
  | failed error => exact .cons .prepared (.cons (.failed error) (.nil _))
  | built fragment => exact .cons .prepared (.cons (.built fragment) (.nil _))
  | failedAgain error => exact .cons (.failed error) (.nil _)
  | builtLater fragment => exact .cons (.built fragment) (.nil _)

/-- Each stage is called once at most. -/
theorem countP_le_one (h : turn.Lawful) :
    turn.calls.countP Call.isPrepare ≤ 1 ∧ turn.calls.countP Call.isCompile ≤ 1 := by
  cases h <;> simp [List.countP_cons, Call.isPrepare, Call.isCompile]

/-- What preparing refuses is the answer, and the compiler is not prepared. -/
theorem of_prepare_error (h : turn.Lawful) {error : CompileError}
    (hcall : .prepare (.error error) ∈ turn.calls) :
    turn.after = .constructed ∧ turn.answer = .error error := by
  cases h <;> simp_all

/-- What compiling fails with is the answer, and the compiler is prepared. -/
theorem of_compile_error (h : turn.Lawful) {error : CompileError}
    (hcall : .compile (.error error) ∈ turn.calls) :
    turn.after = .prepared ∧ turn.answer = .error error := by
  cases h <;> simp_all

/-- What compiling gives is the answer, and is kept. -/
theorem of_compile_ok (h : turn.Lawful) {fragment : Fragment}
    (hcall : .compile (.ok fragment) ∈ turn.calls) :
    turn.after = .built fragment ∧ turn.answer = .ok fragment := by
  cases h <;> simp_all

end Turn.Lawful

/-! ## Runs of builds -/

/-- **A run of builds** from a place in a compiler's life: each takes up
where the one before it stopped. -/
inductive Run : Lifecycle → List Turn → Prop
  | nil (place : Lifecycle) : Run place []
  | cons {turn : Turn} {turns : List Turn} :
      turn.Lawful → Run turn.after turns → Run turn.before (turn :: turns)

namespace Run

variable {place : Lifecycle} {turns earlier later : List Turn} {turn : Turn}

theorem lawful (h : Run place turns) : ∀ turn ∈ turns, turn.Lawful := by
  induction h with
  | nil => exact fun _ ht => (nomatch ht)
  | cons hturn _ ih => exact List.forall_mem_cons.mpr ⟨hturn, ih⟩

/-- What comes after a turn is a run from where the turn stopped. -/
theorem of_append (h : Run place (earlier ++ turn :: later)) : Run turn.after later := by
  induction earlier generalizing place with
  | nil =>
    cases h with
    | cons _ hlater => exact hlater
  | cons first earlier ih =>
    cases h with
    | cons _ hrest => exact ih hrest

/-- **The calls of a run lead from its beginning on,** whichever builds make
them. -/
theorem leads (h : Run place turns) : ∃ last, Leads place (turns.flatMap Turn.calls) last := by
  induction h with
  | nil place => exact ⟨place, .nil place⟩
  | cons hturn _ ih =>
    obtain ⟨last, hlast⟩ := ih
    exact ⟨last, hturn.leads.append hlast⟩

/-- **A fragment that is kept is the answer from then on,** and nothing is
called for it. -/
theorem answer_of_built {fragment : Fragment} (h : Run place turns)
    (hplace : place = .built fragment) :
    ∀ turn ∈ turns, turn.calls = [] ∧ turn.answer = .ok fragment := by
  induction h with
  | nil => exact fun _ ht => (nomatch ht)
  | cons hturn _ ih =>
    cases hturn with
    | kept =>
      cases hplace
      exact List.forall_mem_cons.mpr ⟨⟨rfl, rfl⟩, ih rfl⟩
    | _ => cases hplace

/-- **No build takes a compiler back.** -/
theorem pairwise_progress (h : Run place turns) :
    (place :: turns.map Turn.after).Pairwise fun before after =>
      before.progress ≤ after.progress := by
  induction h with
  | nil => exact List.pairwise_singleton ..
  | @cons turn turns hturn _ ih =>
    have hfirst := hturn.leads.progress_le
    refine List.pairwise_cons.mpr ⟨?_, ih⟩
    refine List.forall_mem_cons.mpr ⟨hfirst, fun after hafter => ?_⟩
    exact Nat.le_trans hfirst ((List.pairwise_cons.mp ih).1 after hafter)

end Run

namespace Compiler

/-- **The turns of some builds,** one after the other. What the stages do may
depend on the dialect of each build. -/
def turns (stages : Dialect → Stages σ) : List Dialect → Compiler σ → List Turn
  | [], _ => []
  | dialect :: dialects, compiler =>
    turn (stages dialect) dialect compiler ::
      turns stages dialects (build (stages dialect) dialect compiler).2

/-- **The builds of a compiler are a run.** By induction on the builds. -/
theorem run_turns (stages : Dialect → Stages σ) (dialects : List Dialect) (compiler : Compiler σ) :
    Run compiler.lifecycle (turns stages dialects compiler) := by
  induction dialects generalizing compiler with
  | nil => exact .nil _
  | cons dialect dialects ih =>
    have hrest := ih (build (stages dialect) dialect compiler).2
    rw [← (turn_eq_build (stages dialect) dialect compiler).2] at hrest
    exact .cons (lawful_turn (stages dialect) dialect compiler) hrest

/-- **What a sequence of builds may do.** Calls are compared across the whole
sequence, whichever builds make them. -/
structure Disciplined (turns : List Turn) : Prop where
  /-- Each build calls what has not succeeded yet, up to a failure. -/
  lawful : ∀ turn ∈ turns, turn.Lawful
  /-- Each build calls each stage once at most. -/
  countP_le_one : ∀ turn ∈ turns,
    turn.calls.countP Call.isPrepare ≤ 1 ∧ turn.calls.countP Call.isCompile ≤ 1
  /-- Preparing is called only while it has not succeeded. -/
  before_prepare : ∀ earlier result later,
    turns.flatMap Turn.calls = earlier ++ .prepare result :: later →
      .prepare (.ok ()) ∉ earlier
  /-- Compiling is called only after preparing has succeeded. -/
  before_compile : ∀ earlier result later,
    turns.flatMap Turn.calls = earlier ++ .compile result :: later →
      .prepare (.ok ()) ∈ earlier
  /-- After compiling has succeeded nothing is called. -/
  after_compile : ∀ earlier fragment later,
    turns.flatMap Turn.calls = earlier ++ .compile (.ok fragment) :: later → later = []
  /-- What compiling gave is the answer of its build and of all later ones. -/
  kept : ∀ earlier turn later, turns = earlier ++ turn :: later →
    ∀ fragment, .compile (.ok fragment) ∈ turn.calls →
      turn.answer = .ok fragment ∧
        ∀ next ∈ later, next.calls = [] ∧ next.answer = .ok fragment
  /-- A build that preparing refuses leaves the compiler as it was made. -/
  refused : ∀ turn ∈ turns, ∀ error, .prepare (.error error) ∈ turn.calls →
    turn.after = .constructed ∧ turn.answer = .error error
  /-- A build that compiling fails in leaves the compiler prepared. -/
  failed : ∀ turn ∈ turns, ∀ error, .compile (.error error) ∈ turn.calls →
    turn.after = .prepared ∧ turn.answer = .error error
  /-- No build takes the compiler back. -/
  forward : (Lifecycle.constructed :: turns.map Turn.after).Pairwise fun before after =>
    before.progress ≤ after.progress

/-- **However the stages fail and succeed,** the builds of a compiler that was
just made prepare it until that succeeds and compile it until that
succeeds, and from then on answer what was compiled. -/
theorem disciplined_turns (stages : Dialect → Stages σ) (state : σ) (dialects : List Dialect) :
    Disciplined (turns stages dialects ⟨state, .constructed⟩) := by
  have hrun : Run .constructed (turns stages dialects ⟨state, .constructed⟩) :=
    run_turns stages dialects ⟨state, .constructed⟩
  obtain ⟨last, hleads⟩ := hrun.leads
  exact {
    lawful := hrun.lawful
    countP_le_one := fun turn hturn => (hrun.lawful turn hturn).countP_le_one
    before_prepare := fun _ _ _ hcalls => (hcalls ▸ hleads).before_prepare
    before_compile := fun _ _ _ hcalls => (hcalls ▸ hleads).before_compile
    after_compile := fun _ _ _ hcalls => (hcalls ▸ hleads).after_compile
    kept := fun earlier turn later hturns fragment hcall => by
      have hturn : turn.Lawful := hrun.lawful turn (by simp [hturns])
      obtain ⟨hafter, hanswer⟩ := hturn.of_compile_ok hcall
      have hlater : Run turn.after later := (hturns ▸ hrun).of_append
      exact ⟨hanswer, hlater.answer_of_built hafter⟩
    refused := fun turn hturn _ hcall => (hrun.lawful turn hturn).of_prepare_error hcall
    failed := fun turn hturn _ hcall => (hrun.lawful turn hturn).of_compile_error hcall
    forward := hrun.pairwise_progress }

end Compiler

end QueryTree
