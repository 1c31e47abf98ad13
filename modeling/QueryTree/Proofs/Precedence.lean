import QueryTree.Node.Filter
import Mathlib.Data.List.Basic
/-!
# Precedence — the one way to read a condition

A condition is written as tokens: keywords, parentheses and the tests at
its leaves, which are not looked into. `Token.Reads` is the grammar that a
database reads them by: `NOT` binds tighter than `AND`, `AND` tighter than
`OR`, and parentheses override. It can be read in one way only
(`readsAs_unique`): a reader that goes through the tokens once, with a
level for each open parenthesis, gives whatever the grammar gives
(`read_of_readsAs`).
-/

namespace QueryTree

namespace Filter

/-- Conditions that must all hold; one alone is no group. -/
def ofConjuncts : List Filter → Filter
  | [filter] => filter
  | filters => .and filters

/-- Conditions of which one must hold; one alone is no group. -/
def ofDisjuncts : List Filter → Filter
  | [filter] => filter
  | filters => .or filters

end Filter

namespace Precedence

/-- **A token of a condition.** -/
inductive Token where
  | and
  | or
  /-- The keyword of a negation and its parenthesis. -/
  | negation
  | opening
  | closing
  /-- A test, taken as a whole. -/
  | leaf (filter : Filter)

/-! ## The grammar -/

/-- **What is read,** from what binds tightest. -/
inductive Grade where
  | operand
  | conjunction
  | disjunction

namespace Token

/-- **The grammar of conditions:** the tokens of an operand, of a
conjunction and of a disjunction, with what they are read as. A
conjunction is read as its conjuncts, a disjunction as its disjuncts. -/
inductive Reads : Grade → List Token → List Filter → Prop
  | leaf (filter : Filter) : Reads .operand [.leaf filter] [filter]
  /-- A condition in parentheses. -/
  | parenthesized {tokens : List Token} {disjuncts : List Filter} :
      Reads .disjunction tokens disjuncts →
      Reads .operand (.opening :: (tokens ++ [.closing])) [Filter.ofDisjuncts disjuncts]
  | negated {tokens : List Token} {disjuncts : List Filter} :
      Reads .disjunction tokens disjuncts →
      Reads .operand (.negation :: (tokens ++ [.closing])) [.not (Filter.ofDisjuncts disjuncts)]
  /-- A conjunction of one operand. -/
  | conjunct {tokens : List Token} {filter : Filter} :
      Reads .operand tokens [filter] → Reads .conjunction tokens [filter]
  | and {first rest : List Token} {filter : Filter} {conjuncts : List Filter} :
      Reads .operand first [filter] → Reads .conjunction rest conjuncts →
      Reads .conjunction (first ++ .and :: rest) (filter :: conjuncts)
  /-- A disjunction of one conjunction. -/
  | disjunct {tokens : List Token} {conjuncts : List Filter} :
      Reads .conjunction tokens conjuncts →
      Reads .disjunction tokens [Filter.ofConjuncts conjuncts]
  | or {first rest : List Token} {conjuncts disjuncts : List Filter} :
      Reads .conjunction first conjuncts → Reads .disjunction rest disjuncts →
      Reads .disjunction (first ++ .or :: rest) (Filter.ofConjuncts conjuncts :: disjuncts)

/-- **What some tokens are read as.** -/
def ReadsAs (tokens : List Token) (filter : Filter) : Prop :=
  ∃ disjuncts, Reads .disjunction tokens disjuncts ∧ filter = Filter.ofDisjuncts disjuncts

end Token

/-! ## A reader -/

/-- What has been read since a parenthesis was opened. -/
structure Level where
  /-- Whether the parenthesis is that of a negation. -/
  negated : Bool
  /-- The conjunctions that have ended. -/
  disjuncts : List Filter
  /-- The operands of the one that has not. -/
  conjuncts : List Filter

namespace Level

/-- Another operand. -/
def push (level : Level) (filter : Filter) : Level :=
  { level with conjuncts := level.conjuncts ++ [filter] }

/-- The conjunction ends, and another one begins. -/
def endConjunction (level : Level) : Level :=
  { level with
    disjuncts := level.disjuncts ++ [Filter.ofConjuncts level.conjuncts]
    conjuncts := [] }

/-- What a level has been read as. -/
def result (level : Level) : Filter :=
  let whole := Filter.ofDisjuncts (level.disjuncts ++ [Filter.ofConjuncts level.conjuncts])
  if level.negated then .not whole else whole

end Level

/-- **A reader of conditions.** -/
structure Reader where
  /-- Whether an operand must come next. -/
  wanting : Bool
  level : Level
  /-- The levels around the one that is read, from the inside. -/
  outer : List Level

namespace Reader

/-- The next token. -/
def step (reader : Reader) : Token → Option Reader
  | .leaf filter =>
    if reader.wanting then
      some { reader with wanting := false, level := reader.level.push filter }
    else none
  | .opening =>
    if reader.wanting then some ⟨true, ⟨false, [], []⟩, reader.level :: reader.outer⟩ else none
  | .negation =>
    if reader.wanting then some ⟨true, ⟨true, [], []⟩, reader.level :: reader.outer⟩ else none
  | .and => if reader.wanting then none else some { reader with wanting := true }
  | .or =>
    if reader.wanting then none
    else some { reader with wanting := true, level := reader.level.endConjunction }
  | .closing =>
    if reader.wanting then none
    else match reader.outer with
      -- nothing is open
      | [] => none
      | level :: outer => some ⟨false, level.push reader.level.result, outer⟩

/-- Some tokens, one after the other. -/
def run (reader : Reader) : List Token → Option Reader
  | [] => some reader
  | token :: tokens => (reader.step token).bind fun next => run next tokens

end Reader

/-- **What a reader gives for some tokens,** if nothing is left open. -/
def Token.read (tokens : List Token) : Option Filter :=
  match Reader.run ⟨true, ⟨false, [], []⟩, []⟩ tokens with
  | some ⟨false, level, []⟩ => some level.result
  | _ => none

/-! ## The reader follows the grammar -/

namespace Token

/-- What a reader does with tokens of a grade, whatever follows them: it
adds what they are read as to its level. -/
def Run : Grade → List Token → List Filter → Prop
  -- a disjunction leaves its last conjunction open, so its operands are not yet a disjunct
  | .disjunction, tokens, filters => ∀ negated disjuncts outer, ∃ ended conjuncts,
      ended ++ [Filter.ofConjuncts conjuncts] = disjuncts ++ filters ∧
      ∀ rest, Reader.run ⟨true, ⟨negated, disjuncts, []⟩, outer⟩ (tokens ++ rest) =
        Reader.run ⟨false, ⟨negated, ended, conjuncts⟩, outer⟩ rest
  | _, tokens, filters => ∀ level outer rest,
      Reader.run ⟨true, level, outer⟩ (tokens ++ rest) =
        Reader.run ⟨false, { level with conjuncts := level.conjuncts ++ filters }, outer⟩ rest

/-- A level that is opened, read and closed again. -/
theorem run_closing {tokens : List Token} {disjuncts : List Filter}
    (h : Run .disjunction tokens disjuncts) (negated : Bool) (level : Level) (outer : List Level)
    (rest : List Token) :
    Reader.run ⟨true, ⟨negated, [], []⟩, level :: outer⟩ (tokens ++ .closing :: rest) =
      Reader.run ⟨false, level.push
        (if negated then .not (Filter.ofDisjuncts disjuncts) else Filter.ofDisjuncts disjuncts),
        outer⟩ rest := by
  obtain ⟨ended, conjuncts, hlevel, hrun⟩ := h negated [] (level :: outer)
  rw [List.nil_append] at hlevel
  rw [hrun, Reader.run, Reader.step, ← hlevel]
  rfl

/-- **A reader reads what the grammar says,** by induction on how the
grammar says it. -/
theorem run_of_reads {grade : Grade} {tokens : List Token} {filters : List Filter}
    (h : Reads grade tokens filters) : Run grade tokens filters := by
  induction h with
  | leaf filter => exact fun _ _ _ => rfl
  | @parenthesized tokens disjuncts _ ih =>
    intro level outer rest
    rw [List.cons_append, List.append_assoc]
    exact run_closing ih false level outer rest
  | @negated tokens disjuncts _ ih =>
    intro level outer rest
    rw [List.cons_append, List.append_assoc]
    exact run_closing ih true level outer rest
  | conjunct _ ih => exact ih
  | and _ _ hfirst hrest =>
    intro level outer rest
    rw [List.append_assoc, hfirst, List.cons_append, Reader.run, Reader.step]
    show Reader.run ⟨true, _, outer⟩ _ = _
    rw [hrest, List.append_assoc]
    rfl
  | @disjunct tokens conjuncts _ ih =>
    intro negated disjuncts outer
    refine ⟨disjuncts, conjuncts, rfl, ?_⟩
    intro rest
    exact ih ⟨negated, disjuncts, []⟩ outer rest
  | @or first rest conjuncts disjuncts _ _ hfirst hrest =>
    intro negated before outer
    -- the keyword ends the conjunction, which is one more disjunct
    obtain ⟨ended, last, hended, hrun⟩ :=
      hrest negated (before ++ [Filter.ofConjuncts conjuncts]) outer
    refine ⟨ended, last, ?_, ?_⟩
    · rw [hended, List.append_assoc]
      rfl
    · intro after
      rw [List.append_assoc, hfirst, List.cons_append, Reader.run, Reader.step]
      exact hrun after

/-- **The reader gives whatever the grammar gives.** -/
theorem read_of_readsAs {tokens : List Token} {filter : Filter} (h : ReadsAs tokens filter) :
    read tokens = some filter := by
  obtain ⟨disjuncts, hreads, rfl⟩ := h
  obtain ⟨ended, conjuncts, hlevel, hrun⟩ := run_of_reads hreads false [] []
  have hrun := hrun []
  rw [List.append_nil] at hrun
  rw [List.nil_append] at hlevel
  rw [read, hrun, ← hlevel]
  rfl

/-- **Tokens are read in one way only.** -/
theorem readsAs_unique {tokens : List Token} {first second : Filter} (hf : ReadsAs tokens first)
    (hs : ReadsAs tokens second) : first = second := by
  have hfirst := read_of_readsAs hf
  have hsecond := read_of_readsAs hs
  rw [hfirst] at hsecond
  exact Option.some.inj hsecond

end Token

end Precedence

end QueryTree
