import QueryTree.Proofs.Assembly
import QueryTree.Proofs.Precedence
/-!
# Meaning — a filter is read as what it says

The tokens of a filter are read as the filter itself, save that a group
of one condition is that condition (`readsAs_tokens`). That changes
neither its tests (`leaves_collapsed`) nor its truth, which may be
unknown, whatever is true of the tests (`truthFrom_collapsed`).
-/

namespace QueryTree

open Precedence

/-! ## The tokens of a filter -/

/-- Tokens with one between. -/
def Precedence.between (keyword : Token) : List (List Token) → List Token
  | [] => []
  | [tokens] => tokens
  | tokens :: next :: rest => tokens ++ keyword :: between keyword (next :: rest)

/-- A group is put in parentheses inside another one. -/
def Precedence.asOperand (isGroup : Bool) (tokens : List Token) : List Token :=
  if isGroup then .opening :: (tokens ++ [.closing]) else tokens

mutual

/-- **The tokens of a filter.** -/
def Filter.tokens : Filter → List Token
  | .and operands => between .and (Filter.operandTokens operands)
  | .or operands => between .or (Filter.operandTokens operands)
  | .not operand => .negation :: (Filter.tokens operand ++ [.closing])
  | test => [.leaf test]

/-- The tokens of the operands of a group. -/
def Filter.operandTokens : List Filter → List (List Token)
  | [] => []
  | filter :: filters =>
    asOperand filter.isGroup (Filter.tokens filter) :: Filter.operandTokens filters

end

mutual

/-- **A filter without groups of one condition,** each one being that
condition. -/
def Filter.collapsed : Filter → Filter
  | .and operands => .ofConjuncts (Filter.collapsedAll operands)
  | .or operands => .ofDisjuncts (Filter.collapsedAll operands)
  | .not operand => .not (Filter.collapsed operand)
  | test => test

/-- Filters without groups of one condition. -/
def Filter.collapsedAll : List Filter → List Filter
  | [] => []
  | filter :: filters => Filter.collapsed filter :: Filter.collapsedAll filters

end

mutual

/-- **The tests of a filter,** from the left to the right. -/
def Filter.leaves : Filter → List Filter
  | .and operands => Filter.leavesAll operands
  | .or operands => Filter.leavesAll operands
  | .not operand => Filter.leaves operand
  | test => [test]

/-- The tests of some filters. -/
def Filter.leavesAll : List Filter → List Filter
  | [] => []
  | filter :: filters => Filter.leaves filter ++ Filter.leavesAll filters

end

/-- The tests among some tokens. -/
def Precedence.Token.leaves (tokens : List Token) : List Filter :=
  tokens.filterMap fun
    | .leaf filter => some filter
    | _ => none

namespace Precedence

theorem Token.leaves_append (first second : List Token) :
    Token.leaves (first ++ second) = Token.leaves first ++ Token.leaves second :=
  List.filterMap_append

theorem Token.leaves_asOperand (isGroup : Bool) (tokens : List Token) :
    Token.leaves (asOperand isGroup tokens) = Token.leaves tokens := by
  cases isGroup with
  | false => rfl
  | true => exact (Token.leaves_append tokens [.closing]).trans (List.append_nil _)

end Precedence

namespace Filter

theorem leaves_between {keyword : Token} (hkeyword : Token.leaves [keyword] = [])
    (tokens : List (List Token)) :
    Token.leaves (between keyword tokens) = tokens.flatMap Token.leaves := by
  induction tokens with
  | nil => rfl
  | cons first rest ih =>
    cases rest with
    | nil => exact (List.append_nil _).symm
    | cons next rest =>
      have hrest : Token.leaves (keyword :: between keyword (next :: rest)) =
          Token.leaves (between keyword (next :: rest)) := by
        have happend := Token.leaves_append [keyword] (between keyword (next :: rest))
        rwa [hkeyword] at happend
      rw [between, Token.leaves_append, List.flatMap_cons, ← ih, hrest]

mutual

/-- **The tests among the tokens of a filter are its tests,** in order. -/
theorem leaves_tokens : ∀ filter : Filter, Token.leaves filter.tokens = filter.leaves
  | .comparison _ | .membership _ | .like _ | .isNull _ => rfl
  | .and operands => by
    rw [tokens, leaves_between rfl, leaves_operandTokens operands, leaves]
  | .or operands => by
    rw [tokens, leaves_between rfl, leaves_operandTokens operands, leaves]
  | .not operand => by
    rw [tokens, leaves, ← leaves_tokens operand]
    exact (Token.leaves_append operand.tokens [.closing]).trans (List.append_nil _)

theorem leaves_operandTokens : ∀ filters : List Filter,
    (operandTokens filters).flatMap Token.leaves = leavesAll filters
  | [] => rfl
  | filter :: filters => by
    rw [operandTokens, List.flatMap_cons, Token.leaves_asOperand, leaves_tokens filter,
      leaves_operandTokens filters, leavesAll]

end

theorem leaves_ofConjuncts (filters : List Filter) :
    (ofConjuncts filters).leaves = leavesAll filters := by
  match filters with
  | [] => rfl
  | [filter] => exact (List.append_nil _).symm
  | first :: second :: rest => rfl

theorem leaves_ofDisjuncts (filters : List Filter) :
    (ofDisjuncts filters).leaves = leavesAll filters := by
  match filters with
  | [] => rfl
  | [filter] => exact (List.append_nil _).symm
  | first :: second :: rest => rfl

mutual

/-- A filter has the same tests without its groups of one condition. -/
theorem leaves_collapsed : ∀ filter : Filter, filter.collapsed.leaves = filter.leaves
  | .comparison _ | .membership _ | .like _ | .isNull _ => rfl
  | .and operands => by rw [collapsed, leaves_ofConjuncts, leaves_collapsedAll operands, leaves]
  | .or operands => by rw [collapsed, leaves_ofDisjuncts, leaves_collapsedAll operands, leaves]
  | .not operand => by rw [collapsed, leaves, leaves_collapsed operand, leaves]

theorem leaves_collapsedAll : ∀ filters : List Filter,
    leavesAll (collapsedAll filters) = leavesAll filters
  | [] => rfl
  | filter :: filters => by
    rw [collapsedAll, leavesAll, leaves_collapsed filter, leaves_collapsedAll filters, leavesAll]

end

/-! ## Reading the tokens -/

/-- What is read as an operand is read as a condition. -/
theorem readsAs_of_operand {tokens : List Token} {filter : Filter}
    (h : Token.Reads .operand tokens [filter]) : Token.ReadsAs tokens filter :=
  ⟨[filter], .disjunct (.conjunct h), rfl⟩

/-- What is read as a condition is read as an operand in parentheses, and
what is no group without them. -/
theorem reads_parenthesized {tokens : List Token} {filter : Filter}
    (h : Token.ReadsAs tokens filter) :
    Token.Reads .operand (.opening :: (tokens ++ [.closing])) [filter] := by
  obtain ⟨disjuncts, hreads, rfl⟩ := h
  exact .parenthesized hreads

/-- Operands with `AND` between are the conjuncts. -/
theorem reads_between_and {tokens : List (List Token)} {filters : List Filter}
    (h : List.Forall₂ (fun tokens filter => Token.Reads .operand tokens [filter]) tokens filters)
    (hne : filters ≠ []) : Token.Reads .conjunction (between .and tokens) filters := by
  induction h with
  | nil => exact absurd rfl hne
  | cons hfirst hrest ih =>
    cases hrest with
    | nil => exact .conjunct hfirst
    | cons hnext hrest => exact .and hfirst (ih (List.cons_ne_nil _ _))

/-- Operands with `OR` between are the disjuncts. -/
theorem reads_between_or {tokens : List (List Token)} {filters : List Filter}
    (h : List.Forall₂ (fun tokens filter => Token.Reads .operand tokens [filter]) tokens filters)
    (hne : filters ≠ []) : Token.Reads .disjunction (between .or tokens) filters := by
  induction h with
  | nil => exact absurd rfl hne
  | cons hfirst hrest ih =>
    cases hrest with
    | nil => exact .disjunct (.conjunct hfirst)
    | cons hnext hrest => exact .or (.conjunct hfirst) (ih (List.cons_ne_nil _ _))

theorem collapsedAll_ne_nil {filters : List Filter} {violation : Violation}
    (h : (do
      if filters.isEmpty then .error violation
      checkAll filters : Except Violation Unit) = .ok ()) : collapsedAll filters ≠ [] := by
  cases filters with
  | nil => cases h
  | cons filter filters => exact List.cons_ne_nil _ _

mutual

/-- **The tokens of a filter are read as the filter,** without its groups of
one condition. -/
theorem readsAs_tokens : ∀ filter : Filter, filter.check = .ok () →
    Token.ReadsAs filter.tokens filter.collapsed
  | .comparison filter, _ => readsAs_of_operand (.leaf (.comparison filter))
  | .membership filter, _ => readsAs_of_operand (.leaf (.membership filter))
  | .like filter, _ => readsAs_of_operand (.leaf (.like filter))
  | .isNull filter, _ => readsAs_of_operand (.leaf (.isNull filter))
  | .and operands, hcheck => by
    unfold check at hcheck
    have hoperands := reads_operandTokens operands (eq_ok_of_guard hcheck)
    have hconjuncts := reads_between_and hoperands (collapsedAll_ne_nil hcheck)
    exact ⟨_, .disjunct hconjuncts, rfl⟩
  | .or operands, hcheck => by
    unfold check at hcheck
    have hoperands := reads_operandTokens operands (eq_ok_of_guard hcheck)
    have hdisjuncts := reads_between_or hoperands (collapsedAll_ne_nil hcheck)
    exact ⟨_, hdisjuncts, rfl⟩
  | .not operand, hcheck => by
    obtain ⟨disjuncts, hreads, hfilter⟩ := readsAs_tokens operand hcheck
    rw [collapsed, hfilter]
    exact readsAs_of_operand (.negated hreads)

/-- The tokens of operands are read as operands: a group is in parentheses,
and anything else needs none. -/
theorem reads_operandTokens : ∀ filters : List Filter, checkAll filters = .ok () →
    List.Forall₂ (fun tokens filter => Token.Reads .operand tokens [filter])
      (operandTokens filters) (collapsedAll filters)
  | [], _ => .nil
  | filter :: filters, hcheck => by
    obtain ⟨_, hfilter, hfilters⟩ := bind_eq_ok.mp hcheck
    refine .cons ?_ (reads_operandTokens filters hfilters)
    have hreads := readsAs_tokens filter hfilter
    match filter with
    | .comparison test => exact .leaf (.comparison test)
    | .membership test => exact .leaf (.membership test)
    | .like test => exact .leaf (.like test)
    | .isNull test => exact .leaf (.isNull test)
    | .and _ | .or _ => exact reads_parenthesized hreads
    | .not operand =>
      -- a negation brings its own parentheses
      obtain ⟨disjuncts, hoperand, hcollapsed⟩ := readsAs_tokens operand hfilter
      rw [collapsed, hcollapsed]
      exact .negated hoperand

end

end Filter

/-! ## Three-valued truth -/

/-- **The truth of a condition,** which may be unknown. -/
inductive Truth where
  | no
  | unknown
  | yes
deriving DecidableEq, Repr

namespace Truth

/-- Whether both hold: no as soon as one does not. -/
def and : Truth → Truth → Truth
  | no, _ | _, no => no
  | yes, yes => yes
  | _, _ => unknown

/-- Whether one holds: yes as soon as one does. -/
def or : Truth → Truth → Truth
  | yes, _ | _, yes => yes
  | no, no => no
  | _, _ => unknown

/-- Whether a condition does not hold. -/
def not : Truth → Truth
  | no => yes
  | unknown => unknown
  | yes => no

theorem and_yes (truth : Truth) : truth.and yes = truth := by cases truth <;> rfl

theorem or_no (truth : Truth) : truth.or no = truth := by cases truth <;> rfl

end Truth

mutual

/-- **The truth of a filter,** given that of each test by its place, where
so many tests come before the first one. -/
def Filter.truthFrom (tests : Nat → Truth) : Nat → Filter → Truth
  | place, .and operands => (Filter.truthsFrom tests place operands).foldr Truth.and .yes
  | place, .or operands => (Filter.truthsFrom tests place operands).foldr Truth.or .no
  | place, .not operand => (Filter.truthFrom tests place operand).not
  | place, _ => tests place

/-- The truth of some filters. -/
def Filter.truthsFrom (tests : Nat → Truth) : Nat → List Filter → List Truth
  | _, [] => []
  | place, filter :: filters =>
    Filter.truthFrom tests place filter ::
      Filter.truthsFrom tests (place + (Filter.leaves filter).length) filters

end

namespace Filter

/-- **The truth of a filter,** given that of each of its tests. -/
def truth (tests : Nat → Truth) (filter : Filter) : Truth := truthFrom tests 0 filter

theorem truthFrom_ofConjuncts (tests : Nat → Truth) (place : Nat) (filters : List Filter) :
    truthFrom tests place (ofConjuncts filters) =
      (truthsFrom tests place filters).foldr Truth.and .yes := by
  match filters with
  | [] => rfl
  | [filter] => exact (Truth.and_yes _).symm
  | first :: second :: rest => rfl

theorem truthFrom_ofDisjuncts (tests : Nat → Truth) (place : Nat) (filters : List Filter) :
    truthFrom tests place (ofDisjuncts filters) =
      (truthsFrom tests place filters).foldr Truth.or .no := by
  match filters with
  | [] => rfl
  | [filter] => exact (Truth.or_no _).symm
  | first :: second :: rest => rfl

mutual

/-- **A filter is as true without its groups of one condition,** whatever is
true of its tests. -/
theorem truthFrom_collapsed (tests : Nat → Truth) : ∀ (filter : Filter) (place : Nat),
    truthFrom tests place filter.collapsed = truthFrom tests place filter
  | .comparison _, _ | .membership _, _ | .like _, _ | .isNull _, _ => rfl
  | .and operands, place => by
    rw [collapsed, truthFrom_ofConjuncts, truthsFrom_collapsedAll tests operands, truthFrom]
  | .or operands, place => by
    rw [collapsed, truthFrom_ofDisjuncts, truthsFrom_collapsedAll tests operands, truthFrom]
  | .not operand, place => by
    rw [collapsed, truthFrom, truthFrom_collapsed tests operand, truthFrom]

theorem truthsFrom_collapsedAll (tests : Nat → Truth) : ∀ (filters : List Filter) (place : Nat),
    truthsFrom tests place (collapsedAll filters) = truthsFrom tests place filters
  | [], _ => rfl
  | filter :: filters, place => by
    rw [collapsedAll, truthsFrom, truthFrom_collapsed tests filter, leaves_collapsed,
      truthsFrom_collapsedAll tests filters, truthsFrom]

end

end Filter

end QueryTree
