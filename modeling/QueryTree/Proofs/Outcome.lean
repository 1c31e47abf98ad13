import QueryTree.Compile.Error
import Mathlib.Data.List.Forall2
import Mathlib.Data.Option.Basic
/-!
# Outcomes — results that may be a broken rule

What a chain of checks gives, read backwards (`bind_eq_ok`); `Yields`,
what is true of everything that a chain lets through; and `Made`, a thing
that is made while rules are checked, compared with the check alone.
-/

namespace QueryTree

variable {ε α β : Type}

theorem bind_eq_ok {result : Except ε α} {next : α → Except ε β} {b : β} :
    result >>= next = .ok b ↔ ∃ a, result = .ok a ∧ next a = .ok b := by
  constructor
  · intro h
    cases result with
    | ok a => exact ⟨a, rfl, h⟩
    | error e => cases h
  · rintro ⟨a, rfl, h⟩
    exact h

theorem map_eq_ok {result : Except ε α} {f : α → β} {b : β} :
    result.map f = .ok b ↔ ∃ a, result = .ok a ∧ f a = b := by
  constructor
  · intro h
    cases result with
    | ok a => exact ⟨a, rfl, Except.ok.inj h⟩
    | error e => cases h
  · rintro ⟨a, rfl, rfl⟩
    rfl

theorem map_eq_error {result : Except ε α} {f : α → β} {e : ε} :
    result.map f = .error e ↔ result = .error e := by
  constructor
  · intro h
    cases result with
    | ok a => cases h
    | error other => exact congrArg Except.error (Except.error.inj h)
  · rintro rfl
    rfl

theorem eq_ok_of_toOption {result : Except ε α} {a : α} (h : result.toOption = some a) :
    result = .ok a := by
  cases result with
  | ok b => exact congrArg Except.ok (Option.some.inj h)
  | error e => cases h

theorem toOption_eq_some_iff {result : Except ε α} {a : α} :
    result.toOption = some a ↔ result = .ok a :=
  ⟨eq_ok_of_toOption, fun h => h ▸ rfl⟩

theorem toOption_map (result : Except ε α) (f : α → β) :
    (result.map f).toOption = result.toOption.map f := by
  cases result <;> rfl

theorem map_eq_bind (result : Except ε α) (f : α → β) :
    result.map f = result >>= fun a => .ok (f a) := by
  cases result <;> rfl

theorem bind_of_map {γ : Type} (result : Except ε α) (f : α → β) (next : β → Except ε γ) :
    result.map f >>= next = result >>= fun a => next (f a) := by
  cases result <;> rfl

theorem map_of_bind {γ : Type} (result : Except ε α) (next : α → Except ε β) (f : β → γ) :
    (result >>= next).map f = result >>= fun a => (next a).map f := by
  cases result <;> rfl

theorem map_of_map {γ : Type} (result : Except ε α) (f : α → β) (g : β → γ) :
    (result.map f).map g = result.map fun a => g (f a) := by
  cases result <;> rfl

theorem mapError_eq_ok {δ : Type} {result : Except ε α} {e : ε → δ} {a : α} :
    result.mapError e = .ok a ↔ result = .ok a := by
  constructor
  · intro h
    cases result with
    | ok b => exact congrArg Except.ok (Except.ok.inj h)
    | error f => cases h
  · rintro rfl
    rfl

theorem mapError_eq_error {δ : Type} {result : Except ε α} {e : ε → δ} {d : δ} :
    result.mapError e = .error d ↔ ∃ f, result = .error f ∧ e f = d := by
  constructor
  · intro h
    cases result with
    | ok a => cases h
    | error f => exact ⟨f, rfl, Except.error.inj h⟩
  · rintro ⟨f, rfl, rfl⟩
    rfl

/-- What is done with an answer does not change an error. -/
theorem map_mapError {δ : Type} (result : Except ε α) (e : ε → δ) (f : α → β) :
    (result.mapError e).map f = (result.map f).mapError e := by
  cases result <;> rfl

section Mapped

variable {ν : Type} {change : ν → ν}

/-! ## Nodes that are changed before they are looked at -/

theorem forM_map_eq {check : ν → Except ε Unit} (nodes : List ν)
    (h : ∀ node, check (change node) = check node) :
    (nodes.map change).forM check = nodes.forM check := by
  induction nodes with
  | nil => rfl
  | cons node nodes ih =>
    change (check (change node) >>= fun _ => (nodes.map change).forM check) = _
    rw [h, ih]
    rfl

theorem forM_option_map_eq {check : ν → Except ε Unit} (node : Option ν)
    (h : ∀ node, check (change node) = check node) :
    (node.map change).forM check = node.forM check := by
  cases node with
  | none => rfl
  | some node => exact h node

theorem mapM_map_eq {f : ν → Except ε α} {g : α → α} (nodes : List ν)
    (h : ∀ node, f (change node) = (f node).map g) :
    (nodes.map change).mapM f = (nodes.mapM f).map (List.map g) := by
  induction nodes with
  | nil => rfl
  | cons node nodes ih =>
    rw [List.map_cons, List.mapM_cons, List.mapM_cons, h, ih]
    simp only [bind_of_map, map_of_bind]
    rfl

theorem mapM_option_map_eq {f : ν → Except ε α} {g : α → α} (node : Option ν)
    (h : ∀ node, f (change node) = (f node).map g) :
    (node.map change).mapM f = (node.mapM f).map (Option.map g) := by
  cases node with
  | none => rfl
  | some node =>
    rw [Option.map_some, Option.mapM_some, Option.mapM_some, h]
    cases f node <;> rfl

end Mapped

/-! ## What a chain lets through -/

/-- **What comes of a chain of checks is good,** if anything does. -/
def Yields (good : α → Prop) (result : Except ε α) : Prop := ∀ a, result = .ok a → good a

theorem yields_ok {good : α → Prop} {a : α} (h : good a) : Yields good (.ok a : Except ε α) := by
  intro b hb
  cases hb
  exact h

theorem yields_error {good : α → Prop} (e : ε) : Yields good (.error e) := by
  intro a ha
  cases ha

theorem Yields.bind {good : α → Prop} {further : β → Prop} {result : Except ε α}
    {next : α → Except ε β} (h : Yields good result)
    (hnext : ∀ a, good a → Yields further (next a)) :
    Yields further (result >>= next) := by
  intro b hb
  obtain ⟨a, ha, hb⟩ := bind_eq_ok.mp hb
  exact hnext a (h a ha) b hb

theorem Yields.map {good : α → Prop} {further : β → Prop} {result : Except ε α} {f : α → β}
    (h : Yields good result) (hf : ∀ a, good a → further (f a)) :
    Yields further (result.map f) := by
  intro b hb
  obtain ⟨a, ha, rfl⟩ := map_eq_ok.mp hb
  exact hf a (h a ha)

/-- A result of which nothing but itself is known. -/
theorem yields_self (result : Except ε α) : Yields (fun a => result = .ok a) result := fun _ h => h

theorem yields_each_of_mem {ν : Type} {good : ν → α → Prop} {f : ν → Except ε α} {nodes : List ν}
    (h : ∀ node ∈ nodes, Yields (good node) (f node)) :
    Yields (List.Forall₂ good nodes) (nodes.mapM f) := by
  induction nodes with
  | nil => exact yields_ok .nil
  | cons node nodes ih =>
    obtain ⟨hnode, hnodes⟩ := List.forall_mem_cons.mp h
    rw [List.mapM_cons]
    refine hnode.bind fun a ha => ?_
    refine (ih hnodes).bind fun as has => ?_
    exact yields_ok (.cons ha has)

theorem yields_each {ν : Type} {good : ν → α → Prop} {f : ν → Except ε α} (nodes : List ν)
    (h : ∀ node, Yields (good node) (f node)) :
    Yields (List.Forall₂ good nodes) (nodes.mapM f) :=
  yields_each_of_mem fun node _ => h node

theorem yields_optional_of_mem {ν : Type} {good : ν → α → Prop} {f : ν → Except ε α}
    {node : Option ν} (h : ∀ n ∈ node, Yields (good n) (f n)) :
    Yields (Option.Rel good node) (node.mapM f) := by
  cases node with
  | none => exact yields_ok .none
  | some node =>
    refine (h node rfl).map fun a ha => ?_
    exact .some ha

theorem yields_optional {ν : Type} {good : ν → α → Prop} {f : ν → Except ε α} (node : Option ν)
    (h : ∀ node, Yields (good node) (f node)) :
    Yields (Option.Rel good node) (node.mapM f) :=
  yields_optional_of_mem fun node _ => h node

/-- What is checked after a condition that must not hold. -/
theorem eq_ok_of_guard {condition : Bool} {e : ε} {rest : Except ε Unit}
    (h : (do
      if condition then .error e
      rest : Except ε Unit) = .ok ()) : rest = .ok () := by
  cases condition with
  | true => cases h
  | false => exact h

/-- The nodes of a list that are checked one by one all keep the rules. -/
theorem eq_ok_of_forM {ν : Type} {check : ν → Except ε Unit} {nodes : List ν}
    (h : nodes.forM check = .ok ()) : ∀ node ∈ nodes, check node = .ok () := by
  induction nodes with
  | nil =>
    intro node hnode
    cases hnode
  | cons node nodes ih =>
    obtain ⟨_, hnode, hnodes⟩ := bind_eq_ok.mp h
    exact List.forall_mem_cons.mpr ⟨hnode, ih hnodes⟩

theorem eq_ok_of_option_forM {ν : Type} {check : ν → Except ε Unit} {node : Option ν}
    (h : node.forM check = .ok ()) : ∀ n ∈ node, check n = .ok () := by
  rintro n rfl
  exact h

theorem yields_mapM {ν : Type} {good : α → Prop} {f : ν → Except ε α} {nodes : List ν}
    (h : ∀ node ∈ nodes, Yields good (f node)) :
    Yields (fun as => ∀ a ∈ as, good a) (nodes.mapM f) := by
  induction nodes with
  | nil => exact yields_ok fun _ ha => (nomatch ha)
  | cons node nodes ih =>
    obtain ⟨hnode, hnodes⟩ := List.forall_mem_cons.mp h
    rw [List.mapM_cons]
    refine hnode.bind fun a ha => ?_
    refine (ih hnodes).bind fun as has => ?_
    exact yields_ok (List.forall_mem_cons.mpr ⟨ha, has⟩)

theorem yields_option_mapM {ν : Type} {good : α → Prop} {f : ν → Except ε α} {node : Option ν}
    (h : ∀ n ∈ node, Yields good (f n)) : Yields (fun as => ∀ a ∈ as, good a) (node.mapM f) := by
  cases node with
  | none => exact yields_ok fun _ ha => (nomatch ha)
  | some node =>
    refine (h node rfl).map fun a ha => ?_
    rintro _ ⟨⟩
    exact ha

/-! ## Things of nodes -/

theorem forall_mem_of_forall₂ {R : α → β → Prop} {p : β → Prop} {as : List α} {bs : List β}
    (h : List.Forall₂ R as bs) (hp : ∀ a b, R a b → p b) : ∀ b ∈ bs, p b := by
  induction h with
  | nil => exact fun _ hb => (nomatch hb)
  | cons hab _ ih => exact List.forall_mem_cons.mpr ⟨hp _ _ hab, ih⟩

theorem forall_mem_of_rel {R : α → β → Prop} {p : β → Prop} {a : Option α} {b : Option β}
    (h : Option.Rel R a b) (hp : ∀ a b, R a b → p b) : ∀ x ∈ b, p x := by
  rintro x hx
  cases h with
  | some hab =>
    cases hx
    exact hp _ _ hab
  | none => cases hx

/-- What stands between two things of a node that may be missing may be
missing too. -/
theorem exists_rel_of_rel {γ : Type} {R : α → β → Prop} {S : β → γ → Prop} {a : Option α}
    {c : Option γ} (h : Option.Rel (fun a c => ∃ b, R a b ∧ S b c) a c) :
    ∃ b, Option.Rel R a b ∧ Option.Rel S b c := by
  cases h with
  | some hac =>
    obtain ⟨b, hab, hbc⟩ := hac
    exact ⟨some b, .some hab, .some hbc⟩
  | none => exact ⟨none, .none, .none⟩

/-! ## What is made while rules are checked -/

/-- **What is made while rules are checked,** compared with a check: either
is refused for the same rule, or the check passes and what is made is
good. -/
def Made (good : α → Prop) : Except Violation α → Except Violation Unit → Prop
  | .ok a, .ok _ => good a
  | .error violation, .error other => violation = other
  | _, _ => False

variable {good : α → Prop} {made : Except Violation α} {checked : Except Violation Unit}

theorem made_ok {a : α} (h : good a) : Made good (.ok a) (.ok ()) := h

theorem made_error (violation : Violation) :
    Made good (.error violation) (.error violation) := rfl

theorem made_check (checked : Except Violation Unit) :
    Made (fun _ => checked = .ok ()) checked checked := by
  cases checked <;> rfl

/-- A thing checked by making it. -/
theorem made_discard (made : Except Violation α) :
    Made (fun a => made = .ok a) made (made.map fun _ => ()) := by
  cases made <;> rfl

/-- Making one thing after another is checking one after another. -/
theorem Made.bind {further : β → Prop} {next : α → Except Violation β}
    {rest : Except Violation Unit} (h : Made good made checked)
    (hnext : ∀ a, good a → Made further (next a) rest) :
    Made further (made >>= next) (checked >>= fun _ => rest) := by
  cases made with
  | ok a =>
    cases checked with
    | ok => exact hnext a h
    | error violation => exact h.elim
  | error violation =>
    cases checked with
    | ok => exact h.elim
    | error other => exact h

/-- A thing that is made and then put into another one. -/
theorem Made.map {further : β → Prop} {f : α → β} (h : Made good made checked)
    (hf : ∀ a, good a → further (f a)) : Made further (made.map f) checked := by
  cases made with
  | ok a =>
    cases checked with
    | ok => exact hf a h
    | error violation => exact h.elim
  | error violation =>
    cases checked with
    | ok => exact h.elim
    | error other => exact h

/-- The last thing that is made is put into the whole. -/
theorem Made.bind_ok {further : β → Prop} {f : α → β} (h : Made good made checked)
    (hf : ∀ a, good a → further (f a)) : Made further (made >>= fun a => .ok (f a)) checked := by
  have hmap := h.map hf
  cases made <;> exact hmap

/-- A thing that is made, and checked, after a condition that must not
hold. -/
theorem Made.guard (h : Made good made checked) (condition : Bool) (violation : Violation) :
    Made good
      (do
        if condition then .error violation
        made)
      (do
        if condition then .error violation
        checked) := by
  cases condition with
  | true => exact made_error violation
  | false => exact h

/-- A thing that may be missing, made of a node that may be. -/
theorem made_optional {ν : Type} {tracks : ν → α → Prop} {f : ν → Except Violation α}
    {check : ν → Except Violation Unit} (node : Option ν)
    (h : ∀ node, Made (tracks node) (f node) (check node)) :
    Made (Option.Rel tracks node) (node.mapM f) (node.forM check) := by
  cases node with
  | none => exact made_ok .none
  | some node =>
    refine (h node).map fun a ha => ?_
    exact .some ha

theorem Made.of_ok {a : α} (h : Made good (.ok a) checked) : checked = .ok () ∧ good a := by
  cases checked with
  | ok => exact ⟨rfl, h⟩
  | error violation => exact h.elim

/-- What was made is good. -/
theorem Made.of_eq_ok {a : α} (h : Made good made checked) (hmade : made = .ok a) : good a := by
  rw [hmade] at h
  exact h.of_ok.2

theorem Made.of_error {violation : Violation} (h : Made good (.error violation) checked) :
    checked = .error violation := by
  cases checked with
  | ok => exact h.elim
  | error other => exact congrArg Except.error (Eq.symm h)

/-- What passes the check can be made. -/
theorem Made.exists_ok (h : Made good made (.ok ())) : ∃ a, made = .ok a ∧ good a := by
  cases made with
  | ok a => exact ⟨a, rfl, h⟩
  | error violation => exact h.elim

end QueryTree
