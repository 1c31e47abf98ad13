import QueryTree.Proofs.Reading
/-!
# Locality — a scanner does not look ahead

What is scanned at the start of a text stays the same if more text
follows, as long as that does not go on with a number (`Scan.Steady`). So
a word, a string or a number can be scanned alone.
-/

namespace QueryTree

namespace Scan

variable {α β : Type}

/-! ## Scanners in general -/

/-- Whether a character may go on with a number. -/
def continuesNumber (c : Char) : Bool := c.isDigit || c = '.' || c = 'e' || c = 'E'

/-- **A text that does not go on with a number.** -/
def Ends (text : List Char) : Prop := ∀ c ∈ text.head?, continuesNumber c = false

/-- **A scanner that does not look ahead,** save for whether a number goes
on. -/
def Steady (scan : List Char → Scanned α) : Prop :=
  ∀ text a left rest, Ends rest → scan text = .ok (a, left) →
    scan (text ++ rest) = .ok (a, left ++ rest)

theorem Steady.andThen {scan : List Char → Scanned α} {next : α → List Char → Scanned β}
    (h : Steady scan) (hnext : ∀ a, Steady (next a)) :
    Steady fun text => (scan text).andThen next := by
  intro text b left rest hends hok
  obtain ⟨a, between, hscan, hafter⟩ := Scanned.andThen_eq_ok.mp hok
  exact Scanned.andThen_eq_ok.mpr
    ⟨a, _, h text a between rest hends hscan, hnext a between b left rest hends hafter⟩

theorem Steady.map {scan : List Char → Scanned α} (h : Steady scan) (f : α → β) :
    Steady fun text => (scan text).map f := by
  refine h.andThen fun a text b left rest _ hok => ?_
  cases hok
  rfl

theorem steady_word (value : α) (letters : List Char) : Steady (word value letters) := by
  induction letters with
  | nil =>
    intro text a left rest _ hok
    cases hok
    rfl
  | cons letter letters ih =>
    intro text a left rest hends hok
    cases text with
    | nil => cases hok
    | cons c text =>
      rw [word] at hok
      rw [List.cons_append, word]
      split at hok
      · rename_i hc
        rw [if_pos hc]
        exact ih text a left rest hends hok
      · cases hok

/-! ## Strings -/

theorem steady_hexEscape : Steady hexEscape := by
  intro text n left rest _ hok
  unfold hexEscape at hok
  split at hok
  · rename_i a b c d after
    split at hok
    · rename_i ha hb hc hd
      cases hok
      simp only [List.cons_append, hexEscape, ha, hb, hc, hd]
    · cases hok
  · split at hok <;> cases hok

theorem steady_secondEscape (high : Nat) : Steady (secondEscape high) := by
  intro text c left rest hends hok
  unfold secondEscape at hok
  split at hok
  · cases hok
  · cases hok
  · rename_i after
    refine (steady_hexEscape.andThen fun low => ?_) after c left rest hends hok
    intro text c left rest _ hlow
    beta_reduce at hlow ⊢
    by_cases hrange : 0xDC00 ≤ low ∧ low ≤ 0xDFFF
    · rw [if_pos hrange] at hlow ⊢
      obtain ⟨hc, rfl⟩ := Prod.mk.inj (Except.ok.inj hlow)
      rw [hc]
    · rw [if_neg hrange] at hlow
      cases hlow
  · cases hok
  · cases hok

theorem steady_numberEscape : Steady numberEscape := by
  refine steady_hexEscape.andThen fun code => ?_
  intro text c left rest hends hok
  beta_reduce at hok ⊢
  split at hok
  · cases hok
  rename_i hsecond
  rw [if_neg hsecond]
  split at hok
  · rename_i hfirst
    rw [if_pos hfirst]
    exact steady_secondEscape code text c left rest hends hok
  · rename_i hfirst
    rw [if_neg hfirst]
    cases hok
    rfl

theorem steady_escape : Steady escape := by
  intro text c left rest hends hok
  unfold escape at hok
  split at hok
  case h_10 after => exact steady_numberEscape after c left rest hends hok
  all_goals
    cases hok
  all_goals rfl

/-- The characters of a string, with enough fuel for a longer text. -/
theorem stringFrom_append {fuel enough : Nat} {read text left rest : List Char} {s : String}
    (hends : Ends rest) (hfuel : fuel ≤ enough)
    (hok : stringFrom fuel read text = .ok (s, left)) :
    stringFrom enough read (text ++ rest) = .ok (s, left ++ rest) := by
  induction fuel generalizing enough read text with
  | zero => cases hok
  | succ fuel ih =>
    obtain ⟨enough, rfl⟩ := Nat.exists_eq_add_of_lt hfuel
    have hfuel := Nat.le_of_succ_le_succ hfuel
    unfold stringFrom at hok
    split at hok
    · cases hok
    · cases hok
      rfl
    · rename_i after
      obtain ⟨c, between, hescape, hok⟩ := Scanned.andThen_eq_ok.mp hok
      have hescape := steady_escape after c between rest hends hescape
      exact Scanned.andThen_eq_ok.mpr ⟨c, _, hescape, ih hfuel hok⟩
    · rename_i c after hquote hbackslash
      split at hok
      · cases hok
      · rename_i hcontrol
        rw [List.cons_append]
        unfold stringFrom
        split
        · rename_i heq
          cases heq
        · rename_i heq
          cases heq
          exact (hquote rfl).elim
        · rename_i heq
          cases heq
          exact (hbackslash rfl).elim
        · rename_i heq
          cases heq
          rw [if_neg hcontrol]
          exact ih hfuel hok

theorem steady_string : Steady string := by
  intro text s left rest hends hok
  exact stringFrom_append hends (by simp) hok

/-! ## Numbers -/

theorem Ends.head {c : Char} {more : List Char} (h : Ends (c :: more)) :
    c.isDigit = false ∧ c ≠ '.' ∧ c ≠ 'e' ∧ c ≠ 'E' := by
  simpa [continuesNumber, and_assoc] using h c rfl

theorem startsWithDigit_append {text rest : List Char} (h : Ends rest) :
    startsWithDigit (text ++ rest) = startsWithDigit text := by
  cases text with
  | cons c text => rfl
  | nil =>
    cases rest with
    | nil => rfl
    | cons c rest => exact h.head.1

theorem takeWhile_digits_append {rest : List Char} (h : Ends rest) (text : List Char) :
    (text ++ rest).takeWhile Char.isDigit = text.takeWhile Char.isDigit := by
  induction text with
  | nil =>
    cases rest with
    | nil => rfl
    | cons c rest => exact List.takeWhile_cons_of_neg (by simp [h.head.1])
  | cons c text ih => rw [List.cons_append, List.takeWhile_cons, List.takeWhile_cons, ih]

theorem dropWhile_digits_append {rest : List Char} (h : Ends rest) (text : List Char) :
    (text ++ rest).dropWhile Char.isDigit = text.dropWhile Char.isDigit ++ rest := by
  induction text with
  | nil =>
    cases rest with
    | nil => rfl
    | cons c rest => exact List.dropWhile_cons_of_neg (by simp [h.head.1])
  | cons c text ih =>
    rw [List.cons_append, List.dropWhile_cons, List.dropWhile_cons, ih]
    split <;> rfl

theorem steady_finishFloat (negative : Bool) (digits : Nat) (exponent : Int) :
    Steady (finishFloat negative digits exponent) := by
  intro text n left rest _ hok
  unfold finishFloat at hok ⊢
  split at hok
  · cases hok
    rfl
  · cases hok

theorem steady_finishInteger (negative : Bool) (digits : Nat) :
    Steady (finishInteger negative digits) := by
  intro text n left rest hends hok
  unfold finishInteger at hok ⊢
  split at hok
  · rename_i hnegative
    rw [if_pos hnegative]
    split at hok
    · rename_i hlarge
      rw [if_pos hlarge]
      exact steady_finishFloat negative digits 0 text n left rest hends hok
    · rename_i hlarge
      rw [if_neg hlarge]
      cases hok
      rfl
  · rename_i hnegative
    rw [if_neg hnegative]
    split at hok
    · rename_i hlarge
      rw [if_pos hlarge]
      exact steady_finishFloat negative digits 0 text n left rest hends hok
    · rename_i hlarge
      rw [if_neg hlarge]
      cases hok
      rfl

theorem exponentFrom_append {rest : List Char} (h : Ends rest) (value : Nat) (text : List Char) :
    exponentFrom value (text ++ rest) =
      ((exponentFrom value text).1, (exponentFrom value text).2 ++ rest) := by
  induction text generalizing value with
  | nil =>
    cases rest with
    | nil => rfl
    | cons c rest =>
      change exponentFrom value (c :: rest) = (some value, c :: rest)
      rw [exponentFrom, if_neg (by simp [h.head.1])]
  | cons c text ih =>
    rw [List.cons_append, exponentFrom, exponentFrom]
    split
    · dsimp only
      split
      · rfl
      · exact ih _
    · rfl

/-- The digits of an exponent and what follows, after its sign. -/
def unsignedExponent (negative : Bool) (digits : Nat) (scale : Int) (shrinks : Bool) :
    List Char → Scanned JsonNumber
  | [] => .error (.before .endInValue [])
  | c :: rest =>
    if c.isDigit then
      match exponentFrom (c.toNat - 48) rest with
      | (some value, rest) =>
        finishFloat negative digits (if shrinks then scale - value else scale + value) rest
      | (none, rest) =>
        if digits ≠ 0 ∧ ¬ shrinks then .error (.before .numberOutOfRange rest)
        else .ok (.float (.zero negative), rest.dropWhile Char.isDigit)
    else .error (.atNext .invalidNumber (c :: rest))

theorem exponent_plus (negative : Bool) (digits : Nat) (scale : Int) (text : List Char) :
    exponent negative digits scale ('+' :: text) =
      unsignedExponent negative digits scale false text := by
  cases text <;> rfl

theorem exponent_minus (negative : Bool) (digits : Nat) (scale : Int) (text : List Char) :
    exponent negative digits scale ('-' :: text) =
      unsignedExponent negative digits scale true text := by
  cases text <;> rfl

theorem exponent_unsigned {negative : Bool} {digits : Nat} {scale : Int} {c : Char}
    (hplus : c ≠ '+') (hminus : c ≠ '-') (text : List Char) :
    exponent negative digits scale (c :: text) =
      unsignedExponent negative digits scale false (c :: text) := by
  unfold exponent
  split
  rename_i shrinks unsigned heq
  split at heq
  · rename_i hcons
    cases hcons
    exact absurd rfl hplus
  · rename_i hcons
    cases hcons
    exact absurd rfl hminus
  · cases heq
    rfl

theorem steady_unsignedExponent (negative : Bool) (digits : Nat) (scale : Int) (shrinks : Bool) :
    Steady (unsignedExponent negative digits scale shrinks) := by
  intro text n left rest hends hok
  cases text with
  | nil => cases hok
  | cons c text =>
    rw [unsignedExponent] at hok
    rw [List.cons_append, unsignedExponent, exponentFrom_append hends]
    split at hok
    · rename_i hdigit
      rw [if_pos hdigit]
      rcases hfrom : exponentFrom (c.toNat - 48) text with ⟨_ | value, after⟩
      · rw [hfrom] at hok
        dsimp only at hok ⊢
        split at hok
        · cases hok
        · rename_i hrange
          cases hok
          rw [if_neg hrange, dropWhile_digits_append hends]
      · rw [hfrom] at hok
        exact steady_finishFloat _ _ _ after n left rest hends hok
    · cases hok

theorem steady_exponent (negative : Bool) (digits : Nat) (scale : Int) :
    Steady (exponent negative digits scale) := by
  intro text n left rest hends hok
  have hunsigned := fun shrinks => steady_unsignedExponent negative digits scale shrinks
  cases text with
  | nil => cases hok
  | cons c text =>
    rw [List.cons_append]
    by_cases hplus : c = '+'
    · subst hplus
      rw [exponent_plus] at hok ⊢
      exact hunsigned false text n left rest hends hok
    by_cases hminus : c = '-'
    · subst hminus
      rw [exponent_minus] at hok ⊢
      exact hunsigned true text n left rest hends hok
    rw [exponent_unsigned hplus hminus] at hok ⊢
    exact hunsigned false (c :: text) n left rest hends hok

/-- The exponent of a number and what follows, after the digits behind its
point. -/
def afterPlaces (negative : Bool) (digits : Nat) (scale : Int) : List Char → Scanned JsonNumber
  | 'e' :: rest => exponent negative digits scale rest
  | 'E' :: rest => exponent negative digits scale rest
  | rest => finishFloat negative digits scale rest

theorem afterPlaces_default {negative : Bool} {digits : Nat} {scale : Int} {text : List Char}
    (h : ∀ c more, text = c :: more → c ≠ 'e' ∧ c ≠ 'E') :
    afterPlaces negative digits scale text = finishFloat negative digits scale text := by
  unfold afterPlaces
  split
  · exact absurd rfl (h _ _ rfl).1
  · exact absurd rfl (h _ _ rfl).2
  · rfl

theorem steady_afterPlaces (negative : Bool) (digits : Nat) (scale : Int) :
    Steady (afterPlaces negative digits scale) := by
  intro text n left rest hends hok
  unfold afterPlaces at hok
  split at hok
  · exact steady_exponent _ _ _ _ n left rest hends hok
  · exact steady_exponent _ _ _ _ n left rest hends hok
  · rename_i he hE
    rw [afterPlaces_default]
    · exact steady_finishFloat _ _ _ _ n left rest hends hok
    · intro c more heq
      cases text with
      | nil =>
        rw [List.nil_append] at heq
        subst heq
        exact hends.head.2.2
      | cons other text =>
        cases heq
        exact ⟨fun h => he text (h ▸ rfl), fun h => hE text (h ▸ rfl)⟩

theorem afterInteger_point {negative : Bool} {digits : Nat} {text : List Char}
    (h : text.takeWhile Char.isDigit ≠ []) :
    afterInteger negative digits ('.' :: text) =
      afterPlaces negative (digitsFrom digits (text.takeWhile Char.isDigit))
        (-(text.takeWhile Char.isDigit).length) (text.dropWhile Char.isDigit) := by
  rw [afterInteger]
  split
  · rename_i heq
    exact absurd heq h
  · rfl

theorem afterInteger_default {negative : Bool} {digits : Nat} {text : List Char}
    (h : ∀ c more, text = c :: more → c ≠ '.' ∧ c ≠ 'e' ∧ c ≠ 'E') :
    afterInteger negative digits text = finishInteger negative digits text := by
  unfold afterInteger
  split
  · exact absurd rfl (h _ _ rfl).1
  · exact absurd rfl (h _ _ rfl).2.1
  · exact absurd rfl (h _ _ rfl).2.2
  · rfl

theorem steady_afterInteger (negative : Bool) (digits : Nat) :
    Steady (afterInteger negative digits) := by
  intro text n left rest hends hok
  by_cases hpoint : ∃ after, text = '.' :: after
  · obtain ⟨after, rfl⟩ := hpoint
    by_cases hplaces : after.takeWhile Char.isDigit = []
    · rw [afterInteger, hplaces] at hok
      cases hok
    · have hplaces' : (after ++ rest).takeWhile Char.isDigit ≠ [] := by
        rwa [takeWhile_digits_append hends]
      rw [afterInteger_point hplaces] at hok
      rw [List.cons_append, afterInteger_point hplaces', takeWhile_digits_append hends,
        dropWhile_digits_append hends]
      exact steady_afterPlaces _ _ _ _ n left rest hends hok
  unfold afterInteger at hok
  split at hok
  · exact absurd ⟨_, rfl⟩ hpoint
  · exact steady_exponent _ _ _ _ n left rest hends hok
  · exact steady_exponent _ _ _ _ n left rest hends hok
  · rename_i he hE
    rw [afterInteger_default]
    · exact steady_finishInteger _ _ _ n left rest hends hok
    · intro c more heq
      cases text with
      | nil =>
        rw [List.nil_append] at heq
        subst heq
        exact hends.head.2
      | cons other text =>
        cases heq
        exact ⟨fun h => hpoint ⟨text, h ▸ rfl⟩, fun h => he text (h ▸ rfl),
          fun h => hE text (h ▸ rfl)⟩

theorem number_cons {negative : Bool} {c : Char} (h : c ≠ '0') (text : List Char) :
    number negative (c :: text) =
      if c.isDigit then
        afterInteger negative (digitsFrom 0 ((c :: text).takeWhile Char.isDigit))
          ((c :: text).dropWhile Char.isDigit)
      else .error (.atNext .invalidNumber (c :: text)) := by
  unfold number
  split
  · rename_i heq
    cases heq
  · rename_i heq
    cases heq
    exact absurd rfl h
  · rename_i heq
    cases heq
    rfl

theorem steady_number (negative : Bool) : Steady (number negative) := by
  intro text n left rest hends hok
  cases text with
  | nil => cases hok
  | cons c text =>
    rw [List.cons_append]
    by_cases hzero : c = '0'
    · subst hzero
      rw [number] at hok ⊢
      rw [startsWithDigit_append hends]
      split at hok
      · cases hok
      · rename_i hdigit
        rw [if_neg hdigit]
        exact steady_afterInteger _ _ _ n left rest hends hok
    · rw [number_cons hzero] at hok
      rw [number_cons hzero]
      split at hok
      · rename_i hdigit
        rw [if_pos hdigit, ← List.cons_append, takeWhile_digits_append hends,
          dropWhile_digits_append hends]
        exact steady_afterInteger _ _ _ n left rest hends hok
      · cases hok

/-! ## Scalars -/

theorem scalar_of_digit {text : List Char} (h : startsWithDigit text = true) :
    scalar text = (number false text).map .number := by
  unfold scalar
  split
  case h_6 => exact if_pos h
  all_goals exact absurd h (by simp [startsWithDigit])

/-- **A scalar is scanned alone,** if no number goes on behind it. -/
theorem steady_scalar : Steady scalar := by
  intro text value left rest hends hok
  unfold scalar at hok
  split at hok
  · exact steady_word _ _ _ value left rest hends hok
  · exact steady_word _ _ _ value left rest hends hok
  · exact steady_word _ _ _ value left rest hends hok
  · exact steady_string.map _ _ value left rest hends hok
  · exact (steady_number true).map _ _ value left rest hends hok
  · split at hok
    · rename_i hdigit
      rw [scalar_of_digit (by rwa [startsWithDigit_append hends])]
      exact (steady_number false).map _ _ value left rest hends hok
    · cases hok

end Scan

end QueryTree
