import QueryTree.Compile.Name
import QueryTree.Proofs.Filling
import QueryTree.Proofs.Outcome
/-!
# Names — what is written into SQL without quotes

The names of functions and types go into the text as they are. What their
checks let through consists of bare characters, none of which opens a
quoted name, a hole or a placeholder.
-/

namespace QueryTree

namespace Text

/-- The marks that may stand outside quoted names. -/
def bareMarks : List Char :=
  [' ', '_', '.', ',', '*', '(', ')', '[', ']', ':', '=', '!', '<', '>']

/-- **Whether a character may stand outside quoted names** and apart from
placeholders: a letter or a digit of ASCII, or one of a few marks. -/
def isBare (c : Char) : Bool := c.isAlphanum || bareMarks.contains c

/-- Whether a text consists of bare characters. -/
def AllBare (text : List Char) : Prop := ∀ c ∈ text, isBare c = true

instance (text : List Char) : Decidable (AllBare text) :=
  List.decidableBAll (fun c => isBare c = true) text

theorem AllBare.append {first second : List Char} (hf : AllBare first) (hs : AllBare second) :
    AllBare (first ++ second) := by
  intro c hc
  rcases List.mem_append.mp hc with hc | hc
  · exact hf c hc
  · exact hs c hc

theorem ne_of_isBare {c d : Char} (h : isBare c = true) (hd : isBare d = false) : c ≠ d := by
  rintro rfl
  rw [h] at hd
  cases hd

theorem isBare_of_isAlpha {c : Char} (h : c.isAlpha = true) : isBare c = true := by
  simp [isBare, Char.isAlphanum, h]

theorem isBare_of_isAlphanum {c : Char} (h : c.isAlphanum = true) : isBare c = true := by
  simp [isBare, h]

/-- A letter is no digit. -/
theorem not_isDigit_of_isAlpha {c : Char} (h : c.isAlpha = true) : c.isDigit = false := by
  delta Char.isAlpha Char.isUpper Char.isLower at h
  simp only [Bool.or_eq_true, Bool.and_eq_true, decide_eq_true_eq, UInt32.le_iff_toNat_le,
    ge_iff_le] at h
  have hdigit : c.isDigit = true → 48 ≤ c.val.toNat ∧ c.val.toNat ≤ 57 := by
    simp [Char.isDigit, UInt32.le_iff_toNat_le]
  have hletter : 65 ≤ c.val.toNat := by
    rcases h with ⟨hlow, -⟩ | ⟨hlow, -⟩
    · exact hlow
    · exact Nat.le_trans (by decide : 65 ≤ 97) hlow
  by_contra hc
  obtain ⟨-, hhigh⟩ := hdigit (by simpa using hc)
  omega

end Text

open Text

/-- Bare characters are no holes and escape none. -/
theorem Template.plain_of_allBare {text : List Char} (h : AllBare text) :
    Template.Plain text := by
  intro c hc
  have hbare := h c hc
  exact ⟨ne_of_isBare hbare (by decide), ne_of_isBare hbare (by decide)⟩

/-- **The name of a type is bare.** -/
theorem allBare_of_isCastType {cast : String} (h : isCastType cast = true) :
    AllBare cast.toList := by
  unfold isCastType at h
  split at h
  · cases h
  · rename_i first rest hcast
    rw [Bool.and_eq_true, List.all_eq_true] at h
    have hmark : AllBare castMarks := by decide
    obtain ⟨hfirst, hrest⟩ := h
    intro c hc
    rw [hcast] at hc
    rcases List.mem_cons.mp hc with rfl | hc
    · exact isBare_of_isAlpha hfirst
    · have hallowed := hrest c hc
      rw [Bool.or_eq_true, List.contains_iff_mem] at hallowed
      rcases hallowed with halnum | hmem
      · exact isBare_of_isAlphanum halnum
      · exact hmark c hmem

/-- The characters of the name of a function. -/
theorem mem_of_isFunctionName {name : String} (h : isFunctionName name = true) :
    ∀ c ∈ name.toList, c.isAlphanum = true ∨ c = '_' ∨ c = '.' := by
  unfold isFunctionName at h
  split at h
  · cases h
  · rename_i first rest hname
    simp only [Bool.and_eq_true, Bool.or_eq_true, List.all_eq_true, decide_eq_true_eq] at h
    obtain ⟨hfirst, hrest⟩ := h
    intro c hc
    rw [hname] at hc
    rcases List.mem_cons.mp hc with rfl | hc
    · rcases hfirst with halpha | hunderscore
      · exact .inl (by simp [Char.isAlphanum, halpha])
      · exact .inr (.inl hunderscore)
    · rcases hrest c hc with (halnum | hunderscore) | hpoint
      · exact .inl halnum
      · exact .inr (.inl hunderscore)
      · exact .inr (.inr hpoint)

/-- **The name of a function is bare.** -/
theorem allBare_of_isFunctionName {name : String} (h : isFunctionName name = true) :
    AllBare name.toList := by
  intro c hc
  rcases mem_of_isFunctionName h c hc with halnum | rfl | rfl
  · exact isBare_of_isAlphanum halnum
  · decide
  · decide

/-- No digit comes first in the name of a function. -/
theorem head_of_isFunctionName {name : String} (h : isFunctionName name = true) :
    name.toList.head?.any Char.isDigit = false := by
  unfold isFunctionName at h
  split at h
  · cases h
  · rename_i first rest hname
    simp only [Bool.and_eq_true, Bool.or_eq_true, decide_eq_true_eq] at h
    rw [hname, List.head?_cons, Option.any_some]
    rcases h.1 with halpha | rfl
    · exact not_isDigit_of_isAlpha halpha
    · decide

/-- The text of a cast. -/
theorem allBare_cast {cast : String} (h : isCastType cast = true) :
    AllBare ("::" ++ cast).toList := by
  have hcolons : AllBare "::".toList := by decide
  rw [String.toList_append]
  exact hcolons.append (allBare_of_isCastType h)

/-- The text before the parameters of a function. -/
theorem allBare_call {name : String} (h : isFunctionName name = true) :
    AllBare (name ++ "(").toList := by
  have hparenthesis : AllBare "(".toList := by decide
  rw [String.toList_append]
  exact (allBare_of_isFunctionName h).append hparenthesis

/-! ## What the checks let through -/

theorem isCastType_of_check {cast : String} (h : checkCastType (some cast) = .ok ()) :
    isCastType cast = true := by
  by_contra hc
  rw [checkCastType, if_neg hc] at h
  cases h

theorem isFunctionName_of_check {name : String} (h : checkFunctionName name = .ok ()) :
    isFunctionName name = true := by
  by_contra hn
  rw [checkFunctionName, if_neg hn] at h
  cases h

theorem ne_empty_of_checkName {context name : String} (h : checkName context name = .ok ()) :
    name ≠ "" := by
  rintro rfl
  cases h

end QueryTree
