import QueryTree.Proofs.Composition
/-!
# Tidiness — what stands next to what in a fragment

A fragment is tidy where its texts are bare, no two names are neighbours
and no digit follows a parameter: then what is written for its symbols
can be told apart again. Between any two fragments that are put together
there is a text, and it never begins with a digit. So what is composed is
tidy (`Composed.tidy`), and with it every fragment that a query becomes.
-/

namespace QueryTree

open Text

/-! ## Neighbours -/

namespace Symbol

/-- Whether a symbol is a name. -/
def IsName : Symbol → Prop
  | identifier _ | aliasName _ => True
  | _ => False

/-- **Whether a symbol may stand right before another one:** a name not
before a name, a parameter not before a digit. -/
def MayPrecede : Symbol → Symbol → Prop
  | identifier _, next | aliasName _, next => ¬ next.IsName
  | param _, char c => c.isDigit = false
  | _, _ => True

end Symbol

/-- Whether a text parts what stands before it from what stands after. -/
structure Text.IsLink (text : String) : Prop where
  ne_empty : text ≠ ""
  allBare : AllBare text.toList
  head : text.toList.head?.any Char.isDigit = false

theorem Text.IsSeparator.isLink {text : String} (h : IsSeparator text) : IsLink text :=
  ⟨h.ne_empty, h.isPlain.allBare, h.head⟩

theorem Text.isLink_cast {type : String} (h : isCastType type = true) : IsLink ("::" ++ type) :=
  ⟨by simp, allBare_cast h, by simp⟩

theorem Text.isLink_opening {text : String} (h : IsLead text) : IsLink (text ++ "(") where
  ne_empty := by simp
  allBare := by
    have hparenthesis : AllBare "(".toList := by decide
    rw [String.toList_append]
    exact h.isPlain.allBare.append hparenthesis
  head := by
    have hhead := h.head
    rw [String.toList_append]
    cases htext : text.toList with
    | nil => decide
    | cons c chars =>
      rw [htext] at hhead
      exact hhead

theorem Text.isLink_closing : IsLink ")" := ⟨by decide, by decide, by decide⟩

namespace Fragment

/-- **A tidy fragment.** -/
structure Tidy (fragment : Fragment) : Prop where
  isBare : ∀ c, .char c ∈ fragment.symbols → Text.isBare c = true
  isChain : fragment.symbols.IsChain Symbol.MayPrecede

/-- Whether a fragment may be put after any other one: it begins with a
character that is no digit, if it is not empty. -/
def Continues (fragment : Fragment) : Prop :=
  ∀ symbol ∈ fragment.symbols.head?, ∃ c, symbol = .char c ∧ c.isDigit = false

variable {first second fragment : Fragment} {text : String}

theorem tidy_empty : empty.Tidy := ⟨by simp, .nil⟩

theorem tidy_identifier (name : String) : (identifier name).Tidy := ⟨by simp, .singleton _⟩

theorem tidy_ofAlias (name : String) : (ofAlias name).Tidy := ⟨by simp, .singleton _⟩

theorem tidy_ofParam (param : Param) : (ofParam param).Tidy := ⟨by simp, .singleton _⟩

/-- Anything may follow a text. -/
theorem isChain_ofText_append {symbols : List Symbol} (h : symbols.IsChain Symbol.MayPrecede)
    (text : String) : (Symbol.ofText text ++ symbols).IsChain Symbol.MayPrecede := by
  unfold Symbol.ofText
  induction text.toList with
  | nil => exact h
  | cons c chars ih => exact List.isChain_cons.mpr ⟨fun _ _ => trivial, ih⟩

/-- **A bare text before a tidy fragment.** -/
theorem Tidy.ofText_append (h : fragment.Tidy) (ht : AllBare text.toList) :
    (ofText text ++ fragment).Tidy where
  isBare c hc := by
    rw [symbols_append, symbols_ofText, List.mem_append, Symbol.ofText, List.mem_map] at hc
    rcases hc with ⟨d, hd, hdc⟩ | hc
    · cases hdc
      exact ht c hd
    · exact h.isBare c hc
  isChain := by
    rw [symbols_append, symbols_ofText]
    exact isChain_ofText_append h.isChain text

/-- **A tidy fragment after another one,** where it may be put after any. -/
theorem Tidy.append (hf : first.Tidy) (hs : second.Tidy) (hc : second.Continues) :
    (first ++ second).Tidy where
  isBare c hmem := by
    rw [symbols_append, List.mem_append] at hmem
    exact hmem.elim (hf.isBare c) (hs.isBare c)
  isChain := by
    rw [symbols_append]
    refine List.isChain_append.mpr ⟨hf.isChain, hs.isChain, fun last _ next hnext => ?_⟩
    -- whatever is last, it may stand before a character that is no digit
    obtain ⟨c, rfl, hdigit⟩ := hc next hnext
    cases last with
    | param p => exact hdigit
    | char d => exact trivial
    | _ => exact id

theorem tidy_ofText (ht : AllBare text.toList) : (ofText text).Tidy := by
  have hempty := tidy_empty.ofText_append ht
  rwa [append_eq_foldl_pushSymbol, symbols_empty] at hempty

theorem continues_ofText_append (ht : Text.IsLink text) (fragment : Fragment) :
    (ofText text ++ fragment).Continues := by
  intro symbol hsymbol
  rw [symbols_append, symbols_ofText, Symbol.ofText] at hsymbol
  have hhead := ht.head
  cases hchars : text.toList with
  | nil => exact absurd (String.toList_eq_nil_iff.mp hchars) ht.ne_empty
  | cons c chars =>
    rw [hchars] at hsymbol hhead
    cases hsymbol
    exact ⟨c, rfl, hhead⟩

/-- **A text between two tidy fragments.** -/
theorem Tidy.between (hf : first.Tidy) (ht : Text.IsLink text) (hs : second.Tidy) :
    (first ++ ofText text ++ second).Tidy := by
  have hrest := hs.ofText_append ht.allBare
  rw [append_assoc]
  exact hf.append hrest (continues_ofText_append ht second)

/-- A text after a tidy fragment. -/
theorem Tidy.append_ofText (h : fragment.Tidy) (ht : Text.IsLink text) :
    (fragment ++ ofText text).Tidy := h.between ht tidy_empty

/-- **What is composed is tidy.** -/
theorem Composed.tidy {good : String → Prop} (h : fragment.Composed good) : fragment.Tidy := by
  induction h with
  | empty => exact tidy_empty
  | identifier name => exact tidy_identifier name
  | ofAlias name => exact tidy_ofAlias name
  | ofParam param => exact tidy_ofParam param
  | ofText ht => exact tidy_ofText ht.allBare
  | between _ ht _ hf hs => exact hf.between ht.isLink hs
  | cast _ ht _ h => exact h.append_ofText (isLink_cast ht)
  | enclosed _ ht _ hf hs => exact (hf.between (isLink_opening ht) hs).append_ofText isLink_closing

end Fragment

/-- **What becomes of a query is tidy.** -/
theorem Query.tidy_outcome (dialect : Dialect) (query : Query) :
    Yields Fragment.Tidy (query.outcome dialect) := by
  have hany : ∀ inner ∈ query :: query.inside, inner.CastsTo fun _ => True :=
    fun _ _ _ _ _ _ => trivial
  intro fragment h
  exact (query.composed_outcome dialect hany fragment h).tidy

end QueryTree
