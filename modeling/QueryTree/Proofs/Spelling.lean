import QueryTree.Proofs.FilterTracking
import QueryTree.Proofs.Meaning
/-!
# Spelling — the text of a filter is that of its tokens

Each token of a filter is written as a fragment of its own: a keyword as
itself, and a test as the fragment of the test alone. Put together, these
are the fragment of the filter (`spells_fragment`). So what a database
reads is the filter (`reading_of_build`).
-/

namespace QueryTree

open Precedence

namespace Precedence

variable {dialect : Dialect}

/-- **What is written for a token:** for a keyword itself, and for a test
the fragment that a compiler builds which was made of the test alone. -/
inductive Token.Builds (dialect : Dialect) : Token → Fragment → Prop
  | and : Builds dialect .and (.ofText " AND ")
  | or : Builds dialect .or (.ofText " OR ")
  | negation : Builds dialect .negation (.ofText "NOT (")
  | opening : Builds dialect .opening (.ofText "(")
  | closing : Builds dialect .closing (.ofText ")")
  | leaf {filter : Filter} {compiler : FilterCompiler} {fragment : Fragment} :
      filter.compiler = .ok compiler → (FilterCompiler.build dialect compiler).1 = .ok fragment →
      Builds dialect (.leaf filter) fragment

/-- Whether tokens are written as some symbols. -/
def Spells (dialect : Dialect) (tokens : List Token) (symbols : List Symbol) : Prop :=
  ∃ fragments, List.Forall₂ (Token.Builds dialect) tokens fragments ∧
    fragments.flatMap Fragment.symbols = symbols

theorem spells_singleton {token : Token} {fragment : Fragment}
    (h : token.Builds dialect fragment) : Spells dialect [token] fragment.symbols :=
  ⟨[fragment], .cons h .nil, List.append_nil _⟩

theorem Spells.append {first second : List Token} {symbols further : List Symbol}
    (hf : Spells dialect first symbols) (hs : Spells dialect second further) :
    Spells dialect (first ++ second) (symbols ++ further) := by
  obtain ⟨fragments, hfirst, rfl⟩ := hf
  obtain ⟨others, hsecond, rfl⟩ := hs
  exact ⟨fragments ++ others, List.rel_append hfirst hsecond, List.flatMap_append⟩

/-- Tokens with a keyword between are a list with its text between. -/
theorem spells_between {keyword : Token} {separator : String}
    (hkeyword : keyword.Builds dialect (.ofText separator)) {tokens : List (List Token)}
    {fragments : List Fragment}
    (h : List.Forall₂ (fun tokens fragment => Spells dialect tokens fragment.symbols) tokens
      fragments) :
    Spells dialect (between keyword tokens) (Fragment.joined separator fragments).symbols := by
  induction h with
  | nil => exact ⟨[], .nil, rfl⟩
  | cons hfirst hrest ih =>
    cases hrest with
    | nil =>
      rw [Fragment.symbols_joined_singleton]
      exact hfirst
    | cons hnext hrest =>
      rw [Fragment.symbols_joined_cons_cons, List.append_assoc, ← Fragment.symbols_ofText]
      exact hfirst.append ((spells_singleton hkeyword).append ih)

theorem Spells.asOperand {tokens : List Token} {fragment : Fragment} (isGroup : Bool)
    (h : Spells dialect tokens fragment.symbols) :
    Spells dialect (asOperand isGroup tokens)
      (if isGroup then fragment.parenthesized else fragment).symbols := by
  cases isGroup with
  | false => exact h
  | true =>
    rw [if_pos rfl, Fragment.symbols_parenthesized, List.append_assoc, ← Fragment.symbols_ofText,
      ← Fragment.symbols_ofText]
    exact (spells_singleton .opening).append (h.append (spells_singleton .closing))

end Precedence

namespace Filter

variable {dialect : Dialect}

theorem spells_leaf {filter : Filter} {fragment : Fragment} (hcheck : filter.check = .ok ())
    (hfragment : filter.fragment = .ok fragment) :
    Spells dialect [.leaf filter] fragment.symbols := by
  obtain ⟨compiler, hcompiler, hbuild⟩ := built_iff.mpr ⟨hcheck, hfragment⟩
  exact spells_singleton (.leaf hcompiler hbuild)

mutual

/-- **The fragment of a filter is written as its tokens.** -/
theorem spells_fragment : ∀ filter : Filter, filter.check = .ok () →
    Yields (fun fragment => Spells dialect filter.tokens fragment.symbols) filter.fragment
  | .comparison filter, hcheck => fun _ h => spells_leaf hcheck h
  | .membership filter, hcheck => fun _ h => spells_leaf hcheck h
  | .like filter, hcheck => fun _ h => spells_leaf hcheck h
  | .isNull filter, hcheck => fun _ h => spells_leaf hcheck h
  | .and operands, hcheck => by
    unfold check at hcheck
    refine (spells_operandFragments operands (eq_ok_of_guard hcheck)).map fun fragments h => ?_
    exact spells_between .and h
  | .or operands, hcheck => by
    unfold check at hcheck
    refine (spells_operandFragments operands (eq_ok_of_guard hcheck)).map fun fragments h => ?_
    exact spells_between .or h
  | .not operand, hcheck => by
    refine (spells_fragment operand hcheck).map fun fragment h => ?_
    have hrest := h.append (spells_singleton .closing)
    rw [Fragment.symbols_append, Fragment.symbols_append, List.append_assoc]
    exact (spells_singleton .negation).append hrest

theorem spells_operandFragments : ∀ filters : List Filter, checkAll filters = .ok () →
    Yields
      (List.Forall₂ (fun tokens fragment => Spells dialect tokens fragment.symbols)
        (operandTokens filters))
      (operandFragments filters)
  | [], _ => yields_ok .nil
  | filter :: filters, hcheck => by
    obtain ⟨_, hfilter, hfilters⟩ := bind_eq_ok.mp hcheck
    unfold operandFragments
    refine (spells_fragment filter hfilter).bind fun fragment h => ?_
    refine (spells_operandFragments filters hfilters).bind fun fragments hs => ?_
    exact yields_ok (.cons (h.asOperand filter.isGroup) hs)

end

theorem normal_fragment {filter : Filter} {fragment : Fragment}
    (h : filter.fragment = .ok fragment) : fragment.Normal := by
  cases filter with
  | comparison filter =>
    obtain ⟨left, hleft, h⟩ := bind_eq_ok.mp h
    obtain ⟨right, -, h⟩ := bind_eq_ok.mp h
    cases h
    exact ((Column.normal_of_fragment hleft).append _).append _
  | membership filter =>
    obtain ⟨column, hcolumn, h⟩ := bind_eq_ok.mp h
    obtain ⟨params, -, h⟩ := bind_eq_ok.mp h
    cases h
    exact (((Column.normal_of_fragment hcolumn).append _).append _).append _
  | like filter =>
    obtain ⟨column, hcolumn, h⟩ := bind_eq_ok.mp h
    obtain ⟨pattern, -, h⟩ := bind_eq_ok.mp h
    cases h
    exact ((Column.normal_of_fragment hcolumn).append _).append _
  | isNull filter =>
    obtain ⟨column, hcolumn, h⟩ := bind_eq_ok.mp h
    cases h
    exact (Column.normal_of_fragment hcolumn).append _
  | and operands =>
    obtain ⟨fragments, -, rfl⟩ := map_eq_ok.mp h
    exact Fragment.normal_joined _ fragments
  | or operands =>
    obtain ⟨fragments, -, rfl⟩ := map_eq_ok.mp h
    exact Fragment.normal_joined _ fragments
  | not operand =>
    obtain ⟨fragment, -, rfl⟩ := map_eq_ok.mp h
    exact ((Fragment.normal_ofText _).append _).append _

end Filter

/-! ## Fragments one after the other -/

namespace Fragment

/-- **Fragments one after the other,** with nothing between them. -/
def concat (fragments : List Fragment) : Fragment := fragments.foldl (· ++ ·) empty

/-- A fragment in normal form that reads as some fragments is what they
are put together. -/
theorem eq_concat {fragment : Fragment} (hnormal : fragment.Normal) {fragments : List Fragment}
    (h : fragments.flatMap symbols = fragment.symbols) : fragment = concat fragments := by
  have hfold (first : Fragment) (hf : first.Normal) :
      (fragments.foldl (· ++ ·) first).Normal ∧
        (fragments.foldl (· ++ ·) first).symbols =
          first.symbols ++ fragments.flatMap symbols := by
    clear h
    induction fragments generalizing first with
    | nil => exact ⟨hf, (List.append_nil _).symm⟩
    | cons next fragments ih =>
      obtain ⟨hn, hs⟩ := ih (first ++ next) (hf.append next)
      refine ⟨hn, ?_⟩
      rw [List.foldl_cons, hs, symbols_append, List.flatMap_cons, List.append_assoc]
  obtain ⟨hn, hs⟩ := hfold empty normal_empty
  exact eq_of_symbols_eq hnormal hn (h.symm.trans hs.symm)

end Fragment

/-! ## Filters -/

/-- **A filter that is built says in its text what it says as a tree.** The
text is that of its tokens; the tests among them are its tests, in order,
each written as it is when it stands alone; there is one way to read the
tokens, and that gives the tree without its groups of one condition; and
what is read is as true as the tree, whatever is true of the tests. -/
theorem Filter.reading_of_build {dialect : Dialect} {filter : Filter} {compiler : FilterCompiler}
    {fragment : Fragment} (hcompiler : filter.compiler = .ok compiler)
    (hbuild : (FilterCompiler.build dialect compiler).1 = .ok fragment) :
    (∃ fragments, List.Forall₂ (Token.Builds dialect) filter.tokens fragments ∧
      fragment = Fragment.concat fragments) ∧
    Token.leaves filter.tokens = filter.leaves ∧
    (∀ reading, Token.ReadsAs filter.tokens reading ↔ reading = filter.collapsed) ∧
    filter.collapsed.leaves = filter.leaves ∧
    ∀ tests, filter.collapsed.truth tests = filter.truth tests := by
  -- how the fragment was built does not matter any more
  obtain ⟨hcheck, hfragment⟩ := built_iff.mp ⟨compiler, hcompiler, hbuild⟩
  have hreads := filter.readsAs_tokens hcheck
  have htruth : ∀ tests, filter.collapsed.truth tests = filter.truth tests := by
    intro tests
    exact truthFrom_collapsed tests filter 0
  refine ⟨?_, filter.leaves_tokens, fun reading => ?_, filter.leaves_collapsed, htruth⟩
  · obtain ⟨fragments, htokens, hsymbols⟩ := filter.spells_fragment hcheck fragment hfragment
    exact ⟨fragments, htokens, Fragment.eq_concat (normal_fragment hfragment) hsymbols⟩
  · constructor
    · intro h
      exact Token.readsAs_unique h hreads
    · rintro rfl
      exact hreads

/-- A test whether a column is null. -/
def Filter.isNullOf (name : String) : Filter := .isNull { column := .name name, isNull := true }

/-- A filter with groups in groups, some of them of one condition. -/
def Filter.nestedGroups : Filter :=
  .or [
    .and [isNullOf "a", .or [isNullOf "b", isNullOf "c"]],
    .not (.and [isNullOf "d"]),
    .or [isNullOf "e"]]

theorem Filter.reading_nestedGroups :
    ∃ compiler fragment, nestedGroups.compiler = .ok compiler ∧
      (FilterCompiler.build .postgres compiler).1 = .ok fragment ∧
      (fragment.render .postgres).sql =
        "(\"a\" IS NULL AND (\"b\" IS NULL OR \"c\" IS NULL)) OR NOT (\"d\" IS NULL) " ++
          "OR (\"e\" IS NULL)" ∧
      ∀ reading, Token.ReadsAs nestedGroups.tokens reading ↔
        reading = .or [
          .and [isNullOf "a", .or [isNullOf "b", isNullOf "c"]], .not (isNullOf "d"),
          isNullOf "e"] := by
  have hfragment : nestedGroups.fragment.toOption = some ⟨[.text "(", .identifier "a",
      .text " IS NULL AND (", .identifier "b", .text " IS NULL OR ", .identifier "c",
      .text " IS NULL)) OR NOT (", .identifier "d", .text " IS NULL) OR (", .identifier "e",
      .text " IS NULL)"]⟩ := by decide +kernel
  have hcheck : nestedGroups.check = .ok () := rfl
  obtain ⟨compiler, hcompiler, hbuild⟩ := built_iff.mpr ⟨hcheck, eq_ok_of_toOption hfragment⟩
  have hreading := (reading_of_build hcompiler hbuild).2.2.1
  refine ⟨compiler, _, hcompiler, hbuild, ?_, hreading⟩
  decide +kernel

end QueryTree
