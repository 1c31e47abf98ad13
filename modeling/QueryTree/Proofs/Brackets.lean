import QueryTree.Proofs.Quotation
import Mathlib.Data.List.Infix
/-!
# Brackets — what is opened is closed

The parentheses of a statement are those of its composition, which come in
pairs, and those of the types that are cast to, which come from the caller
and are checked character by character. So a type that closes more than it
opens closes what it stands in (`Query.not_balanced_strayClosing`), and
nothing else does: where the brackets of the types are balanced, those of
the statement are (`Query.balanced_of_toStatement`).
-/

namespace QueryTree

open Text

/-- **A kind of brackets.** -/
inductive Bracket where
  | parenthesis
  | square
deriving DecidableEq, Repr

namespace Bracket

/-- The bracket that opens. -/
def opening : Bracket → Char
  | parenthesis => '('
  | square => '['

/-- The bracket that closes. -/
def closing : Bracket → Char
  | parenthesis => ')'
  | square => ']'

theorem mem_brackets (bracket : Bracket) :
    bracket.opening ∈ brackets ∧ bracket.closing ∈ brackets := by
  cases bracket <;> decide

end Bracket

/-! ## Balanced texts -/

namespace Text

/-- **A text whose brackets of a kind are balanced:** no beginning of it
closes more than it opens, and all of it closes what it opens. -/
structure Balanced (bracket : Bracket) (text : List Char) : Prop where
  start_le : ∀ start, start <+: text →
    start.count bracket.closing ≤ start.count bracket.opening
  total : text.count bracket.closing = text.count bracket.opening

instance (bracket : Bracket) (text : List Char) : Decidable (Balanced bracket text) :=
  decidable_of_iff
    ((∀ start ∈ text.inits, start.count bracket.closing ≤ start.count bracket.opening) ∧
      text.count bracket.closing = text.count bracket.opening)
    ⟨fun h => ⟨fun start hs => h.1 start ((List.mem_inits start text).mpr hs), h.2⟩,
      fun h => ⟨fun start hs => h.start_le start ((List.mem_inits start text).mp hs), h.total⟩⟩

variable {bracket : Bracket} {first second text : List Char}

/-- A text without brackets. -/
theorem balanced_of_forall_not_mem (h : ∀ c ∈ text, c ∉ brackets) : Balanced bracket text := by
  obtain ⟨hopening, hclosing⟩ := bracket.mem_brackets
  have hnone : ∀ start, start <+: text →
      start.count bracket.closing = 0 ∧ start.count bracket.opening = 0 := by
    intro start hstart
    exact ⟨List.count_eq_zero.mpr fun hc => h _ (hstart.subset hc) hclosing,
      List.count_eq_zero.mpr fun hc => h _ (hstart.subset hc) hopening⟩
  refine ⟨fun start hstart => ?_, ?_⟩
  · obtain ⟨hclosed, hopened⟩ := hnone start hstart
    omega
  · obtain ⟨hclosed, hopened⟩ := hnone text (List.prefix_refl text)
    omega

theorem balanced_nil : Balanced bracket [] := balanced_of_forall_not_mem fun _ h => (nomatch h)

theorem IsPlain.balanced (h : IsPlain text) : Balanced bracket text :=
  balanced_of_forall_not_mem fun c hc => (h c hc).2

/-- **One balanced text after another.** A beginning of both is one of the
first or all of it and one of the second. -/
theorem Balanced.append (hf : Balanced bracket first) (hs : Balanced bracket second) :
    Balanced bracket (first ++ second) where
  start_le start hstart := by
    obtain hin | hover := List.prefix_or_prefix_of_prefix hstart (List.prefix_append first second)
    · exact hf.start_le start hin
    · obtain ⟨rest, rfl⟩ := hover
      have hrest := hs.start_le rest ((List.prefix_append_right_inj first).mp hstart)
      have htotal := hf.total
      rw [List.count_append, List.count_append]
      omega
  total := by
    have hfirst := hf.total
    have hsecond := hs.total
    rw [List.count_append, List.count_append]
    omega

/-- **A balanced text in parentheses.** -/
theorem Balanced.inParentheses (h : Balanced bracket text) :
    Balanced bracket ('(' :: (text ++ [')'])) := by
  cases bracket with
  | square =>
    -- parentheses are no square brackets
    have hopening : Balanced .square ['('] := by decide
    have hclosing : Balanced .square [')'] := by decide
    exact hopening.append (h.append hclosing)
  | parenthesis =>
    have htotal : text.count ')' = text.count '(' := h.total
    refine ⟨fun start hstart => ?_, ?_⟩
    · obtain rfl | ⟨rest, rfl, hrest⟩ := List.prefix_cons_iff.mp hstart
      · exact Nat.le_refl 0
      · obtain rfl | hin := List.prefix_concat_iff.mp hrest
        · simp [Bracket.closing, Bracket.opening, htotal]
        · have hle : rest.count ')' ≤ rest.count '(' := h.start_le rest hin
          simp [Bracket.closing, Bracket.opening]
          omega
    · simp [Bracket.closing, Bracket.opening, htotal]

/-- **Only the brackets of a text count.** A beginning of them is what a
beginning of the text leaves of them. -/
theorem balanced_filter_iff :
    Balanced bracket (text.filter (· ∈ brackets)) ↔ Balanced bracket text := by
  obtain ⟨hopening, hclosing⟩ := bracket.mem_brackets
  have hcount (start : List Char) :
      (start.filter (· ∈ brackets)).count bracket.closing = start.count bracket.closing ∧
        (start.filter (· ∈ brackets)).count bracket.opening = start.count bracket.opening :=
    ⟨List.count_filter (by simpa using hclosing), List.count_filter (by simpa using hopening)⟩
  constructor
  · intro h
    refine ⟨fun start hstart => ?_, ?_⟩
    · have hle := h.start_le _ (hstart.filter (· ∈ brackets))
      rwa [(hcount start).1, (hcount start).2] at hle
    · have htotal := h.total
      rwa [(hcount text).1, (hcount text).2] at htotal
  · intro h
    refine ⟨fun start hstart => ?_, ?_⟩
    · obtain ⟨whole, hwhole, rfl⟩ := List.prefix_filter_iff.mp hstart
      rw [(hcount whole).1, (hcount whole).2]
      exact h.start_le whole hwhole
    · rw [(hcount text).1, (hcount text).2]
      exact h.total

end Text

/-! ## Balanced fragments -/

/-- The characters among some symbols. -/
def Symbol.chars (symbols : List Symbol) : List Char :=
  symbols.filterMap fun
    | .char c => some c
    | _ => none

namespace Symbol

@[simp] theorem chars_append (first second : List Symbol) :
    chars (first ++ second) = chars first ++ chars second := List.filterMap_append

@[simp] theorem chars_ofText (text : String) : chars (ofText text) = text.toList := by
  simp [chars, ofText]

/-- What a scan finds outside of names has the brackets of the characters. -/
theorem filter_bareChars_lexemes (dialect : Dialect) (number : Nat) (symbols : List Symbol) :
    (Lexeme.bareChars (lexemes dialect number symbols)).filter (· ∈ brackets) =
      (chars symbols).filter (· ∈ brackets) := by
  induction symbols generalizing number with
  | nil => rfl
  | cons symbol symbols ih =>
    cases symbol with
    | char c =>
      have hchars : chars (.char c :: symbols) = [c] ++ chars symbols := rfl
      rw [lexemes, Lexeme.bareChars_append, hchars, List.filter_append, List.filter_append, ih]
      rfl
    | identifier name =>
      have hnone : (Lexeme.bareChars (QualifiedName.lexemes (pointParts name.toList))).filter
          (· ∈ brackets) = [] := by
        refine List.filter_eq_nil_iff.mpr fun c hc => ?_
        simpa using ((QualifiedName.placeholders_lexemes _).2 c hc).2
      rw [lexemes, Lexeme.bareChars_append, List.filter_append, hnone, ih]
      rfl
    | aliasName name => exact ih number
    | param p =>
      have hnone : Lexeme.bareChars [dialect.placeholderLexeme (number + 1)] = [] := by
        cases dialect <;> rfl
      rw [lexemes, Lexeme.bareChars_append, hnone, List.nil_append, ih]
      rfl

end Symbol

/-- **What is composed with balanced types is balanced.** By induction on
the composition: each opening parenthesis comes with the one that closes
it. -/
theorem Fragment.Composed.balanced {bracket : Bracket} {fragment : Fragment}
    (h : fragment.Composed fun type => Balanced bracket type.toList) :
    Balanced bracket (Symbol.chars fragment.symbols) := by
  induction h with
  | empty => exact balanced_nil
  | identifier name => exact balanced_nil
  | ofAlias name => exact balanced_nil
  | ofParam param => exact balanced_nil
  | ofText ht =>
    rw [symbols_ofText, Symbol.chars_ofText]
    exact ht.balanced
  | between _ ht _ hf hs =>
    rw [symbols_append, symbols_append, symbols_ofText, Symbol.chars_append, Symbol.chars_append,
      Symbol.chars_ofText]
    exact (hf.append ht.isPlain.balanced).append hs
  | cast _ _ hg h =>
    have hcolons : Balanced bracket "::".toList := by cases bracket <;> decide
    rw [symbols_append, symbols_ofText, Symbol.chars_append, Symbol.chars_ofText,
      String.toList_append]
    exact h.append (hcolons.append hg)
  | @enclosed first second text _ ht _ hf hs =>
    have hchars : Symbol.chars
        (first ++ .ofText (text ++ "(") ++ second ++ .ofText ")" : Fragment).symbols =
        Symbol.chars first.symbols ++
          (text.toList ++ ('(' :: (Symbol.chars second.symbols ++ [')']))) := by
      simp
    rw [hchars]
    exact hf.append (ht.isPlain.balanced.append hs.inParentheses)

/-! ## Statements -/

namespace Query

/-- **Where the types that are cast to are balanced, so is the statement,**
outside of its quoted names and for each kind of brackets by itself. The
names of functions cannot change that, nor can any other text of the
caller. -/
theorem balanced_of_toStatement {dialect : Dialect} {query : Query} {statement : Statement}
    (h : query.toStatement dialect = .ok statement) {bracket : Bracket}
    (hcasts : ∀ type ∈ query.casts, Balanced bracket type.toList) :
    ∃ lexemes, scan dialect.quote statement.sql.toList = some lexemes ∧
      Balanced bracket (Lexeme.bareChars lexemes) := by
  obtain ⟨_, fragment, -, -, houtcome, rfl⟩ := built_of_toStatement h
  have hgood : ∀ inner ∈ query :: query.inside,
      inner.CastsTo fun type => Balanced bracket type.toList := by
    intro inner hinner column hcolumn type htype
    refine hcasts type (List.mem_flatMap.mpr ⟨inner, hinner, ?_⟩)
    exact List.mem_flatMap.mpr ⟨column, hcolumn, htype⟩
  have hcomposed := query.composed_outcome dialect hgood fragment houtcome
  have htidy := hcomposed.tidy
  refine ⟨Symbol.lexemes dialect 0 fragment.symbols, ?_, ?_⟩
  · rw [Fragment.sql_render]
    exact Symbol.scan_written 0 htidy.isBare htidy.isChain
  · rw [← balanced_filter_iff, Symbol.filter_bareChars_lexemes, balanced_filter_iff]
    exact hcomposed.balanced

/-- A query that casts to types with brackets, in a nested query and in a
function too. -/
def bracketedTypes : Query where
  action := some "query"
  table := some (.query {
    table := some (.name "t(")
    aliasName := some "s"
    columns := some [.named { column := "a", cast := some "numeric(10, 2)[]" }] })
  columns := some [.function {
    function := "f"
    parameters := [.value { value := .null, cast := some "varchar(2)" }] }]

theorem balanced_bracketedTypes :
    ∃ statement, bracketedTypes.toStatement .postgres = .ok statement ∧
      statement.sql =
        "SELECT f($1::varchar(2)) FROM (SELECT \"a\"::numeric(10, 2)[] FROM \"t(\") AS \"s\"" ∧
      (∀ type ∈ bracketedTypes.casts, Balanced .parenthesis type.toList) ∧
      ∃ lexemes, scan Dialect.postgres.quote statement.sql.toList = some lexemes ∧
        Balanced .parenthesis (Lexeme.bareChars lexemes) := by
  have hsql : (bracketedTypes.toStatement .postgres).toOption = some {
      sql :=
        "SELECT f($1::varchar(2)) FROM (SELECT \"a\"::numeric(10, 2)[] FROM \"t(\") AS \"s\""
      params := [.null] } := by decide +kernel
  have hstatement := eq_ok_of_toOption hsql
  have hcasts : ∀ type ∈ bracketedTypes.casts, Balanced .parenthesis type.toList := by
    decide +kernel
  exact ⟨_, hstatement, rfl, hcasts, balanced_of_toStatement hstatement hcasts⟩

/-- A query that casts to a type with a parenthesis too many. -/
def strayClosing : Query where
  action := some "query"
  table := some (.name "t")
  columns := some [.named { column := "a", cast := some "int)" }]

/-- **A type is checked character by character,** so one that closes what it
did not open goes through, and the statement is not balanced. -/
theorem not_balanced_strayClosing :
    ∃ statement lexemes, strayClosing.toStatement .sqlite = .ok statement ∧
      statement.sql = "SELECT `a`::int) FROM `t`" ∧
      scan Dialect.sqlite.quote statement.sql.toList = some lexemes ∧
      ¬ Balanced .parenthesis (Lexeme.bareChars lexemes) := by
  have hsql : (strayClosing.toStatement .sqlite).toOption =
      some { sql := "SELECT `a`::int) FROM `t`", params := [] } := by decide +kernel
  have hscan : (scan Dialect.sqlite.quote "SELECT `a`::int) FROM `t`".toList).any
      fun lexemes => ¬ Balanced .parenthesis (Lexeme.bareChars lexemes) := by decide +kernel
  obtain ⟨lexemes, hlexemes, hbalanced⟩ := (Option.any_eq_true _ _).mp hscan
  exact ⟨_, lexemes, eq_ok_of_toOption hsql, rfl, hlexemes, of_decide_eq_true hbalanced⟩

end Query

end QueryTree
