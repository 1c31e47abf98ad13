import QueryTree.Proofs.Quotation
/-!
# Unquoting — names are got back from their text

A reader that closes a name at the first quote character that is not
doubled gets back any name that was quoted, and stops right behind it
(`readQuoted_eq_some_iff`). The parts of a qualified name are got back from
its text in the same way (`QualifiedName.read_eq_some_iff`), so names that
are written alike are the same name (`Dialect.names_from_text`).
-/

namespace QueryTree

open Text

namespace Text

/-! ## One quoted name -/

/-- **The rest of a name that was opened,** and what is behind it. The name
is closed by the first quote character that is not doubled. -/
def readClosing (quote : Char) : List Char → Option (List Char × List Char)
  | [] => none
  | [c] => if c = quote then some ([], []) else none
  | c :: d :: text =>
    if c = quote then
      if d = quote then (readClosing quote text).map fun (name, rest) => (c :: name, rest)
      else some ([], d :: text)
    else (readClosing quote (d :: text)).map fun (name, rest) => (c :: name, rest)

/-- **The quoted name that a text begins with,** and what is behind it. -/
def readQuoted (quote : Char) : List Char → Option (List Char × List Char)
  | [] => none
  | c :: text => if c = quote then readClosing quote text else none

/-- A text that closes a name begins with the quote character that does,
with a doubled one, or with another character of the name. -/
theorem cons_eq_doubled_append {quote c : Char} {text name rest : List Char} :
    c :: text = doubled quote name ++ quote :: rest ↔
      c = quote ∧ name = [] ∧ text = rest ∨
      c = quote ∧ (∃ init, name = c :: init ∧
        text = quote :: (doubled quote init ++ quote :: rest)) ∨
      c ≠ quote ∧ ∃ init, name = c :: init ∧ text = doubled quote init ++ quote :: rest := by
  cases name with
  | nil => simp [doubled]
  | cons d name =>
    by_cases hquote : d = quote
    · simp [doubled, hquote]
      grind
    · simp [doubled, hquote]
      grind

theorem map_cons_eq_some_iff {found : Option (List Char × List Char)} {c : Char}
    {name rest : List Char} :
    (found.map fun (name, rest) => (c :: name, rest)) = some (name, rest) ↔
      ∃ init, name = c :: init ∧ found = some (init, rest) := by
  cases found with
  | none => simp
  | some pair =>
    obtain ⟨init, rest⟩ := pair
    simp only [Option.map_some, Option.some_inj, Prod.mk.injEq]
    grind

/-- By the cases of the reader: a doubled quote is one of the name, a single
one closes it, and anything else stands for itself. -/
theorem readClosing_eq_some_iff {quote : Char} {text name rest : List Char} :
    readClosing quote text = some (name, rest) ↔
      text = doubled quote name ++ quote :: rest ∧ ∀ c ∈ rest.head?, c ≠ quote := by
  induction text using readClosing.induct quote generalizing name rest with
  | case1 => simp [readClosing]
  | case2 =>
    rw [readClosing, if_pos rfl, cons_eq_doubled_append]
    grind
  | case3 c hquote =>
    rw [readClosing, if_neg hquote, cons_eq_doubled_append]
    simp [hquote]
  | case4 text ih =>
    rw [readClosing, if_pos rfl, if_pos rfl, map_cons_eq_some_iff, cons_eq_doubled_append]
    simp only [ih, List.cons.injEq]
    grind
  | case5 d text hsingle =>
    rw [readClosing, if_pos rfl, if_neg hsingle, cons_eq_doubled_append]
    grind
  | case6 c d text hquote ih =>
    rw [readClosing, if_neg hquote, map_cons_eq_some_iff, cons_eq_doubled_append]
    simp only [ih, hquote, false_and, false_or, true_and, ne_eq, not_false_eq_true]
    grind

/-- **A quoted name is delimited by itself:** one is read where a text
begins with it and no further quote character follows, and just the text
behind it is left. -/
theorem readQuoted_eq_some_iff {quote : Char} {text name rest : List Char} :
    readQuoted quote text = some (name, rest) ↔
      text = quoted quote name ++ rest ∧ ∀ c ∈ rest.head?, c ≠ quote := by
  cases text with
  | nil => simp [readQuoted, quoted]
  | cons c text =>
    by_cases hquote : c = quote
    · simp [readQuoted, quoted, hquote, readClosing_eq_some_iff]
    · simp [readQuoted, quoted, hquote]

/-- The parts of a text, with points between them, are the text. -/
theorem intercalate_pointParts (text : List Char) :
    ['.'].intercalate (pointParts text) = text := by
  induction text with
  | nil => rfl
  | cons c text ih =>
    obtain ⟨part, parts, hparts⟩ := List.exists_cons_of_ne_nil (pointParts_ne_nil text)
    rw [hparts] at ih
    unfold pointParts
    by_cases hpoint : c = '.'
    · rw [if_pos hpoint, hparts, hpoint, List.intercalate_cons_cons, ih]
      rfl
    · rw [if_neg hpoint, hparts]
      cases parts with
      | nil =>
        rw [List.intercalate_singleton] at ih ⊢
        rw [ih]
      | cons next parts =>
        rw [List.intercalate_cons_cons] at ih ⊢
        rw [List.cons_append, List.cons_append, ih]

/-- There is no point in any of them. -/
theorem point_notMem_pointParts (text : List Char) :
    ∀ part ∈ pointParts text, '.' ∉ part := by
  induction text with
  | nil => simp [pointParts]
  | cons c text ih =>
    obtain ⟨part, parts, hparts⟩ := List.exists_cons_of_ne_nil (pointParts_ne_nil text)
    rw [hparts, List.forall_mem_cons] at ih
    unfold pointParts
    by_cases hpoint : c = '.'
    · rw [if_pos hpoint, hparts, List.forall_mem_cons, List.forall_mem_cons]
      exact ⟨List.not_mem_nil, ih⟩
    · rw [if_neg hpoint, hparts, List.forall_mem_cons]
      exact ⟨by simpa [eq_comm, hpoint] using ih.1, ih.2⟩

end Text

namespace QualifiedName

/-! ## The parts of a qualified name -/

/-- The part that a lexeme is, if it is one. The part `*` is never
quoted. -/
def ofLexeme : Lexeme → Option (List Char)
  | .name part => if part = ['*'] then none else some part
  | .bare c => if c = '*' then some ['*'] else none
  | _ => none

/-- The parts with points between them. -/
def ofLexemes : List Lexeme → Option (List (List Char))
  | [] => none
  | [lexeme] => (ofLexeme lexeme).map fun part => [part]
  | lexeme :: point :: lexemes =>
    if point = .bare '.' then
      (ofLexeme lexeme).bind fun part => (ofLexemes lexemes).map fun parts => part :: parts
    else none

/-- **The parts of a qualified name, from its text.** -/
def read (quote : Char) (text : List Char) : Option (List (List Char)) :=
  (scan quote text).bind ofLexemes

theorem ofLexeme_eq_some_iff {lexeme : Lexeme} {part : List Char} :
    ofLexeme lexeme = some part ↔ lexeme = partLexeme part := by
  unfold partLexeme
  cases lexeme with
  | name name => grind [ofLexeme]
  | bare c => grind [ofLexeme]
  | mark => grind [ofLexeme]
  | numbered digits => grind [ofLexeme]

/-- By the cases of the reader: a single part, or a part with a point and
more parts behind it. -/
theorem ofLexemes_eq_some_iff {found : List Lexeme} {parts : List (List Char)} :
    ofLexemes found = some parts ↔ parts ≠ [] ∧ found = lexemes parts := by
  induction found using ofLexemes.induct generalizing parts with
  | case1 =>
    rw [ofLexemes]
    rcases parts with _ | ⟨part, _ | ⟨next, parts⟩⟩ <;> simp [lexemes]
  | case2 lexeme =>
    rw [ofLexemes]
    rcases parts with _ | ⟨part, _ | ⟨next, parts⟩⟩ <;> simp [lexemes, ofLexeme_eq_some_iff]
  | case3 lexeme found ih =>
    rw [ofLexemes, if_pos rfl, Option.bind_eq_some_iff]
    simp only [Option.map_eq_some_iff, ofLexeme_eq_some_iff, ih]
    rcases parts with _ | ⟨part, _ | ⟨next, parts⟩⟩ <;> simp [lexemes]
  | case4 lexeme point found hpoint =>
    rw [ofLexemes, if_neg hpoint]
    rcases parts with _ | ⟨part, _ | ⟨next, parts⟩⟩ <;> simp [lexemes, hpoint]

/-- What is found of some parts, written down, is their text. -/
theorem flatMap_text_lexemes (quote : Char) (parts : List (List Char)) :
    (lexemes parts).flatMap (Lexeme.text quote) = text quote parts := by
  have hpart (part : List Char) : (partLexeme part).text quote = partText quote part := by
    unfold partLexeme partText
    split <;> rfl
  induction parts with
  | nil => rfl
  | cons part parts ih =>
    cases parts with
    | nil => rw [lexemes, text, List.flatMap_singleton, hpart]
    | cons next parts =>
      rw [lexemes, text, List.flatMap_cons, List.flatMap_cons, hpart, ih]
      rfl

/-- **A text is read as some parts where it is the text of them.** -/
theorem read_eq_some_iff {dialect : Dialect} {written : List Char} {parts : List (List Char)} :
    read dialect.quote written = some parts ↔
      parts ≠ [] ∧ written = text dialect.quote parts := by
  have hscan : scan dialect.quote (text dialect.quote parts) = some (lexemes parts) := by
    have hend : ∀ c ∈ ([] : List Char).head?, c ≠ dialect.quote := fun _ hc => (nomatch hc)
    have htext := scan_text parts hend
    rw [List.append_nil] at htext
    rw [htext]
    exact congrArg some (List.append_nil _)
  rw [read, Option.bind_eq_some_iff]
  simp only [ofLexemes_eq_some_iff]
  constructor
  · -- a scan skips nothing
    rintro ⟨found, hfound, hne, rfl⟩
    rw [← flatMap_text_lexemes, flatMap_text_of_scan hfound]
    exact ⟨hne, rfl⟩
  · rintro ⟨hne, rfl⟩
    exact ⟨lexemes parts, hscan, hne, rfl⟩

/-- A star that is not quoted is found for each part that is just that. -/
theorem count_star_lexemes (parts : List (List Char)) :
    (Lexeme.bareChars (lexemes parts)).count '*' = parts.count ['*'] := by
  have hpart (part : List Char) :
      (Lexeme.bareChars [partLexeme part]).count '*' = [part].count ['*'] := by
    unfold partLexeme
    by_cases hstar : part = ['*']
    · rw [if_pos hstar, hstar]
      rfl
    · rw [if_neg hstar, List.count_singleton, if_neg (by simpa using hstar)]
      rfl
  induction parts with
  | nil => rfl
  | cons part parts ih =>
    cases parts with
    | nil => exact hpart part
    | cons next parts =>
      have hsplit : lexemes (part :: next :: parts) =
          [partLexeme part] ++ ([.bare '.'] ++ lexemes (next :: parts)) := rfl
      have hpoint : (Lexeme.bareChars [.bare '.']).count '*' = 0 := by decide
      rw [hsplit, Lexeme.bareChars_append, Lexeme.bareChars_append, List.count_append,
        List.count_append, hpart, hpoint, ih, Nat.zero_add, ← List.count_append]
      rfl

end QualifiedName

/-! ## Names -/

namespace Statement

/-- The parts of a name, from what is written for it. -/
theorem read_identifierText (dialect : Dialect) (name : String) :
    QualifiedName.read dialect.quote (identifierText dialect name).toList =
      some (pointParts name.toList) := by
  rw [QualifiedName.read_eq_some_iff, toList_identifierText]
  exact ⟨pointParts_ne_nil _, rfl⟩

/-- Names that are written alike have the same parts, and these make up
the name. -/
theorem identifierText_injective (dialect : Dialect) :
    Function.Injective (identifierText dialect) := by
  intro first second h
  have hparts : some (pointParts first.toList) = some (pointParts second.toList) := by
    rw [← read_identifierText dialect, h, read_identifierText]
  have hname := congrArg ['.'].intercalate (Option.some_inj.mp hparts)
  rw [intercalate_pointParts, intercalate_pointParts] at hname
  exact String.toList_inj.mp hname

end Statement

namespace Dialect

/-- **Quoting loses nothing,** in any dialect. A quoted name is read back
from whatever text it stands in front of, unless that goes on with a quote
character, and just that text is left. Of a name that is written part by
part, the parts are read back from the text, with a star that is not quoted
for each part that is just a star; so names that are written alike are the
same. -/
theorem names_from_text (dialect : Dialect) :
    (∀ (name : String) (text : List Char), (∀ c ∈ text.head?, c ≠ dialect.quote) →
      readQuoted dialect.quote ((dialect.quoteName name).toList ++ text) =
        some (name.toList, text)) ∧
    (∀ name : String, ∃ lexemes parts,
      scan dialect.quote (Statement.identifierText dialect name).toList = some lexemes ∧
      QualifiedName.ofLexemes lexemes = some parts ∧
      ['.'].intercalate parts = name.toList ∧ (∀ part ∈ parts, '.' ∉ part) ∧
      Lexeme.names lexemes = parts.filter (· ≠ ['*']) ∧
      (Lexeme.bareChars lexemes).count '*' = parts.count ['*']) ∧
    ∀ (statement : Statement) (first second : String),
      (statement.appendIdentifier dialect first).sql =
        (statement.appendIdentifier dialect second).sql → first = second := by
  refine ⟨?_, ?_, ?_⟩
  · intro name text htext
    rw [readQuoted_eq_some_iff, toList_quoteName]
    exact ⟨rfl, htext⟩
  · intro name
    obtain ⟨lexemes, hscan, hparts⟩ :=
      Option.bind_eq_some_iff.mp (Statement.read_identifierText dialect name)
    refine ⟨lexemes, pointParts name.toList, hscan, hparts, intercalate_pointParts _,
      point_notMem_pointParts _, ?_, ?_⟩
    · rw [(QualifiedName.ofLexemes_eq_some_iff.mp hparts).2, QualifiedName.names_lexemes]
    · rw [(QualifiedName.ofLexemes_eq_some_iff.mp hparts).2, QualifiedName.count_star_lexemes]
  · intro statement first second h
    -- both are behind the same text
    exact Statement.identifierText_injective dialect (String.append_right_inj _ |>.mp h)

/-- A name with quotes at its ends, a point and a star in it. As one name
it is read in front of a point and a star; part by part it has one star that
is not quoted. -/
theorem names_from_starredText :
    readQuoted '"' "\"\"\".*\"\"\".*".toList = some ("\".*\"".toList, ".*".toList) ∧
    (∃ lexemes, scan '"' "\"\"\"\".*.\"*\"\"\"".toList = some lexemes ∧
      Lexeme.names lexemes = [['"'], ['*', '"']] ∧ (Lexeme.bareChars lexemes).count '*' = 1) ∧
    "\".*" ++ ".*\"" = "\".*.*\"" := by
  obtain ⟨hquoted, hparts, halike⟩ := names_from_text .postgres
  have hpoint : ∀ c ∈ ".*".toList.head?, c ≠ '"' := by
    rintro c ⟨⟩
    decide
  refine ⟨hquoted "\".*\"" ".*".toList hpoint, ?_, halike .empty _ _ rfl⟩
  obtain ⟨lexemes, parts, hscan, hread, -, -, hnames, hcount⟩ := hparts "\".*.*\""
  have hsame : QualifiedName.read '"' "\"\"\"\".*.\"*\"\"\"".toList = some parts :=
    Option.bind_eq_some_iff.mpr ⟨lexemes, hscan, hread⟩
  have hall : QualifiedName.read '"' "\"\"\"\".*.\"*\"\"\"".toList =
      some [['"'], ['*'], ['*', '"']] := by decide +kernel
  obtain rfl := Option.some_inj.mp (hsame.symm.trans hall)
  exact ⟨lexemes, hscan, hnames, hcount⟩

end Dialect

end QueryTree
