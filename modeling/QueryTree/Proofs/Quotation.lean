import QueryTree.Proofs.QueryTracking
import QueryTree.Proofs.Rendering
import QueryTree.Proofs.Scanning
import QueryTree.Proofs.Tidiness
/-!
# Quotation — names stay names and parameters stay parameters

What is written for the symbols of a tidy fragment is read back by a scan:
each name as the names it is quoted as, each parameter as its placeholder,
each character as itself (`scan_written`). Every statement is written for
a tidy fragment, so whatever strings a query has in it, a scan of the
statement ends outside of names and finds what was put there
(`scan_of_toStatement`).
-/

namespace QueryTree

open Text

/-- The placeholder of a parameter as a scan finds it. -/
def Dialect.placeholderLexeme (dialect : Dialect) (number : Nat) : Lexeme :=
  match dialect with
  | sqlite | mysql => .mark
  | postgres => .numbered (toString number).toList

/-- **The quoted names of a part:** those of a qualified name are the parts
between its points, save `*`, which is not quoted. An alias is one name. -/
def Part.quotedNames : Part → List (List Char)
  | text _ | param _ => []
  | identifier name => (pointParts name.toList).filter (· ≠ ['*'])
  | aliasName name => [name.toList]

/-! ## Qualified names -/

theorem Text.pointParts_ne_nil (name : List Char) : pointParts name ≠ [] := by
  cases name with
  | nil => simp [pointParts]
  | cons c name =>
    unfold pointParts
    split
    · simp
    · split <;> simp

namespace QualifiedName

/-- A part of a qualified name as it is written. -/
def partText (quote : Char) (part : List Char) : List Char :=
  if part = ['*'] then ['*'] else quoted quote part

/-- Some parts with points between them. -/
def text (quote : Char) : List (List Char) → List Char
  | [] => []
  | [part] => partText quote part
  | part :: next :: parts => partText quote part ++ '.' :: text quote (next :: parts)

/-- What a scan finds of a part. -/
def partLexeme (part : List Char) : Lexeme := if part = ['*'] then .bare '*' else .name part

/-- What a scan finds of some parts. -/
def lexemes : List (List Char) → List Lexeme
  | [] => []
  | [part] => [partLexeme part]
  | part :: next :: parts => partLexeme part :: .bare '.' :: lexemes (next :: parts)

end QualifiedName

namespace Dialect

theorem quote_ne (dialect : Dialect) :
    dialect.quote ≠ '?' ∧ dialect.quote ≠ '$' ∧ dialect.quote ≠ '.' ∧ dialect.quote ≠ '*' ∧
      dialect.quote.isDigit = false ∧ isBare dialect.quote = false := by
  cases dialect <;> decide

theorem toList_quoteName (dialect : Dialect) (name : String) :
    (dialect.quoteName name).toList = quoted dialect.quote name.toList := by
  simp [quoteName]

theorem toList_placeholder (dialect : Dialect) (number : Nat) :
    (dialect.placeholder number).toList =
      (dialect.placeholderLexeme number).text dialect.quote := by
  cases dialect <;> simp [placeholder, placeholderLexeme, Lexeme.text, toString]

end Dialect

/-- A name as it is written, part by part. -/
theorem Statement.toList_identifierText (dialect : Dialect) (name : String) :
    (identifierText dialect name).toList =
      QualifiedName.text dialect.quote (pointParts name.toList) := by
  have hpart (part : List Char) :
      (if part = ['*'] then "*" else dialect.quoteName (String.ofList part)).toList =
        QualifiedName.partText dialect.quote part := by
    unfold QualifiedName.partText
    split
    · rfl
    · rw [Dialect.toList_quoteName, String.toList_ofList]
  unfold identifierText
  induction pointParts name.toList with
  | nil => rfl
  | cons part parts ih =>
    cases parts with
    | nil => rw [List.map_singleton, String.intercalate_singleton, hpart, QualifiedName.text]
    | cons next parts =>
      rw [List.map_cons] at ih
      rw [List.map_cons, List.map_cons, String.intercalate_cons_cons, String.toList_append,
        String.toList_append, hpart, ih, List.append_assoc, QualifiedName.text]
      rfl

namespace QualifiedName

variable {dialect : Dialect} {text : List Char}

/-- Any part of a qualified name is found, unless a quote character
follows. -/
theorem scan_partText (part : List Char) (h : ∀ c ∈ text.head?, c ≠ dialect.quote) :
    scan dialect.quote (partText dialect.quote part ++ text) =
      (scan dialect.quote text).map ([partLexeme part] ++ ·) := by
  unfold partText partLexeme
  split
  · obtain ⟨-, -, -, hstar, -⟩ := dialect.quote_ne
    exact scan_bare hstar.symm (by decide) (by decide)
  · exact scan_quoted part h

/-- **A qualified name is found part by part.** -/
theorem scan_text (parts : List (List Char)) (h : ∀ c ∈ text.head?, c ≠ dialect.quote) :
    scan dialect.quote (QualifiedName.text dialect.quote parts ++ text) =
      (scan dialect.quote text).map (lexemes parts ++ ·) := by
  induction parts with
  | nil => exact Option.map_id'.symm
  | cons part parts ih =>
    cases parts with
    | nil => exact scan_partText part h
    | cons next parts =>
      -- a point ends the part, whether it is quoted or not
      obtain ⟨-, -, hpoint, -⟩ := dialect.quote_ne
      have hnext : ∀ c ∈ ('.' :: (QualifiedName.text dialect.quote (next :: parts) ++ text)).head?,
          c ≠ dialect.quote := by
        rintro c ⟨⟩
        exact hpoint.symm
      rw [QualifiedName.text, List.append_assoc, List.cons_append, scan_partText part hnext,
        scan_bare hpoint.symm (by decide) (by decide), ih, Option.map_map, Option.map_map]
      rfl

theorem names_lexemes (parts : List (List Char)) :
    Lexeme.names (lexemes parts) = parts.filter (· ≠ ['*']) := by
  have hpart (part : List Char) : Lexeme.names [partLexeme part] =
      [part].filter (· ≠ ['*']) := by
    unfold partLexeme
    by_cases hstar : part = ['*']
    · rw [if_pos hstar, hstar]
      rfl
    · rw [if_neg hstar]
      simp [Lexeme.names, hstar]
  induction parts with
  | nil => rfl
  | cons part parts ih =>
    cases parts with
    | nil => exact hpart part
    | cons next parts =>
      have hsplit : Lexeme.names (lexemes (part :: next :: parts)) =
          Lexeme.names [partLexeme part] ++ Lexeme.names (lexemes (next :: parts)) :=
        Lexeme.names_append [partLexeme part] (.bare '.' :: lexemes (next :: parts))
      rw [hsplit, hpart, ih, ← List.filter_append]
      rfl

/-- Only points and stars are found outside of the names. -/
theorem placeholders_lexemes (parts : List (List Char)) :
    Lexeme.placeholders (lexemes parts) = [] ∧ IsPlain (Lexeme.bareChars (lexemes parts)) := by
  have hpart (part : List Char) : Lexeme.placeholders [partLexeme part] = [] ∧
      IsPlain (Lexeme.bareChars [partLexeme part]) := by
    unfold partLexeme
    split
    · decide
    · exact ⟨rfl, fun _ h => (nomatch h)⟩
  induction parts with
  | nil => exact ⟨rfl, fun _ h => (nomatch h)⟩
  | cons part parts ih =>
    cases parts with
    | nil => exact hpart part
    | cons next parts =>
      have hsplit : lexemes (part :: next :: parts) =
          [partLexeme part] ++ ([.bare '.'] ++ lexemes (next :: parts)) := rfl
      have hpoint : Lexeme.placeholders [.bare '.'] = [] ∧
          IsPlain (Lexeme.bareChars [.bare '.']) := by decide
      obtain ⟨hnone, hplain⟩ := hpart part
      obtain ⟨hnorest, hplainrest⟩ := ih
      rw [hsplit, Lexeme.placeholders_append, Lexeme.placeholders_append,
        Lexeme.bareChars_append, Lexeme.bareChars_append, hnone, hpoint.1, hnorest]
      exact ⟨rfl, hplain.append (hpoint.2.append hplainrest)⟩

end QualifiedName

/-! ## Symbols -/

namespace Symbol

/-- What a scan finds of some symbols, after so many parameters. -/
def lexemes (dialect : Dialect) : Nat → List Symbol → List Lexeme
  | _, [] => []
  | number, .char c :: symbols => [.bare c] ++ lexemes dialect number symbols
  | number, .identifier name :: symbols =>
    QualifiedName.lexemes (pointParts name.toList) ++ lexemes dialect number symbols
  | number, .aliasName name :: symbols => [.name name.toList] ++ lexemes dialect number symbols
  | number, .param _ :: symbols =>
    [dialect.placeholderLexeme (number + 1)] ++ lexemes dialect (number + 1) symbols

/-- The quoted names of a symbol. -/
def quotedNames : Symbol → List (List Char)
  | char _ | param _ => []
  | identifier name => (pointParts name.toList).filter (· ≠ ['*'])
  | aliasName name => [name.toList]

end Symbol

theorem Part.flatMap_quotedNames (part : Part) :
    part.symbols.flatMap Symbol.quotedNames = part.quotedNames := by
  cases part with
  | text text =>
    rw [Part.symbols, Symbol.ofText, List.flatMap_map]
    exact List.flatMap_eq_nil_iff.mpr fun _ _ => rfl
  | _ => exact List.flatMap_singleton ..

theorem Fragment.flatMap_quotedNames (fragment : Fragment) :
    fragment.symbols.flatMap Symbol.quotedNames = fragment.parts.flatMap Part.quotedNames := by
  rw [Fragment.symbols, List.flatMap_assoc]
  simp only [Part.flatMap_quotedNames]

namespace Symbol

variable {dialect : Dialect}

theorem names_lexemes (number : Nat) (symbols : List Symbol) :
    Lexeme.names (lexemes dialect number symbols) = symbols.flatMap quotedNames := by
  induction symbols generalizing number with
  | nil => rfl
  | cons symbol symbols ih =>
    rw [List.flatMap_cons]
    cases symbol with
    | identifier name =>
      rw [lexemes, Lexeme.names_append, QualifiedName.names_lexemes, ih, quotedNames]
    | param p =>
      rw [lexemes, Lexeme.names_append, ih]
      cases dialect <;> rfl
    | _ => rw [lexemes, Lexeme.names_append, ih]; rfl

/-- **The placeholders are numbered in order.** -/
theorem placeholders_lexemes (number : Nat) (symbols : List Symbol) :
    Lexeme.placeholders (lexemes dialect number symbols) =
      (List.range' (number + 1) (params symbols).length).map dialect.placeholderLexeme := by
  induction symbols generalizing number with
  | nil => rfl
  | cons symbol symbols ih =>
    cases symbol with
    | identifier name =>
      rw [lexemes, Lexeme.placeholders_append, (QualifiedName.placeholders_lexemes _).1, ih]
      rfl
    | param p =>
      have hlength : (params (.param p :: symbols)).length = (params symbols).length + 1 := rfl
      rw [lexemes, Lexeme.placeholders_append, ih, hlength, List.range'_succ, List.map_cons]
      cases dialect <;> rfl
    | _ => rw [lexemes, Lexeme.placeholders_append, ih]; rfl

theorem allBare_lexemes (number : Nat) {symbols : List Symbol}
    (h : ∀ c, .char c ∈ symbols → isBare c = true) :
    AllBare (Lexeme.bareChars (lexemes dialect number symbols)) := by
  induction symbols generalizing number with
  | nil => exact fun _ hc => (nomatch hc)
  | cons symbol symbols ih =>
    have hrest (number : Nat) := ih number fun c hc => h c (List.mem_cons_of_mem symbol hc)
    cases symbol with
    | char d =>
      have hd : AllBare (Lexeme.bareChars [.bare d]) := by
        intro c hc
        rw [List.mem_singleton.mp hc]
        exact h d (by simp)
      rw [lexemes, Lexeme.bareChars_append]
      exact hd.append (hrest number)
    | identifier name =>
      rw [lexemes, Lexeme.bareChars_append]
      exact (QualifiedName.placeholders_lexemes _).2.allBare.append (hrest number)
    | aliasName name => exact hrest number
    | param p =>
      have hnone : Lexeme.bareChars [dialect.placeholderLexeme (number + 1)] = [] := by
        cases dialect <;> rfl
      rw [lexemes, Lexeme.bareChars_append, hnone, List.nil_append]
      exact hrest (number + 1)

/-! ## Reading symbols back -/

/-- The characters that a symbol may begin with. -/
def Begins (dialect : Dialect) : Symbol → Char → Prop
  | char d, c => c = d
  | param _, c => c = '?' ∨ c = '$'
  | _, c => c = dialect.quote ∨ c = '*'

theorem begins_of_head (number : Nat) (symbol : Symbol) (symbols : List Symbol) :
    ∀ c ∈ (written dialect number (symbol :: symbols)).head?, symbol.Begins dialect c := by
  cases symbol with
  | char d =>
    rintro c ⟨⟩
    rfl
  | param p =>
    rw [written, Dialect.toList_placeholder]
    cases dialect with
    | postgres =>
      rintro c ⟨⟩
      exact .inr rfl
    | _ =>
      rintro c ⟨⟩
      exact .inl rfl
  | aliasName name =>
    rw [written, Dialect.toList_quoteName]
    rintro c ⟨⟩
    exact .inl rfl
  | identifier name =>
    have hpart (part rest : List Char) :
        ∀ c ∈ (QualifiedName.partText dialect.quote part ++ rest).head?,
          c = dialect.quote ∨ c = '*' := by
      unfold QualifiedName.partText
      split
      · rintro c ⟨⟩
        exact .inr rfl
      · rintro c ⟨⟩
        exact .inl rfl
    rw [written, Statement.toList_identifierText]
    obtain ⟨part, parts, hparts⟩ := List.exists_cons_of_ne_nil (pointParts_ne_nil name.toList)
    rw [hparts]
    cases parts with
    | nil => exact hpart part _
    | cons next parts =>
      rw [QualifiedName.text, List.append_assoc]
      exact hpart part _

/-- What is written after a name does not begin with a quote. -/
theorem head_ne_quote (number : Nat) {symbols : List Symbol}
    (hbare : ∀ c, .char c ∈ symbols → isBare c = true)
    (hname : ∀ next ∈ symbols.head?, ¬ next.IsName) :
    ∀ c ∈ (written dialect number symbols).head?, c ≠ dialect.quote := by
  obtain ⟨hmark, hdollar, -, -, -, hquote⟩ := dialect.quote_ne
  cases symbols with
  | nil => exact fun _ hc => (nomatch hc)
  | cons next symbols =>
    intro c hc
    have hbegins := begins_of_head number next symbols c hc
    cases next with
    | char d =>
      rw [show c = d from hbegins]
      exact ne_of_isBare (hbare d (by simp)) hquote
    | param p =>
      rcases hbegins with rfl | rfl
      · exact hmark.symm
      · exact hdollar.symm
    | _ => exact absurd trivial (hname _ rfl)

/-- What is written after a parameter does not begin with a digit. -/
theorem head_not_isDigit (number : Nat) {p : Param} {symbols : List Symbol}
    (hnext : ∀ next ∈ symbols.head?, MayPrecede (.param p) next) :
    ∀ c ∈ (written dialect number symbols).head?, c.isDigit = false := by
  obtain ⟨-, -, -, -, hquote, -⟩ := dialect.quote_ne
  cases symbols with
  | nil => exact fun _ hc => (nomatch hc)
  | cons next symbols =>
    intro c hc
    have hbegins := begins_of_head number next symbols c hc
    cases next with
    | char d =>
      rw [show c = d from hbegins]
      exact hnext _ rfl
    | param p => rcases hbegins with rfl | rfl <;> decide
    | _ =>
      rcases hbegins with rfl | rfl
      · exact hquote
      · decide

theorem scan_placeholder (number : Nat) {text : List Char}
    (h : ∀ c ∈ text.head?, c.isDigit = false) :
    scan dialect.quote ((dialect.placeholder number).toList ++ text) =
      (scan dialect.quote text).map ([dialect.placeholderLexeme number] ++ ·) := by
  obtain ⟨hmark, hdollar, -⟩ := dialect.quote_ne
  have hdigits : ∀ c ∈ (toString number).toList, c.isDigit = true := by
    intro c hc
    rw [Nat.toString_eq_repr, Nat.toList_repr] at hc
    exact Nat.isDigit_of_mem_toDigits (by decide) (by decide) hc
  rw [Dialect.toList_placeholder]
  cases dialect with
  | postgres => exact scan_numbered hdollar hdigits h
  | _ => exact scan_mark hmark

/-- **Tidy symbols are read back.** By induction on the symbols: each one
ends where the next one begins. -/
theorem scan_written (number : Nat) {symbols : List Symbol}
    (hbare : ∀ c, .char c ∈ symbols → isBare c = true) (hchain : symbols.IsChain MayPrecede) :
    scan dialect.quote (written dialect number symbols) =
      some (lexemes dialect number symbols) := by
  induction symbols generalizing number with
  | nil => rfl
  | cons symbol symbols ih =>
    obtain ⟨hnext, hchain⟩ := List.isChain_cons.mp hchain
    have hrest : ∀ c, .char c ∈ symbols → isBare c = true := by
      intro c hc
      exact hbare c (List.mem_cons_of_mem symbol hc)
    have hscan (number : Nat) := ih number hrest hchain
    cases symbol with
    | char c =>
      have hc := hbare c (by simp)
      obtain ⟨-, -, -, -, -, hquote⟩ := dialect.quote_ne
      rw [written, scan_bare (ne_of_isBare hc hquote) (ne_of_isBare hc (by decide))
        (ne_of_isBare hc (by decide)), hscan, lexemes]
      rfl
    | identifier name =>
      -- no name follows, and nothing else that begins with a quote
      have hhead : ∀ c ∈ (written dialect number symbols).head?, c ≠ dialect.quote :=
        head_ne_quote number hrest hnext
      rw [written, Statement.toList_identifierText, QualifiedName.scan_text _ hhead, hscan, lexemes]
      rfl
    | aliasName name =>
      have hhead : ∀ c ∈ (written dialect number symbols).head?, c ≠ dialect.quote :=
        head_ne_quote number hrest hnext
      rw [written, Dialect.toList_quoteName, scan_quoted _ hhead, hscan, lexemes]
      rfl
    | param p =>
      rw [written, scan_placeholder _ (head_not_isDigit _ hnext), hscan, lexemes]
      rfl

end Symbol

/-! ## Statements -/

/-- **Whatever strings a query has in it, its statement is read as what was
put there:** a scan of it ends outside of quoted names; the names it finds
are those of the fragment that was built; all else is bare characters and
placeholders; and the placeholders are those of the parameters. -/
theorem Query.scan_of_toStatement {dialect : Dialect} {query : Query} {statement : Statement}
    (h : query.toStatement dialect = .ok statement) :
    ∃ compiler fragment lexemes, query.compiler = .ok compiler ∧
      (TopCompiler.build dialect compiler).1 = .ok fragment ∧
      statement = fragment.render dialect ∧
      scan dialect.quote statement.sql.toList = some lexemes ∧
      Lexeme.names lexemes = fragment.parts.flatMap Part.quotedNames ∧
      (∀ c ∈ Lexeme.bareChars lexemes, isBare c = true) ∧
      Lexeme.placeholders lexemes =
        (List.range' 1 statement.params.length).map dialect.placeholderLexeme := by
  obtain ⟨compiler, fragment, hcompiler, hbuild, houtcome, rfl⟩ := built_of_toStatement h
  have htidy := query.tidy_outcome dialect fragment houtcome
  refine ⟨compiler, fragment, Symbol.lexemes dialect 0 fragment.symbols, hcompiler, hbuild, rfl,
    ?_, ?_, ?_, ?_⟩
  · rw [Fragment.sql_render]
    exact Symbol.scan_written 0 htidy.isBare htidy.isChain
  · rw [Symbol.names_lexemes, Fragment.flatMap_quotedNames]
  · exact Symbol.allBare_lexemes 0 htidy.isBare
  · rw [Symbol.placeholders_lexemes, Fragment.params_symbols, Fragment.params_render]

/-- A query with quotes, points, question marks and dollar signs in its
names. -/
def Query.oddNames : Query where
  action := some "query"
  table := some (.name "a`b.\"c\"")
  columns := some [
    .named { column := "x?.$1", aliasName := some "q`.\"?" },
    .function { function := "COUNT", parameters := [.named { column := "t.*" }] },
    .value { value := .string "`\"?$2", cast := some "text" }]

theorem Query.scan_oddNames :
    ∃ statement, oddNames.toStatement .postgres = .ok statement ∧
      statement.sql =
        "SELECT \"x?\".\"$1\" AS \"q`.\"\"?\", COUNT(\"t\".*), $1::text FROM \"a`b\".\"\"\"c\"\"\"" ∧
      ∃ lexemes, scan Dialect.postgres.quote statement.sql.toList = some lexemes ∧
        Lexeme.placeholders lexemes = [.numbered ['1']] := by
  have hsql : (oddNames.toStatement .postgres).toOption = some {
      sql :=
        "SELECT \"x?\".\"$1\" AS \"q`.\"\"?\", COUNT(\"t\".*), $1::text FROM \"a`b\".\"\"\"c\"\"\""
      params := [.string "`\"?$2"] } := by decide +kernel
  have hstatement := eq_ok_of_toOption hsql
  obtain ⟨_, _, lexemes, -, -, -, hscan, -, -, hplaceholders⟩ := scan_of_toStatement hstatement
  exact ⟨_, hstatement, rfl, lexemes, hscan, hplaceholders⟩

end QueryTree
