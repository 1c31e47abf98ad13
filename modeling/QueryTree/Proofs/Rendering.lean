import QueryTree.Proofs.Symbols
import QueryTree.Sql.Statement
/-!
# Rendering — the text and the parameters of a rendered fragment

Rendering is a fold over the parts of a fragment. This file says what it
comes to: the text is that of the symbols, one after the other
(`sql_render`), and the parameters are those of the fragment
(`params_render`).
-/

namespace QueryTree

/-- **What some symbols are written as,** after so many parameters. -/
def Symbol.written (dialect : Dialect) : Nat → List Symbol → List Char
  | _, [] => []
  | number, .char c :: symbols => c :: written dialect number symbols
  | number, .identifier name :: symbols =>
    (Statement.identifierText dialect name).toList ++ written dialect number symbols
  | number, .aliasName name :: symbols =>
    (dialect.quoteName name).toList ++ written dialect number symbols
  | number, .param _ :: symbols =>
    (dialect.placeholder (number + 1)).toList ++ written dialect (number + 1) symbols

namespace Symbol

variable {dialect : Dialect} {number : Nat}

theorem written_append (first second : List Symbol) :
    written dialect number (first ++ second) =
      written dialect number first ++ written dialect (number + (params first).length) second := by
  induction first generalizing number with
  | nil => rfl
  | cons symbol first ih =>
    cases symbol with
    | param p =>
      -- a parameter counts for the numbers of those after it
      have hlength : number + 1 + (params first).length =
          number + (params (.param p :: first)).length := by
        simp only [params, List.filterMap_cons, List.length_cons]
        omega
      rw [List.cons_append, written, ih, hlength, written, List.append_assoc]
    | _ => simp [written, ih, params]

theorem written_ofText (text : String) : written dialect number (ofText text) = text.toList := by
  unfold ofText
  induction text.toList with
  | nil => rfl
  | cons c chars ih => rw [List.map_cons, written, ih]

end Symbol

namespace Statement

variable {dialect : Dialect}

theorem params_appendPart (statement : Statement) (part : Part) :
    (appendPart dialect statement part).params =
      statement.params ++ Symbol.params part.symbols := by
  cases part with
  | text text => simp [appendPart, appendText, Part.symbols]
  | identifier name =>
    simp [appendPart, appendIdentifier, appendText, Part.symbols, Symbol.params]
  | aliasName name => simp [appendPart, appendAlias, appendText, Part.symbols, Symbol.params]
  | param p => simp [appendPart, appendParam, Part.symbols, Symbol.params]

theorem toList_sql_appendPart (statement : Statement) (part : Part) :
    (appendPart dialect statement part).sql.toList =
      statement.sql.toList ++ Symbol.written dialect statement.params.length part.symbols := by
  cases part with
  | text text => simp [appendPart, appendText, Part.symbols, Symbol.written_ofText]
  | identifier name =>
    simp [appendPart, appendIdentifier, appendText, Part.symbols, Symbol.written]
  | aliasName name => simp [appendPart, appendAlias, appendText, Part.symbols, Symbol.written]
  | param p => simp [appendPart, appendParam, Part.symbols, Symbol.written]

/-- Parts written after a statement. -/
theorem foldl_appendPart (parts : List Part) (statement : Statement) :
    (parts.foldl (appendPart dialect) statement).params =
        statement.params ++ Symbol.params (parts.flatMap Part.symbols) ∧
      (parts.foldl (appendPart dialect) statement).sql.toList =
        statement.sql.toList ++
          Symbol.written dialect statement.params.length (parts.flatMap Part.symbols) := by
  induction parts generalizing statement with
  | nil => simp [Symbol.params, Symbol.written]
  | cons part parts ih =>
    obtain ⟨hparams, hsql⟩ := ih (appendPart dialect statement part)
    rw [List.foldl_cons, List.flatMap_cons, hparams, hsql, params_appendPart,
      toList_sql_appendPart, Symbol.params_append, Symbol.written_append, List.length_append]
    exact ⟨List.append_assoc .., List.append_assoc ..⟩

end Statement

namespace Fragment

variable {dialect : Dialect}

/-- **The text of a rendered fragment** is that of its symbols. -/
theorem sql_render (fragment : Fragment) :
    (fragment.render dialect).sql.toList = Symbol.written dialect 0 fragment.symbols :=
  (Statement.foldl_appendPart fragment.parts .empty).2

/-- **The parameters of a rendered fragment** are its own. -/
theorem params_render (fragment : Fragment) :
    (fragment.render dialect).params = fragment.params := by
  rw [← params_symbols]
  exact (Statement.foldl_appendPart fragment.parts .empty).1

end Fragment

end QueryTree
