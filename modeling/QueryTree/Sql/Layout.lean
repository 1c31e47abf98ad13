import QueryTree.Json.Printer
import QueryTree.Sql.Statement
import QueryTree.Sql.Token
/-!
# Layout — statements over several lines

Each clause starts a line and its contents are indented under it, one
item to a line. What is in parentheses is a block of its own, unless it
is short and has no clause and no comment in it; then it stays on its
line.
-/

namespace QueryTree

/-- Why a line is indented by one step. -/
inductive IndentStep where
  /-- It is inside a clause. -/
  | clause
  /-- It is inside parentheses. -/
  | block
deriving DecidableEq, Repr

/-- **How far a layout has come.** -/
structure Layout where
  /-- The text so far, the last character first. -/
  output : List Char := []
  /-- The indentation, the last step first. -/
  indent : List IndentStep := []
  /-- How many parentheses are open that stay on their line. -/
  inline : Nat := 0
  /-- The token before. -/
  previous : Option SqlToken := none
  /-- Whether the last keyword was the one before a number of rows. -/
  afterLimit : Bool := false

namespace Layout

/-- The most bytes that parentheses which stay on their line may span. -/
def inlineLimit : Nat := 50

/-- Whether the tokens that follow, of which `opened` parentheses are
open after `length` bytes, close them within the limit and before what
needs a line of its own. -/
def closesInline (opened length : Nat) : List SqlToken → Bool
  | [] => false
  | token :: tokens =>
    let length := length + (token.text.map Char.utf8Size).sum
    if inlineLimit < length then false
    else match token.kind with
      | .openParenthesis => closesInline (opened + 1) length tokens
      | .closeParenthesis => opened ≤ 1 || closesInline (opened - 1) length tokens
      | .keyword .clause | .keyword .line | .lineComment | .blockComment | .semicolon => false
      | _ => closesInline opened length tokens

/-- Whether a character indents a line. -/
def isIndent (c : Char) : Bool := c = ' ' || c = '\t'

/-- Without the spaces and tabs at the end. -/
def trimmed (layout : Layout) : Layout :=
  { layout with output := layout.output.dropWhile isIndent }

/-- With a text at the end. -/
def write (layout : Layout) (text : List Char) : Layout :=
  { layout with output := text.reverse ++ layout.output }

/-- The blanks that a line starts with. -/
def indentation (layout : Layout) : List Char := List.replicate (2 * layout.indent.length) ' '

/-- On a new line, with its indentation. -/
def newLine (layout : Layout) : Layout :=
  let layout := layout.trimmed
  -- a line that has nothing in it yet is the new one
  let layout := if layout.output.head? = some '\n' then layout else layout.write ['\n']
  layout.write layout.indentation

/-- With a text and a blank at the end. -/
def word (layout : Layout) (text : List Char) : Layout := (layout.write text).write [' ']

/-- Outside the clause that a line is directly in. -/
def leaveClause (layout : Layout) : Layout :=
  match layout.indent with
  | .clause :: rest => { layout with indent := rest }
  | _ => layout

/-- Outside the parentheses that a line is in. -/
def leaveBlock (layout : Layout) : Layout :=
  { layout with indent := (layout.indent.dropWhile (· ≠ .block)).drop 1 }

/-- One step further to the right. -/
def enter (step : IndentStep) (layout : Layout) : Layout :=
  { layout with indent := step :: layout.indent }

/-- An opening parenthesis, before the tokens that follow it. -/
def openParenthesis (layout : Layout) (token : SqlToken) (following : List SqlToken) : Layout :=
  let keepsBlanks :=
    match layout.previous.map SqlToken.kind with
    | some .blank | some .openParenthesis | some .lineComment => true
    | _ => false
  let layout := (if keepsBlanks then layout else layout.trimmed).write token.text
  -- what is inside parentheses that stay on their line stays there too
  if 0 < layout.inline then { layout with inline := layout.inline + 1 }
  else if closesInline 0 0 (token :: following) then { layout with inline := 1 }
  else (layout.enter .block).newLine

/-- A closing parenthesis. -/
def closeParenthesis (layout : Layout) (token : SqlToken) : Layout :=
  if 0 < layout.inline then
    { layout.trimmed.word token.text with inline := layout.inline - 1 }
  else layout.leaveBlock.newLine.word token.text

/-- A comma. -/
def comma (layout : Layout) (token : SqlToken) : Layout :=
  let layout := layout.trimmed.word token.text
  if 0 < layout.inline || layout.afterLimit then layout else layout.newLine

/-- Whether the tokens after a comment are blanks and then neither a word
nor a value. -/
def leadsToMark : List SqlToken → Bool
  | ⟨.blank, _⟩ :: token :: _ =>
    match token.kind with
    | .number | .quoted | .word | .keyword _ => false
    | _ => true
  | _ => false

/-- A comment up to the end of its line, before the tokens that follow it. -/
def lineComment (layout : Layout) (token : SqlToken) (following : List SqlToken) : Layout :=
  let onOwnLine := layout.previous.any fun previous => previous.text.contains '\n'
  let layout := if onOwnLine && leadsToMark following then layout.newLine else layout
  (layout.write token.text).newLine

/-- The lines of a comment. Those that are indented are indented anew, one
blank further than the line that the comment starts on. -/
def commentLines (indentation : List Char) : List Char → List Char
  | [] => []
  | '\n' :: text =>
    if text.head?.any isIndent then
      '\n' :: (indentation ++ ' ' :: afterIndent text)
    else '\n' :: commentLines indentation text
  | c :: text => c :: commentLines indentation text
where
  /-- The rest of a line after its indentation, and the lines below it. -/
  afterIndent : List Char → List Char
  | [] => []
  | c :: text => if isIndent c then afterIndent text else commentLines indentation (c :: text)

/-- A comment between its marks. -/
def blockComment (layout : Layout) (token : SqlToken) : Layout :=
  let layout := layout.newLine
  (layout.write (commentLines layout.indentation token.text)).newLine

/-- A keyword. -/
def keyword (layout : Layout) (role : KeywordRole) (token : SqlToken) : Layout :=
  let layout :=
    match role with
    | .clause => ((layout.leaveClause.newLine.enter .clause).write token.written).newLine
    | .divider => (layout.leaveClause.newLine.write token.written).newLine
    | .line => layout.newLine.word token.written
    | .plain => layout.word token.written
  { layout with afterLimit := token.text.map Char.toUpper = "LIMIT".toList }

/-- The end of a statement. -/
def semicolon (layout : Layout) (token : SqlToken) : Layout :=
  ({ layout with indent := [] }.trimmed.write token.text).write ['\n']

/-- One token more, before the tokens that follow it. -/
def step (layout : Layout) (token : SqlToken) (following : List SqlToken) : Layout :=
  let next :=
    match token.kind with
    | .blank => layout
    | .lineComment => layout.lineComment token following
    | .blockComment => layout.blockComment token
    | .keyword role => layout.keyword role token
    | .openParenthesis => layout.openParenthesis token following
    | .closeParenthesis => layout.closeParenthesis token
    | .comma => layout.comma token
    | .colon => layout.trimmed.word token.text
    | .point => layout.trimmed.write token.text
    | .semicolon => layout.semicolon token
    | .quoted | .number | .placeholder | .word | .mark => layout.word token.text
  { next with previous := some token }

/-- All tokens, in order. -/
def run (layout : Layout) : List SqlToken → Layout
  | [] => layout
  | token :: tokens => (layout.step token tokens).run tokens

/-- The text of a layout, without blanks at either end. -/
def text (layout : Layout) : String :=
  String.ofList (Text.trimBlanks layout.output.reverse)

end Layout

namespace Statement

/-- The lines that number the parameters from `number` on. -/
def paramLines (number : Nat) : List Param → String
  | [] => ""
  | param :: params =>
    s!"{number}: {param.toJson.compact}\n" ++ paramLines (number + 1) params

/-- **A statement over several lines,** with its parameters below it. -/
def pretty (statement : Statement) : String :=
  let sql := (Layout.run {} (SqlToken.scan statement.sql.toList)).text
  let blankLine := if statement.params.isEmpty then "" else "\n"
  sql ++ "\n" ++ blankLine ++ paramLines 1 statement.params

end Statement

end QueryTree
