import QueryTree.Sql.Keyword
/-!
# Tokens — the words and marks of a statement

A statement is laid out by its tokens. A token is what the first of these
kinds to match takes from the text: a run of blanks, a comment, a quoted
text, a parenthesis, a number, a keyword, a placeholder, a word, a mark.
No keyword follows a point, after which any word is part of a name.
-/

namespace QueryTree

open Text

/-- **What a token is for the layout.** -/
inductive TokenKind where
  | blank
  /-- A comment up to the end of its line. -/
  | lineComment
  /-- A comment between its marks. -/
  | blockComment
  | quoted
  /-- An opening parenthesis, or the word that starts a case distinction. -/
  | openParenthesis
  /-- A closing parenthesis, or the word that ends a case distinction. -/
  | closeParenthesis
  | number
  | keyword (role : KeywordRole)
  | placeholder
  | word
  | comma
  | colon
  | point
  | semicolon
  /-- Any other mark. -/
  | mark
deriving DecidableEq, Repr

/-- **A token** and its characters. -/
structure SqlToken where
  kind : TokenKind
  text : List Char
deriving DecidableEq, Repr

namespace SqlToken

/-- The token of some kind that a text has before a rest of it, and that
rest. -/
def before (kind : TokenKind) (text rest : List Char) : SqlToken × List Char :=
  (⟨kind, text.take (text.length - rest.length)⟩, rest)

/-! ## Blanks and comments -/

/-- A run of blanks at the start of a text. -/
def blank? (text : List Char) : Option (SqlToken × List Char) :=
  if text.head?.any isBlank then some (before .blank text (text.dropWhile isBlank)) else none

/-- A comment up to the end of its line. A carriage return is part of the
end of a line before a line feed only; where one stands elsewhere, there
is no comment. -/
def lineComment? (text : List Char) : Option (SqlToken × List Char) :=
  match text with
  | '#' :: rest => finish rest
  | '-' :: '-' :: rest => finish rest
  | _ => none
where
  /-- The comment, whose end is in the text after its mark. -/
  finish (rest : List Char) : Option (SqlToken × List Char) :=
    match rest.dropWhile fun c => c ≠ '\n' && c ≠ '\r' with
    | '\r' :: '\n' :: after => some (before .lineComment text ('\r' :: '\n' :: after))
    -- the comment would have to end here and does not
    | '\r' :: _ => none
    | after => some (before .lineComment text after)

/-- The text after the end of a comment. A comment without an end takes
all of the text. -/
def afterBlockComment : List Char → List Char
  | '*' :: '/' :: text => text
  | _ :: text => afterBlockComment text
  | [] => []

/-- A comment between its marks. -/
def blockComment? (text : List Char) : Option (SqlToken × List Char) :=
  match text with
  | '/' :: '*' :: rest => some (before .blockComment text (afterBlockComment rest))
  | _ => none

/-! ## Quoted texts -/

/-- The text after a quoted one, from what follows its opening mark. A
closing mark right after one of the escapes does not close it. -/
def afterQuoted? (close : Char) (escapes : List Char) : List Char → Option (List Char)
  | [] => none
  | [c] => if c = close then some [] else none
  | c :: d :: text =>
    -- where the closing mark is an escape, this is one that is doubled
    if escapes.contains c && d = close then afterQuoted? close escapes text
    else if c = close then some (d :: text)
    else afterQuoted? close escapes (d :: text)

/-- A quoted text at the start of a text. -/
def quoted? (text : List Char) : Option (SqlToken × List Char) :=
  (before .quoted text) <$>
    match text with
    | '`' :: rest => afterQuoted? '`' ['`'] rest
    | '[' :: rest => afterQuoted? ']' [']'] rest
    | '"' :: rest => afterQuoted? '"' ['"', '\\'] rest
    | '\'' :: rest => afterQuoted? '\'' ['\'', '\\'] rest
    | 'N' :: '\'' :: rest => afterQuoted? '\'' ['\'', '\\'] rest
    | _ => none

/-! ## Parentheses, numbers and keywords -/

/-- A parenthesis at the start of a text. -/
def parenthesis? (text : List Char) : Option (SqlToken × List Char) :=
  match text with
  | '(' :: rest => some (before .openParenthesis text rest)
  | ')' :: rest => some (before .closeParenthesis text rest)
  | _ =>
    match leadingWords 1 text with
    | ("CASE", rest) :: _ => some (before .openParenthesis text rest)
    | ("END", rest) :: _ => some (before .closeParenthesis text rest)
    | _ => none

/-- The text after the exponent of a number, if one follows. -/
def afterExponent (text : List Char) : List Char :=
  match text with
  | 'e' :: rest =>
    let digits :=
      match rest with
      | '+' :: digits => digits
      | '-' :: digits => digits
      | digits => digits
    if digits.head?.any Char.isDigit then digits.dropWhile Char.isDigit else text
  | text => text

/-- A number at the start of a text: digits, before which there may be a
sign and after which a point, digits and an exponent. -/
def number? (text : List Char) : Option (SqlToken × List Char) :=
  let digits :=
    match text with
    | '-' :: digits => digits
    | digits => digits
  if digits.head?.any Char.isDigit then
    let rest :=
      match digits.dropWhile Char.isDigit with
      | '.' :: places => places.dropWhile Char.isDigit
      | rest => rest
    some (before .number text (afterExponent rest))
  else none

/-- A keyword at the start of a text. Between the bounds of a range the
word `AND` stands in its line. -/
def keywordToken? (inRange : Bool) (text : List Char) : Option (SqlToken × List Char) :=
  (keyword? text).map fun (role, rest) =>
    let (token, rest) := before (.keyword role) text rest
    if inRange && token.text = "AND".toList then (⟨.keyword .plain, token.text⟩, rest)
    else (token, rest)

/-! ## Placeholders, words and marks -/

/-- Whether a character may be in the name of a placeholder. -/
def isPlaceholderChar (c : Char) : Bool :=
  isAlphanumeric c || c = '.' || c = '_' || c = '$'

/-- A placeholder at the start of a text: one with a number, one that
stands for itself, or one with a name, which may be quoted. -/
def placeholder? (text : List Char) : Option (SqlToken × List Char) :=
  (before .placeholder text) <$>
    match text with
    | [] => none
    | c :: rest =>
      if (c = '?' || c = '$') && rest.head?.any Char.isDigit then
        some (rest.dropWhile Char.isDigit)
      else if c = '?' then some rest
      else if (c = '@' || c = ':' || c = '$') && rest.head?.any isPlaceholderChar then
        some (rest.dropWhile isPlaceholderChar)
      else if c = '@' || c = ':' then
        -- the name is quoted
        match rest with
        | '`' :: name => afterQuoted? '`' ['`'] name
        | '[' :: name => afterQuoted? ']' [']'] name
        | '"' :: name => afterQuoted? '"' ['\\'] name
        | '\'' :: name => afterQuoted? '\'' ['\\'] name
        | _ => none
      else none

/-- A word at the start of a text. -/
def word? (text : List Char) : Option (SqlToken × List Char) :=
  if text.head?.any isWordChar then some (before .word text (text.dropWhile isWordChar)) else none

/-- The marks of more than one character. Where one starts another, the
longer one stands first. -/
def longMarks : List String :=
  ["!=", "<>", "==", "<=", ">=", "!<", "!>", "||", "::", "->>", "->", "~~*", "~~", "!~~*",
   "!~~", "~*", "!~*", "!~", ":="]

/-- The kind of a mark of one character. -/
def markKind (c : Char) : TokenKind :=
  match c with
  | ',' => .comma
  | ':' => .colon
  | '.' => .point
  | ';' => .semicolon
  | _ => .mark

/-- The mark at the start of a text. -/
def mark (c : Char) (text : List Char) : SqlToken × List Char :=
  match longMarks.find? fun long => long.toList.isPrefixOf (c :: text) with
  | some long => (⟨.mark, long.toList⟩, (c :: text).drop long.length)
  | none => (⟨markKind c, [c]⟩, text)

/-! ## Scanning -/

/-- **What the reading of a token needs of those before it.** -/
structure Context where
  /-- Whether the token before is a point. -/
  afterPoint : Bool := false
  /-- Whether the last keyword that stands in its line opens a range. -/
  inRange : Bool := false

/-- The context after one token more. -/
def Context.after (context : Context) (token : SqlToken) : Context where
  afterPoint := token.kind = .point
  inRange :=
    if token.kind = .keyword .plain then token.text = "BETWEEN".toList else context.inRange

/-- The token at the start of a text that is not empty. -/
def next (context : Context) (c : Char) (text : List Char) : SqlToken × List Char :=
  let whole := c :: text
  -- the kinds in the order they are tried in; what is none of them is a mark
  let found :=
    blank? whole <|> lineComment? whole <|> blockComment? whole <|> quoted? whole
      <|> parenthesis? whole <|> number? whole
      <|> (if context.afterPoint then none else keywordToken? context.inRange whole)
      <|> placeholder? whole <|> word? whole
  found.getD (mark c text)

/-- The tokens of a text, `fuel` of them at most. -/
def scanFrom : Nat → Context → List Char → List SqlToken
  | 0, _, _ => []
  | _ + 1, _, [] => []
  | fuel + 1, context, c :: text =>
    let (token, rest) := next context c text
    token :: scanFrom fuel (context.after token) rest

/-- **The tokens of a text.** Each has a character, so there are no more
of them than characters. -/
def scan (text : List Char) : List SqlToken := scanFrom text.length {} text

/-- The characters of a token as they are written: the words of a keyword
have one blank between them. -/
def written (token : SqlToken) : List Char :=
  match token.kind with
  | .keyword _ => words token.text
  | _ => token.text
where
  /-- A text with one blank in the place of each run of blanks. -/
  words : List Char → List Char
  | [] => []
  | [c] => [if isBlank c then ' ' else c]
  | c :: d :: text =>
    if isBlank c then
      if isBlank d then words (d :: text) else ' ' :: words (d :: text)
    else c :: words (d :: text)

end SqlToken

end QueryTree
