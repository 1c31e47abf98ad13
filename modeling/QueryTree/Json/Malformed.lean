/-!
# Malformed text — why a text is not JSON
-/

namespace QueryTree

/-- **Why a text is not JSON.** The first four are texts that end too
early. -/
inductive Malformed where
  | endInList
  | endInObject
  | endInString
  | endInValue
  | expectedColon
  | expectedListEnd
  | expectedObjectEnd
  | expectedLiteral
  | expectedValue
  | expectedKey
  | invalidEscape
  | invalidNumber
  | numberOutOfRange
  | loneSurrogate
  | unpairedEscape
  | controlCharacter
  | trailingComma
  | trailingCharacters
  | nestedTooDeep
deriving DecidableEq, Repr

namespace Malformed

/-- Whether the text ends too early. -/
def isEnd : Malformed → Bool
  | endInList | endInObject | endInString | endInValue => true
  | _ => false

/-- The words for a reason. -/
def message : Malformed → String
  | endInList => "EOF while parsing a list"
  | endInObject => "EOF while parsing an object"
  | endInString => "EOF while parsing a string"
  | endInValue => "EOF while parsing a value"
  | expectedColon => "expected `:`"
  | expectedListEnd => "expected `,` or `]`"
  | expectedObjectEnd => "expected `,` or `\x7d`"
  | expectedLiteral => "expected ident"
  | expectedValue => "expected value"
  | expectedKey => "key must be a string"
  | invalidEscape => "invalid escape"
  | invalidNumber => "invalid number"
  | numberOutOfRange => "number out of range"
  | loneSurrogate => "lone leading surrogate in hex escape"
  | unpairedEscape => "unexpected end of hex escape"
  | controlCharacter => "control character (\\u0000-\\u001F) found while parsing a string"
  | trailingComma => "trailing comma"
  | trailingCharacters => "trailing characters"
  | nestedTooDeep => "recursion limit exceeded"

end Malformed

end QueryTree
