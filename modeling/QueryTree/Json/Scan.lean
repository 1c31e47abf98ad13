import QueryTree.Json.Fault
/-!
# Scanning — blanks, words, strings and numbers

The smallest pieces of a JSON text. Each scanner takes the text that is
left and returns what it read with the text after it. Where a text is
malformed, the fault counts the byte that could not be accepted as read
if it was taken, or as next if it was only looked at.
-/

namespace QueryTree

/-- What a scanner returns: a value and the text after it. -/
abbrev Scanned (α : Type) := Except Fault (α × List Char)

namespace Scanned

variable {α β : Type}

/-- Go on with what was read and the text after it. -/
def andThen (scanned : Scanned α) (next : α → List Char → Scanned β) : Scanned β :=
  match scanned with
  | .ok (a, rest) => next a rest
  | .error fault => .error fault

/-- Change what was read. -/
def map (f : α → β) (scanned : Scanned α) : Scanned β :=
  scanned.andThen fun a rest => .ok (f a, rest)

end Scanned

namespace Scan

/-- A blank between the pieces of a text. -/
def isBlank (c : Char) : Bool := c = ' ' || c = '\n' || c = '\t' || c = '\r'

/-- The text from its first character that is not blank. -/
def skipBlank (text : List Char) : List Char := text.dropWhile isBlank

/-- The rest of a word whose first letter has been read. -/
def word {α : Type} (value : α) : List Char → List Char → Scanned α
  | [], text => .ok (value, text)
  | _ :: _, [] => .error (.before .endInValue [])
  | letter :: letters, c :: text =>
    if c = letter then word value letters text else .error (.atNext .expectedLiteral (c :: text))

/-! ## Strings -/

/-- The value of a hexadecimal digit. -/
def hexDigit? (c : Char) : Option Nat :=
  if '0' ≤ c ∧ c ≤ '9' then some (c.toNat - 48)
  else if 'a' ≤ c ∧ c ≤ 'f' then some (c.toNat - 87)
  else if 'A' ≤ c ∧ c ≤ 'F' then some (c.toNat - 55)
  else none

/-- The four hexadecimal digits of an escape. Four bytes are taken
whatever they are, and refused if they are not digits. -/
def hexEscape (text : List Char) : Scanned Nat :=
  match text with
  | a :: b :: c :: d :: rest =>
    match hexDigit? a, hexDigit? b, hexDigit? c, hexDigit? d with
    | some a, some b, some c, some d => .ok (((a * 16 + b) * 16 + c) * 16 + d, rest)
    | _, _, _, _ => .error ⟨.malformed .invalidEscape, text, 4, true⟩
  | short =>
    -- fewer than four characters may still be four bytes
    if byteCount short < 4 then .error (.before .endInString [])
    else .error ⟨.malformed .invalidEscape, text, 4, true⟩

/-- The second half of a character that takes two escapes, whose first
half was `high`. -/
def secondEscape (high : Nat) (text : List Char) : Scanned Char :=
  match text with
  | [] => .error (.before .endInString [])
  | '\\' :: [] => .error (.before .endInString [])
  | '\\' :: 'u' :: rest =>
    (hexEscape rest).andThen fun low rest =>
      if 0xDC00 ≤ low ∧ low ≤ 0xDFFF then
        .ok (Char.ofNat ((high - 0xD800) * 1024 + (low - 0xDC00) + 0x10000), rest)
      else .error (.before .loneSurrogate rest)
  | '\\' :: rest => .error (.atNext .unpairedEscape rest)
  | rest => .error (.atNext .unpairedEscape rest)

/-- The character that an escape by number stands for. Halves of
characters beyond the first 65536 must come in pairs. -/
def numberEscape (text : List Char) : Scanned Char :=
  (hexEscape text).andThen fun code rest =>
    -- a second half without a first one
    if 0xDC00 ≤ code ∧ code ≤ 0xDFFF then .error (.before .loneSurrogate rest)
    else if 0xD800 ≤ code ∧ code ≤ 0xDBFF then secondEscape code rest
    else .ok (Char.ofNat code, rest)

/-- The character that an escape stands for, after its backslash. -/
def escape (text : List Char) : Scanned Char :=
  match text with
  | [] => .error (.before .endInString [])
  | '"' :: rest => .ok ('"', rest)
  | '\\' :: rest => .ok ('\\', rest)
  | '/' :: rest => .ok ('/', rest)
  | 'b' :: rest => .ok (Char.ofNat 8, rest)
  | 'f' :: rest => .ok (Char.ofNat 12, rest)
  | 'n' :: rest => .ok ('\n', rest)
  | 'r' :: rest => .ok ('\r', rest)
  | 't' :: rest => .ok ('\t', rest)
  | 'u' :: rest => numberEscape rest
  | text => .error (.atNext .invalidEscape text)

/-- The characters of a string up to its closing quote, put after the
characters `read` before them, the last one first. Every step consumes a
character, so `fuel` may be the length of the text. -/
def stringFrom : Nat → List Char → List Char → Scanned String
  | 0, _, text => .error (.before .endInString text)
  | fuel + 1, read, text =>
    match text with
    | [] => .error (.before .endInString [])
    | '"' :: rest => .ok (String.ofList read.reverse, rest)
    | '\\' :: rest =>
      (escape rest).andThen fun c rest => stringFrom fuel (c :: read) rest
    | c :: rest =>
      if c.toNat < 32 then .error (.atNext .controlCharacter (c :: rest))
      else stringFrom fuel (c :: read) rest

/-- **A string,** after its opening quote. -/
def string (text : List Char) : Scanned String := stringFrom (text.length + 1) [] text

/-! ## Numbers -/

/-- Whether a text starts with a digit. -/
def startsWithDigit : List Char → Bool
  | c :: _ => c.isDigit
  | [] => false

/-- The value of some digits put after the digits of `n`. -/
def digitsFrom (n : Nat) (digits : List Char) : Nat :=
  digits.foldl (fun n c => n * 10 + (c.toNat - 48)) n

/-- The number `digits * 10 ^ exponent`, which ends before `rest`. -/
def finishFloat (negative : Bool) (digits : Nat) (exponent : Int) (rest : List Char) :
    Scanned JsonNumber :=
  match Binary64.ofDecimal? negative digits exponent with
  | some x => .ok (.float x, rest)
  | none => .error (.before .numberOutOfRange rest)

/-- The greatest exponent that is computed with. -/
def exponentLimit : Nat := Nat.pow 2 31 - 1

/-- The digits of an exponent after the first, whose value is `value`: the exponent,
or none where it passes the limit, with the text after it or after the
digit that passed it. -/
def exponentFrom (value : Nat) : List Char → Option Nat × List Char
  | [] => (some value, [])
  | c :: text =>
    if c.isDigit then
      let value := value * 10 + (c.toNat - 48)
      if exponentLimit < value then (none, text) else exponentFrom value text
    else (some value, c :: text)

/-- The exponent of a number and what follows, after the letter that
announces it. An exponent beyond the limit makes a number zero, or puts
it out of range. -/
def exponent (negative : Bool) (digits : Nat) (scale : Int) (text : List Char) :
    Scanned JsonNumber :=
  let (shrinks, text) :=
    match text with
    | '+' :: rest => (false, rest)
    | '-' :: rest => (true, rest)
    | text => (false, text)
  match text with
  | [] => .error (.before .endInValue [])
  | c :: rest =>
    if c.isDigit then
      match exponentFrom (c.toNat - 48) rest with
      | (some value, rest) =>
        finishFloat negative digits (if shrinks then scale - value else scale + value) rest
      | (none, rest) =>
        -- so far out, only the sign of the exponent counts
        if digits ≠ 0 ∧ ¬ shrinks then .error (.before .numberOutOfRange rest)
        else .ok (.float (.zero negative), rest.dropWhile Char.isDigit)
    else .error (.atNext .invalidNumber (c :: rest))

/-- An integer that ends before `rest`. Negative zero, and integers that
do not fit 64 bits, are floating-point numbers. -/
def finishInteger (negative : Bool) (digits : Nat) (rest : List Char) : Scanned JsonNumber :=
  if negative then
    -- there is one more integer of 64 bits below zero than above
    if digits = 0 ∨ Nat.pow 2 63 < digits then finishFloat negative digits 0 rest
    else .ok (.int (-digits), rest)
  else if Nat.pow 2 64 ≤ digits then finishFloat negative digits 0 rest
  else .ok (.int digits, rest)

/-- What may follow the digits before the point: a point, an exponent, or
the end of the number. -/
def afterInteger (negative : Bool) (digits : Nat) (text : List Char) : Scanned JsonNumber :=
  match text with
  | '.' :: rest =>
    match rest.takeWhile Char.isDigit with
    | [] => .error (.atNext (if rest.isEmpty then .endInValue else .invalidNumber) rest)
    | places =>
      let digits := digitsFrom digits places
      let scale : Int := -places.length
      match rest.dropWhile Char.isDigit with
      | 'e' :: rest => exponent negative digits scale rest
      | 'E' :: rest => exponent negative digits scale rest
      | rest => finishFloat negative digits scale rest
  | 'e' :: rest => exponent negative digits 0 rest
  | 'E' :: rest => exponent negative digits 0 rest
  | rest => finishInteger negative digits rest

/-- **A number,** after its sign. A zero before the point stands alone. -/
def number (negative : Bool) (text : List Char) : Scanned JsonNumber :=
  match text with
  | [] => .error (.before .endInValue [])
  | '0' :: rest =>
    if startsWithDigit rest then .error (.atNext .invalidNumber rest)
    else afterInteger negative 0 rest
  | c :: rest =>
    if c.isDigit then
      let text := c :: rest
      afterInteger negative (digitsFrom 0 (text.takeWhile Char.isDigit))
        (text.dropWhile Char.isDigit)
    else .error (.atNext .invalidNumber (c :: rest))

/-! ## Scalars -/

/-- **A value that is neither a list nor an object,** where its first
character is next. -/
def scalar (text : List Char) : Scanned Json :=
  match text with
  | 'n' :: rest => word .null ['u', 'l', 'l'] rest
  | 't' :: rest => word (.bool true) ['r', 'u', 'e'] rest
  | 'f' :: rest => word (.bool false) ['a', 'l', 's', 'e'] rest
  | '"' :: rest => (string rest).map .string
  | '-' :: rest => (number true rest).map .number
  | text =>
    if startsWithDigit text then (number false text).map .number
    else .error (.atNext .expectedValue text)

end Scan

end QueryTree
