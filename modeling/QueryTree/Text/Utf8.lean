/-!
# UTF-8 — reading bytes as text

Files and standard input hold bytes, and a query is text. Decoding goes
through the bytes one at a time. Between characters a byte starts the
next one; inside a character it must lie in the range its predecessors
left. The first byte that fits neither is where the text stops being
text, and the fault says where the character it breaks had begun.
-/

namespace QueryTree

namespace Text

/-- **Why some bytes are not text.** -/
structure Utf8Fault where
  /-- Where the broken character starts. -/
  index : Nat
  /-- How many bytes the broken sequence has, or none where the bytes end
  inside a character that was good so far. -/
  length : Option Nat
deriving DecidableEq, Repr

/-- The words for a fault. -/
def Utf8Fault.message (fault : Utf8Fault) : String :=
  match fault.length with
  | some n => s!"invalid utf-8 sequence of {n} bytes from index {fault.index}"
  | none => s!"incomplete utf-8 byte sequence from index {fault.index}"

/-- A character of which some bytes have been read. -/
structure Utf8Pending where
  /-- The index of its first byte. -/
  start : Nat
  /-- The code point bits so far. -/
  code : Nat
  /-- The bytes it still needs, at least one. -/
  owed : Nat
  /-- The least value of the next byte. -/
  low : Nat
  /-- The greatest value of the next byte. -/
  high : Nat

/-- What a byte outside ASCII begins. The range of the second byte
excludes the overlong forms, the surrogates and everything beyond the
last code point. -/
def Utf8Pending.ofLead? (start b : Nat) : Option Utf8Pending :=
  if 0xC2 ≤ b ∧ b ≤ 0xDF then some ⟨start, b - 0xC0, 1, 0x80, 0xBF⟩
  else if b = 0xE0 then some ⟨start, b - 0xE0, 2, 0xA0, 0xBF⟩
  else if b = 0xED then some ⟨start, b - 0xE0, 2, 0x80, 0x9F⟩
  else if 0xE1 ≤ b ∧ b ≤ 0xEF then some ⟨start, b - 0xE0, 2, 0x80, 0xBF⟩
  else if b = 0xF0 then some ⟨start, b - 0xF0, 3, 0x90, 0xBF⟩
  else if 0xF1 ≤ b ∧ b ≤ 0xF3 then some ⟨start, b - 0xF0, 3, 0x80, 0xBF⟩
  else if b = 0xF4 then some ⟨start, b - 0xF0, 3, 0x80, 0x8F⟩
  else none

/-- Decode the bytes from `index` on. `read` holds the characters before
them, the last one first. -/
def decodeUtf8From (index : Nat) (pending : Option Utf8Pending) (read : List Char) :
    List UInt8 → Except Utf8Fault (List Char)
  | [] =>
    match pending with
    | none => .ok read.reverse
    | some p => .error ⟨p.start, none⟩
  | byte :: bytes =>
    let b := byte.toNat
    match pending with
    | none =>
      if b < 0x80 then decodeUtf8From (index + 1) none (Char.ofNat b :: read) bytes
      else match Utf8Pending.ofLead? index b with
        | none => .error ⟨index, some 1⟩
        | some p => decodeUtf8From (index + 1) (some p) read bytes
    | some p =>
      if p.low ≤ b ∧ b ≤ p.high then
        let code := p.code * 64 + (b - 0x80)
        if p.owed ≤ 1 then decodeUtf8From (index + 1) none (Char.ofNat code :: read) bytes
        else decodeUtf8From (index + 1) (some ⟨p.start, code, p.owed - 1, 0x80, 0xBF⟩) read bytes
      else .error ⟨p.start, some (index - p.start)⟩

/-- **The text some bytes encode.** -/
def decodeUtf8 (bytes : List UInt8) : Except Utf8Fault String :=
  (decodeUtf8From 0 none [] bytes).map String.ofList

/-- The text some bytes encode up to a fault, a replacement character for
the sequence at fault, and so on, for at most `fuel` faults. -/
def decodeUtf8LossyFrom : Nat → List UInt8 → String
  | 0, _ => ""
  | fuel + 1, bytes =>
    match decodeUtf8 bytes with
    | .ok text => text
    | .error fault =>
      let before := ((decodeUtf8 (bytes.take fault.index)).toOption).getD ""
      let after :=
        match fault.length with
        | none => []
        | some length => bytes.drop (fault.index + length)
      before ++ "\uFFFD" ++ decodeUtf8LossyFrom fuel after

/-- **The text to show for some bytes,** whether or not they encode one. -/
def decodeUtf8Lossy (bytes : List UInt8) : String :=
  decodeUtf8LossyFrom (bytes.length + 1) bytes

end Text

end QueryTree
