import QueryTree.Json.Malformed
import QueryTree.Json.Mismatch
/-!
# Faults — what stops the reading of a text, and where

Reading consumes a text from the left, so a place in it is what is left
unread, together with the bytes of it that a complaint counts as read. A
reader that refuses a value for its shape does not know its place yet:
the list or record around it finishes first, and the fault is placed
where that ended. A fault that no list or record has placed is reported
without a position.
-/

namespace QueryTree

/-- What is wrong with a text. -/
inductive Problem where
  | malformed (reason : Malformed)
  | mismatch (reason : Mismatch)

/-- The words for a problem. -/
def Problem.message : Problem → String
  | malformed reason => reason.message
  | mismatch reason => reason.message

/-- **What stops the reading of a text.** -/
structure Fault where
  problem : Problem
  /-- The text that was not read. -/
  rest : List Char
  /-- How many bytes of the rest the complaint counts as read. -/
  ahead : Nat
  /-- Whether the place is known. -/
  placed : Bool

namespace Fault

/-- A complaint about what has been read. -/
def before (reason : Malformed) (rest : List Char) : Fault :=
  ⟨.malformed reason, rest, 0, true⟩

/-- A complaint about the next byte. -/
def atNext (reason : Malformed) (rest : List Char) : Fault :=
  ⟨.malformed reason, rest, 1, true⟩

/-- A value that was read and has the wrong shape. -/
def misfit (reason : Mismatch) (rest : List Char) : Fault :=
  ⟨.mismatch reason, rest, 0, true⟩

/-- A value of the wrong shape whose place the surrounding list or record
decides. -/
def unplaced (reason : Mismatch) (rest : List Char) : Fault :=
  ⟨.mismatch reason, rest, 0, false⟩

/-- Place a fault, unless it has a place, where the rest leads. -/
def place (lead : List Char → List Char) (fault : Fault) : Fault :=
  if fault.placed then fault else { fault with rest := lead fault.rest, placed := true }

end Fault

/-! ## Positions -/

/-- **A position in a text:** lines from 1, and in a line the bytes
before it. -/
structure Position where
  line : Nat
  column : Nat
deriving DecidableEq, Repr

namespace Position

/-- The position `bytes` bytes further in a text. -/
def advance : Nat → List Char → Position → Position
  | _, [], position => position
  | bytes, c :: text, position =>
    if bytes = 0 then position
    else if c = '\n' then advance (bytes - 1) text ⟨position.line + 1, 0⟩
    else if c.utf8Size ≤ bytes then
      advance (bytes - c.utf8Size) text ⟨position.line, position.column + c.utf8Size⟩
    -- a position may be inside a character
    else ⟨position.line, position.column + bytes⟩

/-- The position after so many bytes of a text, or at its end. -/
def ofBytes (text : List Char) (bytes : Nat) : Position := advance bytes text ⟨1, 0⟩

end Position

/-- The bytes of a text. -/
def byteCount (text : List Char) : Nat := text.foldr (fun c bytes => c.utf8Size + bytes) 0

/-- **A refusal of a value or a text:** the problem, and its position
where the value was read from text and the position is known. -/
structure Refusal where
  problem : Problem
  position : Option Position

namespace Refusal

/-- A value in memory was refused. -/
def ofMismatch (reason : Mismatch) : Refusal := ⟨.mismatch reason, none⟩

/-- Reading a text stopped. -/
def ofFault (text : List Char) (fault : Fault) : Refusal :=
  let bytes := byteCount text - byteCount fault.rest + fault.ahead
  ⟨fault.problem, if fault.placed then some (.ofBytes text bytes) else none⟩

/-- The words for a refusal. -/
def message (refusal : Refusal) : String :=
  match refusal.position with
  | none => refusal.problem.message
  | some ⟨line, column⟩ => s!"{refusal.problem.message} at line {line} column {column}"

end Refusal

end QueryTree
