import QueryTree.Json.Basic
/-!
# Fragments — pieces of SQL before a dialect is chosen

A fragment is text with names and parameters in it. Names are quoted and
parameters numbered only when a fragment is rendered, so a fragment can
be put into another one anywhere. Neighbouring texts are kept as one and
empty texts not at all, so that a fragment has one form.
-/

namespace QueryTree

/-- **The value of a parameter.** -/
inductive Param where
  | null
  | bool (b : Bool)
  | int (n : Int64)
  | float (x : Binary64)
  | string (s : String)
deriving DecidableEq, Repr

/-- A parameter as JSON. -/
def Param.toJson : Param → Json
  | null => .null
  | bool b => .bool b
  | int n => .number (.int n.toInt)
  | float x => .number (.float x)
  | string s => .string s

/-- **One part of a fragment.** -/
inductive Part where
  /-- Text that is written as it is. -/
  | text (text : String)
  /-- A name, which may be qualified, such as `albums.title`. -/
  | identifier (name : String)
  /-- An alias, which is always one name. -/
  | aliasName (name : String)
  /-- A parameter. -/
  | param (param : Param)
deriving DecidableEq, Repr

/-- **A piece of SQL.** -/
structure Fragment where
  parts : List Part
deriving DecidableEq, Repr

namespace Fragment

/-- The fragment without parts. -/
def empty : Fragment := ⟨[]⟩

/-- Whether a fragment has no parts. -/
def isEmpty (fragment : Fragment) : Bool := fragment.parts.isEmpty

/-- Parts with a text put at their end, as part of the last one where that
is a text. -/
def textAtEnd (text : String) : List Part → List Part
  | [] => [.text text]
  | [.text last] => [.text (last ++ text)]
  | part :: parts => part :: textAtEnd text parts

/-- Put a text at the end; an empty text changes nothing. -/
def appendText (fragment : Fragment) (text : String) : Fragment :=
  if text.isEmpty then fragment else ⟨textAtEnd text fragment.parts⟩

/-- Put a part at the end. -/
def push (fragment : Fragment) : Part → Fragment
  | .text text => fragment.appendText text
  | part => ⟨fragment.parts ++ [part]⟩

/-- **One fragment after another.** -/
def append (first second : Fragment) : Fragment := second.parts.foldl push first

instance : Append Fragment := ⟨append⟩

/-- A fragment that is a text. -/
def ofText (text : String) : Fragment := empty.appendText text

/-- A fragment that is a name. -/
def identifier (name : String) : Fragment := ⟨[.identifier name]⟩

/-- A fragment that is an alias. -/
def ofAlias (name : String) : Fragment := ⟨[.aliasName name]⟩

/-- A fragment that is a parameter. -/
def ofParam (param : Param) : Fragment := ⟨[.param param]⟩

/-- The parameters of a fragment, in order. -/
def params (fragment : Fragment) : List Param :=
  fragment.parts.filterMap fun
    | .param param => some param
    | _ => none

/-- How many parameters a fragment has. -/
def placeholderCount (fragment : Fragment) : Nat := fragment.params.length

/-! ## Parameters of composed fragments -/

theorem params_appendText (fragment : Fragment) (text : String) :
    (fragment.appendText text).params = fragment.params := by
  obtain ⟨parts⟩ := fragment
  unfold appendText
  split
  · rfl
  · induction parts using textAtEnd.induct with
    | case1 => rfl
    | case2 last => rfl
    | case3 part parts _ ih =>
      simp only [params, textAtEnd, List.filterMap_cons] at ih ⊢
      rw [ih]

theorem params_push (fragment : Fragment) (part : Part) :
    (fragment.push part).params = fragment.params ++ params ⟨[part]⟩ := by
  cases part with
  | text text => simp only [push, params_appendText]; simp [params]
  | identifier name => simp [push, params]
  | aliasName name => simp [push, params]
  | param param => simp [push, params]

/-- The parameters of two fragments, one after the other, are those of the
first and then those of the second. -/
@[simp] theorem params_append (first second : Fragment) :
    (first ++ second).params = first.params ++ second.params := by
  obtain ⟨parts⟩ := second
  change (parts.foldl push first).params = first.params ++ params ⟨parts⟩
  induction parts generalizing first with
  | nil => simp [params]
  | cons part parts ih =>
    rw [List.foldl_cons, ih, params_push, List.append_assoc]
    simp only [params]
    rw [← List.filterMap_append, List.singleton_append]

theorem placeholderCount_append (first second : Fragment) :
    (first ++ second).placeholderCount = first.placeholderCount + second.placeholderCount := by
  simp [placeholderCount]

/-! ## Composition -/

/-- Fragments after one that stands already, each with the separator
before it. -/
def joinedAfter (separator : String) (fragment : Fragment) : List Fragment → Fragment
  | [] => fragment
  | next :: rest => joinedAfter separator (fragment.appendText separator ++ next) rest

/-- **Fragments with a separator between them.** -/
def joined (separator : String) : List Fragment → Fragment
  | [] => empty
  | first :: rest => joinedAfter separator (empty ++ first) rest

/-- A fragment in parentheses. -/
def parenthesized (fragment : Fragment) : Fragment :=
  (ofText "(" ++ fragment).appendText ")"

end Fragment

end QueryTree
