import QueryTree.Sql.Fragment
import QueryTree.Text.Shown
/-!
# Templates — text with holes for fragments

A question mark in a template is a hole, unless a backslash stands right
before it: the two together are a question mark in the text. A template
is filled with as many fragments as it has holes, in order.
-/

namespace QueryTree

/-- **Why a template is not filled:** it was given too few fragments or
too many. -/
structure TemplateError where
  template : String
  holes : Nat
  fragments : Nat
deriving DecidableEq, Repr

/-- The words for the error. -/
def TemplateError.message (error : TemplateError) : String :=
  s!"raw SQL {Text.shown error.template} has {error.holes} placeholder(s) " ++
    s!"but {error.fragments} binding(s) were supplied"

namespace Template

/-- The holes of a template, given whether its first character has a
backslash right before it. -/
def holesFrom (escaped : Bool) : List Char → Nat
  | [] => 0
  | c :: template =>
    (if c = '?' ∧ ¬ escaped then 1 else 0) + holesFrom (c = '\\') template

/-- How many holes a template has. -/
def holes (template : List Char) : Nat := holesFrom false template

/-- Put a template after a fragment, with fragments in its holes. -/
def splice : List Char → List Fragment → Fragment → Fragment
  | [], _, fragment => fragment
  | '\\' :: '?' :: template, fillings, fragment =>
    splice template fillings (fragment.appendText "?")
  -- not reached by `fill`, which counts the holes before
  | '?' :: template, [], fragment => splice template [] fragment
  | '?' :: template, filling :: fillings, fragment =>
    splice template fillings (fragment ++ filling)
  | c :: template, fillings, fragment =>
    splice template fillings (fragment.appendText c.toString)

/-- **Fill the holes of a template.** -/
def fill (template : String) (fillings : List Fragment) : Except TemplateError Fragment :=
  let text := template.toList
  if holes text = fillings.length then .ok (splice text fillings .empty)
  else .error ⟨template, holes text, fillings.length⟩

end Template

end QueryTree
