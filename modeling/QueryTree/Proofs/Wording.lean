import Mathlib
import QueryTree.Proofs.Occurrence
/-!
# Wording — the same query in other words

Much of a query may be said in more than one way. An alias where none is
shown may be another one, or none; a default may be written out; a list of
one join may be that join alone; the names of joins and directions may be
in either case. For each kind of node one relation allows all of this at
once and anywhere below it, and nothing else, up to `Query.Reworded`. None
of them mentions how a node is compiled.
-/

namespace QueryTree

/-! ## Texts and what may be missing -/

/-- **The cases of a character.** Only the letters of ASCII have two. -/
inductive CaseOf (c : Char) : Char → Prop where
  | same : CaseOf c c
  | lower : CaseOf c c.toLower
  | upper : CaseOf c c.toUpper

/-- **A text with letters in other cases.** -/
def Recased (first second : String) : Prop := List.Forall₂ CaseOf first.toList second.toList

theorem caseOf_iff {c d : Char} : CaseOf c d ↔ d = c ∨ d = c.toLower ∨ d = c.toUpper := by
  constructor
  · intro h
    cases h with
    | same => exact .inl rfl
    | lower => exact .inr (.inl rfl)
    | upper => exact .inr (.inr rfl)
  · rintro (rfl | rfl | rfl)
    · exact .same
    · exact .lower
    · exact .upper

instance : DecidableRel CaseOf := fun _ _ => decidable_of_iff' _ caseOf_iff

instance (first second : String) : Decidable (Recased first second) :=
  inferInstanceAs (Decidable (List.Forall₂ CaseOf first.toList second.toList))

theorem CaseOf.toLower_eq {c d : Char} (h : CaseOf c d) : d.toLower = c.toLower := by
  cases h with
  | same => rfl
  | lower => exact c.toLower_toLower_eq_toLower
  | upper => exact c.toLower_toUpper_eq_toLower

/-- In lower case the cases of the letters are lost. -/
theorem Recased.toLower_eq {first second : String} (h : Recased first second) :
    second.toLower = first.toLower := by
  have hletters : ∀ {cs ds : List Char}, List.Forall₂ CaseOf cs ds →
      ds.map Char.toLower = cs.map Char.toLower := by
    intro cs ds hcases
    induction hcases with
    | nil => rfl
    | cons hcase _ ih => rw [List.map_cons, List.map_cons, hcase.toLower_eq, ih]
  refine String.toList_injective ?_
  rw [String.toLower, String.toLower, String.toList_map, String.toList_map, hletters h]

/-- **An alias in other words.** Where no alias is shown, it may be dropped,
or replaced by any other that can be one. -/
inductive AliasReworded : Bool → Option String → Option String → Prop where
  | same {shown : Bool} {aliasName : Option String} : AliasReworded shown aliasName aliasName
  | dropped {name : String} : AliasReworded false (some name) none
  | replaced {name other : String} (hother : other.isEmpty = false) :
      AliasReworded false (some name) (some other)

/-- **A value that may be missing in other words:** where it is missing, the
default may be written out. -/
inductive Defaulted {α : Type} (Reworded : α → α → Prop) (default : α) :
    Option α → Option α → Prop where
  | missing : Defaulted Reworded default none none
  | written : Defaulted Reworded default none (some default)
  | given {first second : α} (h : Reworded first second) :
      Defaulted Reworded default (some first) (some second)

/-- Whether missing or not, the value meant is the same in other words. -/
theorem Defaulted.getD {α : Type} {Reworded : α → α → Prop} {default : α} {first second : Option α}
    (h : Defaulted Reworded default first second) (hdefault : Reworded default default) :
    Reworded (first.getD default) (second.getD default) := by
  cases h with
  | missing => exact hdefault
  | written => exact hdefault
  | given h => exact h

/-! ## Columns -/

/-- **A column in other words,** where its alias is shown or is not. The
aliases of parameters never are. -/
inductive Column.Reworded : Bool → Column → Column → Prop where
  | same {shown : Bool} {column : Column} : Reworded shown column column
  | named {shown : Bool} {column : NamedColumn} {aliasName : Option String}
      (halias : AliasReworded shown column.aliasName aliasName) :
      Reworded shown (.named column) (.named { column with aliasName })
  | function {shown : Bool} {call : FunctionColumn Column} {parameters : List Column}
      {aliasName : Option String}
      (hparameters : List.Forall₂ (Reworded false) call.parameters parameters)
      (halias : AliasReworded shown call.aliasName aliasName) :
      Reworded shown (.function call) (.function { call with parameters, aliasName })
  | value {shown : Bool} {literal : ValueColumn} {aliasName : Option String}
      (halias : AliasReworded shown literal.aliasName aliasName) :
      Reworded shown (.value literal) (.value { literal with aliasName })

theorem Column.rewordedAll_refl (shown : Bool) (columns : List Column) :
    List.Forall₂ (Reworded shown) columns columns :=
  List.forall₂_same.mpr fun _ _ => .same

/-- **A column or the name of one in other words:** a name may be written as
the column it stands for. -/
inductive ColumnRef.Reworded : ColumnRef → ColumnRef → Prop where
  | same {column : ColumnRef} : Reworded column column
  | written {name : String} : Reworded (.name name) (.column (.ofName name))
  | column {first second : Column} (h : first.Reworded false second) :
      Reworded (.column first) (.column second)

theorem ColumnRef.Reworded.toColumn {first second : ColumnRef} (h : first.Reworded second) :
    first.toColumn.Reworded false second.toColumn := by
  cases h with
  | same => exact .same
  | written => exact .same
  | column h => exact h

/-! ## Clauses -/

/-- **A condition in other words.** -/
inductive Filter.Reworded : Filter → Filter → Prop where
  | same {filter : Filter} : Reworded filter filter
  | comparison {filter : ComparisonFilter} {column : ColumnRef} {rightColumn : Option Column}
      (hcolumn : filter.column.Reworded column)
      (hright : Option.Rel (Column.Reworded false) filter.rightColumn rightColumn) :
      Reworded (.comparison filter) (.comparison { filter with column, rightColumn })
  | membership {filter : InFilter} {column : ColumnRef} (hcolumn : filter.column.Reworded column) :
      Reworded (.membership filter) (.membership { filter with column })
  | like {filter : LikeFilter} {column : ColumnRef} (hcolumn : filter.column.Reworded column) :
      Reworded (.like filter) (.like { filter with column })
  | isNull {filter : IsNullFilter} {column : ColumnRef} (hcolumn : filter.column.Reworded column) :
      Reworded (.isNull filter) (.isNull { filter with column })
  | and {first second : List Filter} (hoperands : List.Forall₂ Reworded first second) :
      Reworded (.and first) (.and second)
  | or {first second : List Filter} (hoperands : List.Forall₂ Reworded first second) :
      Reworded (.or first) (.or second)
  | not {first second : Filter} (hoperand : Reworded first second) :
      Reworded (.not first) (.not second)

/-- **An element of an ordering in other words.** -/
structure OrderByElement.Reworded (first second : OrderByElement) : Prop where
  column : first.column.Reworded second.column
  direction : Defaulted Recased "asc" first.direction second.direction

/-- **A distinct clause in other words.** Its columns are shown with their
aliases, its key is not. -/
structure Distinct.Reworded (first second : Distinct) : Prop where
  columns : List.Forall₂ (Column.Reworded true) first.columns second.columns
  key : Option.Rel (Column.Reworded false) first.key second.key

/-! ## Queries -/

section Queries

variable {Query : Type}

/-- A table in other words, given those for a query. -/
inductive Table.Reworded (Inner : Query → Query → Prop) : Table Query → Table Query → Prop where
  | name {name : String} : Reworded Inner (.name name) (.name name)
  | query {first second : Query} (h : Inner first second) :
      Reworded Inner (.query first) (.query second)

/-- A join in other words, given those for a query that is its table. Its
alias is shown. -/
inductive Join.Reworded (Inner : Query → Query → Prop) : Join Query → Join Query → Prop where
  | intro {kind otherKind : String} {table otherTable : Option (Table Query)}
      {aliasName : Option String} {condition otherCondition : Option Filter}
      (hkind : Recased kind otherKind)
      (htable : Option.Rel (Table.Reworded Inner) table otherTable)
      (hcondition : Option.Rel Filter.Reworded condition otherCondition) :
      Reworded Inner ⟨kind, table, aliasName, condition⟩
        ⟨otherKind, otherTable, aliasName, otherCondition⟩

/-- One value or a list of them in other words: one may be written as a list. -/
inductive SingleOrList.Reworded {α : Type} (Item : α → α → Prop) :
    SingleOrList α → SingleOrList α → Prop where
  | single {first second : α} (h : Item first second) :
      Reworded Item (.single first) (.single second)
  | listed {first second : α} (h : Item first second) :
      Reworded Item (.single first) (.list [second])
  | list {first second : List α} (h : List.Forall₂ Item first second) :
      Reworded Item (.list first) (.list second)

theorem SingleOrList.Reworded.toList {α : Type} {Item : α → α → Prop}
    {first second : SingleOrList α} (h : Reworded Item first second) :
    List.Forall₂ Item first.toList second.toList := by
  cases h with
  | single h => exact .cons h .nil
  | listed h => exact .cons h .nil
  | list h => exact h

end Queries

namespace Query

/-- **A query in other words,** at the top or nested in another one. Only a
query at the top needs its action, and only a nested one shows its alias. -/
inductive Reworded : Bool → Query → Query → Prop where
  | same {nested : Bool} {query : Query} : Reworded nested query query
  | intro {nested : Bool} {first second : Query}
      (action : nested = false → second.action = first.action)
      (table : Option.Rel (Table.Reworded (Reworded true)) first.table second.table)
      (aliasName : AliasReworded nested first.aliasName second.aliasName)
      (columns : Defaulted (List.Forall₂ (Column.Reworded true)) first.defaultColumns
        first.columns second.columns)
      (filter : Option.Rel Filter.Reworded first.filter second.filter)
      (join : Defaulted (SingleOrList.Reworded (Join.Reworded (Reworded true))) (.list [])
        first.join second.join)
      (groupBy : Defaulted (List.Forall₂ (Column.Reworded false)) [] first.groupBy second.groupBy)
      (having : Option.Rel Filter.Reworded first.having second.having)
      (orderBy : Option.Rel (List.Forall₂ OrderByElement.Reworded) first.orderBy second.orderBy)
      (limit : Defaulted Eq 0 first.limit second.limit)
      (offset : Defaulted Eq 0 first.offset second.offset)
      (distinct : Option.Rel Distinct.Reworded first.distinct second.distinct) :
      Reworded nested first second

end Query

end QueryTree
