import QueryTree.Json.Basic
import QueryTree.Node.Query
/-!
# Encoding — nodes as JSON

A node is written with its keys in the order of its fields. What is
missing is left out, save the parameters of a function, which are always
written.
-/

namespace QueryTree

/-- A text that may be missing. -/
def textJson : Option String → Option Json := Option.map .string

mutual

/-- **A column as JSON.** -/
def Column.toJson : Column → Json
  | .named column =>
    .ofMembers [
      ("column", some (.string column.column)),
      ("type", textJson column.cast),
      ("alias", textJson column.aliasName)]
  | .function ⟨name, parameters, aliasName⟩ =>
    .ofMembers [
      ("function", some (.string name)),
      ("parameters", some (.array (Column.listToJson parameters))),
      ("alias", textJson aliasName)]
  | .value literal =>
    .ofMembers [
      ("value", some literal.value),
      ("type", textJson literal.cast),
      ("alias", textJson literal.aliasName)]

/-- Columns as JSON. -/
def Column.listToJson : List Column → List Json
  | [] => []
  | column :: columns => column.toJson :: Column.listToJson columns

end

/-- A column or the name of one as JSON. -/
def ColumnRef.toJson : ColumnRef → Json
  | .name n => .string n
  | .column c => c.toJson

mutual

/-- **A filter as JSON.** -/
def Filter.toJson : Filter → Json
  | .comparison f =>
    .ofMembers [
      ("column", some f.column.toJson),
      ("operator", some (.string f.operator)),
      ("value", f.value),
      ("rightColumn", f.rightColumn.map Column.toJson)]
  | .membership f =>
    .ofMembers [("column", some f.column.toJson), ("in", some (.array f.values))]
  | .like f =>
    .ofMembers [("column", some f.column.toJson), ("like", some f.pattern)]
  | .isNull f =>
    .ofMembers [("column", some f.column.toJson), ("isNull", some (.bool f.isNull))]
  | .and operands => .ofMembers [("and", some (.array (Filter.listToJson operands)))]
  | .or operands => .ofMembers [("or", some (.array (Filter.listToJson operands)))]
  | .not operand => .ofMembers [("not", some operand.toJson)]

/-- Filters as JSON. -/
def Filter.listToJson : List Filter → List Json
  | [] => []
  | filter :: filters => filter.toJson :: Filter.listToJson filters

end

/-- An element of an ordering as JSON. -/
def OrderByElement.toJson (element : OrderByElement) : Json :=
  .ofMembers [
    ("column", some element.column.toJson),
    ("direction", textJson element.direction)]

/-- A distinct clause as JSON. -/
def Distinct.toJson (distinct : Distinct) : Json :=
  .ofMembers [
    ("columns", some (.array (Column.listToJson distinct.columns))),
    ("on", distinct.key.map Column.toJson)]

/-- A number of rows as JSON. -/
def countJson (n : UInt64) : Json := .number (.int n.toNat)

mutual

/-- **A query as JSON.** -/
def Query.toJson : Query → Json
  | ⟨action, table, aliasName, columns, filter, join, groupBy, having, orderBy, limit, offset,
      distinct⟩ =>
    .ofMembers [
      ("action", textJson action),
      ("table", Table.optionToJson table),
      ("alias", textJson aliasName),
      ("columns", columns.map fun columns => .array (Column.listToJson columns)),
      ("filter", filter.map Filter.toJson),
      ("join", Join.optionToJson join),
      ("group_by", groupBy.map fun columns => .array (Column.listToJson columns)),
      ("having", having.map Filter.toJson),
      ("order_by", orderBy.map fun elements => .array (elements.map OrderByElement.toJson)),
      ("limit", limit.map countJson),
      ("offset", offset.map countJson),
      ("distinct", distinct.map Distinct.toJson)]

/-- **A table as JSON.** -/
def Table.toJson : Table Query → Json
  | .name name => .string name
  | .query query => query.toJson

/-- A table that may be missing as JSON. -/
def Table.optionToJson : Option (Table Query) → Option Json
  | none => none
  | some table => some (Table.toJson table)

/-- **A join as JSON.** -/
def Join.toJson : Join Query → Json
  | ⟨kind, table, aliasName, condition⟩ =>
    .ofMembers [
      ("type", some (.string kind)),
      ("table", Table.optionToJson table),
      ("alias", textJson aliasName),
      ("on", condition.map Filter.toJson)]

/-- Joins in a list as JSON. -/
def Join.listToJson : List (Join Query) → List Json
  | [] => []
  | join :: joins => Join.toJson join :: Join.listToJson joins

/-- One join or a list of them as JSON. -/
def Join.singleOrListToJson : SingleOrList (Join Query) → Json
  | .single join => Join.toJson join
  | .list joins => .array (Join.listToJson joins)

/-- Joins that may be missing as JSON. -/
def Join.optionToJson : Option (SingleOrList (Join Query)) → Option Json
  | none => none
  | some joins => some (Join.singleOrListToJson joins)

end

end QueryTree
