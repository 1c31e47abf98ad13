import QueryTree.Json.Record
import QueryTree.Node.Query
/-!
# Decoding — nodes from JSON

Columns and filters are objects whose keys select the variant, and a
variant is a record. Everything with variants is buffered, so from a text
only a query, its distinct clause, its ordering and the lists between
them are read without going through a value in memory.
-/

namespace QueryTree

/-! ## Columns -/

namespace NamedColumn

/-- The fields of a column by name. -/
def record : Record NamedColumn where
  name := "NamedColumn"
  blank := {}
  fields := [
    .required "column" .string fun v c => { c with column := v },
    .optional "type" .string fun v c => { c with cast := v },
    .optional "alias" .string fun v c => { c with aliasName := v }]

end NamedColumn

namespace FunctionColumn

variable {Column : Type}

/-- The fields of a function call, given how its parameters are decoded. -/
def record (column : Decoder Column) : Record (FunctionColumn Column) where
  name := "FunctionColumn"
  blank := {}
  fields := [
    .required "function" .string fun v c => { c with function := v },
    .defaulted "parameters" column.list fun v c => { c with parameters := v },
    .optional "alias" .string fun v c => { c with aliasName := v }]

end FunctionColumn

namespace ValueColumn

/-- The fields of a literal value. -/
def record : Record ValueColumn where
  name := "ValueColumn"
  blank := {}
  fields := [
    .required "value" .json fun v c => { c with value := v },
    .optional "type" .string fun v c => { c with cast := v },
    .optional "alias" .string fun v c => { c with aliasName := v }]

end ValueColumn

namespace Column

/-- One layer of a column: the variant that the first of these keys
selects, given how the columns inside are decoded. -/
def layer (inner : Json → Except Mismatch Column) : Json → Except Mismatch Column :=
  Decoder.byKey "column" [
    ("function", fun value =>
      ((FunctionColumn.record (.buffered inner)).ofJson value).map .function),
    ("column", fun value => (NamedColumn.record.ofJson value).map .named),
    ("value", fun value => (ValueColumn.record.ofJson value).map .value)]

/-- **A column from JSON.** -/
def ofJson : Json → Except Mismatch Column := Decoder.nested layer

/-- The decoder of a column. -/
def decoder : Decoder Column := .buffered ofJson

end Column

namespace ColumnRef

/-- A column or the name of one from JSON. -/
def ofJson : Json → Except Mismatch ColumnRef
  | .string n => .ok (.name n)
  | value => (Column.ofJson value).map .column

/-- The decoder of a column or the name of one. -/
def decoder : Decoder ColumnRef := .buffered ofJson

end ColumnRef

/-! ## Filters -/

namespace ComparisonFilter

/-- The fields of a comparison. A value of `null` is a value. -/
def record : Record ComparisonFilter where
  name := "ComparisonFilter"
  blank := {}
  fields := [
    .required "column" ColumnRef.decoder fun v f => { f with column := v },
    .required "operator" .string fun v f => { f with operator := v },
    .defaulted "value" .json fun v f => { f with value := some v },
    .optional "rightColumn" Column.decoder fun v f => { f with rightColumn := v }]

end ComparisonFilter

namespace InFilter

/-- The fields of a membership test. -/
def record : Record InFilter where
  name := "InFilter"
  blank := {}
  fields := [
    .required "column" ColumnRef.decoder fun v f => { f with column := v },
    .required "in" Decoder.json.list fun v f => { f with values := v }]

end InFilter

namespace LikeFilter

/-- The fields of a match. -/
def record : Record LikeFilter where
  name := "LikeFilter"
  blank := {}
  fields := [
    .required "column" ColumnRef.decoder fun v f => { f with column := v },
    .required "like" .json fun v f => { f with pattern := v }]

end LikeFilter

namespace IsNullFilter

/-- The fields of a null test. -/
def record : Record IsNullFilter where
  name := "IsNullFilter"
  blank := {}
  fields := [
    .required "column" ColumnRef.decoder fun v f => { f with column := v },
    .required "isNull" .bool fun v f => { f with isNull := v }]

end IsNullFilter

namespace Filter

/-- The field of a conjunction, given how its operands are decoded. -/
def andRecord (operand : Decoder Filter) : Record (List Filter) where
  name := "AndFilter"
  blank := []
  fields := [.required "and" operand.list fun v _ => v]

/-- The field of a disjunction, given how its operands are decoded. -/
def orRecord (operand : Decoder Filter) : Record (List Filter) where
  name := "OrFilter"
  blank := []
  fields := [.required "or" operand.list fun v _ => v]

/-- The field of a negation, given how its operand is decoded. -/
def notRecord (operand : Decoder Filter) : Record Filter where
  name := "NotFilter"
  blank := .and []
  fields := [.required "not" operand fun v _ => v]

/-- One layer of a filter: the variant that the first of these keys
selects, given how the filters inside are decoded. -/
def layer (inner : Json → Except Mismatch Filter) : Json → Except Mismatch Filter :=
  let operand : Decoder Filter := .buffered inner
  -- the order of the keys decides where an object has several
  Decoder.byKey "filter" [
    ("operator", fun value => (ComparisonFilter.record.ofJson value).map .comparison),
    ("in", fun value => (InFilter.record.ofJson value).map .membership),
    ("like", fun value => (LikeFilter.record.ofJson value).map .like),
    ("isNull", fun value => (IsNullFilter.record.ofJson value).map .isNull),
    ("and", fun value => ((andRecord operand).ofJson value).map .and),
    ("or", fun value => ((orRecord operand).ofJson value).map .or),
    ("not", fun value => ((notRecord operand).ofJson value).map .not)]

/-- **A filter from JSON.** -/
def ofJson : Json → Except Mismatch Filter := Decoder.nested layer

/-- The decoder of a filter. -/
def decoder : Decoder Filter := .buffered ofJson

end Filter

/-! ## Queries -/

namespace SingleOrList

variable {α : Type}

/-- A list of values, or one value, from JSON. -/
def ofJson (item : Json → Except Mismatch α) : Json → Except Mismatch (SingleOrList α)
  | .array items => (Decoder.itemsOfJson item items).map .list
  | value => (item value).map .single

end SingleOrList

namespace Table

variable {Query : Type}

/-- A table from JSON: its name or a query. -/
def ofJson (query : Json → Except Mismatch Query) : Json → Except Mismatch (Table Query)
  | .string n => .ok (.name n)
  | value => (query value).map .query

end Table

namespace Join

variable {Query : Type}

/-- The fields of a join, given how a query inside is decoded. -/
def record (query : Json → Except Mismatch Query) : Record (Join Query) where
  name := "Join"
  blank := {}
  fields := [
    .required "type" .string fun v j => { j with kind := v },
    .optional "table" (.buffered (Table.ofJson query)) fun v j => { j with table := v },
    .optional "alias" .string fun v j => { j with aliasName := v },
    .optional "on" Filter.decoder fun v j => { j with condition := v }]

end Join

namespace OrderByElement

/-- The fields of an element of an ordering. -/
def record : Record OrderByElement where
  name := "OrderByElement"
  blank := {}
  fields := [
    .required "column" ColumnRef.decoder fun v e => { e with column := v },
    .optional "direction" .string fun v e => { e with direction := v }]

end OrderByElement

namespace Distinct

/-- The fields of a distinct clause. -/
def record : Record Distinct where
  name := "Distinct"
  blank := {}
  fields := [
    .required "columns" Column.decoder.list fun v d => { d with columns := v },
    .optional "on" Column.decoder fun v d => { d with key := v }]

end Distinct

namespace Query

/-- The fields of a query, given how a query inside is decoded. -/
def record (inner : Json → Except Mismatch Query) : Record Query where
  name := "Query"
  blank := {}
  fields := [
    .optional "action" .string fun v q => { q with action := v },
    .optional "table" (.buffered (Table.ofJson inner)) fun v q => { q with table := v },
    .optional "alias" .string fun v q => { q with aliasName := v },
    .optional "columns" Column.decoder.list fun v q => { q with columns := v },
    .optional "filter" Filter.decoder fun v q => { q with filter := v },
    .optional "join" (.buffered (SingleOrList.ofJson (Join.record inner).ofJson))
      fun v q => { q with join := v },
    .optional "group_by" Column.decoder.list fun v q => { q with groupBy := v },
    .optional "having" Filter.decoder fun v q => { q with having := v },
    .optional "order_by" OrderByElement.record.decoder.list fun v q => { q with orderBy := v },
    .optional "limit" .uint64 fun v q => { q with limit := v },
    .optional "offset" .uint64 fun v q => { q with offset := v },
    .optional "distinct" Distinct.record.decoder fun v q => { q with distinct := v }]

/-- **A query from JSON.** -/
def ofJson : Json → Except Mismatch Query := Decoder.nested fun inner => (record inner).ofJson

/-- **The decoder of a query.** From a text the record is read as it is
written, and the queries inside go through memory. -/
def decoder : Decoder Query where
  ofJson
  read := (record ofJson).read

end Query

/-- The decoder of a table. -/
def Table.decoder : Decoder (Table Query) := .buffered (Table.ofJson Query.ofJson)

/-- The decoder of a join, where it stands alone. -/
def Join.decoder : Decoder (Join Query) := (Join.record Query.ofJson).decoder

/-- The decoder of the joins of a query. -/
def Join.listDecoder : Decoder (SingleOrList (Join Query)) :=
  .buffered (SingleOrList.ofJson Join.decoder.ofJson)

end QueryTree
