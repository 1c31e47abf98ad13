import QueryTree.Node.Decode
import QueryTree.Proofs.Fields
/-!
# Entries — what the keys of each node say

For every record of the format: its fields do not get in each other's way
(`independent`), and a node is what the record says exactly if each of its
parts is what is found under its key (`says_iff`). Nothing below looks at
the tables of fields again.
-/

namespace QueryTree

open QueryTree.Field

variable {get : String → Option Json}

/-! ## Columns -/

namespace NamedColumn

theorem independent : record.Independent where
  nodup := by decide
  commute := by
    simp only [record, Field.required, Field.optional, List.pairwise_cons, List.forall_mem_cons,
      List.not_mem_nil, false_implies, implies_true, List.Pairwise.nil, and_true]
    and_intros <;> exact commute_map fun _ _ _ => rfl

/-- **The keys of a column by name.** -/
theorem says_iff {column : NamedColumn} :
    record.Says get column ↔
      Decoder.string.Requires (get "column") column.column ∧
      Decoder.string.Permits (get "type") column.cast ∧
      Decoder.string.Permits (get "alias") column.aliasName := by
  simp only [Record.Says, record, gathers_optional, gathers_required, gathers_nil]
  constructor
  · rintro ⟨_, hcolumn, _, hcast, _, halias, rfl⟩
    exact ⟨hcolumn, hcast, halias⟩
  · rintro ⟨hcolumn, hcast, halias⟩
    exact ⟨_, hcolumn, _, hcast, _, halias, rfl⟩

end NamedColumn

namespace FunctionColumn

variable {Column : Type} {column : Decoder Column}

theorem independent (column : Decoder Column) : (record column).Independent where
  nodup := (by decide : ["function", "parameters", "alias"].Nodup)
  commute := by
    simp only [record, Field.required, Field.optional, Field.defaulted, List.pairwise_cons,
      List.forall_mem_cons, List.not_mem_nil, false_implies, implies_true, List.Pairwise.nil,
      and_true]
    and_intros <;> exact commute_map fun _ _ _ => rfl

/-- **The keys of a function call.** -/
theorem says_iff {call : FunctionColumn Column} :
    (record column).Says get call ↔
      Decoder.string.Requires (get "function") call.function ∧
      column.list.Defaults [] (get "parameters") call.parameters ∧
      Decoder.string.Permits (get "alias") call.aliasName := by
  simp only [Record.Says, record, gathers_defaulted [], gathers_optional, gathers_required,
    gathers_nil]
  constructor
  · rintro ⟨_, hname, _, hparameters, _, halias, rfl⟩
    exact ⟨hname, hparameters, halias⟩
  · rintro ⟨hname, hparameters, halias⟩
    exact ⟨_, hname, _, hparameters, _, halias, rfl⟩

end FunctionColumn

namespace ValueColumn

theorem independent : record.Independent where
  nodup := by decide
  commute := by
    simp only [record, Field.required, Field.optional, List.pairwise_cons, List.forall_mem_cons,
      List.not_mem_nil, false_implies, implies_true, List.Pairwise.nil, and_true]
    and_intros <;> exact commute_map fun _ _ _ => rfl

/-- **The keys of a literal value.** -/
theorem says_iff {literal : ValueColumn} :
    record.Says get literal ↔
      Decoder.json.Requires (get "value") literal.value ∧
      Decoder.string.Permits (get "type") literal.cast ∧
      Decoder.string.Permits (get "alias") literal.aliasName := by
  simp only [Record.Says, record, gathers_optional, gathers_required, gathers_nil]
  constructor
  · rintro ⟨_, hvalue, _, hcast, _, halias, rfl⟩
    exact ⟨hvalue, hcast, halias⟩
  · rintro ⟨hvalue, hcast, halias⟩
    exact ⟨_, hvalue, _, hcast, _, halias, rfl⟩

end ValueColumn

/-! ## Filters -/

namespace ComparisonFilter

theorem independent : record.Independent where
  nodup := by decide
  commute := by
    simp only [record, Field.required, Field.optional, Field.defaulted, List.pairwise_cons,
      List.forall_mem_cons, List.not_mem_nil, false_implies, implies_true, List.Pairwise.nil,
      and_true]
    and_intros <;> exact commute_map fun _ _ _ => rfl

/-- **The keys of a comparison.** Its value is kept as it is found. -/
theorem says_iff {filter : ComparisonFilter} :
    record.Says get filter ↔
      ColumnRef.decoder.Requires (get "column") filter.column ∧
      Decoder.string.Requires (get "operator") filter.operator ∧
      filter.value = get "value" ∧
      Column.decoder.Permits (get "rightColumn") filter.rightColumn := by
  simp only [Record.Says, record, gathers_required, gathers_optional, gathers_nil,
    gathers_json fun v (f : ComparisonFilter) => { f with value := v }]
  constructor
  · rintro ⟨_, hcolumn, _, hoperator, _, hright, rfl⟩
    exact ⟨hcolumn, hoperator, rfl, hright⟩
  · obtain ⟨column, operator, value, rightColumn⟩ := filter
    rintro ⟨hcolumn, hoperator, rfl, hright⟩
    exact ⟨_, hcolumn, _, hoperator, _, hright, rfl⟩

end ComparisonFilter

namespace InFilter

theorem independent : record.Independent where
  nodup := by decide
  commute := List.pairwise_pair.mpr (commute_map fun _ _ _ => rfl)

/-- **The keys of a membership test.** -/
theorem says_iff {filter : InFilter} :
    record.Says get filter ↔
      ColumnRef.decoder.Requires (get "column") filter.column ∧
      Decoder.json.list.Requires (get "in") filter.values := by
  simp only [Record.Says, record, gathers_required, gathers_nil]
  constructor
  · rintro ⟨_, hcolumn, _, hvalues, rfl⟩
    exact ⟨hcolumn, hvalues⟩
  · rintro ⟨hcolumn, hvalues⟩
    exact ⟨_, hcolumn, _, hvalues, rfl⟩

end InFilter

namespace LikeFilter

theorem independent : record.Independent where
  nodup := by decide
  commute := List.pairwise_pair.mpr (commute_map fun _ _ _ => rfl)

/-- **The keys of a match.** -/
theorem says_iff {filter : LikeFilter} :
    record.Says get filter ↔
      ColumnRef.decoder.Requires (get "column") filter.column ∧
      Decoder.json.Requires (get "like") filter.pattern := by
  simp only [Record.Says, record, gathers_required, gathers_nil]
  constructor
  · rintro ⟨_, hcolumn, _, hpattern, rfl⟩
    exact ⟨hcolumn, hpattern⟩
  · rintro ⟨hcolumn, hpattern⟩
    exact ⟨_, hcolumn, _, hpattern, rfl⟩

end LikeFilter

namespace IsNullFilter

theorem independent : record.Independent where
  nodup := by decide
  commute := List.pairwise_pair.mpr (commute_map fun _ _ _ => rfl)

/-- **The keys of a null test.** -/
theorem says_iff {filter : IsNullFilter} :
    record.Says get filter ↔
      ColumnRef.decoder.Requires (get "column") filter.column ∧
      Decoder.bool.Requires (get "isNull") filter.isNull := by
  simp only [Record.Says, record, gathers_required, gathers_nil]
  constructor
  · rintro ⟨_, hcolumn, _, hisNull, rfl⟩
    exact ⟨hcolumn, hisNull⟩
  · rintro ⟨hcolumn, hisNull⟩
    exact ⟨_, hcolumn, _, hisNull, rfl⟩

end IsNullFilter

namespace Filter

variable {operand : Decoder Filter}

theorem independent_and (operand : Decoder Filter) : (andRecord operand).Independent :=
  ⟨List.nodup_singleton _, List.pairwise_singleton _ _⟩

theorem independent_or (operand : Decoder Filter) : (orRecord operand).Independent :=
  ⟨List.nodup_singleton _, List.pairwise_singleton _ _⟩

theorem independent_not (operand : Decoder Filter) : (notRecord operand).Independent :=
  ⟨List.nodup_singleton _, List.pairwise_singleton _ _⟩

/-- **The key of a conjunction.** -/
theorem says_and_iff {operands : List Filter} :
    (andRecord operand).Says get operands ↔ operand.list.Requires (get "and") operands := by
  simp only [Record.Says, andRecord, gathers_required, gathers_nil, exists_eq_right']

/-- **The key of a disjunction.** -/
theorem says_or_iff {operands : List Filter} :
    (orRecord operand).Says get operands ↔ operand.list.Requires (get "or") operands := by
  simp only [Record.Says, orRecord, gathers_required, gathers_nil, exists_eq_right']

/-- **The key of a negation.** -/
theorem says_not_iff {inner : Filter} :
    (notRecord operand).Says get inner ↔ operand.Requires (get "not") inner := by
  simp only [Record.Says, notRecord, gathers_required, gathers_nil, exists_eq_right']

end Filter

/-! ## Queries -/

namespace Join

variable {Query : Type} {query : Json → Except Mismatch Query}

theorem independent (query : Json → Except Mismatch Query) : (record query).Independent where
  nodup := (by decide : ["type", "table", "alias", "on"].Nodup)
  commute := by
    simp only [record, Field.required, Field.optional, List.pairwise_cons, List.forall_mem_cons,
      List.not_mem_nil, false_implies, implies_true, List.Pairwise.nil, and_true]
    and_intros <;> exact commute_map fun _ _ _ => rfl

/-- **The keys of a join.** -/
theorem says_iff {join : Join Query} :
    (record query).Says get join ↔
      Decoder.string.Requires (get "type") join.kind ∧
      (Decoder.buffered (Table.ofJson query)).Permits (get "table") join.table ∧
      Decoder.string.Permits (get "alias") join.aliasName ∧
      Filter.decoder.Permits (get "on") join.condition := by
  simp only [Record.Says, record, gathers_optional, gathers_required, gathers_nil]
  constructor
  · rintro ⟨_, hkind, _, htable, _, halias, _, hcondition, rfl⟩
    exact ⟨hkind, htable, halias, hcondition⟩
  · rintro ⟨hkind, htable, halias, hcondition⟩
    exact ⟨_, hkind, _, htable, _, halias, _, hcondition, rfl⟩

end Join

namespace OrderByElement

theorem independent : record.Independent where
  nodup := by decide
  commute := List.pairwise_pair.mpr (commute_map fun _ _ _ => rfl)

/-- **The keys of an element of an ordering.** -/
theorem says_iff {element : OrderByElement} :
    record.Says get element ↔
      ColumnRef.decoder.Requires (get "column") element.column ∧
      Decoder.string.Permits (get "direction") element.direction := by
  simp only [Record.Says, record, gathers_optional, gathers_required, gathers_nil]
  constructor
  · rintro ⟨_, hcolumn, _, hdirection, rfl⟩
    exact ⟨hcolumn, hdirection⟩
  · rintro ⟨hcolumn, hdirection⟩
    exact ⟨_, hcolumn, _, hdirection, rfl⟩

end OrderByElement

namespace Distinct

theorem independent : record.Independent where
  nodup := by decide
  commute := List.pairwise_pair.mpr (commute_map fun _ _ _ => rfl)

/-- **The keys of a distinct clause.** -/
theorem says_iff {distinct : Distinct} :
    record.Says get distinct ↔
      Column.decoder.list.Requires (get "columns") distinct.columns ∧
      Column.decoder.Permits (get "on") distinct.key := by
  simp only [Record.Says, record, gathers_optional, gathers_required, gathers_nil]
  constructor
  · rintro ⟨_, hcolumns, _, hkey, rfl⟩
    exact ⟨hcolumns, hkey⟩
  · rintro ⟨hcolumns, hkey⟩
    exact ⟨_, hcolumns, _, hkey, rfl⟩

end Distinct

namespace Query

variable {inner : Json → Except Mismatch Query}

theorem independent (inner : Json → Except Mismatch Query) : (record inner).Independent where
  nodup := (by decide : ["action", "table", "alias", "columns", "filter", "join",
      "group_by", "having", "order_by", "limit", "offset", "distinct"].Nodup)
  commute := by
    simp only [record, Field.optional, List.pairwise_cons, List.forall_mem_cons, List.not_mem_nil,
      false_implies, implies_true, List.Pairwise.nil, and_true]
    and_intros <;> exact commute_map fun _ _ _ => rfl

/-- **The keys of a query.** -/
theorem says_iff {query : Query} :
    (record inner).Says get query ↔
      Decoder.string.Permits (get "action") query.action ∧
      (Decoder.buffered (Table.ofJson inner)).Permits (get "table") query.table ∧
      Decoder.string.Permits (get "alias") query.aliasName ∧
      Column.decoder.list.Permits (get "columns") query.columns ∧
      Filter.decoder.Permits (get "filter") query.filter ∧
      (Decoder.buffered (SingleOrList.ofJson (Join.record inner).ofJson)).Permits (get "join")
        query.join ∧
      Column.decoder.list.Permits (get "group_by") query.groupBy ∧
      Filter.decoder.Permits (get "having") query.having ∧
      OrderByElement.record.decoder.list.Permits (get "order_by") query.orderBy ∧
      Decoder.uint64.Permits (get "limit") query.limit ∧
      Decoder.uint64.Permits (get "offset") query.offset ∧
      Distinct.record.decoder.Permits (get "distinct") query.distinct := by
  simp only [Record.Says, record, gathers_optional, gathers_nil]
  constructor
  · rintro ⟨_, haction, _, htable, _, halias, _, hcolumns, _, hfilter, _, hjoin, _, hgroupBy, _,
      hhaving, _, horderBy, _, hlimit, _, hoffset, _, hdistinct, rfl⟩
    exact ⟨haction, htable, halias, hcolumns, hfilter, hjoin, hgroupBy, hhaving, horderBy, hlimit,
      hoffset, hdistinct⟩
  · cases query
    rintro ⟨haction, htable, halias, hcolumns, hfilter, hjoin, hgroupBy, hhaving, horderBy, hlimit,
      hoffset, hdistinct⟩
    exact ⟨_, haction, _, htable, _, halias, _, hcolumns, _, hfilter, _, hjoin, _, hgroupBy, _,
      hhaving, _, horderBy, _, hlimit, _, hoffset, _, hdistinct, rfl⟩

end Query

end QueryTree
