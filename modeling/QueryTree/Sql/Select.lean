import QueryTree.Sql.Dialect
import QueryTree.Sql.Fragment
/-!
# Select statements — the clauses and their order

The clauses of a statement are fragments by the time it is put together.
A clause that is missing leaves no trace; a select list without distinct
rows and without columns is `*`.
-/

namespace QueryTree

/-- **What rows are read from,** with an alias if there is one. -/
inductive Source where
  | table (name : String) (aliasName : Option String)
  | subquery (query : Fragment) (aliasName : Option String)

namespace Source

/-- An alias after what it names. -/
def aliasFragment : Option String → Fragment
  | none => .empty
  | some name => .ofText " AS " ++ .ofAlias name

/-- A source as SQL. -/
def toFragment : Source → Fragment
  | table name aliasName => .identifier name ++ aliasFragment aliasName
  | subquery query aliasName => .parenthesized query ++ aliasFragment aliasName

end Source

/-- **The kind of a join.** -/
inductive JoinKind where
  | inner
  | left
  | right
  | full
  | cross
deriving DecidableEq, Repr

namespace JoinKind

/-- A kind as SQL. -/
def keywords : JoinKind → String
  | inner => "INNER JOIN"
  | left => "LEFT JOIN"
  | right => "RIGHT JOIN"
  | full => "FULL OUTER JOIN"
  | cross => "CROSS JOIN"

/-- The kind of a name, whatever the case of its letters. -/
def ofName? (name : String) : Option JoinKind :=
  match name.toLower with
  | "inner" => some inner
  | "left" => some left
  | "right" => some right
  | "full" => some full
  | "cross" => some cross
  | _ => none

end JoinKind

/-- **A join as SQL.** -/
def joinFragment (kind : JoinKind) (source : Source) (condition : Option Fragment) : Fragment :=
  let joined := Fragment.ofText (kind.keywords ++ " ") ++ source.toFragment
  match condition with
  | none => joined
  | some condition => joined.appendText " ON " ++ condition

/-- **The direction of an ordering.** -/
inductive Direction where
  | ascending
  | descending
deriving DecidableEq, Repr

namespace Direction

/-- A direction as SQL, after what it orders by. -/
def keyword : Direction → String
  | ascending => " ASC"
  | descending => " DESC"

/-- The direction of a name, whatever the case of its letters. -/
def ofName? (name : String) : Option Direction :=
  match name.toLower with
  | "asc" => some ascending
  | "desc" => some descending
  | _ => none

end Direction

/-- **How many rows are skipped and how many are kept.** -/
structure Limit where
  limit : Option UInt64 := none
  offset : Option UInt64 := none
deriving DecidableEq, Repr

/-- The limit and offset to write in a dialect: an offset alone gets the
limit that the dialect demands there. -/
def Dialect.limit (dialect : Dialect) (limit offset : Option UInt64) : Limit :=
  match limit, offset with
  -- some dialects cannot say how many rows to skip without a limit
  | none, some offset => ⟨dialect.unboundedLimit?, some offset⟩
  | limit, offset => ⟨limit, offset⟩

/-- **A select statement.** -/
structure Select where
  /-- What makes the rows distinct, written before the columns. -/
  distinct : Option Fragment := none
  columns : List Fragment := []
  source : Option Source := none
  joins : List Fragment := []
  filter : Option Fragment := none
  groupBy : List Fragment := []
  having : Option Fragment := none
  orderBy : Option Fragment := none
  limit : Limit := {}

namespace Select

/-- Fragments with commas between them. -/
def commaSeparated (fragments : List Fragment) : Fragment := .joined ", " fragments

/-- A keyword before what it introduces, if that is there. -/
def clause (keyword : String) : Option Fragment → Fragment
  | none => .empty
  | some body => .ofText keyword ++ body

/-- A keyword before a number of rows, if there is one. -/
def countClause (keyword : String) : Option UInt64 → Fragment
  | none => .empty
  | some count => .ofText (keyword ++ toString count.toNat)

/-- The select list, with what makes the rows distinct. -/
def selectList (select : Select) : Fragment :=
  let columns := commaSeparated select.columns
  match select.distinct with
  | some distinct =>
    if select.columns.isEmpty then distinct else distinct.appendText ", " ++ columns
  | none => if select.columns.isEmpty then .ofText "*" else columns

/-- Each join with a blank before it. -/
def joinList (select : Select) : Fragment :=
  select.joins.foldl (fun fragment join => fragment.appendText " " ++ join) .empty

/-- The grouping, if there is any. -/
def grouping (select : Select) : Fragment :=
  if select.groupBy.isEmpty then .empty
  else .ofText " GROUP BY " ++ commaSeparated select.groupBy

/-- The ordering, if there is any. -/
def ordering (select : Select) : Fragment :=
  match select.orderBy with
  | none => .empty
  | some elements => if elements.isEmpty then .empty else .ofText " ORDER BY " ++ elements

/-- **A select statement as SQL.** -/
def toFragment (select : Select) : Fragment :=
  .ofText "SELECT " ++ select.selectList ++ clause " FROM " (select.source.map Source.toFragment) ++
    select.joinList ++ clause " WHERE " select.filter ++ select.grouping ++
    clause " HAVING " select.having ++ select.ordering ++
    countClause " LIMIT " select.limit.limit ++ countClause " OFFSET " select.limit.offset

end Select

end QueryTree
