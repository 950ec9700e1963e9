import QueryBuilder.Clause
import QueryBuilder.Join
import QueryBuilder.SortKey

/-!
# Select queries

A select query is built from the empty one on a model by steps, each of which gives a new
query. Filters are joined by `AND`, sort keys and joins are appended, everything else is
replaced. Each join relates a model to the one joined before it. Limit 0 means no limit.
-/

namespace QueryBuilder
set_option autoImplicit false

/-- A query for rows of a table and of the tables joined to it. -/
structure Select where
  model : Model
  /-- The projection; empty for all columns. -/
  fields : List String
  filter : Option Clause
  order : List SortKey
  joins : List Join
  limit : UInt64
  offset : UInt64
  deriving DecidableEq

namespace Select

/-- All rows of a model. -/
def all (m : Model) : Select := ⟨m, [], none, [], [], 0, 0⟩

/-- The query with another projection. -/
def project (q : Select) (fields : List String) : Select := { q with fields }

/-- The query with one more condition. -/
def restrict (q : Select) (c : Clause) : Select :=
  { q with filter := some (match q.filter with | some old => .and old c | none => c) }

/-- The query with one more sort key. -/
def orderBy (q : Select) (k : SortKey) : Select := { q with order := q.order ++ [k] }

/-- The model that the next join relates to. -/
def lastModel (q : Select) : Model := (q.joins.getLast?.map Join.right).getD q.model

/-- The query with one more model, if that is related to the last one. -/
def join (q : Select) (m : Model) (kind : JoinKind) : Except Error Select :=
  (Join.between q.lastModel m kind).map fun j => { q with joins := q.joins ++ [j] }

/-- The query with another limit. -/
def limitTo (q : Select) (n : UInt64) : Select := { q with limit := n }

/-- The query with another offset. -/
def skip (q : Select) (n : UInt64) : Select := { q with offset := n }

/-- The query for a page of a size; pages are counted from one. An offset that does not fit is
the greatest one. -/
def paginate (q : Select) (page size : UInt64) : Select :=
  { q with limit := size, offset := UInt64.ofNatClamp ((page.toNat - 1) * size.toNat) }

/-- The projection of a count query. -/
def countColumn : String := "COUNT(1)"

/-- The query for the number of rows, without order, limit and offset. -/
def count (q : Select) : Select :=
  { q with fields := [countColumn], order := [], limit := 0, offset := 0 }

/-- A step of building a query. -/
inductive Step where
  | project (fields : List String)
  | restrict (c : Clause)
  | orderBy (k : SortKey)
  | join (m : Model) (kind : JoinKind)
  | limit (n : UInt64)
  | offset (n : UInt64)
  | paginate (page size : UInt64)
  | count

/-- The query after a step. -/
def apply (q : Select) : Step → Except Error Select
  | .project fields => .ok (q.project fields)
  | .restrict c => .ok (q.restrict c)
  | .orderBy k => .ok (q.orderBy k)
  | .join m kind => q.join m kind
  | .limit n => .ok (q.limitTo n)
  | .offset n => .ok (q.skip n)
  | .paginate page size => .ok (q.paginate page size)
  | .count => .ok q.count

end Select

end QueryBuilder
