import QueryBuilder.Column

/-!
# Sort keys

One entry of an `ORDER BY` list: a column and a direction.
-/

namespace QueryBuilder
set_option autoImplicit false

/-- The direction of a sort. -/
inductive Direction where
  | ascending | descending
  deriving DecidableEq

/-- The direction as it stands in SQL. -/
def Direction.keyword : Direction → String
  | ascending => "ASC"
  | descending => "DESC"

/-- A column to sort by. -/
structure SortKey where
  column : Column
  direction : Direction
  deriving DecidableEq

namespace SortKey

/-- The text of a sort key: its column and its direction. -/
def text (k : SortKey) : String := k.column.text ++ " " ++ k.direction.keyword

/-- The sort key as it stands in SQL. -/
def fragment (k : SortKey) : Fragment := k.column.fragment ++ .text " " ++ .text k.direction.keyword

end SortKey

end QueryBuilder
