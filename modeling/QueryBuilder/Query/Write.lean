import QueryBuilder.Clause
import QueryBuilder.Error
import QueryBuilder.Row
import QueryBuilder.Schema.Model

/-!
# Queries that write rows

A row is inserted, updated or deleted as a whole; updates and deletions find it by its primary
key. Changing some columns only, or all rows that match a condition, is not supported.
-/

namespace QueryBuilder
set_option autoImplicit false

/-- A new row. -/
structure Insert where
  model : Model
  row : Row
  deriving DecidableEq

/-- The new content of the row with the primary key that `row` has. -/
structure Update where
  model : Model
  row : Row
  deriving DecidableEq

/-- The row with the primary key that `row` has, to be deleted. -/
structure Delete where
  model : Model
  row : Row
  deriving DecidableEq

/-- The same statement for another row, of another model. -/
def Insert.replace (_ : Insert) (m : Model) (r : Row) : Insert := ⟨m, r⟩

/-- The same statement for another row, of another model. -/
def Update.replace (_ : Update) (m : Model) (r : Row) : Update := ⟨m, r⟩

/-- An update of some columns. -/
def Update.setColumns (_ : Update) (_ : Row) : Except Error Update :=
  .error (.unsupported .updateColumns)

/-- An update of all rows that match a condition. -/
def Update.restrict (_ : Update) (_ : Clause) : Except Error Update :=
  .error (.unsupported .updateWhere)

/-- A deletion of the rows that have the given values. -/
def Delete.matching (_ : Delete) (_ : Row) : Except Error Delete :=
  .error (.unsupported .deleteMatching)

/-- A deletion of all rows that match a condition. -/
def Delete.restrict (_ : Delete) (_ : Clause) : Except Error Delete :=
  .error (.unsupported .deleteWhere)

end QueryBuilder
