import QueryBuilder.Query.Definition
import QueryBuilder.Query.Select
import QueryBuilder.Query.Write

/-!
# Queries
-/

namespace QueryBuilder
set_option autoImplicit false

/-- A query of any kind. -/
inductive Query where
  | select (q : Select)
  | insert (q : Insert)
  | update (q : Update)
  | delete (q : Delete)
  | createTable (q : CreateTable)
  | dropTable (q : DropTable)
  | showTables
  deriving DecidableEq

end QueryBuilder
