import QueryBuilder.Schema.Model

/-!
# Queries that define tables
-/

namespace QueryBuilder
set_option autoImplicit false

/-- The definition of a table. -/
structure CreateTable where
  model : Model
  ifNotExists : Bool
  deriving DecidableEq

/-- The removal of a table. -/
structure DropTable where
  model : Model
  ifExists : Bool
  deriving DecidableEq

/-- The definition, to be skipped where the table exists. -/
def CreateTable.orKeep (q : CreateTable) : CreateTable := { q with ifNotExists := true }

/-- The removal, to be skipped where the table does not exist. -/
def DropTable.orSkip (q : DropTable) : DropTable := { q with ifExists := true }

end QueryBuilder
