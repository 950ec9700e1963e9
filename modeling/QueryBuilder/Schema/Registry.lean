import QueryBuilder.Error
import QueryBuilder.Schema.Model

/-!
# Schemas

A schema is a collection of models. One that is collected from registered models has them in
the order of their table names, whatever the order of registration.
-/

namespace QueryBuilder
set_option autoImplicit false

/-- A collection of models. -/
structure Schema where
  models : List Model

namespace Schema

/-- The registered models, sorted by the code points of their table names. -/
def collect (registered : List Model) : Schema :=
  ⟨registered.mergeSort fun a b => a.table ≤ b.table⟩

/-- The first model of a table. -/
def model (s : Schema) (table : String) : Except Error Model :=
  match s.models.find? (·.table = table) with
  | some m => .ok m
  | none => .error (.unknownModel table)

end Schema

end QueryBuilder
