import QueryBuilder.Session.Context

/-!
# Sets of rows of a model

What a context offers for one model: rows by the values of their fields, and rows that are
added, updated and removed.
-/

namespace QueryBuilder
set_option autoImplicit false

/-- The rows of a model as a context sees them. -/
structure ModelSet where
  context : Context
  model : Model

namespace ModelSet

/-- The query for all rows. -/
def selectQuery (s : ModelSet) : Select := .all s.model

/-- The query that inserts a row. -/
def insertQuery (s : ModelSet) (r : Row) : Insert := ⟨s.model, r⟩

/-- The query that updates a row. -/
def updateQuery (s : ModelSet) (r : Row) : Update := ⟨s.model, r⟩

/-- The query that deletes a row. -/
def deleteQuery (s : ModelSet) (r : Row) : Delete := ⟨s.model, r⟩

/-- The query for the rows in which every named field has the given value. -/
def matching (s : ModelSet) (filters : List (String × Value)) : Select :=
  filters.foldl (fun q f => q.restrict (.eq (s.model.column f.1) f.2)) s.selectQuery

variable {σ : Type} [Connection σ]

/-- The first row in which every named field has the given value. -/
def get (s : ModelSet) (filters : List (String × Value)) : Session σ (Option Row) :=
  s.context.fetchOne (s.matching filters)

/-- All rows. -/
def all (s : ModelSet) : Session σ (List Row) := s.context.fetchAll s.selectQuery

/-- Inserts a row. -/
def add (s : ModelSet) (r : Row) : Session σ UInt64 := s.context.execute (.insert (s.insertQuery r))

/-- Updates a row. -/
def update (s : ModelSet) (r : Row) : Session σ UInt64 :=
  s.context.execute (.update (s.updateQuery r))

/-- Deletes a row. -/
def remove (s : ModelSet) (r : Row) : Session σ UInt64 :=
  s.context.execute (.delete (s.deleteQuery r))

end ModelSet

end QueryBuilder
