import QueryBuilder.Error
import QueryBuilder.Schema.Model

/-!
# Joins

Two models are joined through a foreign key that one of them declares. The first field of the
left model that references the right one decides; if there is none, the first field of the
right model that references the left one. The condition equates the column of that field with
the primary key of the other model. Names of columns never make a relation.
-/

namespace QueryBuilder
set_option autoImplicit false

/-- How rows without a partner are treated. -/
inductive JoinKind where
  | inner | left | right
  deriving DecidableEq

/-- The words of a join in SQL. -/
def JoinKind.keyword : JoinKind → String
  | inner => "INNER JOIN"
  | left => "LEFT JOIN"
  | right => "RIGHT JOIN"

/-- The columns that two tables are joined on. -/
structure Relation where
  foreignKey : Column
  primaryKey : Column
  deriving DecidableEq

namespace Relation

/-- The first field of a model that references another model. -/
def reference? (m target : Model) : Option Field :=
  (m.foreignKeys.find? fun p => p.2.table = target.table).map Prod.fst

/-- The columns that relate a field of a model to its target. -/
def through (m : Model) (f : Field) (target : Model) : Relation :=
  ⟨.qualified m.table f.column, .qualified target.table target.primaryKey⟩

/-- The relation between two models; the left one's declaration goes first. -/
def between (left right : Model) : Except Error Relation :=
  match reference? left right with
  | some f => .ok (through left f right)
  | none =>
    match reference? right left with
    | some f => .ok (through right f left)
    | none => .error (.noRelation left.table right.table)

end Relation

/-- A join of a model to the one before it. -/
structure Join where
  left : Model
  right : Model
  kind : JoinKind
  on : Relation
  deriving DecidableEq

namespace Join

/-- The join of two models, if they are related. -/
def between (left right : Model) (kind : JoinKind) : Except Error Join :=
  (Relation.between left right).map fun on => ⟨left, right, kind, on⟩

/-- The join as it stands in SQL. -/
def fragment (j : Join) : Fragment :=
  .text j.kind.keyword ++ .text " " ++ .text j.right.table ++ .text " ON " ++
    j.on.foreignKey.fragment ++ .text " = " ++ j.on.primaryKey.fragment

end Join

end QueryBuilder
