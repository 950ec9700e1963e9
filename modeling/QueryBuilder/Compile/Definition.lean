import QueryBuilder.Query.Definition

/-!
# SQL of queries that define tables

The columns come first, in declaration order, then one constraint for each foreign key.
-/

namespace QueryBuilder
set_option autoImplicit false

/-- Text that is written only under a condition. -/
def Fragment.textIf (condition : Bool) (s : String) : Fragment :=
  if condition then .text s else .empty

/-- The definition of a column. -/
def Field.definition (f : Field) : Fragment :=
  .text f.column ++ .text " " ++ .text f.type.sql ++ .textIf (!f.nullable) " NOT NULL" ++
    (match f.defaultValue with
      | some e => .text " DEFAULT " ++ .text e
      | none => .empty) ++
    .textIf f.autoIncrement " AUTO_INCREMENT" ++ .textIf f.primaryKey " PRIMARY KEY"

/-- The constraint of a foreign key. -/
def ForeignKey.constraint (column : String) (k : ForeignKey) : Fragment :=
  .text "FOREIGN KEY (" ++ .text column ++ .text ") REFERENCES " ++ .text k.table ++
    .text " (" ++ .text k.column ++ .text ")"

/-- The definition in SQL. -/
def CreateTable.fragment (q : CreateTable) : Fragment :=
  .text "CREATE TABLE " ++ .textIf q.ifNotExists "IF NOT EXISTS " ++ .text q.model.table ++
    .text " (" ++ Fragment.commaSeparated (q.model.fields.toList.map Field.definition) ++
    Fragment.concat (q.model.foreignKeys.map fun p => .text ", " ++ p.2.constraint p.1.column) ++
    .text ")"

/-- The removal in SQL. -/
def DropTable.fragment (q : DropTable) : Fragment :=
  .text "DROP TABLE " ++ .textIf q.ifExists "IF EXISTS " ++ .text q.model.table

end QueryBuilder
