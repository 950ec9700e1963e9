import QueryBuilder.Column
import QueryBuilder.KeyedList
import QueryBuilder.Schema.SqlType

/-!
# Models

A model describes a table: its name, its primary key column and its fields in declaration
order. A field that references another table is stored in a column with `_id` after its name;
every other field is stored in the column of its own name. The primary key is the column
`id` until a field marked as primary key is added; of several the last one counts.
-/

namespace QueryBuilder
set_option autoImplicit false

/-- The column that a foreign key refers to. -/
structure ForeignKey where
  table : String
  column : String
  deriving DecidableEq

/-- A field of a model. -/
structure Field where
  name : String
  type : SqlType
  nullable : Bool
  primaryKey : Bool
  /-- Whether the database generates the value. -/
  autoIncrement : Bool
  /-- The SQL expression of the default value. -/
  defaultValue : Option String
  foreignKey : Option ForeignKey
  deriving DecidableEq

/-- A property that is given to a field. -/
inductive Field.Attribute where
  | nullable
  | primaryKey
  | autoIncrement
  | defaultValue (expression : String)
  | references (table column : String)

namespace Field

/-- A field that is not nullable and has no other property. -/
def plain (name : String) (type : SqlType) : Field :=
  ⟨name, type, false, false, false, none, none⟩

/-- The field with one more property; a default value or a reference replaces the old one. -/
def set (f : Field) : Attribute → Field
  | .nullable => { f with nullable := true }
  | .primaryKey => { f with primaryKey := true }
  | .autoIncrement => { f with autoIncrement := true }
  | .defaultValue expression => { f with defaultValue := some expression }
  | .references table column => { f with foreignKey := some ⟨table, column⟩ }

/-- The column that stores the field. -/
def column (f : Field) : String := if f.foreignKey.isSome then f.name ++ "_id" else f.name

end Field

/-- A table with its fields in declaration order. -/
structure Model where
  table : String
  primaryKey : String
  fields : KeyedList Field.name
  deriving DecidableEq

namespace Model

/-- A model without fields. -/
def named (table : String) : Model := ⟨table, "id", .empty⟩

/-- Adds a field, in the place of a field of the same name if there is one. -/
def add (m : Model) (f : Field) : Model where
  table := m.table
  primaryKey := if f.primaryKey then f.column else m.primaryKey
  fields := m.fields.insert f

/-- The model with another primary key column. -/
def withPrimaryKey (m : Model) (column : String) : Model := { m with primaryKey := column }

/-- The first field that is stored in the primary key column. -/
def primaryKeyField? (m : Model) : Option Field :=
  m.fields.toList.find? fun f => f.column == m.primaryKey

/-- The fields that reference a table, in declaration order. -/
def foreignKeys (m : Model) : List (Field × ForeignKey) :=
  m.fields.toList.filterMap fun f => f.foreignKey.map (f, ·)

/-- The columns of the table, in declaration order. -/
def columns (m : Model) : List String := m.fields.toList.map Field.column

/-- The column of a field, with its table. A name that is no field is taken as a column. -/
def column (m : Model) (name : String) : Column :=
  .qualified m.table (((m.fields.find? name).map Field.column).getD name)

/-- The same table, primary key and fields; the order of the fields does not count. -/
def same (m n : Model) : Bool :=
  m.table == n.table && m.primaryKey == n.primaryKey && m.fields.agrees (· == ·) n.fields

end Model

/-- A field that references the primary key of `target` and has the type of that key. -/
def Field.foreign (name : String) (target : Model) : Field :=
  (Field.plain name ((target.primaryKeyField?.map Field.type).getD .bigInt)).set
    (.references target.table target.primaryKey)

end QueryBuilder
