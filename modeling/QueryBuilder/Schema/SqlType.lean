import QueryBuilder.Number.Positional

/-!
# Column types
-/

namespace QueryBuilder
set_option autoImplicit false

/-- The type of a column. -/
inductive SqlType where
  | smallInt
  | integer
  | bigInt
  | real
  | double
  | boolean
  | text
  | varchar (length : UInt32)
  | blob
  | timestamp
  | decimal (precision scale : UInt8)
  deriving DecidableEq

open Number in
/-- The type as it stands in a table definition. -/
def SqlType.sql : SqlType → String
  | smallInt => "SMALLINT"
  | integer => "INT"
  | bigInt => "BIGINT"
  | real => "FLOAT"
  | double => "DOUBLE"
  | boolean => "BOOLEAN"
  | text => "TEXT"
  | varchar n => "VARCHAR(" ++ String.ofList (digits n.toNat) ++ ")"
  | blob => "BLOB"
  | timestamp => "DATETIME"
  | decimal p s =>
    "DECIMAL(" ++ String.ofList (digits p.toNat) ++ ", " ++ String.ofList (digits s.toNat) ++ ")"

end QueryBuilder
