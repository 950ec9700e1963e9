import QueryBuilder.Compile

/-!
# Statements with literals in place

`Query.literalText lit q` is the text of `q` with `lit v` written at the place of each literal `v`:
in a condition, at a value of an inserted row, in an assignment, and in the condition that names a
row by its primary key. It knows nothing of placeholders and parameters and serves as the standard
for them.
-/

namespace QueryBuilder
set_option autoImplicit false

/-- A list as it stands in a statement. -/
def listText (items : List String) : String := ", ".intercalate items

section Conditions

variable (lit : Value → String)

def Operand.literalText : Operand → String
  | value v => lit v
  | column c => c.text

def Clause.literalText : Clause → String
  | compare left op right => left.text ++ " " ++ op.symbol ++ " " ++ right.literalText lit
  | and left right =>
    (if left.isComposite then "(" ++ left.literalText ++ ")" else left.literalText) ++ " AND " ++
      (if right.isComposite then "(" ++ right.literalText ++ ")" else right.literalText)
  | or left right =>
    (if left.isComposite then "(" ++ left.literalText ++ ")" else left.literalText) ++ " OR " ++
      (if right.isComposite then "(" ++ right.literalText ++ ")" else right.literalText)

end Conditions

/-! ## Select queries -/

def Join.text (j : Join) : String :=
  j.kind.keyword ++ " " ++ j.right.table ++ " ON " ++ j.on.foreignKey.text ++ " = " ++
    j.on.primaryKey.text

namespace Select

def projectionText (q : Select) : String := if q.fields.isEmpty then "*" else listText q.fields

def sourceText (q : Select) : String :=
  " FROM " ++ q.model.table ++ String.join (q.joins.map fun j => " " ++ j.text)

def filterText (lit : Value → String) (q : Select) : String :=
  match q.filter with
  | some c => " WHERE " ++ c.literalText lit
  | none => ""

def orderText (q : Select) : String :=
  if q.order.isEmpty then "" else " ORDER BY " ++ listText (q.order.map SortKey.text)

def limitText (q : Select) : String :=
  if 0 < q.limit then " LIMIT " ++ toString q.limit.toNat
  else if 0 < q.offset then " LIMIT " ++ toString 18446744073709551615
  else ""

def offsetText (q : Select) : String :=
  if 0 < q.offset then " OFFSET " ++ toString q.offset.toNat else ""

def literalText (lit : Value → String) (q : Select) : String :=
  "SELECT " ++ q.projectionText ++ (q.sourceText ++ q.filterText lit) ++
    (q.orderText ++ q.limitText ++ q.offsetText)

end Select

/-! ## Queries that write rows -/

/-- The condition that names the row with the primary key that `r` has. -/
def keyText (lit : Value → String) (m : Model) (r : Row) : String :=
  " WHERE " ++ m.primaryKey ++ " = " ++ lit ((r.get? m.primaryKey).getD .null)

/-- The cells of a new row that are given to the database: all but a primary key that is `NULL`. -/
def Insert.given (q : Insert) : List (String × Value) :=
  q.row.toList.filter fun c => c.1 ≠ q.model.primaryKey ∨ c.2 ≠ .null

def Insert.literalText (lit : Value → String) (q : Insert) : String :=
  "INSERT INTO " ++ q.model.table ++ " (" ++ listText (q.given.map Prod.fst) ++ ") VALUES (" ++
    listText (q.given.map fun c => lit c.2) ++ ")"

/-- The cells of the new content of a row: all but the primary key. -/
def Update.given (q : Update) : List (String × Value) :=
  q.row.toList.filter fun c => c.1 ≠ q.model.primaryKey

def Update.literalText (lit : Value → String) (q : Update) : String :=
  "UPDATE " ++ q.model.table ++ " SET " ++ listText (q.given.map fun c => c.1 ++ " = " ++ lit c.2) ++
    keyText lit q.model q.row

def Delete.literalText (lit : Value → String) (q : Delete) : String :=
  "DELETE FROM " ++ q.model.table ++ keyText lit q.model q.row

/-! ## Queries that define tables -/

def Field.definitionText (f : Field) : String :=
  f.column ++ " " ++ f.type.sql ++ (if f.nullable then "" else " NOT NULL") ++
    (f.defaultValue.elim "" fun e => " DEFAULT " ++ e) ++
    (if f.autoIncrement then " AUTO_INCREMENT" else "") ++
    (if f.primaryKey then " PRIMARY KEY" else "")

def ForeignKey.constraintText (column : String) (k : ForeignKey) : String :=
  "FOREIGN KEY (" ++ column ++ ") REFERENCES " ++ k.table ++ " (" ++ k.column ++ ")"

def CreateTable.text (q : CreateTable) : String :=
  "CREATE TABLE " ++ (if q.ifNotExists then "IF NOT EXISTS " else "") ++ q.model.table ++ " (" ++
    listText (q.model.fields.toList.map Field.definitionText) ++
    String.join (q.model.foreignKeys.map fun p => ", " ++ p.2.constraintText p.1.column) ++ ")"

def DropTable.text (q : DropTable) : String :=
  "DROP TABLE " ++ (if q.ifExists then "IF EXISTS " else "") ++ q.model.table

/-- The text of a query with its literals in place. -/
def Query.literalText (lit : Value → String) : Query → String
  | select q => q.literalText lit
  | insert q => q.literalText lit
  | update q => q.literalText lit
  | delete q => q.literalText lit
  | createTable q => q.text
  | dropTable q => q.text
  | showTables => "SHOW TABLES"

end QueryBuilder
