import QueryBuilder.Compile.Select

/-!
# Rendering

SQL is written from left to right into one fragment: text is added to its text, and a value to its
parameters together with a placeholder. A `Rendering` is something that is written this way, behind
whatever is there already; written into the empty fragment it gives its `result`. Clauses render
their parts one after another, and so do select queries.
-/

namespace QueryBuilder
set_option autoImplicit false

open Number

/-- Something that is written behind what has been written before. -/
abbrev Rendering := StateM Fragment Unit

namespace Rendering

/-- Writes text. -/
def write (s : String) : Rendering := modify fun f => { f with sql := f.sql ++ s }

/-- Writes a name as it was declared. -/
def writeName (name : String) : Rendering := modify fun f => { f with sql := f.sql ++ name }

/-- Binds a value and writes its placeholder. -/
def writeParam (v : Value) : Rendering :=
  modify fun f => { sql := f.sql.push '?', params := f.params ++ [v] }

/-- Writes items with a comma and a blank between neighbours. -/
def writeList {α : Type} (each : α → Rendering) : List α → Rendering
  | [] => pure ()
  | a :: rest => do
    each a
    rest.forM fun b => do
      write ", "
      each b

/-- Writes an operand of a connective, in parentheses if it is composite itself. -/
def operand (composite : Bool) (inner : Rendering) : Rendering :=
  if composite then do
    write "("
    inner
    write ")"
  else inner

/-- Writes a connective between its operands. -/
def connective (left : Rendering) (keyword : String) (right : Rendering) : Rendering := do
  left
  write " "
  write keyword
  write " "
  right

/-- What is there once the rendering has been written behind `before`. -/
def after (before : Fragment) (r : Rendering) : Fragment := (r.run before).2

/-- The rendering on its own. -/
def result (r : Rendering) : Fragment := after .empty r

end Rendering

open Rendering

/-- Writes a column, with its table if that is given. -/
def Column.render (c : Column) : Rendering :=
  match c.table with
  | some table => do
    writeName table
    write "."
    writeName c.name
  | none => writeName c.name

/-- Writes what a column is compared with. -/
def Operand.render : Operand → Rendering
  | value v => writeParam v
  | column c => c.render

/-- Writes a clause. -/
def Clause.render : Clause → Rendering
  | compare left op right => do
    left.render
    write " "
    write op.symbol
    write " "
    right.render
  | and left right =>
    connective (operand left.isComposite left.render) "AND" (operand right.isComposite right.render)
  | or left right =>
    connective (operand left.isComposite left.render) "OR" (operand right.isComposite right.render)

/-- The clause on its own, with the values that it binds. -/
def Clause.build (c : Clause) : Fragment := result c.render

/-- Writes a sort key. -/
def SortKey.render (k : SortKey) : Rendering := do
  k.column.render
  write " "
  write k.direction.keyword

/-- Writes a join. -/
def Join.render (j : Join) : Rendering := do
  write j.kind.keyword
  write " "
  writeName j.right.table
  write " ON "
  j.on.foreignKey.render
  write " = "
  j.on.primaryKey.render

/-! ## Steps -/

/-- One thing that is written. -/
inductive Rendering.Step where
  | text (s : String)
  | name (s : String)
  | param (v : Value)
  | column (c : Column)
  | clause (c : Clause)
  | sortKey (k : SortKey)
  | join (j : Join)

/-- Writes one thing. -/
def Rendering.Step.render : Step → Rendering
  | text s => write s
  | name s => writeName s
  | param v => writeParam v
  | column c => c.render
  | clause c => c.render
  | sortKey k => k.render
  | join j => j.render

/-- Writes one thing after another. -/
def Rendering.ofSteps (steps : List Step) : Rendering := steps.forM Step.render

/-! ## Select queries -/

namespace Select

/-- Writes what is selected. -/
def renderProjection (q : Select) : Rendering :=
  if q.fields.isEmpty then write "*" else writeList writeName q.fields

/-- Writes the table and the tables joined to it. -/
def renderSource (q : Select) : Rendering := do
  write " FROM "
  writeName q.model.table
  q.joins.forM fun j => do
    write " "
    j.render

/-- Writes the condition, if there is one. -/
def renderFilter (q : Select) : Rendering :=
  match q.filter with
  | some c => do
    write " WHERE "
    c.render
  | none => pure ()

/-- Writes the order, if there is one. -/
def renderOrder (q : Select) : Rendering :=
  if q.order.isEmpty then pure ()
  else do
    write " ORDER BY "
    writeList SortKey.render q.order

/-- Writes a number of rows behind a keyword. -/
def renderCount (keyword : String) (n : UInt64) : Rendering := do
  write keyword
  write (String.ofList (digits n.toNat))

/-- Writes the limit, if there is one, or the greatest limit if there is only an offset. -/
def renderLimit (q : Select) : Rendering :=
  if 0 < q.limit then renderCount " LIMIT " q.limit
  else if 0 < q.offset then renderCount " LIMIT " unboundedLimit
  else pure ()

/-- Writes the offset, if there is one. -/
def renderOffset (q : Select) : Rendering :=
  if 0 < q.offset then renderCount " OFFSET " q.offset else pure ()

/-- Writes a select query. -/
def render (q : Select) : Rendering := do
  write "SELECT "
  q.renderProjection
  q.renderSource
  q.renderFilter
  q.renderOrder
  q.renderLimit
  q.renderOffset

end Select

end QueryBuilder
