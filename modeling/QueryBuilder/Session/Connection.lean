import QueryBuilder.Error
import QueryBuilder.Fragment
import QueryBuilder.Row

/-!
# Connections

A connection to a database is a state with operations on it that may fail; what an operation
did to the state stays done when it fails. Rows that a query gives are read from a cursor.
-/

namespace QueryBuilder
set_option autoImplicit false

/-- A computation on a connection with the state `σ`. -/
abbrev Session (σ : Type) := ExceptT Error (StateM σ)

/-- The rows of a query that have not been read yet, or the message with which every attempt
to read one fails. -/
inductive Cursor where
  | rows (remaining : List Row)
  | failing (message : String)
  deriving DecidableEq

namespace Cursor

/-- The next `n` rows, fewer if there are not so many, and the cursor after them. -/
def fetch (c : Cursor) (n : Nat) : Except Error (List Row × Cursor) :=
  match c with
  | rows remaining => .ok (remaining.take n, rows (remaining.drop n))
  | failing message => .error (.driver (.reported message))

/-- All rows, and the cursor after them. -/
def fetchAll (c : Cursor) : Except Error (List Row × Cursor) :=
  match c with
  | rows remaining => .ok (remaining, rows [])
  | failing message => .error (.driver (.reported message))

/-- The next row, if there is one, and the cursor after it. -/
def fetchOne (c : Cursor) : Except Error (Option Row × Cursor) :=
  (c.fetch 1).map fun p => (p.1.head?, p.2)

end Cursor

/-- The operations of a connection with the state `σ`. -/
class Connection (σ : Type) where
  connect : Session σ Unit
  /-- Runs a statement and gives the number of rows that it affected. -/
  execute : Fragment → Session σ UInt64
  /-- Runs a query. -/
  cursor : Fragment → Session σ Cursor
  beginTransaction : Session σ Unit
  commit : Session σ Unit
  close : Session σ Unit

end QueryBuilder
