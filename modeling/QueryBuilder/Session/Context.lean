import QueryBuilder.Compile
import QueryBuilder.Session.Connection

/-!
# Contexts

A context is a dialect together with the configuration that it was taken from, if any. Its
operations compile queries and run them on a connection; a query that has no statement leaves
the connection alone.
-/

namespace QueryBuilder
set_option autoImplicit false

/-- A dialect and where it comes from. -/
structure Context where
  dialect : Dialect
  config : Option DbConfig

namespace Context

/-- A context without a configuration. -/
def plain (d : Dialect) : Context := ⟨d, none⟩

/-- The context of a configuration and the connection that `connect` makes of it. The connection
is not opened for a driver that is unknown. -/
def ofConfig {m : Type → Type} [Monad m] {κ : Type} (config : DbConfig)
    (connect : DbConfig → ExceptT Error m κ) : ExceptT Error m (Context × κ) := do
  let dialect ← ExceptT.mk (pure (Dialect.ofDriver config.driver))
  let connection ← connect config
  return (⟨dialect, some config⟩, connection)

/-- The context of the configuration that a process finds, or `none` if it panics while it loads it. -/
def ofHost? {m : Type → Type} [Monad m] {κ : Type} (h : Host)
    (connect : DbConfig → ExceptT Error m κ) : Option (ExceptT Error m (Context × κ)) :=
  h.load?.map fun loaded => do
    let found ← ExceptT.mk (pure (loaded.mapError .config))
    ofConfig found.1.db connect

/-- The query in SQL. -/
def compile (ctx : Context) (q : Query) : Except Error Fragment := ctx.dialect.compile q

variable {σ : Type} [Connection σ]

/-- A computation that does not touch the connection. -/
def ofExcept {α : Type} (x : Except Error α) : Session σ α := ExceptT.mk (pure x)

/-- Opens the connection and starts a transaction. -/
def begin (_ : Context) : Session σ Unit := do
  Connection.connect
  Connection.beginTransaction

/-- Commits the transaction. -/
def saveChanges (_ : Context) : Session σ Unit := Connection.commit

/-- Commits the transaction and closes the connection. -/
def finish (_ : Context) : Session σ Unit := do
  Connection.commit
  Connection.close

/-- Runs a statement and gives the number of rows that it affected. -/
def execute (ctx : Context) (q : Query) : Session σ UInt64 := do
  let statement ← ofExcept (ctx.compile q)
  Connection.execute statement

/-- Runs a query. -/
def data (ctx : Context) (q : Query) : Session σ Cursor := do
  let query ← ofExcept (ctx.compile q)
  Connection.cursor query

/-- All rows of a query. -/
def fetchAll (ctx : Context) (q : Select) : Session σ (List Row) := do
  let c ← ctx.data (.select q)
  let (rows, _) ← ofExcept c.fetchAll
  return rows

/-- The first `n` rows of a query. -/
def fetchMany (ctx : Context) (q : Select) (n : Nat) : Session σ (List Row) := do
  let c ← ctx.data (.select q)
  let (rows, _) ← ofExcept (c.fetch n)
  return rows

/-- The first row of a query. -/
def fetchOne (ctx : Context) (q : Select) : Session σ (Option Row) := do
  let c ← ctx.data (.select q)
  let (row, _) ← ofExcept c.fetchOne
  return row

/-- The number of rows that the answer of a count query holds. -/
def countOf? (row : Option Row) : Option Nat := do
  let r ← row
  let v ← r.first?
  let n ← v.integer?
  if 0 ≤ n then some n.toNat else none

/-- The number of rows of a query without its limit and offset. -/
def count (ctx : Context) (q : Select) : Session σ Nat := do
  let row ← ctx.fetchOne q.count
  match countOf? row with
  | some n => return n
  | none => throw (.driver (.noCount q.model.table))

/-- The names of the tables, from the first value of each row. -/
def showTables (ctx : Context) : Session σ (List String) := do
  let c ← ctx.data .showTables
  let (rows, _) ← ofExcept c.fetchAll
  return rows.filterMap fun r => r.first?.map Value.text

/-- Creates the table of each model, in order. -/
def createAll (ctx : Context) : List Model → Session σ Unit
  | [] => return ()
  | m :: rest => do
    let _ ← ctx.execute (.createTable ⟨m, false⟩)
    ctx.createAll rest

/-- Creates the table of each model, in order. A safe run passes over tables that exist. -/
def createTables (ctx : Context) (models : List Model) (safe : Bool) : Session σ Unit := do
  let existing ← if safe then ctx.showTables else pure []
  ctx.createAll (models.filter fun m => !existing.contains m.table)

/-- Drops the table of each model, in order. -/
def dropAll (ctx : Context) : List Model → Session σ Unit
  | [] => return ()
  | m :: rest => do
    let _ ← ctx.execute (.dropTable ⟨m, false⟩)
    ctx.dropAll rest

/-- Drops the table of each model, the last one first. -/
def dropTables (ctx : Context) (models : List Model) : Session σ Unit := ctx.dropAll models.reverse

end Context

end QueryBuilder
