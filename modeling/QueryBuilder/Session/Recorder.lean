import QueryBuilder.Session.Connection

/-!
# A connection in memory

A recorder logs every call and answers from queues that are filled in advance: cursors for
queries, row counts for statements, and for each method faults that its calls run into. An
empty queue stands for a cursor without rows, for one affected row and for success.
-/

namespace QueryBuilder
set_option autoImplicit false

/-- A method of a connection. -/
inductive Method where
  | connect | execute | cursor | beginTransaction | commit | close
  deriving DecidableEq

/-- A call of a method. -/
inductive Call where
  | connect
  | execute (statement : Fragment)
  | cursor (query : Fragment)
  | beginTransaction
  | commit
  | close
  deriving DecidableEq

/-- The method that is called. -/
def Call.method : Call → Method
  | connect => .connect
  | execute _ => .execute
  | cursor _ => .cursor
  | beginTransaction => .beginTransaction
  | commit => .commit
  | close => .close

/-- The state of a connection in memory. -/
structure Recorder where
  /-- The calls so far, failed ones included. -/
  calls : List Call
  answers : List Cursor
  affected : List UInt64
  /-- For each of the next calls of a method the message with which it fails, if it does. -/
  faults : Method → List (Option String)

namespace Recorder

/-- A connection that has not been called. -/
def fresh : Recorder := ⟨[], [], [], fun _ => []⟩

/-- Queues the answer of a query. -/
def respond (r : Recorder) (c : Cursor) : Recorder := { r with answers := r.answers ++ [c] }

/-- Queues the row count of a statement. -/
def affect (r : Recorder) (n : UInt64) : Recorder := { r with affected := r.affected ++ [n] }

/-- Queues a failure of a method after `after` calls that succeed. -/
def fail (r : Recorder) (m : Method) (message : String) (after : Nat) : Recorder :=
  { r with faults := fun m' =>
      if m' = m then r.faults m ++ List.replicate after none ++ [some message] else r.faults m' }

/-- Logs a call and takes its fault from the queue. -/
def record (c : Call) : Session Recorder Unit := do
  let r ← get
  let queue := r.faults c.method
  set { r with
    calls := r.calls ++ [c]
    faults := fun m => if m = c.method then queue.tail else r.faults m }
  match queue.head?.join with
  | some message => throw (.driver (.reported message))
  | none => return ()

/-- Takes the next row count from the queue. -/
def nextAffected : Session Recorder UInt64 := do
  let r ← get
  set { r with affected := r.affected.tail }
  return r.affected.head?.getD 1

/-- Takes the next answer from the queue. -/
def nextAnswer : Session Recorder Cursor := do
  let r ← get
  set { r with answers := r.answers.tail }
  return r.answers.head?.getD (.rows [])

instance : Connection Recorder where
  connect := record .connect
  execute statement := do
    record (.execute statement)
    nextAffected
  cursor query := do
    record (.cursor query)
    nextAnswer
  beginTransaction := record .beginTransaction
  commit := record .commit
  close := record .close

end Recorder

end QueryBuilder
