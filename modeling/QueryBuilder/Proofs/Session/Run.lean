import QueryBuilder.Proofs.Session.Sent

/-!
# Runs of a session

`Operation.run` does one operation after another on a recorder, whether they fail or not. A run is a
list of exchanges: each operation with the answer that its cursor call receives, and its reply and
its calls are functions of the two. Main statement: for every list of operations and every queue of
answers there is such a list of exchanges (`run_exchanges`). The log is made of their calls in order,
the answers are given out from the front of the queue, one to each cursor call, and what is sent are
statements of queries that the operations were asked for, updates and deletions only with the key of
one row (`Exchange.Account`).
-/

namespace QueryBuilder
set_option autoImplicit false

/-- Does one operation after another. An operation that fails does not stop the run. -/
def Operation.run (ctx : Context) : List Operation → StateM Recorder (List (Except Error Reply))
  | [] => return []
  | op :: ops => do
    let reply ← (op.perform ctx).run
    let replies ← run ctx ops
    return reply :: replies

/-- An operation with the answer that it receives if it asks for one. -/
structure Exchange where
  operation : Operation
  answer : Cursor

namespace Exchange

variable (ctx : Context)

/-- What the operation gives back. -/
def reply (x : Exchange) : Except Error Reply := x.operation.reply ctx x.answer

/-- The calls that the operation makes. -/
def calls (x : Exchange) : List Call := x.operation.calls ctx x.answer

/-- The calls of all exchanges, in order. -/
def log (xs : List Exchange) : List Call := xs.flatMap (calls ctx)

/-- The cursor calls of earlier exchanges have taken the answers in front of the one that an exchange
receives, and no others. -/
def Served (answers : List Cursor) (xs : List Exchange) : Prop :=
  ∀ before x after, xs = before ++ x :: after →
    x.answer = answers[cursorCount (log ctx before)]?.getD (.rows [])

/-- The exchanges tell what a run of these operations on a queue of answers does. -/
structure Account (ops : List Operation) (answers : List Cursor) (xs : List Exchange) : Prop where
  operations : xs.map operation = ops
  ran : ∀ earlier, (Operation.run ctx ops).run (.holding earlier answers) =
    (xs.map (reply ctx), .holding (earlier ++ log ctx xs) (answers.drop (cursorCount (log ctx xs))))
  served : Served ctx answers xs
  oneAnswer : ∀ x ∈ xs, cursorCount (x.calls ctx) ≤ 1
  /-- An operation with a query that does not compile returns the error and makes no call. -/
  failed : ∀ x ∈ xs, ∀ q ∈ x.operation.queries ctx, ∀ e, ctx.compile q = .error e →
    x.reply ctx = .error e ∧ x.calls ctx = []
  /-- What is sent has been compiled. It changes or deletes rows only by the key of one row. -/
  sent : ∀ c ∈ log ctx xs, ∀ f, c.statement? = some f →
    ∃ op ∈ ops, ∃ q ∈ op.queries ctx, ctx.compile q = .ok f ∧
      (f.WritesRows → ∃ m r, (q = .update ⟨m, r⟩ ∨ q = .delete ⟨m, r⟩) ∧ f.KeyedBy m.primaryKey)

variable {ctx}

theorem served_cons {answers : List Cursor} {op : Operation} {xs : List Exchange}
    (others : Served ctx
      (answers.drop (cursorCount (op.calls ctx (nextAnswer answers)))) xs) :
    Served ctx answers (⟨op, nextAnswer answers⟩ :: xs) := by
  intro before y after split
  cases before with
  | nil =>
    obtain ⟨rfl, _⟩ := List.cons.inj split
    rw [log, List.flatMap_nil, ← List.head?_drop]
    rfl
  | cons z before =>
    obtain ⟨rfl, rest⟩ := List.cons.inj split
    rw [others before y after rest, List.getElem?_drop, ← cursorCount_append]
    rfl

/-- On any connection the operation would return the error at once, so on this one too. -/
theorem reply_eq_error {x : Exchange} {q : Query} {e : Error} (hq : q ∈ x.operation.queries ctx)
    (h : ctx.compile q = .error e) : x.reply ctx = .error e ∧ x.calls ctx = [] := by
  have performed := x.operation.acts_perform ctx [x.answer] []
  rw [Operation.run_perform_of_error hq h] at performed
  obtain ⟨result, state⟩ := Prod.mk.inj performed
  exact ⟨result.symm, (congrArg Recorder.calls state).symm⟩

/-- Every statement of a log comes from a query of one of the operations. -/
theorem sent_log {xs : List Exchange} {c : Call} (hc : c ∈ log ctx xs) {f : Fragment}
    (hf : c.statement? = some f) :
    ∃ op ∈ xs.map operation, ∃ q ∈ op.queries ctx, ctx.compile q = .ok f ∧
      (f.WritesRows → ∃ m r, (q = .update ⟨m, r⟩ ∨ q = .delete ⟨m, r⟩) ∧ f.KeyedBy m.primaryKey) := by
  obtain ⟨x, hx, own⟩ := List.mem_flatMap.1 hc
  obtain ⟨q, hq, compiled⟩ := x.operation.compiled_calls ctx x.answer c own f hf
  have plain : q.compile = .ok f := by rwa [ctx.compile_eq, Dialect.compile_eq_ok_iff] at compiled
  exact ⟨x.operation, List.mem_map_of_mem hx, q, hq, compiled, Query.keyed_of_compile plain⟩

end Exchange

/-- What a run does, by induction on the operations with the log and the queue that are left after
each of them. -/
theorem Operation.exists_exchanges (ctx : Context) (ops : List Operation) (answers : List Cursor) :
    ∃ xs : List Exchange, xs.map Exchange.operation = ops ∧
      (∀ earlier, (run ctx ops).run (.holding earlier answers) = (xs.map (Exchange.reply ctx),
        .holding (earlier ++ Exchange.log ctx xs)
          (answers.drop (cursorCount (Exchange.log ctx xs))))) ∧
      Exchange.Served ctx answers xs := by
  induction ops generalizing answers with
  | nil =>
    refine ⟨[], rfl, fun earlier => ?_, ?_⟩
    · rw [Exchange.log, List.flatMap_nil, List.append_nil]
      rfl
    · intro before x after split
      cases before <;> cases split
  | cons op ops ih =>
    obtain ⟨xs, operations, ran, served⟩ :=
      ih (answers.drop (cursorCount (op.calls ctx (nextAnswer answers))))
    refine ⟨⟨op, nextAnswer answers⟩ :: xs, congrArg (op :: ·) operations, fun earlier => ?_,
      Exchange.served_cons served⟩
    have performed := op.acts_perform ctx answers earlier
    have others := ran (earlier ++ op.calls ctx (nextAnswer answers))
    rw [List.append_assoc, List.drop_drop, ← cursorCount_append] at others
    rw [run, StateT.run_bind, performed]
    exact congrArg (fun p => (op.reply ctx (nextAnswer answers) :: p.1, p.2)) others

/-- **What a run of a session does.** Whatever the operations are and whatever answers are queued, the
run is a list of exchanges, one for each operation. -/
theorem run_exchanges (ctx : Context) (ops : List Operation) (answers : List Cursor) :
    ∃ xs, Exchange.Account ctx ops answers xs := by
  obtain ⟨xs, rfl, ran, served⟩ := Operation.exists_exchanges ctx ops answers
  exact ⟨xs, {
    operations := rfl
    ran, served
    oneAnswer := fun x _ => x.operation.cursorCount_calls_le ctx x.answer
    failed := fun _ _ _ hq _ => Exchange.reply_eq_error hq
    sent := fun _ hc _ => Exchange.sent_log hc }⟩

/-- The update has no key: it is refused, and the queries around it take the answers in order. -/
example :
    let user := Model.named "user"
    let ann := Row.ofCells [("name", .string "ann")]
    let done := (Operation.run (.plain .mysql) [.all user, .update user ann, .showTables]).run
      (.holding [] [.rows [ann]])
    done.1 = [.ok (.rows [ann]), .error (.compilation (.noKey .update "user" "id")),
      .ok (.tables [])] ∧
    done.2.calls = [.cursor (.text "SELECT * FROM user"), .cursor (.text "SHOW TABLES")] :=
  ⟨rfl, rfl⟩

end QueryBuilder
