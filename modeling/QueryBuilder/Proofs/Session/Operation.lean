import QueryBuilder.Proofs.Session.Effect

/-!
# Operations of a session

`Operation` lists what a caller can ask of a context and of its sets of rows, and `Operation.perform`
does it on a recorder. Beside it stand, as functions of the one answer that an operation can receive,
what the caller gets back (`Operation.reply`) and the calls that the recorder logs
(`Operation.calls`). Main statement: an operation that receives the next answer of the queue has
these effects and takes as many answers as it makes cursor calls (`Operation.acts_perform`).
-/

namespace QueryBuilder
set_option autoImplicit false

/-- What can be asked of a context, or of the set of rows of a model in it. -/
inductive Operation where
  | begin
  | saveChanges
  | finish
  | execute (q : Query)
  | data (q : Query)
  | fetchAll (q : Select)
  | fetchMany (q : Select) (n : Nat)
  | fetchOne (q : Select)
  | count (q : Select)
  | showTables
  | createTables (models : List Model) (safe : Bool)
  | dropTables (models : List Model)
  | get (m : Model) (filters : List (String × Value))
  | all (m : Model)
  | add (m : Model) (r : Row)
  | update (m : Model) (r : Row)
  | remove (m : Model) (r : Row)

/-- What an operation gives back. -/
inductive Reply where
  | done
  | affected (rows : UInt64)
  | cursor (c : Cursor)
  | rows (rs : List Row)
  | row (r : Option Row)
  | count (n : Nat)
  | tables (names : List String)

theorem cursorCount_append (log more : List Call) :
    cursorCount (log ++ more) = cursorCount log + cursorCount more :=
  List.countP_append

namespace Operation

/-- Does what is asked. -/
def perform (ctx : Context) : Operation → Session Recorder Reply
  | begin => do
    ctx.begin
    return .done
  | saveChanges => do
    ctx.saveChanges
    return .done
  | finish => do
    ctx.finish
    return .done
  | execute q => return .affected (← ctx.execute q)
  | data q => return .cursor (← ctx.data q)
  | fetchAll q => return .rows (← ctx.fetchAll q)
  | fetchMany q n => return .rows (← ctx.fetchMany q n)
  | fetchOne q => return .row (← ctx.fetchOne q)
  | count q => return .count (← ctx.count q)
  | showTables => return .tables (← ctx.showTables)
  | createTables models safe => do
    ctx.createTables models safe
    return .done
  | dropTables models => do
    ctx.dropTables models
    return .done
  | get m filters => return .row (← ModelSet.get ⟨ctx, m⟩ filters)
  | all m => return .rows (← ModelSet.all ⟨ctx, m⟩)
  | add m r => return .affected (← ModelSet.add ⟨ctx, m⟩ r)
  | update m r => return .affected (← ModelSet.update ⟨ctx, m⟩ r)
  | remove m r => return .affected (← ModelSet.remove ⟨ctx, m⟩ r)

/-- The queries that an operation can send. -/
def queries (ctx : Context) : Operation → List Query
  | begin | saveChanges | finish => []
  | execute q | data q => [q]
  | fetchAll q | fetchMany q _ | fetchOne q => [.select q]
  | count q => [.select q.count]
  | showTables => [.showTables]
  | createTables models _ => .showTables :: models.map fun m => .createTable ⟨m, false⟩
  | dropTables models => models.map fun m => .dropTable ⟨m, false⟩
  | get m filters => [.select (ModelSet.matching ⟨ctx, m⟩ filters)]
  | all m => [.select (.all m)]
  | add m r => [.insert ⟨m, r⟩]
  | update m r => [.update ⟨m, r⟩]
  | remove m r => [.delete ⟨m, r⟩]

/-- The calls of an operation that receives this answer, if it asks for one. -/
def calls (ctx : Context) (answer : Cursor) : Operation → List Call
  | begin => [.connect, .beginTransaction]
  | saveChanges => [.commit]
  | finish => [.commit, .close]
  | execute q => ctx.sends .execute q
  | data q => ctx.sends .cursor q
  | fetchAll q | fetchMany q _ | fetchOne q => [.cursor q.fragment]
  | count q => [.cursor q.count.fragment]
  | showTables => [.cursor (.text "SHOW TABLES")]
  | createTables models false => creations models
  | createTables models true => .cursor (.text "SHOW TABLES") :: safeCreations models answer
  | dropTables models => removals models.reverse
  | get m filters => [.cursor (ModelSet.matching ⟨ctx, m⟩ filters).fragment]
  | all m => [.cursor (Select.all m).fragment]
  | add m r => ctx.sends .execute (.insert ⟨m, r⟩)
  | update m r => ctx.sends .execute (.update ⟨m, r⟩)
  | remove m r => ctx.sends .execute (.delete ⟨m, r⟩)

/-- What an operation gives back that receives this answer, if it asks for one. -/
def reply (ctx : Context) (answer : Cursor) : Operation → Except Error Reply
  | begin | saveChanges | finish | createTables _ false | dropTables _ => .ok .done
  | createTables _ true => answer.content.map fun _ => .done
  | execute q => (ctx.compile q).map fun _ => .affected 1
  | data q => (ctx.compile q).map fun _ => .cursor answer
  | fetchAll _ | all _ => answer.content.map .rows
  | fetchMany _ n => answer.content.map fun rows => .rows (rows.take n)
  | fetchOne _ | get _ _ => answer.content.map fun rows => .row rows.head?
  | count q => (answer.content.bind fun rows => Context.counted q rows.head?).map .count
  | showTables => answer.content.map fun rows => .tables (tableNames rows)
  | add m r => (ctx.compile (.insert ⟨m, r⟩)).map fun _ => .affected 1
  | update m r => (ctx.compile (.update ⟨m, r⟩)).map fun _ => .affected 1
  | remove m r => (ctx.compile (.delete ⟨m, r⟩)).map fun _ => .affected 1

end Operation

/-! ## Effects -/

theorem cursorCount_creations (models : List Model) : cursorCount (creations models) = 0 := by
  refine List.countP_eq_zero.2 fun c hc => ?_
  obtain ⟨m, _, rfl⟩ := List.mem_map.1 hc
  exact Bool.false_ne_true

theorem cursorCount_safeCreations (models : List Model) (answer : Cursor) :
    cursorCount (safeCreations models answer) = 0 := by
  cases answer with
  | rows remaining => exact cursorCount_creations _
  | failing message => rfl

/-- A safe run asks for one answer. -/
theorem cursorCount_safe (models : List Model) (answer : Cursor) :
    cursorCount (.cursor (.text "SHOW TABLES") :: safeCreations models answer) = 1 := by
  rw [cursorCount, List.countP_cons_of_pos rfl, ← cursorCount, cursorCount_safeCreations]

theorem cursorCount_removals (models : List Model) : cursorCount (removals models) = 0 := by
  refine List.countP_eq_zero.2 fun c hc => ?_
  obtain ⟨m, _, rfl⟩ := List.mem_map.1 hc
  exact Bool.false_ne_true

theorem cursorCount_sends_execute (ctx : Context) (q : Query) :
    cursorCount (ctx.sends .execute q) = 0 := by
  unfold Context.sends
  cases ctx.compile q <;> rfl

section Effects

variable {ctx : Context} {answers rest : List Cursor} {α : Type} {x : Session Recorder α}
  {result : Except Error α} {own : List Call}

/-- Calls without a cursor leave the queue alone. -/
theorem Acts.no_cursor (h : Acts x answers result own answers) (none : cursorCount own = 0) :
    Acts x answers result own (answers.drop (cursorCount own)) := by
  rwa [none]

/-- A cursor takes one answer. -/
theorem Acts.one_cursor (h : Acts x answers result own answers.tail) (one : cursorCount own = 1) :
    Acts x answers result own (answers.drop (cursorCount own)) := by
  rwa [one, List.drop_one]

end Effects

/-- **What an operation does.** It receives the first answer of the queue if it asks for one, and its
reply and its calls depend on nothing else. -/
theorem Operation.acts_perform (ctx : Context) (op : Operation) (answers : List Cursor) :
    Acts (op.perform ctx) answers (op.reply ctx (nextAnswer answers))
      (op.calls ctx (nextAnswer answers))
      (answers.drop (cursorCount (op.calls ctx (nextAnswer answers)))) := by
  -- statements of rows and statements that the caller has made
  have executed (q : Query) {x : Session Recorder UInt64} (hx : x = ctx.execute q) :
      Acts (x >>= fun n => pure (Reply.affected n)) answers
        ((ctx.compile q).map fun _ => .affected 1) (ctx.sends .execute q)
        (answers.drop (cursorCount (ctx.sends .execute q))) := by
    subst hx
    exact ((ctx.acts_execute q).bind_part fun _ => rfl).no_cursor (cursorCount_sends_execute ctx q)
  cases op with
  | begin => exact ctx.acts_begin.bind_pure fun _ => rfl
  | saveChanges => exact (acts_record .commit).bind_pure fun _ => rfl
  | finish => exact ctx.acts_finish.bind_pure fun _ => rfl
  | execute q => exact executed q rfl
  | data q => exact (ctx.acts_data q).bind_part fun _ => rfl
  | fetchAll q => exact ((ctx.acts_fetchAll q).bind_pure fun _ => rfl).one_cursor rfl
  | fetchMany q n => exact ((ctx.acts_fetchMany q n).bind_part fun _ => rfl).one_cursor rfl
  | fetchOne q => exact ((ctx.acts_fetchOne q).bind_part fun _ => rfl).one_cursor rfl
  | count q => exact ((ctx.acts_count q).bind_pure fun _ => rfl).one_cursor rfl
  | showTables => exact (ctx.acts_showTables.bind_part fun _ => rfl).one_cursor rfl
  | createTables models safe =>
    cases safe with
    | false =>
      exact ((ctx.acts_createTables models).bind_pure fun _ => rfl).no_cursor
        (cursorCount_creations models)
    | true =>
      exact ((ctx.acts_createTables_safe models).bind_part fun _ => rfl).one_cursor
        (cursorCount_safe models (nextAnswer answers))
  | dropTables models =>
    exact ((ctx.acts_dropAll models.reverse).bind_pure fun _ => rfl).no_cursor
      (cursorCount_removals models.reverse)
  | get m filters => exact ((ctx.acts_fetchOne _).bind_part fun _ => rfl).one_cursor rfl
  | all m => exact ((ctx.acts_fetchAll _).bind_pure fun _ => rfl).one_cursor rfl
  | add m r => exact executed (.insert ⟨m, r⟩) rfl
  | update m r => exact executed (.update ⟨m, r⟩) rfl
  | remove m r => exact executed (.delete ⟨m, r⟩) rfl

end QueryBuilder
