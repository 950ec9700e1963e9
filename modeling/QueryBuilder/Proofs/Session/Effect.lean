import QueryBuilder.Session.ModelSet
import QueryBuilder.Session.Recorder

/-!
# What a computation does to a recorder

`Acts x answers result own rest` says of a computation `x` that on a recorder with the queue `answers`,
whatever it has logged, `x` ends in `result`, adds the calls `own` to the log and leaves the queue
`rest`. The relation goes from the parts of a computation to the whole of it (`Acts.bind`), so every
operation of a context has one such statement. A query for which there is no statement leaves every
connection alone, recorder or not (`Context.run_execute_of_error`), and on every connection the first
row of a query and the number of its rows take one cursor (`Context.fetchOne_eq`, `Context.count_eq`).
-/

namespace QueryBuilder
set_option autoImplicit false

/-- A recorder without faults that has logged these calls and has these answers queued. Every
statement affects one row. -/
def Recorder.holding (log : List Call) (answers : List Cursor) : Recorder :=
  { fresh with calls := log, answers }

/-- The answer to the next query: the first one in the queue, or no rows if the queue is empty. -/
def nextAnswer (answers : List Cursor) : Cursor := answers.head?.getD (.rows [])

/-- The computation ends in `result`, logs its `own` calls and leaves the `rest` of the answers. -/
def Acts {α : Type} (x : Session Recorder α) (answers : List Cursor) (result : Except Error α)
    (own : List Call) (rest : List Cursor) : Prop :=
  ∀ log, x.run.run (.holding log answers) = (result, .holding (log ++ own) rest)

/-- A computation that succeeds hands its result and its connection on. -/
theorem run_bind {σ α β : Type} {x : Session σ α} {f : α → Session σ β} {s s' : σ} {a : α}
    (h : x.run.run s = (.ok a, s')) : (x >>= f).run.run s = (f a).run.run s' := by
  rw [ExceptT.run_bind, StateT.run_bind, h]
  rfl

section Computations

variable {α β : Type} {x : Session Recorder α} {f : α → Session Recorder β}
  {answers mid rest : List Cursor} {own own' : List Call}

theorem acts_ofExcept (e : Except Error α) : Acts (Context.ofExcept e) answers e [] answers := by
  intro log
  rw [List.append_nil]
  rfl

theorem acts_pure (a : α) : Acts (pure a) answers (.ok a) [] answers := acts_ofExcept (.ok a)

theorem Acts.bind {a : α} {result : Except Error β} (hx : Acts x answers (.ok a) own mid)
    (hf : Acts (f a) mid result own' rest) : Acts (x >>= f) answers result (own ++ own') rest := by
  intro log
  rw [run_bind (hx log), ← List.append_assoc]
  exact hf (log ++ own)

theorem Acts.bind_error {e : Error} (hx : Acts x answers (.error e) own rest) :
    Acts (x >>= f) answers (.error e) own rest := by
  intro log
  have first := hx log
  rw [ExceptT.run_bind, StateT.run_bind, first]
  rfl

/-- What is done with the result of a computation leaves the recorder alone. -/
theorem Acts.bind_ofExcept {result : Except Error α} {g : α → Except Error β}
    (hx : Acts x answers result own rest) (hf : ∀ a, f a = Context.ofExcept (g a)) :
    Acts (x >>= f) answers (result.bind g) own rest := by
  cases result with
  | error e => exact hx.bind_error
  | ok a =>
    have last : Acts (f a) rest (g a) [] rest := hf a ▸ acts_ofExcept (g a)
    have whole := hx.bind last
    rwa [List.append_nil] at whole

theorem Acts.bind_pure {result : Except Error α} {g : α → β} (hx : Acts x answers result own rest)
    (hf : ∀ a, f a = pure (g a)) : Acts (x >>= f) answers (result.map g) own rest := by
  have whole := hx.bind_ofExcept (g := fun a => .ok (g a)) hf
  cases result with
  | error e => exact whole
  | ok a => exact whole

/-- A part of a result is handed on. -/
theorem Acts.bind_part {γ : Type} {whole : Except Error γ} {part : γ → α} {g : α → β}
    (hx : Acts x answers (whole.map part) own rest) (hf : ∀ a, f a = pure (g a)) :
    Acts (x >>= f) answers (whole.map fun c => g (part c)) own rest := by
  have handed := hx.bind_pure hf
  cases whole with
  | error e => exact handed
  | ok c => exact handed

end Computations

/-! ## Calls -/

section Calls

variable {answers : List Cursor}

theorem acts_record (c : Call) : Acts (Recorder.record c) answers (.ok ()) [c] answers := by
  intro log
  have faults : (fun m => if m = c.method then [] else []) =
      fun _ : Method => ([] : List (Option String)) := by
    funext m
    exact ite_self _
  exact congrArg (fun faults => (Except.ok (), Recorder.mk (log ++ [c]) answers [] faults)) faults

theorem acts_execute_call (statement : Fragment) :
    Acts (Connection.execute statement) answers (.ok 1) [.execute statement] answers :=
  have counted : Acts Recorder.nextAffected answers (.ok 1) [] answers := fun log => by
    rw [List.append_nil]
    rfl
  (acts_record (.execute statement)).bind counted

theorem acts_cursor_call (query : Fragment) :
    Acts (Connection.cursor query) answers (.ok (nextAnswer answers)) [.cursor query] answers.tail :=
  have answered : Acts Recorder.nextAnswer answers (.ok (nextAnswer answers)) [] answers.tail :=
    fun log => by
      rw [List.append_nil]
      rfl
  (acts_record (.cursor query)).bind answered

end Calls

/-- Whether a call receives an answer. -/
def Call.isCursor : Call → Bool
  | cursor _ => true
  | _ => false

/-- The number of calls that receive an answer. -/
def cursorCount (log : List Call) : Nat := log.countP Call.isCursor

/-! ## Operations of a context -/

/-- The rows of an answer, or the error that every attempt to read one ends in. -/
def Cursor.content : Cursor → Except Error (List Row)
  | rows remaining => .ok remaining
  | failing message => .error (.driver (.reported message))

/-- The call that sends a query, if there is a statement for it. -/
def Context.sends (ctx : Context) (call : Fragment → Call) (q : Query) : List Call :=
  match ctx.compile q with
  | .ok f => [call f]
  | .error _ => []

/-- The names that an answer to `SHOW TABLES` gives. -/
def tableNames (rows : List Row) : List String := rows.filterMap fun r => r.first?.map Value.text

/-- The calls that create the tables of models, one after another. -/
def creations (models : List Model) : List Call :=
  models.map fun m => .execute (CreateTable.mk m false).fragment

/-- The calls that create the tables that are not in the answer to `SHOW TABLES`, if there is one. -/
def safeCreations (models : List Model) : Cursor → List Call
  | .rows rows => creations (models.filter fun m => !(tableNames rows).contains m.table)
  | .failing _ => []

/-- The calls that drop the tables of models, one after another. -/
def removals (models : List Model) : List Call :=
  models.map fun m => .execute (DropTable.mk m false).fragment

namespace Context

variable (ctx : Context) {answers : List Cursor}

/-- There is one dialect. -/
theorem compile_eq (q : Query) : ctx.compile q = Dialect.mysql.compile q := by
  obtain ⟨dialect, config⟩ := ctx
  cases dialect
  rfl

theorem compile_eq_ok {q : Query} {f : Fragment} (h : q.compile = .ok f) : ctx.compile q = .ok f := by
  rw [compile_eq, Dialect.compile_eq_ok_iff]
  exact h

/-- A query without a statement leaves the connection as it is. -/
theorem run_execute_of_error {σ : Type} [Connection σ] {q : Query} {e : Error}
    (h : ctx.compile q = .error e) (s : σ) : (ctx.execute q).run.run s = (.error e, s) := by
  unfold execute
  rw [h]
  rfl

theorem run_data_of_error {σ : Type} [Connection σ] {q : Query} {e : Error}
    (h : ctx.compile q = .error e) (s : σ) : (ctx.data q).run.run s = (.error e, s) := by
  unfold data
  rw [h]
  rfl

/-- What is done with a result is no call of its own. -/
theorem bind_ofExcept {σ α β γ : Type} {x : Session σ α} {g : α → Except Error β}
    {k : β → Session σ γ} {read : β → Except Error γ} (hk : ∀ b, k b = ofExcept (read b)) :
    (x >>= fun a => ofExcept (g a)) >>= k = x >>= fun a => ofExcept ((g a).bind read) := by
  rw [bind_assoc]
  congr 1
  funext a
  cases g a with
  | error e => rfl
  | ok b => exact (pure_bind b k).trans (hk b)

/-- Whatever the connection is, the first row of a query takes one cursor and nothing else. -/
theorem fetchOne_eq {σ : Type} [Connection σ] (q : Select) : (ctx.fetchOne q : Session σ (Option Row)) =
    Connection.cursor q.fragment >>= fun c => ofExcept (c.content.map List.head?) := by
  have first (c : Cursor) :
      (ofExcept c.fetchOne >>= fun p => pure p.1 : Session σ (Option Row)) =
        ofExcept (c.content.map List.head?) := by
    cases c with
    | failing message => rfl
    | rows remaining => cases remaining <;> rfl
  have sent : (ctx.data (.select q) : Session σ Cursor) = Connection.cursor q.fragment := by
    unfold data
    rw [ctx.compile_eq_ok (q := .select q) (f := q.fragment) rfl]
    rfl
  unfold fetchOne
  rw [sent]
  exact bind_congr first

theorem acts_begin :
    Acts (begin (σ := Recorder) ctx) answers (.ok ()) [.connect, .beginTransaction] answers :=
  (acts_record .connect).bind (acts_record .beginTransaction)

theorem acts_finish :
    Acts (finish (σ := Recorder) ctx) answers (.ok ()) [.commit, .close] answers :=
  (acts_record .commit).bind (acts_record .close)

theorem acts_execute (q : Query) : Acts (ctx.execute q) answers ((ctx.compile q).map fun _ => 1)
    (ctx.sends .execute q) answers := by
  unfold execute sends
  cases ctx.compile q with
  | error e => exact (acts_ofExcept (.error e)).bind_error
  | ok f => exact (acts_ofExcept (.ok f)).bind (acts_execute_call f)

theorem acts_data_of_ok {q : Query} {f : Fragment} (h : ctx.compile q = .ok f) :
    Acts (ctx.data q) answers (.ok (nextAnswer answers)) [.cursor f] answers.tail := by
  unfold data
  rw [h]
  exact (acts_ofExcept (.ok f)).bind (acts_cursor_call f)

theorem acts_data (q : Query) : Acts (ctx.data q) answers
    ((ctx.compile q).map fun _ => nextAnswer answers) (ctx.sends .cursor q)
    (answers.drop (cursorCount (ctx.sends .cursor q))) := by
  unfold sends
  cases h : ctx.compile q with
  | error e =>
    unfold data
    rw [h]
    exact (acts_ofExcept (.error e)).bind_error
  | ok f =>
    have asked : Acts (ctx.data q) answers _ _ _ := ctx.acts_data_of_ok h
    rwa [← List.drop_one] at asked

/-- What is read from the answer to a query has no effect of its own. -/
theorem acts_answered {α β : Type} {q : Query} {f : Fragment} (h : ctx.compile q = .ok f)
    {read : Cursor → Except Error α} {k : α → Session Recorder β} {g : α → β}
    (hk : ∀ a, k a = pure (g a)) :
    Acts (ctx.data q >>= fun c => ofExcept (read c) >>= k) answers
      ((read (nextAnswer answers)).map g) [.cursor f] answers.tail :=
  (ctx.acts_data_of_ok h).bind ((acts_ofExcept _).bind_pure hk)

theorem acts_fetchAll (q : Select) : Acts (ctx.fetchAll q) answers (nextAnswer answers).content
    [.cursor q.fragment] answers.tail := by
  have content (c : Cursor) : c.fetchAll.map Prod.fst = c.content := by cases c <;> rfl
  rw [← content]
  exact ctx.acts_answered (ctx.compile_eq_ok (q := .select q) rfl) fun _ => rfl

theorem acts_fetchMany (q : Select) (n : Nat) : Acts (ctx.fetchMany q n) answers
    ((nextAnswer answers).content.map (List.take n)) [.cursor q.fragment] answers.tail := by
  have content (c : Cursor) : (c.fetch n).map Prod.fst = c.content.map (List.take n) := by
    cases c <;> rfl
  rw [← content]
  exact ctx.acts_answered (ctx.compile_eq_ok (q := .select q) rfl) fun _ => rfl

theorem acts_fetchOne (q : Select) : Acts (ctx.fetchOne q) answers
    ((nextAnswer answers).content.map List.head?) [.cursor q.fragment] answers.tail := by
  rw [fetchOne_eq]
  exact (acts_cursor_call q.fragment).bind (acts_ofExcept _)

/-- The number of rows that the first row of an answer holds. -/
def counted (q : Select) (row : Option Row) : Except Error Nat :=
  match countOf? row with
  | some n => .ok n
  | none => .error (.driver (.noCount q.model.table))

/-- What a count query gives for an answer. -/
def countIn (q : Select) (c : Cursor) : Except Error Nat :=
  c.content.bind fun rows => counted q rows.head?

/-- Whatever the connection is, a count takes one cursor and nothing else. -/
theorem count_eq {σ : Type} [Connection σ] (q : Select) : (ctx.count q : Session σ Nat) =
    Connection.cursor q.count.fragment >>= fun c => ofExcept (countIn q c) := by
  have read : (ctx.count q : Session σ Nat) =
      ctx.fetchOne q.count >>= fun row => ofExcept (counted q row) := by
    unfold count
    refine bind_congr fun row => ?_
    unfold counted
    cases countOf? row <;> rfl
  have parts (c : Cursor) :
      (c.content.map List.head?).bind (counted q) = countIn q c := by cases c <;> rfl
  rw [read, fetchOne_eq]
  refine (bind_ofExcept fun row => rfl).trans ?_
  simp only [parts]

theorem acts_count (q : Select) : Acts (ctx.count q) answers
    ((nextAnswer answers).content.bind fun rows => counted q rows.head?) [.cursor q.count.fragment]
    answers.tail := by
  rw [count_eq]
  exact (acts_cursor_call q.count.fragment).bind (acts_ofExcept _)

theorem acts_showTables : Acts ctx.showTables answers ((nextAnswer answers).content.map tableNames)
    [.cursor (.text "SHOW TABLES")] answers.tail := by
  have content (c : Cursor) :
      c.fetchAll.map (fun p => tableNames p.1) = c.content.map tableNames := by cases c <;> rfl
  rw [← content]
  exact ctx.acts_answered (ctx.compile_eq_ok (q := .showTables) rfl) fun _ => rfl

theorem acts_createAll (models : List Model) :
    Acts (ctx.createAll models) answers (.ok ()) (creations models) answers := by
  induction models with
  | nil => exact acts_pure ()
  | cons m rest ih =>
    have sent : Acts (ctx.execute (.createTable ⟨m, false⟩)) answers _ _ _ := ctx.acts_execute _
    rw [sends, ctx.compile_eq_ok (q := .createTable ⟨m, false⟩) rfl] at sent
    exact sent.bind ih

theorem acts_dropAll (models : List Model) :
    Acts (ctx.dropAll models) answers (.ok ()) (removals models) answers := by
  induction models with
  | nil => exact acts_pure ()
  | cons m rest ih =>
    have sent : Acts (ctx.execute (.dropTable ⟨m, false⟩)) answers _ _ _ := ctx.acts_execute _
    rw [sends, ctx.compile_eq_ok (q := .dropTable ⟨m, false⟩) rfl] at sent
    exact sent.bind ih

theorem acts_createTables (models : List Model) :
    Acts (ctx.createTables models false) answers (.ok ()) (creations models) answers := by
  have none : Acts (pure []) answers (.ok ([] : List String)) [] answers := acts_pure []
  have created := none.bind
    (f := fun existing => ctx.createAll (models.filter fun m => !existing.contains m.table))
    (ctx.acts_createAll _)
  have all : models.filter (fun m => !([] : List String).contains m.table) = models :=
    List.filter_eq_self.2 fun _ _ => rfl
  rw [all] at created
  exact created

/-- A safe run first asks for the tables that exist and stops if there is no answer. -/
theorem acts_createTables_safe (models : List Model) :
    Acts (ctx.createTables models true) answers ((nextAnswer answers).content.map fun _ => ())
      (.cursor (.text "SHOW TABLES") :: safeCreations models (nextAnswer answers)) answers.tail := by
  have asked : Acts ctx.showTables answers _ _ _ := ctx.acts_showTables
  cases h : nextAnswer answers with
  | failing message =>
    rw [h] at asked
    exact asked.bind_error
  | rows remaining =>
    rw [h] at asked
    exact asked.bind (ctx.acts_createAll _)

end Context

end QueryBuilder
