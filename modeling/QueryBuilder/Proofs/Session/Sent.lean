import QueryBuilder.Proofs.Session.Operation

/-!
# What an operation sends

Every statement that an operation logs has been compiled from one of its queries
(`Operation.compiled_calls`). Each kind of query has a first word of its own, so a statement that
starts like an update or a deletion comes from one, and it ends in the key of one row
(`Query.keyed_of_compile`). A query for which there is no statement ends its operation before
anything is called (`Operation.run_perform_of_error`).
-/

namespace QueryBuilder
set_option autoImplicit false

namespace Fragment

/-- The text starts with this word. -/
def Begins (f : Fragment) (word : String) : Prop := word.toList <+: f.sql.toList

/-- The statement changes or deletes rows of a table. -/
def WritesRows (f : Fragment) : Prop := f.Begins "UPDATE " ∨ f.Begins "DELETE "

/-- The statement ends in a condition on one column, and its last parameter, which that column is
compared with, is not `NULL`. -/
def KeyedBy (f : Fragment) (column : String) : Prop :=
  ∃ (head : String) (key : Value), f.sql = head ++ " WHERE " ++ column ++ " = ?" ∧
    f.params.getLast? = some key ∧ key ≠ .null

theorem begins_text (word : String) : (text word).Begins word := List.prefix_rfl

theorem Begins.append {a : Fragment} {word : String} (h : a.Begins word) (b : Fragment) :
    (a ++ b).Begins word := by
  obtain ⟨rest, hr⟩ := h
  exact ⟨rest ++ b.sql.toList, by rw [sql_append, String.toList_append, ← hr, List.append_assoc]⟩

/-- A statement that starts with a word of another kind writes no rows: two words at the start of one
text agree as far as the shorter one goes. -/
theorem Begins.not_writesRows {f : Fragment} {word : String} (h : f.Begins word)
    (other : ∀ w ∈ ["UPDATE ", "DELETE "],
      ¬(w.toList <+: word.toList ∨ word.toList <+: w.toList)) : ¬f.WritesRows := by
  rintro (update | delete)
  · exact other _ (by decide) (List.prefix_or_prefix_of_prefix update h)
  · exact other _ (by decide) (List.prefix_or_prefix_of_prefix delete h)

end Fragment

/-! ## Statements with a key -/

theorem keyed_keyCondition {m : Model} {key : Value} (head : Fragment) (h : key ≠ .null) :
    (head ++ keyCondition m key).KeyedBy m.primaryKey := by
  refine ⟨head.sql, key, ?_, List.getLast?_concat, h⟩
  simp [keyCondition, String.append_assoc]

/-- A statement that writes rows is compiled from an update or a deletion, and names one row by the
primary key of the model. -/
theorem Query.keyed_of_compile {q : Query} {f : Fragment} (h : q.compile = .ok f)
    (writes : f.WritesRows) :
    ∃ m r, (q = .update ⟨m, r⟩ ∨ q = .delete ⟨m, r⟩) ∧ f.KeyedBy m.primaryKey := by
  -- the other kinds are told apart by their first word
  have never (word : String) (begins : f.Begins word)
      (other : ∀ w ∈ ["UPDATE ", "DELETE "],
        ¬(w.toList <+: word.toList ∨ word.toList <+: w.toList)) :
      ∃ m r, (q = .update ⟨m, r⟩ ∨ q = .delete ⟨m, r⟩) ∧ f.KeyedBy m.primaryKey :=
    absurd writes (begins.not_writesRows other)
  cases q with
  | select s =>
    cases h
    exact never "SELECT " ((((Fragment.begins_text _).append _).append _).append _) (by decide)
  | insert s =>
    obtain ⟨_, rfl⟩ := Insert.compile_eq_ok_iff.1 h
    exact never "INSERT INTO " (((((((Fragment.begins_text _).append _).append _).append _).append
      _).append _).append _) (by decide)
  | update s =>
    obtain ⟨key, found, _, rfl⟩ := Update.compile_eq_ok_iff.1 h
    exact ⟨s.model, s.row, .inl rfl, keyed_keyCondition _ (keyValue_eq_ok_iff.1 found).2⟩
  | delete s =>
    obtain ⟨key, found, rfl⟩ := Delete.compile_eq_ok_iff.1 h
    exact ⟨s.model, s.row, .inr rfl, keyed_keyCondition _ (keyValue_eq_ok_iff.1 found).2⟩
  | createTable s =>
    cases h
    exact never "CREATE TABLE " (((((((Fragment.begins_text _).append _).append _).append _).append
      _).append _).append _) (by decide)
  | dropTable s =>
    cases h
    exact never "DROP TABLE " (((Fragment.begins_text _).append _).append _) (by decide)
  | showTables =>
    cases h
    exact never _ (Fragment.begins_text "SHOW TABLES") (by decide)

/-! ## Statements of an operation -/

/-- The statement that a call sends, if it sends one. -/
def Call.statement? : Call → Option Fragment
  | execute statement => some statement
  | cursor query => some query
  | _ => none

/-- Every statement among the calls is compiled from one of the queries. -/
def Compiled (ctx : Context) (queries : List Query) (log : List Call) : Prop :=
  ∀ c ∈ log, ∀ f, c.statement? = some f → ∃ q ∈ queries, ctx.compile q = .ok f

section Compiled

variable {ctx : Context}

theorem Compiled.nil {queries : List Query} : Compiled ctx queries [] := fun _ hc => nomatch hc

theorem Compiled.cons {queries : List Query} {c : Call} {log : List Call}
    (first : ∀ f, c.statement? = some f → ∃ q ∈ queries, ctx.compile q = .ok f)
    (others : Compiled ctx queries log) : Compiled ctx queries (c :: log) := by
  intro d hd
  rcases List.mem_cons.1 hd with rfl | hd
  · exact first
  · exact others d hd

/-- Calls that send nothing. -/
theorem Compiled.of_silent {queries : List Query} {log : List Call}
    (h : ∀ c ∈ log, c.statement? = none) : Compiled ctx queries log := fun c hc f sent => by
  rw [h c hc] at sent
  cases sent

theorem compiled_one {q : Query} {f : Fragment} {c : Call} (h : q.compile = .ok f)
    (sent : c.statement? = some f) : Compiled ctx [q] [c] :=
  Compiled.nil.cons fun _ other =>
    ⟨q, List.mem_singleton.2 rfl, Option.some.inj (sent.symm.trans other) ▸ ctx.compile_eq_ok h⟩

theorem compiled_sends {q : Query} {call : Fragment → Call}
    (sent : ∀ f, (call f).statement? = some f) : Compiled ctx [q] (ctx.sends call q) := by
  unfold Context.sends
  cases h : ctx.compile q with
  | error e => exact Compiled.nil
  | ok f => exact Compiled.nil.cons fun g other =>
      ⟨q, List.mem_singleton.2 rfl, Option.some.inj ((sent f).symm.trans other) ▸ h⟩

/-- One statement for each of some models, each from a query of its own. -/
theorem compiled_map {models : List Model} {queries : List Query} {query : Model → Query}
    {statement : Model → Fragment} (total : ∀ m, (query m).compile = .ok (statement m))
    (listed : ∀ m ∈ models, query m ∈ queries) :
    Compiled ctx queries (models.map fun m => .execute (statement m)) := by
  intro c hc f sent
  obtain ⟨m, hm, rfl⟩ := List.mem_map.1 hc
  exact ⟨query m, listed m hm, Option.some.inj sent ▸ ctx.compile_eq_ok (total m)⟩

theorem compiled_safeCreations {models : List Model} (answer : Cursor) :
    Compiled ctx (.showTables :: models.map fun m => .createTable ⟨m, false⟩)
      (safeCreations models answer) := by
  cases answer with
  | failing message => exact Compiled.nil
  | rows remaining =>
    exact compiled_map (fun _ => rfl) fun m hm =>
      List.mem_cons_of_mem _ (List.mem_map_of_mem (List.mem_filter.1 hm).1)

end Compiled

namespace Operation

/-- Every statement of an operation is compiled from one of its queries. -/
theorem compiled_calls (ctx : Context) (answer : Cursor) (op : Operation) :
    Compiled ctx (op.queries ctx) (op.calls ctx answer) := by
  cases op with
  | begin | saveChanges | finish => exact Compiled.of_silent (by simp [calls, Call.statement?])
  | execute q | add m r | update m r | remove m r => exact compiled_sends fun _ => rfl
  | data q => exact compiled_sends fun _ => rfl
  | fetchAll q | fetchMany q n | fetchOne q | count q | showTables | get m filters | all m =>
    exact compiled_one rfl rfl
  | createTables models safe =>
    cases safe with
    | false =>
      exact compiled_map (fun _ => rfl) fun m hm => List.mem_cons_of_mem _ (List.mem_map_of_mem hm)
    | true =>
      refine Compiled.cons (fun f sent => ?_) (compiled_safeCreations answer)
      exact ⟨.showTables, List.mem_cons_self, Option.some.inj sent ▸ ctx.compile_eq_ok rfl⟩
  | dropTables models =>
    exact compiled_map (fun _ => rfl) fun m hm =>
      List.mem_map_of_mem (List.mem_reverse.1 hm)

/-- An operation asks for one answer at most. -/
theorem cursorCount_calls_le (ctx : Context) (answer : Cursor) (op : Operation) :
    cursorCount (op.calls ctx answer) ≤ 1 := by
  cases op with
  | begin | saveChanges | finish => exact Nat.zero_le 1
  | execute q | add m r | update m r | remove m r =>
    rw [calls, cursorCount_sends_execute]
    exact Nat.zero_le 1
  | data q =>
    rw [calls, Context.sends]
    cases ctx.compile q with
    | error e => exact Nat.zero_le 1
    | ok f => exact Nat.le_refl 1
  | fetchAll q | fetchMany q n | fetchOne q | count q | showTables | get m filters | all m =>
    exact Nat.le_refl 1
  | createTables models safe =>
    cases safe with
    | false =>
      rw [calls, cursorCount_creations]
      exact Nat.zero_le 1
    | true => exact Nat.le_of_eq (cursorCount_safe models answer)
  | dropTables models =>
    rw [calls, cursorCount_removals]
    exact Nat.zero_le 1

/-- What would be done with a result is not done after an error. -/
theorem run_bind_of_error {α β : Type} {x : Session Recorder α} {f : α → Session Recorder β}
    {e : Error} {r r' : Recorder} (h : x.run.run r = (.error e, r')) :
    (x >>= f).run.run r = (.error e, r') := by
  rw [ExceptT.run_bind, StateT.run_bind, h]
  rfl

/-- An operation for one of whose queries there is no statement returns that error. It calls nothing
and takes no answer, whatever state the connection is in. -/
theorem run_perform_of_error {ctx : Context} {op : Operation} {q : Query} {e : Error}
    (hq : q ∈ op.queries ctx) (h : ctx.compile q = .error e) (r : Recorder) :
    (op.perform ctx).run.run r = (.error e, r) := by
  -- only the queries that are passed in and the writes of rows can be without a statement
  have never {f : Fragment} (total : q.compile = .ok f) :
      (op.perform ctx).run.run r = (.error e, r) := by
    rw [ctx.compile_eq_ok total] at h
    cases h
  cases op with
  | begin | saveChanges | finish => cases hq
  | execute p | add m row | update m row | remove m row =>
    cases List.mem_singleton.1 hq
    exact run_bind_of_error (ctx.run_execute_of_error h r)
  | data p =>
    cases List.mem_singleton.1 hq
    exact run_bind_of_error (ctx.run_data_of_error h r)
  | fetchAll p | fetchMany p n | fetchOne p | count p | showTables | get m filters | all m =>
    cases List.mem_singleton.1 hq
    exact never rfl
  | createTables models safe =>
    rcases List.mem_cons.1 hq with rfl | hq
    · exact never rfl
    · obtain ⟨m, _, rfl⟩ := List.mem_map.1 hq
      exact never rfl
  | dropTables models =>
    obtain ⟨m, _, rfl⟩ := List.mem_map.1 hq
    exact never rfl

end Operation

end QueryBuilder
