import QueryBuilder.Query.Write

/-!
# SQL of queries that write rows

An inserted row keeps the order of its columns, without a primary key that is `NULL`, which
the database then generates. Updates and deletions name one row by a primary key that is not
`NULL`; without one there is no statement.
-/

namespace QueryBuilder
set_option autoImplicit false

/-- The cells of a row with a placeholder for each value, between commas. -/
def placeholders (cells : List (String × Value)) : Fragment :=
  Fragment.commaSeparated (cells.map fun c => .param c.2)

/-- The columns of a row, between commas. -/
def columnNames (cells : List (String × Value)) : Fragment :=
  Fragment.commaSeparated (cells.map fun c => .text c.1)

/-- The cells of a row as assignments, between commas. -/
def assignments (cells : List (String × Value)) : Fragment :=
  Fragment.commaSeparated (cells.map fun c => .text c.1 ++ .text " = " ++ .param c.2)

/-- The condition that names one row by its primary key. -/
def keyCondition (m : Model) (key : Value) : Fragment :=
  .text " WHERE " ++ .text m.primaryKey ++ .text " = " ++ .param key

/-- The value of the primary key in a row, unless that is missing or `NULL`. -/
def keyValue (statement : KeyedStatement) (m : Model) (r : Row) : Except CompileError Value :=
  match r.get? m.primaryKey with
  | some v => if v.isNull then .error (.noKey statement m.table m.primaryKey) else .ok v
  | none => .error (.noKey statement m.table m.primaryKey)

/-- The cells that are inserted. -/
def Insert.cells (q : Insert) : List (String × Value) :=
  q.row.toList.filter fun c => !(c.1 == q.model.primaryKey && c.2.isNull)

/-- The insertion in SQL. -/
def Insert.compile (q : Insert) : Except CompileError Fragment :=
  if q.cells.isEmpty then .error (.nothingToInsert q.model.table)
  else
    .ok (.text "INSERT INTO " ++ .text q.model.table ++ .text " (" ++ columnNames q.cells ++
      .text ") VALUES (" ++ placeholders q.cells ++ .text ")")

/-- The cells that are changed. -/
def Update.cells (q : Update) : List (String × Value) :=
  q.row.toList.filter fun c => c.1 != q.model.primaryKey

/-- The update in SQL. -/
def Update.compile (q : Update) : Except CompileError Fragment := do
  let key ← keyValue .update q.model q.row
  if q.cells.isEmpty then throw (.nothingToUpdate q.model.table)
  return .text "UPDATE " ++ .text q.model.table ++ .text " SET " ++ assignments q.cells ++
    keyCondition q.model key

/-- The deletion in SQL. -/
def Delete.compile (q : Delete) : Except CompileError Fragment := do
  let key ← keyValue .delete q.model q.row
  return .text "DELETE FROM " ++ .text q.model.table ++ keyCondition q.model key

/-! ## Text and parameters of the lists of cells -/

theorem sql_columnNames (cells : List (String × Value)) :
    (columnNames cells).sql = ", ".intercalate (cells.map Prod.fst) := by
  simp [columnNames, Fragment.sql_commaSeparated, Function.comp_def]

theorem sql_placeholders (cells : List (String × Value)) :
    (placeholders cells).sql = ", ".intercalate ((cells.map Prod.fst).map fun _ => "?") := by
  simp [placeholders, Fragment.sql_commaSeparated, Function.comp_def]

theorem sql_assignments (cells : List (String × Value)) :
    (assignments cells).sql = ", ".intercalate ((cells.map Prod.fst).map (· ++ " = " ++ "?")) := by
  simp [assignments, Fragment.sql_commaSeparated, Function.comp_def]

theorem params_columnNames (cells : List (String × Value)) : (columnNames cells).params = [] := by
  rw [columnNames, Fragment.params_commaSeparated, List.flatMap_map]
  exact List.flatMap_eq_nil_iff.2 fun _ _ => rfl

theorem params_placeholders (cells : List (String × Value)) :
    (placeholders cells).params = cells.map Prod.snd := by
  rw [placeholders, Fragment.params_commaSeparated, List.flatMap_map, List.map_eq_flatMap]
  rfl

theorem params_assignments (cells : List (String × Value)) :
    (assignments cells).params = cells.map Prod.snd := by
  rw [assignments, Fragment.params_commaSeparated, List.flatMap_map, List.map_eq_flatMap]
  rfl

/-! ## When there is a statement -/

theorem keyValue_eq_ok_iff {statement : KeyedStatement} {m : Model} {r : Row} {v : Value} :
    keyValue statement m r = .ok v ↔ r.get? m.primaryKey = some v ∧ v ≠ .null := by
  unfold keyValue
  cases r.get? m.primaryKey with
  | none => simp
  | some w =>
    dsimp only
    by_cases hw : w = .null
    · have null : w.isNull = true := Value.isNull_iff.2 hw
      rw [if_pos null]
      refine ⟨fun h => (by cases h), fun h => ?_⟩
      exact absurd (Option.some.inj h.1 ▸ hw) h.2
    · have notNull : ¬ w.isNull = true := fun e => hw (Value.isNull_iff.1 e)
      rw [if_neg notNull]
      refine ⟨fun h => ?_, fun h => congrArg Except.ok (Option.some.inj h.1)⟩
      rw [← Except.ok.inj h]
      exact ⟨rfl, hw⟩

theorem keyValue_eq_error {statement : KeyedStatement} {m : Model} {r : Row}
    (h : ∀ v, r.get? m.primaryKey = some v → v = .null) :
    keyValue statement m r = .error (.noKey statement m.table m.primaryKey) := by
  unfold keyValue
  cases hr : r.get? m.primaryKey with
  | none => rfl
  | some w => rw [h w hr]; rfl

theorem Insert.compile_eq_ok_iff {q : Insert} {f : Fragment} :
    q.compile = .ok f ↔ q.cells ≠ [] ∧
      f = .text "INSERT INTO " ++ .text q.model.table ++ .text " (" ++ columnNames q.cells ++
        .text ") VALUES (" ++ placeholders q.cells ++ .text ")" := by
  unfold compile
  cases q.cells with
  | nil => simp
  | cons c cells => simp [eq_comm]

theorem Update.compile_eq_ok_iff {q : Update} {f : Fragment} :
    q.compile = .ok f ↔ ∃ key, keyValue .update q.model q.row = .ok key ∧ q.cells ≠ [] ∧
      f = .text "UPDATE " ++ .text q.model.table ++ .text " SET " ++ assignments q.cells ++
        keyCondition q.model key := by
  unfold compile
  cases keyValue .update q.model q.row with
  | error e => simp [bind, Except.bind]
  | ok key =>
    cases q.cells with
    | nil => simp [bind, Except.bind, throw, throwThe, MonadExceptOf.throw]
    | cons c cells => simp [bind, Except.bind, pure, Except.pure, eq_comm]

theorem Delete.compile_eq_ok_iff {q : Delete} {f : Fragment} :
    q.compile = .ok f ↔ ∃ key, keyValue .delete q.model q.row = .ok key ∧
      f = .text "DELETE FROM " ++ .text q.model.table ++ keyCondition q.model key := by
  unfold compile
  cases keyValue .delete q.model q.row with
  | error e => simp [bind, Except.bind]
  | ok key => simp [bind, Except.bind, pure, Except.pure, eq_comm]

end QueryBuilder
