import QueryBuilder.Compile

/-!
# Literals and the text of statements

`Query.blank` has `NULL` in the place of every literal of a query, so two queries with the same
blank differ in their literals only. `Query.slots` lists the places of the literals that a
statement binds, and `Query.literalAt` gives the literal of a query in a place. Main statement: two
queries with the same blank have the same outcome, text and error alike, and bind the literals of
the same places (`compile_of_blank_eq`). The one thing that text may depend on is whether the row
has `NULL` for the primary key.
-/

namespace QueryBuilder
set_option autoImplicit false

/-! ## Queries up to their literals -/

def Operand.blank : Operand → Operand
  | value _ => .value .null
  | column c => .column c

def Clause.blank : Clause → Clause
  | compare left op right => .compare left op right.blank
  | and left right => .and left.blank right.blank
  | or left right => .or left.blank right.blank

def Select.blank (q : Select) : Select := { q with filter := q.filter.map Clause.blank }

/-- The same columns in the same order, with `NULL` in each. -/
def Row.blank (r : Row) : Row :=
  ⟨r.toList.map fun c => (c.1, .null), by simpa [Function.comp_def] using r.nodup_keys⟩

/-- The query with `NULL` for each of its literals. -/
def Query.blank : Query → Query
  | select q => .select q.blank
  | insert q => .insert { q with row := q.row.blank }
  | update q => .update { q with row := q.row.blank }
  | delete q => .delete { q with row := q.row.blank }
  | createTable q => .createTable q
  | dropTable q => .dropTable q
  | showTables => .showTables

/-- Whether a row has a cell for a column and `NULL` in it. -/
def Row.hasNull (r : Row) (column : String) : Bool := r.get? column == some .null

/-- Whether the row of a query has `NULL` for the primary key. -/
def Query.keyIsNull : Query → Bool
  | insert q => q.row.hasNull q.model.primaryKey
  | update q => q.row.hasNull q.model.primaryKey
  | delete q => q.row.hasNull q.model.primaryKey
  | _ => false

/-! ## Places of literals -/

inductive Side where
  | left | right

/-- A place where a query can have a literal. -/
inductive Slot where
  /-- The right operand of the comparison at the end of a path through the condition. -/
  | filter (path : List Side)
  /-- The cell of a row in a column. -/
  | cell (column : String)

def Clause.literalAt : Clause → List Side → Option Value
  | compare _ _ (.value v), [] => some v
  | and left _, .left :: path => left.literalAt path
  | and _ right, .right :: path => right.literalAt path
  | or left _, .left :: path => left.literalAt path
  | or _ right, .right :: path => right.literalAt path
  | _, _ => none

/-- The literal of a query in a place. -/
def Query.literalAt : Query → Slot → Option Value
  | select q, .filter path => q.filter.bind (·.literalAt path)
  | insert q, .cell column => q.row.get? column
  | update q, .cell column => q.row.get? column
  | delete q, .cell column => q.row.get? column
  | _, _ => none

/-- The paths to the literals of a condition, from left to right. -/
def Clause.paths : Clause → List (List Side)
  | compare _ _ (.value _) => [[]]
  | compare _ _ (.column _) => []
  | and left right => left.paths.map (.left :: ·) ++ right.paths.map (.right :: ·)
  | or left right => left.paths.map (.left :: ·) ++ right.paths.map (.right :: ·)

/-- The places of the literals that the statement of a query binds, in the order of their
placeholders. -/
def Query.slots : Query → List Slot
  | select q => (q.filter.toList.flatMap Clause.paths).map .filter
  | insert q => (q.cells.map Prod.fst).map .cell
  | update q => (q.cells.map Prod.fst).map .cell ++ [.cell q.model.primaryKey]
  | delete q => [.cell q.model.primaryKey]
  | _ => []

/-! ## Conditions -/

namespace Clause

theorem isComposite_blank (c : Clause) : c.blank.isComposite = c.isComposite := by
  cases c <;> rfl

theorem sql_operandFragment_blank {c : Clause} (h : c.blank.fragment.sql = c.fragment.sql) :
    c.blank.operandFragment.sql = c.operandFragment.sql := by
  unfold operandFragment
  rw [isComposite_blank]
  cases c.isComposite with
  | true => simp [h]
  | false => exact h

theorem sql_blank (c : Clause) : c.blank.fragment.sql = c.fragment.sql := by
  induction c with
  | compare left op right =>
    cases right with
    | value v => rfl
    | column r => rfl
  | and left right ihLeft ihRight =>
    rw [blank, fragment_and, fragment_and]
    simp [sql_operandFragment_blank ihLeft, sql_operandFragment_blank ihRight]
  | or left right ihLeft ihRight =>
    rw [blank, fragment_or, fragment_or]
    simp [sql_operandFragment_blank ihLeft, sql_operandFragment_blank ihRight]

theorem paths_blank (c : Clause) : c.blank.paths = c.paths := by
  induction c with
  | compare left op right =>
    cases right with
    | value v => rfl
    | column r => rfl
  | and left right ihLeft ihRight => rw [blank, paths, paths, ihLeft, ihRight]
  | or left right ihLeft ihRight => rw [blank, paths, paths, ihLeft, ihRight]

/-- A condition binds its literals from left to right. -/
theorem params_eq_paths (c : Clause) : c.fragment.params.map some = c.paths.map c.literalAt := by
  induction c with
  | compare left op right =>
    cases right with
    | value v => simp [fragment, Column.params_fragment, Operand.fragment, paths, literalAt]
    | column r => simp [fragment, Column.params_fragment, Operand.fragment, paths]
  | and left right ihLeft ihRight =>
    simp [fragment_and, params_operandFragment, ihLeft, ihRight, paths, literalAt,
      Function.comp_def]
  | or left right ihLeft ihRight =>
    simp [fragment_or, params_operandFragment, ihLeft, ihRight, paths, literalAt,
      Function.comp_def]

end Clause

/-! ## Select queries -/

namespace Select

theorem sql_filterFragment_blank (q : Select) :
    q.blank.filterFragment.sql = q.filterFragment.sql := by
  unfold filterFragment blank
  cases q.filter with
  | none => rfl
  | some c => simp [Clause.sql_blank]

theorem sql_blank (q : Select) : q.blank.fragment.sql = q.fragment.sql := by
  have filter := sql_filterFragment_blank q
  simp only [fragment, coreFragment, Fragment.sql_append, filter]
  rfl

end Select

/-! ## Queries that write rows -/

/-- Whether a row has a value other than `NULL` in a column. -/
def Row.hasValue (r : Row) (column : String) : Bool :=
  decide (column ∈ r.keys) && !r.hasNull column

theorem Row.keys_blank (r : Row) : r.blank.keys = r.keys := by
  simp [blank, KeyedList.keys, Function.comp_def]

theorem Row.keys_eq_of_blank_eq {r s : Row} (h : r.blank = s.blank) : r.keys = s.keys := by
  rw [← keys_blank r, h, keys_blank s]

theorem exists_keyValue (statement : KeyedStatement) {m : Model} {r : Row}
    (h : r.hasValue m.primaryKey = true) : ∃ v, keyValue statement m r = .ok v := by
  simp only [Row.hasValue, Row.hasNull, Bool.and_eq_true, decide_eq_true_eq, Bool.not_eq_true',
    beq_eq_false_iff_ne] at h
  cases hr : r.get? m.primaryKey with
  | none => exact absurd h.1 (Row.get?_eq_none_iff.1 hr)
  | some v => exact ⟨v, keyValue_eq_ok_iff.2 ⟨hr, fun e => h.2 (e ▸ hr)⟩⟩

theorem keyValue_of_not_hasValue {statement : KeyedStatement} {m : Model} {r : Row}
    (h : ¬ r.hasValue m.primaryKey = true) :
    keyValue statement m r = .error (.noKey statement m.table m.primaryKey) := by
  refine keyValue_eq_error fun v hv => ?_
  have present : m.primaryKey ∈ r.keys := by
    refine Decidable.byContradiction fun absent => ?_
    rw [Row.get?_eq_none_iff.2 absent] at hv
    cases hv
  have null : r.hasNull m.primaryKey = true := by simpa [Row.hasValue, present] using h
  have found : r.get? m.primaryKey = some .null := by simpa [Row.hasNull] using null
  exact Option.some.inj (hv.symm.trans found)

/-- The columns of an insertion depend on the columns of the row and on whether the key is `NULL`. -/
theorem Insert.columns_eq (q : Insert) : q.cells.map Prod.fst =
    q.row.keys.filter fun c => !(c == q.model.primaryKey && q.row.hasNull q.model.primaryKey) := by
  rw [KeyedList.keys, List.filter_map, cells]
  congr 1
  refine List.filter_congr fun c hc => ?_
  by_cases key : c.1 = q.model.primaryKey
  · have found := Row.get?_of_mem hc
    rw [key] at found
    have null : c.2.isNull = (some c.2 == some Value.null) := by
      rw [Bool.eq_iff_iff, Value.isNull_iff, beq_iff_eq, Option.some.injEq]
    simp [Row.hasNull, found, key, null]
  · have other : (c.1 == q.model.primaryKey) = false := beq_eq_false_iff_ne.2 key
    simp [other]

theorem Update.columns_eq (q : Update) :
    q.cells.map Prod.fst = q.row.keys.filter (· != q.model.primaryKey) := by
  rw [KeyedList.keys, List.filter_map, cells]
  rfl

theorem Insert.map_sql_compile (q : Insert) : q.compile.map Fragment.sql =
    if (q.cells.map Prod.fst).isEmpty then .error (.nothingToInsert q.model.table)
    else .ok ("INSERT INTO " ++ q.model.table ++ " (" ++
      ", ".intercalate (q.cells.map Prod.fst) ++ ") VALUES (" ++
      ", ".intercalate ((q.cells.map Prod.fst).map fun _ => "?") ++ ")") := by
  rw [List.isEmpty_map]
  unfold compile
  split
  · rfl
  · simp [Except.map, sql_columnNames, sql_placeholders]

theorem sql_keyCondition (m : Model) (key : Value) :
    (keyCondition m key).sql = " WHERE " ++ m.primaryKey ++ " = " ++ "?" := rfl

theorem Update.map_sql_compile (q : Update) : q.compile.map Fragment.sql =
    if q.row.hasValue q.model.primaryKey then
      if (q.cells.map Prod.fst).isEmpty then .error (.nothingToUpdate q.model.table)
      else .ok ("UPDATE " ++ q.model.table ++ " SET " ++
        ", ".intercalate ((q.cells.map Prod.fst).map (· ++ " = " ++ "?")) ++
        (" WHERE " ++ q.model.primaryKey ++ " = " ++ "?"))
    else .error (.noKey .update q.model.table q.model.primaryKey) := by
  rw [List.isEmpty_map]
  unfold compile
  by_cases value : q.row.hasValue q.model.primaryKey = true
  · obtain ⟨key, hkey⟩ := exists_keyValue .update value
    rw [if_pos value, hkey]
    cases q.cells.isEmpty with
    | true => rfl
    | false =>
      simp [bind, Except.bind, pure, Except.pure, Except.map, sql_assignments, sql_keyCondition]
  · rw [if_neg value, keyValue_of_not_hasValue value]
    rfl

theorem Delete.map_sql_compile (q : Delete) : q.compile.map Fragment.sql =
    if q.row.hasValue q.model.primaryKey then
      .ok ("DELETE FROM " ++ q.model.table ++ (" WHERE " ++ q.model.primaryKey ++ " = " ++ "?"))
    else .error (.noKey .delete q.model.table q.model.primaryKey) := by
  unfold compile
  by_cases value : q.row.hasValue q.model.primaryKey = true
  · obtain ⟨key, hkey⟩ := exists_keyValue .delete value
    rw [if_pos value, hkey]
    rfl
  · rw [if_neg value, keyValue_of_not_hasValue value]
    rfl

/-! ## Two runs -/

section TwoRuns

/-- Rows with the same columns and with `NULL` for the key in both or in neither. -/
structure Row.Alike (column : String) (r s : Row) : Prop where
  keys : r.keys = s.keys
  null : r.hasNull column = s.hasNull column

theorem Row.Alike.hasValue {column : String} {r s : Row} (h : r.Alike column s) :
    r.hasValue column = s.hasValue column := by
  rw [Row.hasValue, Row.hasValue, h.keys, h.null]

theorem Insert.outcome_eq {m : Model} {r s : Row} (h : r.Alike m.primaryKey s) :
    (compile ⟨m, r⟩).map Fragment.sql = (compile ⟨m, s⟩).map Fragment.sql ∧
      (Query.insert ⟨m, r⟩).slots = (Query.insert ⟨m, s⟩).slots := by
  have columns : (cells ⟨m, r⟩).map Prod.fst = (cells ⟨m, s⟩).map Prod.fst := by
    rw [columns_eq, columns_eq, h.keys, h.null]
  constructor
  · rw [map_sql_compile, map_sql_compile, columns]
  · rw [Query.slots, Query.slots, columns]

theorem Update.outcome_eq {m : Model} {r s : Row} (h : r.Alike m.primaryKey s) :
    (compile ⟨m, r⟩).map Fragment.sql = (compile ⟨m, s⟩).map Fragment.sql ∧
      (Query.update ⟨m, r⟩).slots = (Query.update ⟨m, s⟩).slots := by
  have columns : (cells ⟨m, r⟩).map Prod.fst = (cells ⟨m, s⟩).map Prod.fst := by
    rw [columns_eq, columns_eq, h.keys]
  constructor
  · rw [map_sql_compile, map_sql_compile, columns, h.hasValue]
  · rw [Query.slots, Query.slots, columns]

theorem Delete.outcome_eq {m : Model} {r s : Row} (h : r.Alike m.primaryKey s) :
    (compile ⟨m, r⟩).map Fragment.sql = (compile ⟨m, s⟩).map Fragment.sql := by
  rw [map_sql_compile, map_sql_compile, h.hasValue]

theorem Select.outcome_eq {q q' : Select} (h : q.blank = q'.blank) :
    q.fragment.sql = q'.fragment.sql ∧ (Query.select q).slots = (Query.select q').slots := by
  constructor
  · rw [← sql_blank q, h, sql_blank q']
  · have slots (p : Select) : (Query.select p).slots = (Query.select p.blank).slots := by
      simp only [Query.slots, Select.blank]
      cases p.filter with
      | none => rfl
      | some c => simp [Clause.paths_blank]
    rw [slots q, h, ← slots q']

/-- The text of a statement, the error if there is none, and the places of the literals that it
binds do not depend on the literals. -/
theorem Query.outcome_eq {q q' : Query} (same : q.blank = q'.blank)
    (key : q.keyIsNull = q'.keyIsNull) :
    q.compile.map Fragment.sql = q'.compile.map Fragment.sql ∧ q.slots = q'.slots := by
  cases q with
  | select q =>
    cases q' with
    | select q' =>
      obtain ⟨sql, slots⟩ := Select.outcome_eq (Query.select.inj same)
      exact ⟨congrArg Except.ok sql, slots⟩
    | _ => cases same
  | insert q =>
    cases q' with
    | insert q' =>
      obtain ⟨model, row⟩ := Insert.mk.inj (Query.insert.inj same)
      obtain ⟨m, r⟩ := q
      obtain ⟨m', s⟩ := q'
      subst model
      exact Insert.outcome_eq ⟨Row.keys_eq_of_blank_eq row, key⟩
    | _ => cases same
  | update q =>
    cases q' with
    | update q' =>
      obtain ⟨model, row⟩ := Update.mk.inj (Query.update.inj same)
      obtain ⟨m, r⟩ := q
      obtain ⟨m', s⟩ := q'
      subst model
      exact Update.outcome_eq ⟨Row.keys_eq_of_blank_eq row, key⟩
    | _ => cases same
  | delete q =>
    cases q' with
    | delete q' =>
      obtain ⟨model, row⟩ := Delete.mk.inj (Query.delete.inj same)
      obtain ⟨m, r⟩ := q
      obtain ⟨m', s⟩ := q'
      subst model
      exact ⟨Delete.outcome_eq ⟨Row.keys_eq_of_blank_eq row, key⟩, rfl⟩
    | _ => cases same
  | createTable q =>
    cases q' with
    | createTable q' =>
      rw [Query.createTable.inj same]
      exact ⟨rfl, rfl⟩
    | _ => cases same
  | dropTable q =>
    cases q' with
    | dropTable q' =>
      rw [Query.dropTable.inj same]
      exact ⟨rfl, rfl⟩
    | _ => cases same
  | showTables =>
    cases q' with
    | showTables => exact ⟨rfl, rfl⟩
    | _ => cases same

end TwoRuns

/-! ## The literals that a statement binds -/

theorem get?_cells {r : Row} {cells : List (String × Value)} (h : ∀ c ∈ cells, c ∈ r.toList) :
    (cells.map Prod.fst).map (fun c => r.get? c) = (cells.map Prod.snd).map some := by
  rw [List.map_map, List.map_map]
  exact List.map_congr_left fun c hc => Row.get?_of_mem (h c hc)

/-- A definition of a table binds nothing. -/
theorem CreateTable.params_fragment (q : CreateTable) : q.fragment.params = [] := by
  have textIf (b : Bool) (s : String) : (Fragment.textIf b s).params = [] := by
    cases b <;> rfl
  have definitions : ∀ f ∈ q.model.fields.toList, f.definition.params = [] := by
    intro f _
    simp only [Field.definition, Fragment.params_append, textIf, Fragment.params_text]
    cases f.defaultValue <;> rfl
  have constraints : (Fragment.concat (q.model.foreignKeys.map fun p =>
      .text ", " ++ p.2.constraint p.1.column)).params = [] := by
    rw [Fragment.params_concat, List.flatMap_map]
    exact List.flatMap_eq_nil_iff.2 fun _ _ => rfl
  simp [fragment, textIf, Fragment.params_commaSeparated, List.flatMap_map,
    List.flatMap_eq_nil_iff.2 definitions, constraints]

theorem DropTable.params_fragment (q : DropTable) : q.fragment.params = [] := by
  unfold fragment Fragment.textIf
  cases q.ifExists <;> rfl

/-- The parameters of a statement are the literals in its slots. -/
theorem Query.params_eq_slots {q : Query} {f : Fragment} (compiled : q.compile = .ok f) :
    f.params.map some = q.slots.map q.literalAt := by
  cases q with
  | select q =>
    cases compiled
    rw [Select.params_fragment, slots]
    cases hq : q.filter with
    | none => rfl
    | some c =>
      have literals := c.params_eq_paths
      simpa [literalAt, hq, Function.comp_def] using literals
  | insert q =>
    obtain ⟨_, rfl⟩ := Insert.compile_eq_ok_iff.1 compiled
    have given : ∀ c ∈ q.cells, c ∈ q.row.toList := fun c hc => (List.mem_filter.1 hc).1
    have cells := get?_cells given
    simpa [params_columnNames, params_placeholders, slots, literalAt, Function.comp_def] using
      cells.symm
  | update q =>
    obtain ⟨key, hkey, _, rfl⟩ := Update.compile_eq_ok_iff.1 compiled
    have found := (keyValue_eq_ok_iff.1 hkey).1
    have given : ∀ c ∈ q.cells, c ∈ q.row.toList := fun c hc => (List.mem_filter.1 hc).1
    have cells := get?_cells given
    simpa [params_assignments, keyCondition, slots, literalAt, Function.comp_def, found] using
      cells.symm
  | delete q =>
    obtain ⟨key, hkey, rfl⟩ := Delete.compile_eq_ok_iff.1 compiled
    have found := (keyValue_eq_ok_iff.1 hkey).1
    simp [keyCondition, slots, literalAt, found]
  | createTable q =>
    cases compiled
    rw [CreateTable.params_fragment]
    rfl
  | dropTable q =>
    cases compiled
    rw [DropTable.params_fragment]
    rfl
  | showTables =>
    cases compiled
    rfl

/-- **No literal influences a statement.** Queries that differ in their literals only, with `NULL`
for the primary key in both or in neither, fail with the same error or have statements of the same
text; then each binds its own literals in the same places. -/
theorem compile_of_blank_eq {q q' : Query} (same : q.blank = q'.blank)
    (key : q.keyIsNull = q'.keyIsNull) :
    (∃ e, Dialect.mysql.compile q = .error e ∧ Dialect.mysql.compile q' = .error e) ∨
    ∃ f f', Dialect.mysql.compile q = .ok f ∧ Dialect.mysql.compile q' = .ok f' ∧
      f.sql = f'.sql ∧ f.params.length = f'.params.length ∧
      f.params.map some = q.slots.map q.literalAt ∧
      f'.params.map some = q.slots.map q'.literalAt := by
  obtain ⟨outcome, slots⟩ := Query.outcome_eq same key
  cases hq : q.compile with
  | error e =>
    cases hq' : q'.compile with
    | error e' =>
      rw [hq, hq'] at outcome
      cases outcome
      exact .inl ⟨_, Dialect.compile_eq_error hq, Dialect.compile_eq_error hq'⟩
    | ok f' =>
      rw [hq, hq'] at outcome
      cases outcome
  | ok f =>
    cases hq' : q'.compile with
    | error e' =>
      rw [hq, hq'] at outcome
      cases outcome
    | ok f' =>
      rw [hq, hq'] at outcome
      have params := Query.params_eq_slots hq
      have params' := Query.params_eq_slots hq'
      rw [← slots] at params'
      have length : f.params.length = f'.params.length := by
        have lengths := congrArg List.length params
        have lengths' := congrArg List.length params'
        simp only [List.length_map] at lengths lengths'
        omega
      exact .inr ⟨f, f', Dialect.compile_eq_ok_iff.2 hq, Dialect.compile_eq_ok_iff.2 hq',
        Except.ok.inj outcome, length, params, params'⟩

/-- An update of a name, with a key. -/
def nameUpdate (key name : Value) : Query :=
  .update ⟨.named "user", .ofCells [("id", key), ("name", name)]⟩

/-- Literals that look like SQL reach the statement as parameters only. -/
theorem nameUpdate_same_text :
    (nameUpdate (.int32 7) (.string "ann")).blank =
      (nameUpdate (.string "1 OR 1 = 1") (.string "'; DROP TABLE user; --")).blank ∧
    (nameUpdate (.int32 7) (.string "ann")).keyIsNull =
      (nameUpdate (.string "1 OR 1 = 1") (.string "'; DROP TABLE user; --")).keyIsNull ∧
    ∃ f f', Dialect.mysql.compile (nameUpdate (.int32 7) (.string "ann")) = .ok f ∧
      Dialect.mysql.compile
        (nameUpdate (.string "1 OR 1 = 1") (.string "'; DROP TABLE user; --")) = .ok f' ∧
      f.sql = f'.sql := by
  have same : (nameUpdate (.int32 7) (.string "ann")).blank =
      (nameUpdate (.string "1 OR 1 = 1") (.string "'; DROP TABLE user; --")).blank := by decide
  have key : (nameUpdate (.int32 7) (.string "ann")).keyIsNull =
      (nameUpdate (.string "1 OR 1 = 1") (.string "'; DROP TABLE user; --")).keyIsNull := by decide
  refine ⟨same, key, ?_⟩
  rcases compile_of_blank_eq same key with ⟨e, failed, _⟩ | ⟨f, f', ok, ok', sql, _⟩
  · cases failed
  · exact ⟨f, f', ok, ok', sql⟩

end QueryBuilder
