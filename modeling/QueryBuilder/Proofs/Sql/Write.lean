import QueryBuilder.Proofs.Literal.Placeholder
import QueryBuilder.Proofs.Sql.Condition

/-!
# Row statements as SQL reads them

`readChange` reads a statement that writes rows: it takes the tokens of the text from left to right
and gives each placeholder the next parameter. An insertion lists columns and then as many
placeholders, which belong to each other by position; an update has assignments, and a condition if
it is not meant for all rows; so has a deletion. Main statement: what is read from the statement of a
row is the row itself, and there is a statement unless nothing is left to write or the row has no
key (`write_outcome`).
-/

namespace QueryBuilder
set_option autoImplicit false

namespace Sql

/-- What a statement that writes rows does. Without a condition it is meant for all rows. -/
inductive RowChange where
  | insert (table : String) (cells : List (String × Value))
  | update (table : String) (cells : List (String × Value)) (condition : Option Clause)
  | delete (table : String) (condition : Option Clause)
  deriving DecidableEq

/-! ## The reader -/

/-- Reads something off the tokens and the values of their placeholders and gives what is left. -/
abbrev Reader (α : Type) := List Token → List Value → Option (α × List Token × List Value)

/-- The tokens after the given one. -/
def after? (t : Token) : List Token → Option (List Token)
  | [] => none
  | u :: ts => if u = t then some ts else none

def readName : Reader String
  | .name ⟨none, name⟩ :: ts, vs => some (name, ts, vs)
  | _, _ => none

def readMark : Reader Value
  | .mark :: ts, v :: vs => some (v, ts, vs)
  | _, _ => none

def readAssignment : Reader (String × Value)
  | .name ⟨none, name⟩ :: .comparison .eq :: .mark :: ts, v :: vs => some ((name, v), ts, vs)
  | _, _ => none

/-- Reads items as long as a comma follows. -/
def readList {α : Type} (item : Reader α) (ts : List Token) (vs : List Value) :
    Option (List α × List Token × List Value) :=
  match item ts vs with
  | some (a, .comma :: rest, ws) =>
    if rest.length < ts.length then (readList item rest ws).map fun p => (a :: p.1, p.2) else none
  | some (a, rest, ws) => some ([a], rest, ws)
  | none => none
termination_by ts.length

/-- Reads the end of a statement, with a condition if there is one. -/
def readEnd : List Token → List Value → Option (Option Clause)
  | [], [] => some none
  | ts, vs => do
    let ts ← after? (.word "WHERE") ts
    let (c, ts, vs) ← readCondition ts vs
    if ts = [] ∧ vs = [] then some (some c) else none

def readInsert (ts : List Token) (vs : List Value) : Option RowChange := do
  let ts ← after? (.word "INTO") (← after? (.word "INSERT") ts)
  let (table, ts, vs) ← readName ts vs
  let (columns, ts, vs) ← readList readName (← after? .opening ts) vs
  let ts ← after? .opening (← after? (.word "VALUES") (← after? .closing ts))
  let (values, ts, vs) ← readList readMark ts vs
  let ts ← after? .closing ts
  if ts = [] ∧ vs = [] ∧ columns.length = values.length then
    some (.insert table (columns.zip values))
  else none

def readUpdate (ts : List Token) (vs : List Value) : Option RowChange := do
  let (table, ts, vs) ← readName (← after? (.word "UPDATE") ts) vs
  let (cells, ts, vs) ← readList readAssignment (← after? (.word "SET") ts) vs
  return .update table cells (← readEnd ts vs)

def readDelete (ts : List Token) (vs : List Value) : Option RowChange := do
  let ts ← after? (.word "FROM") (← after? (.word "DELETE") ts)
  let (table, ts, vs) ← readName ts vs
  return .delete table (← readEnd ts vs)

/-- Reads a statement that writes rows, with its whole text and all its parameters. -/
def readChange (f : Fragment) : Option RowChange := do
  let ts ← tokens? f.sql.toList
  readInsert ts f.params <|> readUpdate ts f.params <|> readDelete ts f.params

theorem after?_cons (t : Token) (ts : List Token) : after? t (t :: ts) = some ts := if_pos rfl

theorem after?_word_cons {v w : String} (h : v ≠ w) (ts : List Token) :
    after? (.word w) (.word v :: ts) = none := by
  refine if_neg fun same => h ?_
  exact Token.word_inj.1 same

theorem readName_cons (w : String) (ts : List Token) (vs : List Value) :
    readName (.word w :: ts) vs = some (w, ts, vs) := rfl

/-! ## Lists -/

/-- A list is read up to the first token that is no comma. -/
theorem readList_listTokens {α : Type} (item : Reader α) (tokens : α → List Token)
    (values : α → List Value)
    (reads : ∀ a ts vs, item (tokens a ++ ts) (values a ++ vs) = some (a, ts, vs)) {as : List α}
    (nonempty : as ≠ []) (ts : List Token) (hts : ts.head? ≠ some .comma) (vs : List Value) :
    readList item (listTokens tokens as ++ ts) (as.flatMap values ++ vs) = some (as, ts, vs) := by
  obtain ⟨a, as, rfl⟩ := List.exists_cons_of_ne_nil nonempty
  clear nonempty
  induction as generalizing a with
  | nil =>
    have first := reads a ts vs
    have text : listTokens tokens [a] ++ ts = tokens a ++ ts := by simp [listTokens]
    have params : [a].flatMap values ++ vs = values a ++ vs := by simp
    rw [readList, text, params, first]
    cases ts with
    | nil => rfl
    | cons t ts =>
      cases t with
      | comma => exact absurd rfl hts
      | _ => rfl
  | cons b as ih =>
    have first := reads a (.comma :: (listTokens tokens (b :: as) ++ ts))
      ((b :: as).flatMap values ++ vs)
    have text : listTokens tokens (a :: b :: as) ++ ts =
        tokens a ++ .comma :: (listTokens tokens (b :: as) ++ ts) := by simp [listTokens]
    have params : (a :: b :: as).flatMap values ++ vs =
        values a ++ ((b :: as).flatMap values ++ vs) := by simp
    rw [readList, text, params, first]
    dsimp only
    rw [ih b, if_pos]
    · rfl
    · simp only [List.length_append, List.length_cons]
      omega

/-! ## Statements of rows -/

section Rows

/-- The condition on the primary key as a clause. -/
def keyClause (m : Model) (key : Value) : Clause := .eq (.unqualified m.primaryKey) key

theorem keyCondition_eq (m : Model) (key : Value) :
    keyCondition m key = .text " WHERE " ++ (keyClause m key).fragment := by
  have text : (keyCondition m key).sql = (Fragment.text " WHERE " ++ (keyClause m key).fragment).sql := by
    simp [keyCondition, keyClause, Clause.eq, Clause.fragment, Column.fragment, Column.unqualified,
      Operand.fragment, Comparison.symbol, String.append_assoc]
  exact congrArg (fun s => Fragment.mk s [key]) text

def insertTokens (table : String) (cells : List (String × Value)) : List Token :=
  [.word "INSERT", .word "INTO", .word table, .opening] ++
    listTokens (fun c => [.word c.1]) cells ++ [.closing, .word "VALUES", .opening] ++
    listTokens (fun _ => [.mark]) cells ++ [.closing]

def updateTokens (m : Model) (cells : List (String × Value)) (key : Value) : List Token :=
  [.word "UPDATE", .word m.table, .word "SET"] ++
    listTokens (fun c => [.word c.1, .comparison .eq, .mark]) cells ++
    .word "WHERE" :: clauseTokens (keyClause m key)

def deleteTokens (m : Model) (key : Value) : List Token :=
  [.word "DELETE", .word "FROM", .word m.table, .word "WHERE"] ++ clauseTokens (keyClause m key)

variable {cells : List (String × Value)} {m : Model} {key : Value}

theorem scans_columnNames (h : ∀ c ∈ cells, Plain c.1) :
    Scans (columnNames cells).sql.toList (listTokens (fun c => [.word c.1]) cells) :=
  scans_list fun c hc => scans_word (h c hc)

theorem scans_placeholders (cells : List (String × Value)) :
    Scans (placeholders cells).sql.toList (listTokens (fun _ => [.mark]) cells) :=
  scans_list fun _ _ => by simpa using scans_mark

theorem scans_assignments (h : ∀ c ∈ cells, Plain c.1) : Scans (assignments cells).sql.toList
    (listTokens (fun c => [.word c.1, .comparison .eq, .mark]) cells) := by
  refine scans_list fun c hc => ?_
  have whole := (scans_word (h c hc)).spaced ((scans_symbol .eq).spaced scans_mark)
  simpa [Comparison.symbol] using whole

theorem scans_keyClause (h : Plain m.primaryKey) (key : Value) :
    Scans (keyClause m key).fragment.sql.toList (clauseTokens (keyClause m key)) := by
  refine scans_clause fun s hs => ?_
  have name : s = m.primaryKey := by
    simpa [keyClause, Clause.eq, Clause.names, Column.names, Operand.names, Column.unqualified]
      using hs
  exact name ▸ h

theorem tokens?_insert {table : String} (htable : Plain table) (h : ∀ c ∈ cells, Plain c.1) :
    tokens? (Fragment.text "INSERT INTO " ++ .text table ++ .text " (" ++ columnNames cells ++
      .text ") VALUES (" ++ placeholders cells ++ .text ")").sql.toList =
        some (insertTokens table cells) := by
  have lists := (scans_columnNames h).enclosed.spaced
    ((scans_word (w := "VALUES") (by decide)).spaced (scans_placeholders cells).enclosed)
  have whole := (scans_word (w := "INSERT") (by decide)).spaced
    ((scans_word (w := "INTO") (by decide)).spaced ((scans_word htable).spaced lists))
  have tokens := whole.tokens?
  simpa [insertTokens] using tokens

theorem tokens?_update (table : Plain m.table) (hkey : Plain m.primaryKey)
    (h : ∀ c ∈ cells, Plain c.1) :
    tokens? (Fragment.text "UPDATE " ++ .text m.table ++ .text " SET " ++ assignments cells ++
      keyCondition m key).sql.toList = some (updateTokens m cells key) := by
  have condition := (scans_word (w := "WHERE") (by decide)).spaced (scans_keyClause hkey key)
  have changes := (scans_word (w := "SET") (by decide)).spaced ((scans_assignments h).spaced condition)
  have whole := (scans_word (w := "UPDATE") (by decide)).spaced ((scans_word table).spaced changes)
  have tokens := whole.tokens?
  rw [keyCondition_eq]
  simpa [updateTokens] using tokens

theorem tokens?_delete (table : Plain m.table) (hkey : Plain m.primaryKey) :
    tokens? (Fragment.text "DELETE FROM " ++ .text m.table ++ keyCondition m key).sql.toList =
      some (deleteTokens m key) := by
  have condition := (scans_word (w := "WHERE") (by decide)).spaced (scans_keyClause hkey key)
  have whole := (scans_word (w := "DELETE") (by decide)).spaced
    ((scans_word (w := "FROM") (by decide)).spaced ((scans_word table).spaced condition))
  have tokens := whole.tokens?
  rw [keyCondition_eq]
  simpa [deleteTokens] using tokens

theorem readEnd_keyClause (m : Model) (key : Value) :
    readEnd (.word "WHERE" :: clauseTokens (keyClause m key)) [key] = some (some (keyClause m key)) := by
  have ends : EndsCondition [] := by
    intro t ht
    cases ht
  have read := (derives_clause (keyClause m key)).1.read ends []
  have params : (keyClause m key).fragment.params = [key] := rfl
  rw [List.append_nil, List.append_nil, params] at read
  simp [readEnd, after?_cons, read]

theorem readInsert_insertTokens {table : String} (h : cells ≠ []) :
    readInsert (insertTokens table cells) (cells.map Prod.snd) = some (.insert table cells) := by
  have mapped {α : Type} (f : String × Value → α) : cells.map f ≠ [] := fun e =>
    h (List.map_eq_nil_iff.1 e)
  have columns (rest : List Token) := readList_listTokens readName (fun name => [.word name])
    (fun _ => []) (fun _ _ _ => rfl) (mapped Prod.fst) (.closing :: rest) (by rintro ⟨⟩)
    (cells.map Prod.snd)
  have values := readList_listTokens readMark (fun _ => [.mark]) (fun v => [v]) (fun _ _ _ => rfl)
    (mapped Prod.snd) [.closing] (by rintro ⟨⟩) []
  have none : ((cells.map Prod.fst).flatMap fun _ => ([] : List Value)) = [] := by simp
  have params : (cells.map Prod.snd).flatMap (fun v => [v]) = cells.map Prod.snd := by simp
  simp only [listTokens_map, none, params, List.nil_append, List.append_nil] at columns values
  have zipped : (cells.map Prod.fst).zip (cells.map Prod.snd) = cells :=
    (List.zip_of_prod rfl rfl).symm
  simp [readInsert, insertTokens, after?_cons, readName_cons, columns, values, zipped]

/-- A statement that starts with another word is no insertion. -/
theorem readInsert_word {w : String} (h : w ≠ "INSERT") (ts : List Token) (vs : List Value) :
    readInsert (.word w :: ts) vs = none := by
  simp [readInsert, after?_word_cons h]

theorem readUpdate_word {w : String} (h : w ≠ "UPDATE") (ts : List Token) (vs : List Value) :
    readUpdate (.word w :: ts) vs = none := by
  simp [readUpdate, after?_word_cons h]

theorem readUpdate_updateTokens (h : cells ≠ []) :
    readUpdate (updateTokens m cells key) (cells.map Prod.snd ++ [key]) =
      some (.update m.table cells (some (keyClause m key))) := by
  have list := readList_listTokens readAssignment
    (fun c => [.word c.1, .comparison .eq, .mark]) (fun c => [c.2]) (fun _ _ _ => rfl) h
    (.word "WHERE" :: clauseTokens (keyClause m key)) (by rintro ⟨⟩) [key]
  rw [← List.map_eq_flatMap] at list
  simp [readUpdate, updateTokens, after?_cons, readName_cons, list, readEnd_keyClause]

theorem readDelete_deleteTokens (m : Model) (key : Value) :
    readDelete (deleteTokens m key) [key] = some (.delete m.table (some (keyClause m key))) := by
  simp [readDelete, deleteTokens, after?_cons, readName_cons, readEnd_keyClause]

end Rows

theorem readChange_insert {q : Insert} {f : Fragment} (compiled : q.compile = .ok f)
    (table : Plain q.model.table) (columns : ∀ s ∈ q.row.keys, Plain s) :
    readChange f = some (.insert q.model.table q.cells) := by
  obtain ⟨given, rfl⟩ := Insert.compile_eq_ok_iff.1 compiled
  have plain : ∀ c ∈ q.cells, Plain c.1 := Row.forall_filter columns _
  simp only [readChange, tokens?_insert table plain, Option.bind_eq_bind, Option.bind_some]
  simp [params_columnNames, params_placeholders, readInsert_insertTokens given]

theorem readChange_update {q : Update} {f : Fragment} (compiled : q.compile = .ok f)
    (table : Plain q.model.table) (primaryKey : Plain q.model.primaryKey)
    (columns : ∀ s ∈ q.row.keys, Plain s) :
    ∃ key, q.row.get? q.model.primaryKey = some key ∧ key ≠ .null ∧
      readChange f = some (.update q.model.table q.cells (some (keyClause q.model key))) := by
  obtain ⟨key, hkey, changed, rfl⟩ := Update.compile_eq_ok_iff.1 compiled
  obtain ⟨found, notNull⟩ := keyValue_eq_ok_iff.1 hkey
  have plain : ∀ c ∈ q.cells, Plain c.1 := Row.forall_filter columns _
  refine ⟨key, found, notNull, ?_⟩
  have params : (Fragment.text "UPDATE " ++ .text q.model.table ++ .text " SET " ++
      assignments q.cells ++ keyCondition q.model key).params = q.cells.map Prod.snd ++ [key] := by
    simp [params_assignments, keyCondition]
  have other : readInsert (updateTokens q.model q.cells key) (q.cells.map Prod.snd ++ [key]) = none :=
    readInsert_word (by decide) _ _
  simp only [readChange, tokens?_update table primaryKey plain, params, Option.bind_eq_bind,
    Option.bind_some, other, readUpdate_updateTokens changed]
  rfl

theorem readChange_delete {q : Delete} {f : Fragment} (compiled : q.compile = .ok f)
    (table : Plain q.model.table) (primaryKey : Plain q.model.primaryKey) :
    ∃ key, q.row.get? q.model.primaryKey = some key ∧ key ≠ .null ∧
      readChange f = some (.delete q.model.table (some (keyClause q.model key))) := by
  obtain ⟨key, hkey, rfl⟩ := Delete.compile_eq_ok_iff.1 compiled
  obtain ⟨found, notNull⟩ := keyValue_eq_ok_iff.1 hkey
  refine ⟨key, found, notNull, ?_⟩
  have params : (Fragment.text "DELETE FROM " ++ .text q.model.table ++
      keyCondition q.model key).params = [key] := rfl
  have noInsert : readInsert (deleteTokens q.model key) [key] = none :=
    readInsert_word (by decide) _ _
  have noUpdate : readUpdate (deleteTokens q.model key) [key] = none :=
    readUpdate_word (by decide) _ _
  simp only [readChange, tokens?_delete table primaryKey, params, Option.bind_eq_bind,
    Option.bind_some, noInsert, noUpdate]
  exact readDelete_deleteTokens q.model key

end Sql

/-! ## When a row has a statement -/

/-- A row without a value other than `NULL` for the primary key. -/
def Row.Keyless (r : Row) (m : Model) : Prop := ∀ v, (m.primaryKey, v) ∈ r.toList → v = .null

theorem exists_keyValue_iff (statement : KeyedStatement) {m : Model} {r : Row} :
    (∃ v, keyValue statement m r = .ok v) ↔ ¬ r.Keyless m := by
  simp only [keyValue_eq_ok_iff, Row.get?_eq_some_iff, Row.Keyless, Classical.not_forall]
  constructor
  · rintro ⟨v, mem, notNull⟩
    exact ⟨v, mem, notNull⟩
  · rintro ⟨v, mem, notNull⟩
    exact ⟨v, mem, notNull⟩

theorem Insert.exists_compile_iff {q : Insert} : (∃ f, q.compile = .ok f) ↔ q.cells ≠ [] := by
  simp [compile_eq_ok_iff]

theorem Update.exists_compile_iff {q : Update} :
    (∃ f, q.compile = .ok f) ↔ ¬ (q.row.Keyless q.model ∨ q.cells = []) := by
  rw [not_or, ← exists_keyValue_iff .update]
  constructor
  · rintro ⟨f, compiled⟩
    obtain ⟨key, hkey, changed, _⟩ := compile_eq_ok_iff.1 compiled
    exact ⟨⟨key, hkey⟩, changed⟩
  · rintro ⟨⟨key, hkey⟩, changed⟩
    exact ⟨_, compile_eq_ok_iff.2 ⟨key, hkey, changed, rfl⟩⟩

theorem Delete.exists_compile_iff {q : Delete} :
    (∃ f, q.compile = .ok f) ↔ ¬ q.row.Keyless q.model := by
  rw [← exists_keyValue_iff .delete]
  constructor
  · rintro ⟨f, compiled⟩
    obtain ⟨key, hkey, _⟩ := compile_eq_ok_iff.1 compiled
    exact ⟨key, hkey⟩
  · rintro ⟨key, hkey⟩
    exact ⟨_, compile_eq_ok_iff.2 ⟨key, hkey, rfl⟩⟩

theorem Dialect.exists_compilation_error_iff {q : Query} :
    (∃ cause, mysql.compile q = .error (.compilation cause)) ↔ ¬ ∃ f, q.compile = .ok f := by
  cases h : q.compile with
  | error e =>
    refine ⟨?_, fun _ => ⟨e, Dialect.compile_eq_error h⟩⟩
    rintro _ ⟨f, compiled⟩
    cases compiled
  | ok f =>
    refine ⟨?_, fun none => absurd ⟨f, rfl⟩ none⟩
    rintro ⟨cause, failed⟩
    rw [Dialect.compile_eq_ok_iff.2 h] at failed
    cases failed

/-- Compilation fails exactly if a query is refused, and then with a compilation error. Otherwise
there is a statement, which reads as a change with the given meaning. -/
structure Query.Outcome (q : Query) (refused : Prop) (meaning : Sql.RowChange → Prop) : Prop where
  refused_iff : (∃ cause, Dialect.mysql.compile q = .error (.compilation cause)) ↔ refused
  reads : ¬ refused → ∃ f change, Dialect.mysql.compile q = .ok f ∧
    Sql.readChange f = some change ∧ meaning change

theorem Query.outcome_of_compile {q : Query} {refused : Prop} {meaning : Sql.RowChange → Prop}
    (compiles : (∃ f, q.compile = .ok f) ↔ ¬ refused)
    (reads : ∀ f, q.compile = .ok f → ∃ change, Sql.readChange f = some change ∧ meaning change) :
    q.Outcome refused meaning where
  refused_iff := by
    rw [Dialect.exists_compilation_error_iff, compiles, Classical.not_not]
  reads accepted := by
    obtain ⟨f, compiled⟩ := compiles.2 accepted
    obtain ⟨change, hread, hmeaning⟩ := reads f compiled
    exact ⟨f, change, Dialect.compile_eq_ok_iff.2 compiled, hread, hmeaning⟩

/-- **A row is written as it is.** Its statements name plain tables and columns, and each column is
read with its own value: an insertion has all cells but a primary key that is `NULL`, an update
changes all cells but the primary key, and an update and a deletion are meant for the one row with the
key. There is no statement exactly if it would have no cells or no key. -/
theorem write_outcome {m : Model} {r : Row} (table : Plain m.table) (primaryKey : Plain m.primaryKey)
    (columns : ∀ s ∈ r.keys, Plain s) :
    (Query.insert ⟨m, r⟩).Outcome (∀ c ∈ r.toList, c.1 = m.primaryKey ∧ c.2 = .null)
      (· = .insert m.table (r.toList.filter fun c => c.1 ≠ m.primaryKey ∨ c.2 ≠ .null)) ∧
    (Query.update ⟨m, r⟩).Outcome (r.Keyless m ∨ ∀ c ∈ r.toList, c.1 = m.primaryKey)
      (fun change => ∃ key, (m.primaryKey, key) ∈ r.toList ∧ key ≠ .null ∧
        change = .update m.table (r.toList.filter fun c => c.1 ≠ m.primaryKey)
          (some (.compare (.unqualified m.primaryKey) .eq (.value key)))) ∧
    (Query.delete ⟨m, r⟩).Outcome (r.Keyless m)
      (fun change => ∃ key, (m.primaryKey, key) ∈ r.toList ∧ key ≠ .null ∧
        change = .delete m.table (some (.compare (.unqualified m.primaryKey) .eq (.value key)))) := by
  refine ⟨?_, ?_, ?_⟩
  · refine Query.outcome_of_compile ?_ fun f compiled => ?_
    · rw [Query.compile, Insert.exists_compile_iff, Insert.cells_eq_given]
      simp [Insert.given]
    · refine ⟨_, Sql.readChange_insert compiled table columns, ?_⟩
      rw [Insert.cells_eq_given]
      rfl
  · refine Query.outcome_of_compile ?_ fun f compiled => ?_
    · rw [Query.compile, Update.exists_compile_iff, Update.cells_eq_given]
      simp [Update.given]
    · obtain ⟨key, found, notNull, read⟩ :=
        Sql.readChange_update compiled table primaryKey columns
      refine ⟨_, read, key, Row.get?_eq_some_iff.1 found, notNull, ?_⟩
      rw [Update.cells_eq_given]
      rfl
  · refine Query.outcome_of_compile Delete.exists_compile_iff fun f compiled => ?_
    obtain ⟨key, found, notNull, read⟩ := Sql.readChange_delete compiled table primaryKey
    exact ⟨_, read, key, Row.get?_eq_some_iff.1 found, notNull, rfl⟩

/-- Columns that are called like keywords, around a key, and a literal that looks like a condition. -/
def keywordRow (key : Value) : Row :=
  .ofCells [("WHERE", .string "? = 1"), ("id", key), ("SET", .null)]

/-- The keywords are read as columns. Without a key there is no statement but the insertion. -/
theorem keywordRow_statements :
    (Plain "user" ∧ Plain "id" ∧ ∀ s ∈ (keywordRow (.int32 7)).keys, Plain s) ∧
    (∃ f, Dialect.mysql.compile (.update ⟨.named "user", keywordRow (.int32 7)⟩) = .ok f ∧
      Sql.readChange f = some (.update "user" [("WHERE", .string "? = 1"), ("SET", .null)]
        (some (.compare (.unqualified "id") .eq (.value (.int32 7)))))) ∧
    (∃ f, Dialect.mysql.compile (.insert ⟨.named "user", keywordRow .null⟩) = .ok f ∧
      Sql.readChange f = some (.insert "user" [("WHERE", .string "? = 1"), ("SET", .null)])) ∧
    ∃ cause, Dialect.mysql.compile (.delete ⟨.named "user", keywordRow .null⟩) =
      .error (.compilation cause) := by
  have table : Plain "user" := by decide
  have primaryKey : Plain "id" := by decide
  have columns : ∀ s ∈ (keywordRow (.int32 7)).keys, Plain s := by decide
  obtain ⟨_, update, _⟩ := write_outcome (m := .named "user") table primaryKey columns
  have columns' : ∀ s ∈ (keywordRow .null).keys, Plain s := by decide
  obtain ⟨insert, _, delete⟩ := write_outcome (m := .named "user") table primaryKey columns'
  refine ⟨⟨table, primaryKey, columns⟩, ?_, ?_, delete.refused_iff.2 ?_⟩
  · obtain ⟨f, change, compiled, read, key, mem, _, rfl⟩ := update.reads (by
      rintro (keyless | onlyKey)
      · exact absurd (keyless (.int32 7) (by decide)) (by decide)
      · exact absurd (onlyKey ("SET", .null) (by decide)) (by decide))
    have seven : key = .int32 7 := by
      have found := Row.get?_of_mem mem
      exact (Option.some.inj found).symm
    rw [seven] at read
    exact ⟨f, compiled, read⟩
  · obtain ⟨f, change, compiled, read, rfl⟩ := insert.reads fun allKey =>
      absurd (allKey ("SET", .null) (by decide)).1 (by decide)
    exact ⟨f, compiled, read⟩
  · intro v mem
    have found := Row.get?_of_mem mem
    exact (Option.some.inj found).symm

end QueryBuilder
