import QueryBuilder.Proofs.Literal.Independence
import QueryBuilder.Proofs.Session.Lifecycle

/-!
# Creating the tables that are missing

A safe run asks which tables exist and creates those of its models that are not listed. `Lists` says
what an answer lists, whatever the shape of its rows. A `Database` is a connection that lists its
tables when it is asked for them and adds one for each statement that creates it; it refuses to create
a table that exists. On it a safe run over models with distinct tables creates only tables that do not
exist, one step after another (`Database.run_execute_create`, `Database.run_createAll`), and a second
run creates none. Main statement: `Context.createTables_safe`.
-/

namespace QueryBuilder
set_option autoImplicit false

/-! ## Listings -/

/-- A row of the answer has this name as the text of its first value. -/
def Lists (rows : List Row) (name : String) : Prop :=
  ∃ row ∈ rows, ∃ column v cells, row.toList = (column, v) :: cells ∧ v.text = name

theorem mem_tableNames_iff {rows : List Row} {name : String} :
    name ∈ tableNames rows ↔ Lists rows name := by
  simp only [tableNames, List.mem_filterMap, Option.map_eq_some_iff, Row.first?_eq_some_iff]
  constructor
  · rintro ⟨row, mem, v, ⟨column, cells, hcells⟩, text⟩
    exact ⟨row, mem, column, v, cells, hcells, text⟩
  · rintro ⟨row, mem, column, v, cells, hcells, text⟩
    exact ⟨row, mem, v, ⟨column, cells, hcells⟩, text⟩

instance (rows : List Row) (name : String) : Decidable (Lists rows name) :=
  decidable_of_iff _ mem_tableNames_iff

/-- The models whose tables are not listed, in order. -/
def unlisted (rows : List Row) (models : List Model) : List Model :=
  models.filter fun m => ¬Lists rows m.table

/-- The statement that creates the table of a model. -/
def Model.createStatement (m : Model) : Fragment := ⟨(CreateTable.mk m false).text, []⟩

theorem Model.createStatement_eq (m : Model) :
    (CreateTable.mk m false).fragment = m.createStatement := by
  rw [createStatement, ← CreateTable.sql_fragment, ← CreateTable.params_fragment]

theorem filter_tableNames (rows : List Row) (models : List Model) :
    (models.filter fun m => !(tableNames rows).contains m.table) = unlisted rows models := by
  refine List.filter_congr fun m _ => ?_
  rw [Bool.eq_iff_iff]
  simp [mem_tableNames_iff]

theorem creations_eq (models : List Model) :
    creations models = models.map fun m => .execute m.createStatement := by
  simp only [creations, Model.createStatement_eq]

/-! ## Databases -/

/-- A database as it answers and as it reads statements, with its tables. -/
structure Database where
  /-- The table that a statement creates, if it creates one. -/
  created? : Fragment → Option String
  /-- The answer to `SHOW TABLES`. -/
  listing : List String → List Row
  lists_listing : ∀ tables name, Lists (listing tables) name ↔ name ∈ tables
  tables : List String
  /-- The calls so far, each with the tables that existed when it was made. -/
  history : List (Call × List String)

namespace Database

def noting (d : Database) (c : Call) : Database := { d with history := d.history ++ [(c, d.tables)] }

def note (c : Call) : Session Database Unit := modify fun d => d.noting c

/-- Adds a table, unless it exists. -/
def addTable (table : String) : Session Database Unit := do
  let d ← get
  if table ∈ d.tables then throw (.driver (.reported ("table " ++ table ++ " exists")))
  else set { d with tables := d.tables ++ [table] }

/-- Runs a statement whose call is noted. -/
def carryOut (statement : Fragment) : Session Database Unit := do
  let d ← get
  match d.created? statement with
  | some table => addTable table
  | none => return ()

/-- Answers a query whose call is noted. -/
def answer (query : Fragment) : Session Database Cursor := do
  let d ← get
  return .rows (if query = .text "SHOW TABLES" then d.listing d.tables else [])

instance : Connection Database where
  connect := note .connect
  execute statement := do
    note (.execute statement)
    carryOut statement
    return 0
  cursor query := do
    note (.cursor query)
    answer query
  beginTransaction := note .beginTransaction
  commit := note .commit
  close := note .close

/-- The database after the creation of the table of a model. -/
def creating (d : Database) (m : Model) : Database :=
  { d.noting (.execute m.createStatement) with tables := d.tables ++ [m.table] }

/-- The database after it has been asked for its tables. -/
def asked (d : Database) : Database := d.noting (.cursor (.text "SHOW TABLES"))

variable {ctx : Context} {d : Database} {models : List Model}

theorem run_carryOut {statement : Fragment} {table : String}
    (understood : d.created? statement = some table) (fresh : table ∉ d.tables) :
    (carryOut statement).run.run d = (.ok (), { d with tables := d.tables ++ [table] }) := by
  have read : (get : Session Database Database).run.run d = (.ok d, d) := rfl
  unfold carryOut
  rw [run_bind read]
  simp only [understood]
  unfold addTable
  rw [run_bind read, if_neg fresh]
  rfl

/-- The step: a statement that creates a table finds no table of its name and adds it. -/
theorem run_execute_create {m : Model} (understood : d.created? m.createStatement = some m.table)
    (fresh : m.table ∉ d.tables) :
    (ctx.execute (.createTable ⟨m, false⟩)).run.run d = (.ok 0, d.creating m) := by
  have sent : (ctx.execute (.createTable ⟨m, false⟩) : Session Database UInt64) =
      Connection.execute m.createStatement := by
    unfold Context.execute
    rw [ctx.compile_eq_ok (q := .createTable ⟨m, false⟩) rfl, Model.createStatement_eq]
    rfl
  have noted : (note (.execute m.createStatement)).run.run d =
      (.ok (), d.noting (.execute m.createStatement)) := rfl
  rw [sent]
  exact (run_bind noted).trans (run_bind (run_carryOut understood fresh))

theorem run_showTables :
    (ctx.showTables).run.run d = (.ok (tableNames (d.listing d.tables)), d.asked) := by
  have sent : (ctx.data .showTables : Session Database Cursor) =
      Connection.cursor (.text "SHOW TABLES") := by
    unfold Context.data
    rw [ctx.compile_eq_ok (q := .showTables) rfl]
    rfl
  have answered : (Connection.cursor (.text "SHOW TABLES")).run.run d =
      (.ok (.rows (d.listing d.tables)), d.asked) := rfl
  unfold Context.showTables
  rw [sent, run_bind answered]
  rfl

/-- The models whose tables do not exist, in order. -/
def missing (d : Database) (models : List Model) : List Model :=
  models.filter fun m => m.table ∉ d.tables

theorem unlisted_listing (d : Database) (models : List Model) :
    unlisted (d.listing d.tables) models = d.missing models := by
  exact List.filter_congr fun m _ => decide_eq_decide.2 (not_congr (d.lists_listing d.tables m.table))

/-- A safe run asks for the tables and creates the missing ones. -/
theorem run_createTables : (ctx.createTables models true).run.run d =
    (ctx.createAll (d.missing models)).run.run d.asked := by
  unfold Context.createTables
  rw [if_pos rfl, run_bind run_showTables, ← unlisted_listing, ← filter_tableNames]

/-- What the creation of the tables of models, one after another, makes of a database. Each creation
names the table of its model, which did not exist when it was sent. -/
structure Adds (d : Database) (models : List Model) (d' : Database) : Prop where
  created? : d'.created? = d.created?
  tables : d'.tables = d.tables ++ models.map Model.table
  history : ∃ own, d'.history = d.history ++ own ∧ own.map Prod.fst = creations models ∧
    ∀ entry ∈ own, ∃ m : Model, entry.1 = .execute m.createStatement ∧
      d.created? m.createStatement = some m.table ∧ m.table ∉ entry.2

theorem adds_nil (d : Database) : d.Adds [] d where
  created? := rfl
  tables := (List.append_nil _).symm
  history := ⟨[], (List.append_nil _).symm, rfl, fun _ h => nomatch h⟩

theorem Adds.cons {m : Model} {d' : Database}
    (understood : d.created? m.createStatement = some m.table) (fresh : m.table ∉ d.tables)
    (others : (d.creating m).Adds models d') : d.Adds (m :: models) d' where
  created? := others.created?
  tables := by
    rw [others.tables, creating, List.append_assoc]
    rfl
  history := by
    obtain ⟨own, extended, calls, named⟩ := others.history
    refine ⟨(.execute m.createStatement, d.tables) :: own, ?_, ?_, ?_⟩
    · rw [extended, creating, noting, List.append_assoc]
      rfl
    · rw [List.map_cons, calls, creations_eq, creations_eq]
      rfl
    · exact List.forall_mem_cons.2 ⟨⟨m, rfl, understood, fresh⟩, named⟩

/-- The run: tables that do not exist and differ from each other are created one after another. -/
theorem run_createAll (understood : ∀ m ∈ models, d.created? m.createStatement = some m.table)
    (fresh : ∀ m ∈ models, m.table ∉ d.tables) (distinct : (models.map Model.table).Nodup) :
    ∃ d', (ctx.createAll models).run.run d = (.ok (), d') ∧ d.Adds models d' := by
  induction models generalizing d with
  | nil => exact ⟨d, rfl, d.adds_nil⟩
  | cons m models ih =>
    obtain ⟨own, others⟩ := List.forall_mem_cons.1 understood
    obtain ⟨new, later⟩ := List.forall_mem_cons.1 fresh
    obtain ⟨other, distinct⟩ := List.nodup_cons.1 distinct
    have stillFresh : ∀ n ∈ models, n.table ∉ (d.creating m).tables := by
      intro n hn present
      rcases List.mem_append.1 present with old | created
      · exact later n hn old
      · exact other (List.mem_singleton.1 created ▸ List.mem_map_of_mem hn)
    obtain ⟨d', run, adds⟩ := ih (d := d.creating m) others stillFresh distinct
    exact ⟨d', (run_bind (run_execute_create own new)).trans run, .cons own new adds⟩

/-- What a safe run over models makes of a database. -/
structure Completes (d : Database) (models : List Model) (d' : Database) : Prop where
  /-- Exactly the missing tables are added, in the order of the models. -/
  tables : d'.tables = d.tables ++ (d.missing models).map Model.table
  /-- Then all tables of the models exist, besides those that existed before. -/
  mem_tables : ∀ table, table ∈ d'.tables ↔ table ∈ d.tables ∨ table ∈ models.map Model.table
  /-- The tables are asked for and the missing ones created, and nothing else is done. No statement
  creates a table that exists when it is sent. -/
  history : ∃ own, d'.history = d.history ++ own ∧
    own.map Prod.fst = .cursor (.text "SHOW TABLES") ::
      (d.missing models).map (fun m => .execute m.createStatement) ∧
    ∀ entry ∈ own, ∀ statement table, entry.1 = .execute statement →
      d.created? statement = some table → table ∉ entry.2

theorem completes_of_adds {d' : Database} (adds : d.asked.Adds (d.missing models) d') :
    d.Completes models d' where
  tables := adds.tables
  mem_tables table := by
    rw [adds.tables, List.mem_append]
    have old : d.asked.tables = d.tables := rfl
    rw [old]
    constructor
    · rintro (found | added)
      · exact .inl found
      · obtain ⟨m, hm, rfl⟩ := List.mem_map.1 added
        exact .inr (List.mem_map_of_mem (List.mem_filter.1 hm).1)
    · rintro (found | wanted)
      · exact .inl found
      · obtain ⟨m, hm, rfl⟩ := List.mem_map.1 wanted
        by_cases present : m.table ∈ d.tables
        · exact .inl present
        · exact .inr (List.mem_map_of_mem (List.mem_filter.2 ⟨hm, decide_eq_true present⟩))
  history := by
    obtain ⟨own, extended, calls, named⟩ := adds.history
    refine ⟨(.cursor (.text "SHOW TABLES"), d.tables) :: own, ?_, ?_, ?_⟩
    · rw [extended, asked, noting, List.append_assoc]
      rfl
    · rw [List.map_cons, calls, creations_eq]
    · intro entry mem statement table same creates
      rcases List.mem_cons.1 mem with rfl | mem
      · cases same
      · obtain ⟨m, call, understood, fresh⟩ := named entry mem
        cases same.symm.trans call
        cases creates.symm.trans understood
        exact fresh

/-- Nothing is missing after a run. -/
theorem Completes.missing_eq_nil {d' : Database} (h : d.Completes models d') :
    d'.missing models = [] := by
  refine List.filter_eq_nil_iff.2 fun m hm => ?_
  have present : m.table ∈ d'.tables := (h.mem_tables m.table).2 (.inr (List.mem_map_of_mem hm))
  simpa using present

end Database

/-- **A safe run creates exactly the tables that are missing.** Whatever the rows of the answer look
like, it asks for the tables once and then creates those of its models that are not listed, in order. A
database that understands the statements gets every table of the models; none exists when it is
created, and a second run only asks for the tables. -/
theorem Context.createTables_safe (ctx : Context) (models : List Model) :
    (∀ answers rows, nextAnswer answers = .rows rows →
      Acts (ctx.createTables models true) answers (.ok ())
        (.cursor (.text "SHOW TABLES") ::
          (unlisted rows models).map fun m => .execute m.createStatement) answers.tail) ∧
    ((models.map Model.table).Nodup → ∀ d : Database,
      (∀ m ∈ models, d.created? m.createStatement = some m.table) →
      ∃ d', (ctx.createTables models true).run.run d = (.ok (), d') ∧ d.Completes models d' ∧
        (ctx.createTables models true).run.run d' = (.ok (), d'.asked)) := by
  constructor
  · intro answers rows answered
    have run : Acts (ctx.createTables models true) answers _ _ _ := ctx.acts_createTables_safe models
    rw [answered, safeCreations, filter_tableNames, creations_eq] at run
    exact run
  · intro distinct d understood
    have part : ∀ m ∈ d.missing models, m ∈ models ∧ m.table ∉ d.tables := by
      simp [Database.missing]
    obtain ⟨d', run, adds⟩ : ∃ d', (ctx.createAll (d.missing models)).run.run d.asked = (.ok (), d') ∧
        d.asked.Adds (d.missing models) d' :=
      Database.run_createAll (fun m hm => understood m (part m hm).1) (fun m hm => (part m hm).2)
        (distinct.sublist (List.filter_sublist.map _))
    have completes := Database.completes_of_adds adds
    refine ⟨d', Database.run_createTables.trans run, completes, ?_⟩
    rw [Database.run_createTables, completes.missing_eq_nil]
    rfl

/-- A database with these tables that reads statements as SQL does. Its answer has a row without values
before the rows of the tables. -/
def Database.holding (tables : List String) : Database where
  created? statement := (Sql.readTableChange statement.sql).bind Sql.TableChange.created?
  listing tables := .ofCells [] :: tables.map fun table => .ofCells [("name", .string table)]
  lists_listing tables name := by
    have row : ((fun r => r.first?.map Value.text) ∘ fun table : String =>
        Row.ofCells [("name", .string table)]) = some :=
      funext fun table => congrArg some (String.ofList_toList (s := table))
    rw [← mem_tableNames_iff, tableNames, List.filterMap_cons_none rfl, List.filterMap_map, row,
      List.filterMap_some]
  tables := tables
  history := []

theorem Database.holding_understands (tables : List String) {m : Model} (h : m.PlainNames)
    (defaults : Sql.QuietDefaults m) :
    (holding tables).created? m.createStatement = some m.table := by
  simp only [holding, Model.createStatement, Sql.readTableChange_create h defaults]
  rfl

/-- Rows of any shape are read by the text of their first values, and a database that has one of three
tables gets the others once. -/
theorem Context.votes_created_once :
    ([memberModel, replyModel, voteModel].map Model.table).Nodup ∧
    Acts ((plain .mysql).createTables [memberModel, .named "42", voteModel] true)
      [.rows [.ofCells [], .ofCells [("name", .int32 42)],
        .ofCells [("name", .string "member"), ("owner", .string "vote")]]] (.ok ())
      [.cursor (.text "SHOW TABLES"), .execute voteModel.createStatement] [] ∧
    ∃ d' : Database, ((plain .mysql).createTables [memberModel, replyModel, voteModel] true).run.run
        (Database.holding ["reply"]) = (.ok (), d') ∧
      d'.tables = ["reply", "member", "vote"] ∧
      ((plain .mysql).createTables [memberModel, replyModel, voteModel] true).run.run d' =
        (.ok (), d'.asked) := by
  have distinct : ([memberModel, replyModel, voteModel].map Model.table).Nodup := by decide
  have understood : ∀ m ∈ [memberModel, replyModel, voteModel],
      (Database.holding ["reply"]).created? m.createStatement = some m.table := by
    simp only [List.forall_mem_cons]
    exact ⟨Database.holding_understands _ ⟨by decide, by decide, by decide⟩ (by decide),
      Database.holding_understands _ ⟨by decide, by decide, by decide⟩ (by decide),
      Database.holding_understands _ ⟨by decide, by decide, by decide⟩ (by decide),
      fun _ h => nomatch h⟩
  have listed : unlisted [.ofCells [], .ofCells [("name", .int32 42)],
      .ofCells [("name", .string "member"), ("owner", .string "vote")]]
      [memberModel, .named "42", voteModel] = [voteModel] := by decide
  obtain ⟨d', run, completes, rerun⟩ :=
    (createTables_safe (plain .mysql) [memberModel, replyModel, voteModel]).2 distinct
      (.holding ["reply"]) understood
  have asked := (createTables_safe (plain .mysql) [memberModel, .named "42", voteModel]).1
    [.rows [.ofCells [], .ofCells [("name", .int32 42)],
        .ofCells [("name", .string "member"), ("owner", .string "vote")]]] _ rfl
  rw [listed] at asked
  exact ⟨distinct, asked, d', run, completes.tables, rerun⟩

end QueryBuilder
