import Mathlib.Data.List.Nodup
import QueryBuilder.Proofs.Join.ForeignKey
import QueryBuilder.Proofs.Session.Sent

/-!
# Models built from fields

A model is built by adding fields one after another. A field takes the place of the one with its name,
while the primary key is the column of the last field that was marked, even if that field has been
replaced since. So a model can have a key that none of its columns is marked for; it has not if the
names of the fields and their columns are different. Main statement: `Model.construction`.
-/

namespace QueryBuilder
set_option autoImplicit false

namespace Model

/-- The model of a table to which fields have been added in this order. -/
def ofFields (table : String) (fs : List Field) : Model := fs.foldl add (named table)

/-- The last of the fields that is marked as primary key. -/
def lastMarked? (fs : List Field) : Option Field := (fs.filter Field.primaryKey).getLast?

/-- What a model has of the fields that were added to it. -/
structure BuiltFrom (m : Model) (fs : List Field) : Prop where
  /-- The names are in the order in which they were first added. -/
  names : m.fields.keys = (fs.map Field.name).eraseDups
  /-- Under a name there is the last field that was added with it. -/
  last : ∀ name, m.fields.find? name = (fs.filter (·.name = name)).getLast?
  primaryKey : m.primaryKey = ((lastMarked? fs).map Field.column).getD "id"

/-- Updates and deletions of rows of the model find their row by this column. -/
structure FiltersOn (m : Model) (column : String) : Prop where
  update : ∀ r f, Dialect.mysql.compile (.update ⟨m, r⟩) = .ok f → f.KeyedBy column
  delete : ∀ r f, Dialect.mysql.compile (.delete ⟨m, r⟩) = .ok f → f.KeyedBy column
  /-- A row with a value for the column can be deleted, and updated if it has another column. -/
  found : ∀ r v, r.get? column = some v → v ≠ .null →
    (∃ f, Dialect.mysql.compile (.delete ⟨m, r⟩) = .ok f) ∧
      ((∃ c ∈ r.toList, c.1 ≠ column) → ∃ f, Dialect.mysql.compile (.update ⟨m, r⟩) = .ok f)

/-- The statement that creates the table defines this column, and says more than for a field that is
not marked: that it is the primary key. -/
def Marks (m : Model) (column : String) : Prop :=
  ∃ f ∈ m.fields.toList, f.column = column ∧ m.Declares f.definitionText ∧
    f.definitionText = Field.definitionText { f with primaryKey := false } ++ " PRIMARY KEY"

/-! ## Fields and key -/

theorem fields_foldl_add (m : Model) (fs : List Field) :
    (fs.foldl add m).fields = fs.foldl KeyedList.insert m.fields := by
  induction fs generalizing m with
  | nil => rfl
  | cons f fs ih => exact ih (m.add f)

/-- Each marked field sets the key, whatever happens to the field later. -/
theorem primaryKey_foldl_add (m : Model) (fs : List Field) :
    (fs.foldl add m).primaryKey = ((lastMarked? fs).map Field.column).getD m.primaryKey := by
  induction fs generalizing m with
  | nil => rfl
  | cons f fs ih =>
    rw [List.foldl_cons, ih, lastMarked?, lastMarked?]
    by_cases marked : f.primaryKey = true
    · have key : (m.add f).primaryKey = f.column := if_pos marked
      rw [List.filter_cons_of_pos marked, List.getLast?_cons, key]
      cases (fs.filter Field.primaryKey).getLast? <;> rfl
    · have key : (m.add f).primaryKey = m.primaryKey := if_neg marked
      rw [List.filter_cons_of_neg marked, key]

theorem fields_ofFields (table : String) (fs : List Field) :
    (ofFields table fs).fields = KeyedList.ofList fs := fields_foldl_add (named table) fs

theorem builtFrom_ofFields (table : String) (fs : List Field) :
    (ofFields table fs).BuiltFrom fs where
  names := by rw [fields_ofFields, KeyedList.keys_ofList]
  last name := by rw [fields_ofFields, KeyedList.find?_ofList]
  primaryKey := primaryKey_foldl_add (named table) fs

/-! ## Columns -/

section Columns

variable {fs : List Field}

theorem eq_of_name_eq (names : (fs.map Field.name).Nodup) {f g : Field} (hf : f ∈ fs) (hg : g ∈ fs)
    (h : f.name = g.name) : f = g := List.inj_on_of_nodup_map names hf hg h

/-- The columns of fields with different names are different, unless a field that is no foreign key is
called like the column of one that is. -/
theorem nodup_columns_iff (names : (fs.map Field.name).Nodup) :
    (fs.map Field.column).Nodup ↔ ¬ ∃ f ∈ fs, ∃ g ∈ fs,
      f.foreignKey.isSome = true ∧ g.foreignKey = none ∧ g.name = f.name ++ "_id" := by
  rw [List.nodup_map_iff_inj_on (List.Nodup.of_map _ names)]
  constructor
  · rintro different ⟨f, hf, g, hg, foreign, plain, collision⟩
    have columns : f.column = g.column := by
      simp [Field.column, foreign, plain, collision]
    rw [different f hf g hg columns, plain] at foreign
    cases foreign
  · intro apart f hf g hg columns
    apply eq_of_name_eq names hf hg
    cases hfk : f.foreignKey with
    | none =>
      cases hgk : g.foreignKey with
      | none => simpa [Field.column, hfk, hgk] using columns
      | some k =>
        have collision : f.name = g.name ++ "_id" := by
          simpa [Field.column, hfk, hgk] using columns
        exact absurd ⟨g, hg, f, hf, by rw [hgk]; rfl, hfk, collision⟩ apart
    | some k =>
      cases hgk : g.foreignKey with
      | none =>
        have collision : g.name = f.name ++ "_id" := by
          simpa [Field.column, hfk, hgk] using columns.symm
        exact absurd ⟨f, hf, g, hg, by rw [hfk]; rfl, hgk, collision⟩ apart
      | some k' => simpa [Field.column, hfk, hgk] using columns

theorem columns_ofFields (table : String) (names : (fs.map Field.name).Nodup) :
    (ofFields table fs).columns = fs.map Field.column := by
  rw [columns, fields_ofFields, KeyedList.toList_ofList names]

end Columns

/-! ## Statements about rows -/

theorem filtersOn_primaryKey (m : Model) : m.FiltersOn m.primaryKey where
  update r f h := by
    obtain ⟨key, found, _, rfl⟩ := Update.compile_eq_ok_iff.1 (Dialect.compile_eq_ok_iff.1 h)
    exact keyed_keyCondition _ (keyValue_eq_ok_iff.1 found).2
  delete r f h := by
    obtain ⟨key, found, rfl⟩ := Delete.compile_eq_ok_iff.1 (Dialect.compile_eq_ok_iff.1 h)
    exact keyed_keyCondition _ (keyValue_eq_ok_iff.1 found).2
  found r v h nonnull := by
    have key (statement : KeyedStatement) : keyValue statement m r = .ok v :=
      keyValue_eq_ok_iff.2 ⟨h, nonnull⟩
    refine ⟨⟨_, Dialect.compile_eq_ok_iff.2 (Delete.compile_eq_ok_iff.2 ⟨v, key _, rfl⟩)⟩, ?_⟩
    rintro ⟨c, hc, other⟩
    have cells : (Update.mk m r).cells ≠ [] :=
      List.ne_nil_of_mem (List.mem_filter.2 ⟨hc, by simpa using other⟩)
    exact ⟨_, Dialect.compile_eq_ok_iff.2 (Update.compile_eq_ok_iff.2 ⟨v, key _, cells, rfl⟩)⟩

theorem definitionText_of_marked {f : Field} (h : f.primaryKey = true) :
    f.definitionText = Field.definitionText { f with primaryKey := false } ++ " PRIMARY KEY" := by
  simp [Field.definitionText, Field.column, h]

theorem marks_iff {m : Model} {column : String} :
    m.Marks column ↔ ∃ f ∈ m.fields.toList, f.primaryKey = true ∧ f.column = column := by
  constructor
  · rintro ⟨f, hf, rfl, _, text⟩
    refine ⟨f, hf, ?_, rfl⟩
    by_contra unmarked
    have plain : f.primaryKey = false := by simpa using unmarked
    have same : ({ f with primaryKey := false } : Field) = f := by rw [← plain]
    rw [same] at text
    have lengths := congrArg String.length text
    rw [String.length_append] at lengths
    have mark : " PRIMARY KEY".length = 12 := by decide
    omega
  · rintro ⟨f, hf, marked, rfl⟩
    exact ⟨f, hf, rfl, (types_of_mem hf).1, definitionText_of_marked marked⟩

/-! ## The key of a model with different names and columns -/

section Key

variable {fs : List Field} {key : Field}

theorem mem_of_lastMarked? (h : lastMarked? fs = some key) :
    key ∈ fs ∧ key.primaryKey = true := List.mem_filter.1 (List.mem_of_getLast? h)

theorem primaryKeyField?_ofFields (table : String) (names : (fs.map Field.name).Nodup)
    (columns : (fs.map Field.column).Nodup) (last : lastMarked? fs = some key) :
    (ofFields table fs).primaryKeyField? = some key := by
  have column : (ofFields table fs).primaryKey = key.column := by
    rw [(builtFrom_ofFields table fs).primaryKey, last]
    rfl
  rw [primaryKeyField?, column, fields_ofFields, KeyedList.toList_ofList names]
  exact KeyedList.find?_eq_some_of_nodup columns (mem_of_lastMarked? last).1

theorem marks_ofFields_iff (table : String) (names : (fs.map Field.name).Nodup) {column : String} :
    (ofFields table fs).Marks column ↔ ∃ f ∈ fs.filter Field.primaryKey, f.column = column := by
  rw [marks_iff, fields_ofFields, KeyedList.toList_ofList names]
  constructor
  · rintro ⟨f, hf, marked, same⟩
    exact ⟨f, List.mem_filter.2 ⟨hf, marked⟩, same⟩
  · rintro ⟨f, hf, same⟩
    obtain ⟨mem, marked⟩ := List.mem_filter.1 hf
    exact ⟨f, mem, marked, same⟩

/-- Different fields have different columns, so one marked column is one marked field. -/
theorem marks_only_iff (table : String) (names : (fs.map Field.name).Nodup)
    (columns : (fs.map Field.column).Nodup) (last : lastMarked? fs = some key) :
    (∀ column, (ofFields table fs).Marks column → column = key.column) ↔
      (fs.filter Field.primaryKey).length = 1 := by
  have mem : key ∈ fs.filter Field.primaryKey := List.mem_of_getLast? last
  constructor
  · intro only
    have all : ∀ column ∈ (fs.filter Field.primaryKey).map Field.column, column = key.column := by
      intro column hc
      obtain ⟨f, hf, rfl⟩ := List.mem_map.1 hc
      exact only _ ((marks_ofFields_iff table names).2 ⟨f, hf, rfl⟩)
    have repeated := List.eq_replicate_of_mem all
    have different : ((fs.filter Field.primaryKey).map Field.column).Nodup :=
      columns.sublist (List.filter_sublist.map Field.column)
    rw [repeated, List.nodup_replicate, List.length_map] at different
    have some := List.length_pos_of_mem mem
    omega
  · intro single column marked
    obtain ⟨f, hf, rfl⟩ := (marks_ofFields_iff table names).1 marked
    obtain ⟨g, only⟩ := List.length_eq_one_iff.1 single
    rw [only, List.mem_singleton] at hf mem
    rw [hf, mem]

end Key

/-- **How a model is built.** Its fields are the last ones that were added under their names, in the
order in which the names were first added, and its key is the column of the last field that was added
with a mark. If the names are different, then the columns are, unless a field that is no foreign key
is called like the column of one that is. If both are different and a field is marked, then the last
such field is the one behind the key, its column is the one that rows are found by and one that the
table has a mark for, and there is no other such column exactly if no other field is marked. -/
theorem construction (table : String) (fs : List Field) :
    (ofFields table fs).BuiltFrom fs ∧
    ((fs.map Field.name).Nodup →
      ((ofFields table fs).columns.Nodup ↔ ¬ ∃ f ∈ fs, ∃ g ∈ fs,
        f.foreignKey.isSome = true ∧ g.foreignKey = none ∧ g.name = f.name ++ "_id") ∧
      ((ofFields table fs).columns.Nodup → (∃ f ∈ fs, f.primaryKey = true) →
        ∃ key, lastMarked? fs = some key ∧
          (ofFields table fs).primaryKeyField? = some key ∧
          (ofFields table fs).FiltersOn key.column ∧
          (ofFields table fs).Marks key.column ∧
          ((∀ column, (ofFields table fs).Marks column → column = key.column) ↔
            (fs.filter Field.primaryKey).length = 1))) := by
  have built := builtFrom_ofFields table fs
  refine ⟨built, fun names => ?_⟩
  rw [columns_ofFields table names]
  refine ⟨nodup_columns_iff names, fun columns marked => ?_⟩
  obtain ⟨f, hf, mark⟩ := marked
  have nonempty : fs.filter Field.primaryKey ≠ [] :=
    List.ne_nil_of_mem (List.mem_filter.2 ⟨hf, mark⟩)
  obtain ⟨key, last⟩ : ∃ key, lastMarked? fs = some key :=
    ⟨_, List.getLast?_eq_some_getLast nonempty⟩
  have filters := filtersOn_primaryKey (ofFields table fs)
  rw [built.primaryKey, last] at filters
  exact ⟨key, last, primaryKeyField?_ofFields table names columns last, filters,
    (marks_ofFields_iff table names).2 ⟨key, List.mem_of_getLast? last, rfl⟩,
    marks_only_iff table names columns last⟩

/-- The lines of an order, which the order and the number of the line identify together. -/
def orderLineFields : List Field :=
  [(Field.plain "line" .integer).set .primaryKey, .plain "amount" .integer,
    ((Field.plain "order" .bigInt).set (.references "orders" "id")).set .primaryKey]

/-- A key of two columns is declared as two keys, and rows are found by the second column alone. -/
theorem orderLine_found_by_order :
    (orderLineFields.map Field.name).Nodup ∧ (ofFields "line" orderLineFields).columns.Nodup ∧
    (∃ f ∈ orderLineFields, f.primaryKey = true) ∧
    (ofFields "line" orderLineFields).FiltersOn "order_id" ∧
    ¬ ∀ column, (ofFields "line" orderLineFields).Marks column → column = "order_id" := by
  have names : (orderLineFields.map Field.name).Nodup := by decide
  have columns : (ofFields "line" orderLineFields).columns.Nodup := by decide
  have marked : ∃ f ∈ orderLineFields, f.primaryKey = true := by decide
  obtain ⟨key, last, _, filters, _, only⟩ :=
    ((construction "line" orderLineFields).2 names).2 columns marked
  have column : key.column = "order_id" := by
    cases last
    rfl
  rw [column] at filters only
  exact ⟨names, columns, marked, filters, fun h => absurd (only.1 h) (by decide)⟩

end Model

end QueryBuilder
