import QueryBuilder.Proofs.Literal.Placeholder

/-!
# Foreign keys in joins and in table definitions

A foreign key is read twice: the definition of a table makes a constraint of it, which names the
referenced column, and a join makes a condition of it, which names the primary key of the other model
instead. Both take the same field, the first one that references the table. Main statement: the two
equate the same columns exactly if the referenced column is that primary key, and so they do for
fields that were made as references to the model (`relation_iff_constraint`).
-/

namespace QueryBuilder
set_option autoImplicit false

/-! ## Statements that define tables -/

theorem listText_cons (s : String) (ss : List String) :
    listText (s :: ss) = s ++ String.join (ss.map (", " ++ ·)) := by
  induction ss generalizing s with
  | nil => simp [listText]
  | cons t ts ih =>
    have rest : listText (s :: t :: ts) = s ++ ", " ++ listText (t :: ts) :=
      String.intercalate_cons_cons
    rw [rest, ih, List.map_cons, String.join_cons, String.append_assoc, String.append_assoc]

/-- What a definition lists between its parentheses: the columns, then the constraints. -/
def Model.items (m : Model) : List String :=
  m.fields.toList.map Field.definitionText ++
    m.foreignKeys.map fun p => p.2.constraintText p.1.column

/-- The statement that creates the table of a model is the list of its items, of which this is one. -/
def Model.Declares (m : Model) (item : String) : Prop :=
  ∀ ifNotExists, ∃ f, Dialect.mysql.compile (.createTable ⟨m, ifNotExists⟩) = .ok f ∧
    f.sql = "CREATE TABLE " ++ (if ifNotExists then "IF NOT EXISTS " else "") ++ m.table ++ " (" ++
      listText m.items ++ ")" ∧
    item ∈ m.items

theorem Fragment.sql_textIf (b : Bool) (s : String) : (textIf b s).sql = if b then s else "" := by
  cases b <;> rfl

theorem Field.sql_definition (f : Field) : f.definition.sql = f.definitionText := by
  simp only [definition, definitionText, Fragment.sql_append, Fragment.sql_text,
    Fragment.sql_textIf]
  cases f.nullable <;> cases f.defaultValue <;> rfl

theorem ForeignKey.sql_constraint (k : ForeignKey) (column : String) :
    (k.constraint column).sql = k.constraintText column := rfl

/-- Without fields there are no foreign keys, so a separator stands between columns and constraints
exactly if there are constraints. -/
theorem Model.listText_items (m : Model) : listText m.items =
    listText (m.fields.toList.map Field.definitionText) ++
      String.join (m.foreignKeys.map fun p => ", " ++ p.2.constraintText p.1.column) := by
  unfold items
  cases h : m.fields.toList with
  | nil =>
    have none : m.foreignKeys = [] := by
      rw [foreignKeys, h]
      rfl
    rw [none]
    rfl
  | cons f fs =>
    rw [List.map_cons, List.cons_append, listText_cons, listText_cons, List.map_append,
      String.join_append, String.append_assoc, List.map_map (l := m.foreignKeys)]
    rfl

theorem CreateTable.text_eq (q : CreateTable) : q.text = "CREATE TABLE " ++
    (if q.ifNotExists then "IF NOT EXISTS " else "") ++ q.model.table ++ " (" ++
      listText q.model.items ++ ")" := by
  have items := q.model.listText_items
  rw [items, ← String.append_assoc]
  rfl

theorem CreateTable.sql_fragment (q : CreateTable) : q.fragment.sql = q.text := by
  have definitions : (q.model.fields.toList.map Field.definition).map Fragment.sql =
      q.model.fields.toList.map Field.definitionText := by
    simp [Field.sql_definition]
  have constraints : (q.model.foreignKeys.map fun p => Fragment.text ", " ++
      p.2.constraint p.1.column).map Fragment.sql =
        q.model.foreignKeys.map fun p => ", " ++ p.2.constraintText p.1.column := by
    simp [ForeignKey.sql_constraint]
  simp only [fragment, Fragment.sql_append, Fragment.sql_text, Fragment.sql_textIf,
    Fragment.sql_commaSeparated, Fragment.sql_concat_eq_join, definitions, constraints]
  rfl

theorem Model.declares_of_mem {m : Model} {item : String} (h : item ∈ m.items) : m.Declares item := by
  intro ifNotExists
  refine ⟨CreateTable.fragment ⟨m, ifNotExists⟩, rfl, ?_, h⟩
  rw [CreateTable.sql_fragment, CreateTable.text_eq]

/-! ## The field of a relation -/

namespace Relation

theorem exists_reference {m target : Model} (h : ∃ p ∈ m.foreignKeys, p.2.table = target.table) :
    ∃ f k, reference? m target = some f ∧ (f, k) ∈ m.foreignKeys ∧ k.table = target.table := by
  obtain ⟨p, hp, table⟩ := h
  cases hf : m.foreignKeys.find? fun p => p.2.table = target.table with
  | none =>
    have others := List.find?_eq_none.1 hf p hp
    exact absurd (decide_eq_true table) others
  | some q =>
    have found : q.2.table = target.table := by simpa using List.find?_some hf
    exact ⟨q.1, q.2, by rw [reference?, hf]; rfl, List.mem_of_find?_eq_some hf, found⟩

theorem between_of_reference {left right : Model} {f : Field} (h : reference? left right = some f) :
    between left right = .ok (through left f right) := by
  rw [between, h]

/-- The columns that a relation equates. -/
def columns (on : Relation) : List Column := [on.foreignKey, on.primaryKey]

/-- The two columns that the constraint of a foreign key relates. -/
def ofConstraint (m : Model) (f : Field) (k : ForeignKey) : Relation :=
  ⟨.qualified m.table f.column, .qualified k.table k.column⟩

/-- A pair with a common column is determined by its members. -/
theorem columns_same_iff {c d e : Column} :
    (∀ x, x ∈ columns ⟨c, d⟩ ↔ x ∈ columns ⟨c, e⟩) ↔ d = e := by
  constructor
  · intro same
    have hd := (same d).1 (by simp [columns])
    have he := (same e).2 (by simp [columns])
    simp only [columns, List.mem_cons, List.not_mem_nil, or_false] at hd he
    rcases hd with rfl | hd
    · rcases he with rfl | he
      · rfl
      · exact he.symm
    · exact hd
  · rintro rfl
    exact fun _ => Iff.rfl

end Relation

/-! ## Fields that are made as references to a model -/

/-- The field was made as a reference to a model and was given no other reference since. -/
def Field.RefersTo (f : Field) (target : Model) : Prop :=
  ∃ (name : String) (attributes : List Attribute),
    (∀ table column, .references table column ∉ attributes) ∧
      f = attributes.foldl Field.set (Field.foreign name target)

/-- Attributes that are no references leave the type and the reference of a field alone. -/
theorem Field.foldl_set {f : Field} {attributes : List Attribute}
    (h : ∀ table column, .references table column ∉ attributes) :
    (attributes.foldl set f).type = f.type ∧ (attributes.foldl set f).foreignKey = f.foreignKey := by
  induction attributes generalizing f with
  | nil => exact ⟨rfl, rfl⟩
  | cons a attributes ih =>
    obtain ⟨type, foreignKey⟩ := ih (f := f.set a) fun table column hmem =>
      h table column (List.mem_cons_of_mem _ hmem)
    rw [List.foldl_cons, type, foreignKey]
    cases a with
    | references table column => exact absurd List.mem_cons_self (h table column)
    | _ => exact ⟨rfl, rfl⟩

theorem Field.RefersTo.foreignKey {f : Field} {target : Model} (h : f.RefersTo target) :
    f.foreignKey = some ⟨target.table, target.primaryKey⟩ := by
  obtain ⟨name, attributes, others, rfl⟩ := h
  rw [(foldl_set others).2]
  rfl

theorem Field.RefersTo.type {f g : Field} {target : Model} (h : f.RefersTo target)
    (key : target.primaryKeyField? = some g) : f.type = g.type := by
  obtain ⟨name, attributes, others, rfl⟩ := h
  rw [(foldl_set others).1, foreign, key]
  rfl

/-- The definition of a model's table gives the column of a field this type. -/
def Model.Types (m : Model) (f : Field) (type : SqlType) : Prop :=
  m.Declares f.definitionText ∧
    ∃ options, f.definitionText = f.column ++ " " ++ type.sql ++ options

theorem Model.types_of_mem {m : Model} {f : Field} (h : f ∈ m.fields.toList) : m.Types f f.type := by
  have item : f.definitionText ∈ m.items := List.mem_append_left _ (List.mem_map_of_mem h)
  refine ⟨declares_of_mem item, ?_⟩
  simp only [Field.definitionText, String.append_assoc]
  exact ⟨_, rfl⟩

theorem Model.declares_constraint {m : Model} {f : Field} {k : ForeignKey}
    (h : (f, k) ∈ m.foreignKeys) : m.Declares (k.constraintText f.column) := by
  have constraint : k.constraintText f.column ∈
      m.foreignKeys.map fun p => p.2.constraintText p.1.column := List.mem_map.2 ⟨(f, k), h, rfl⟩
  exact declares_of_mem (List.mem_append_right _ constraint)

/-- **Joins and constraints.** If a model references another one, then the field that joins them has
a constraint in the definition of its table. The join equates the column of that field with the
primary key of the other model, so it equates the columns of the constraint exactly if the
constraint refers to that key. It does if every reference to the other table was made from the
model, and then the column has the type of the key. -/
theorem relation_iff_constraint {a b : Model} (referenced : ∃ p ∈ a.foreignKeys, p.2.table = b.table) :
    ∃ f k on, Relation.reference? a b = some f ∧ f.foreignKey = some k ∧
      a.Declares ("FOREIGN KEY (" ++ f.column ++ ") REFERENCES " ++ b.table ++ " (" ++ k.column ++ ")") ∧
      Relation.between a b = .ok on ∧
      on = ⟨.qualified a.table f.column, .qualified b.table b.primaryKey⟩ ∧
      ((∀ c, c ∈ on.columns ↔ c ∈ (Relation.ofConstraint a f k).columns) ↔ k.column = b.primaryKey) ∧
      ((∀ p ∈ a.foreignKeys, p.2.table = b.table → p.1.RefersTo b) →
        k.column = b.primaryKey ∧ ∀ g, b.primaryKeyField? = some g →
          a.Types f g.type ∧ b.Types g g.type) := by
  obtain ⟨f, k, found, mem, table⟩ := Relation.exists_reference referenced
  obtain ⟨hf, hk⟩ := Model.mem_fields_of_mem_foreignKeys mem
  refine ⟨f, k, Relation.through a f b, found, hk, ?_, Relation.between_of_reference found, rfl, ?_,
    fun refers => ?_⟩
  · have text : k.constraintText f.column =
        "FOREIGN KEY (" ++ f.column ++ ") REFERENCES " ++ b.table ++ " (" ++ k.column ++ ")" := by
      unfold ForeignKey.constraintText
      rw [table]
    exact text ▸ Model.declares_constraint mem
  · rw [Relation.through, Relation.ofConstraint, Relation.columns_same_iff, table]
    simp [Column.qualified, eq_comm]
  · have refersTo : f.RefersTo b := refers (f, k) mem table
    have key : k = ⟨b.table, b.primaryKey⟩ := Option.some.inj (hk.symm.trans refersTo.foreignKey)
    refine ⟨congrArg ForeignKey.column key, fun g hg => ⟨?_, ?_⟩⟩
    · rw [← refersTo.type hg]
      exact Model.types_of_mem hf
    · exact Model.types_of_mem (List.mem_of_find?_eq_some hg)

/-- Accounts with a short key. -/
def accountModel : Model :=
  ((Model.named "account").add ((Field.plain "id" .integer).set .primaryKey)).add
    (.plain "email" (.varchar 64))

/-- Messages with the key of the account that sent them, if there is one. -/
def messageModel : Model :=
  (Model.named "message").add ((Field.foreign "sender" accountModel).set .nullable)

/-- Invitations to an address instead of the key of an account. -/
def invitationModel : Model :=
  (Model.named "invitation").add
    ((Field.foreign "guest" accountModel).set (.references "account" "email"))

theorem messageModel_refersTo : ∀ p ∈ messageModel.foreignKeys, p.1.RefersTo accountModel := by
  intro p hp
  have only : messageModel.foreignKeys =
      [((Field.foreign "sender" accountModel).set .nullable, ⟨"account", "id"⟩)] := by rfl
  rw [only, List.mem_singleton] at hp
  subst hp
  refine ⟨"sender", [.nullable], fun table column h => ?_, rfl⟩
  cases h with
  | tail _ h => cases h

/-- The join of invitations compares an address with a key, which its constraint does not. -/
theorem invitation_join_misses_constraint :
    (∃ p ∈ messageModel.foreignKeys, p.2.table = accountModel.table) ∧
    messageModel.Types ((Field.foreign "sender" accountModel).set .nullable) .integer ∧
    (∃ p ∈ invitationModel.foreignKeys, p.2.table = accountModel.table) ∧
    ∃ f k on, Relation.between invitationModel accountModel = .ok on ∧
      ¬ ∀ c, c ∈ on.columns ↔ c ∈ (Relation.ofConstraint invitationModel f k).columns := by
  have message : ∃ p ∈ messageModel.foreignKeys, p.2.table = accountModel.table := by decide
  have invitation : ∃ p ∈ invitationModel.foreignKeys, p.2.table = accountModel.table := by decide
  refine ⟨message, ?_, invitation, ?_⟩
  · obtain ⟨f, k, on, found, _, _, _, _, _, agree⟩ := relation_iff_constraint message
    have sender : (Field.foreign "sender" accountModel).set .nullable = f := Option.some.inj found
    have types := (agree fun p hp _ => messageModel_refersTo p hp).2
      ((Field.plain "id" .integer).set .primaryKey) rfl
    exact sender ▸ types.1
  · obtain ⟨f, k, on, found, key, _, related, _, same, _⟩ := relation_iff_constraint invitation
    refine ⟨f, k, on, related, fun columns => ?_⟩
    have other : k.column = "email" := by
      cases found
      cases key
      rfl
    rw [same, other] at columns
    revert columns
    decide

end QueryBuilder
