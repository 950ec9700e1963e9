import QueryBuilder.Proofs.Sql.Definition
import QueryBuilder.Proofs.Sql.Lexeme
import QueryBuilder.Proofs.Sql.Slice

/-!
# Table definitions as SQL reads them

`readDefinition` reads the definition of a table off the text of its statement: the items between the
outer parentheses are separated by commas, and each is a constraint or the definition of a column. A
name or a default value may be any keyword, so the reader goes by places: the name of a column stands
before a type, a constraint starts with two words, and each option is looked for where it may stand.
Main statement: what is read is one column for each field and one constraint for each foreign key
(`CreateTable.definition_of_text`).
-/

namespace QueryBuilder
set_option autoImplicit false

/-- The definition of a column. -/
structure ColumnDefinition where
  name : String
  type : SqlType
  nullable : Bool
  defaultValue : Option String
  autoIncrement : Bool
  primaryKey : Bool
  deriving DecidableEq

/-- The constraint that the values of a column are values of the column that it references. -/
structure Constraint where
  column : String
  reference : ForeignKey
  deriving DecidableEq

/-- The definition of a table: its columns, and constraints on them. -/
structure TableDefinition where
  ifNotExists : Bool
  table : String
  columns : List ColumnDefinition
  constraints : List Constraint
  deriving DecidableEq

def Field.columnDefinition (f : Field) : ColumnDefinition :=
  ⟨f.column, f.type, f.nullable, f.defaultValue, f.autoIncrement, f.primaryKey⟩

/-- What a query defines: one column for each field, one constraint for each foreign key. -/
def CreateTable.definition (q : CreateTable) : TableDefinition where
  ifNotExists := q.ifNotExists
  table := q.model.table
  columns := q.model.fields.toList.map Field.columnDefinition
  constraints := q.model.foreignKeys.map fun p => ⟨p.1.column, p.2⟩

namespace Sql

/-! ## The reader -/

/-- The types that are written without a length. -/
def sizeless : List SqlType :=
  [.smallInt, .integer, .bigInt, .real, .double, .boolean, .text, .blob, .timestamp]

/-- Reads a type and gives what is left. -/
def readType : List Lexeme → Option (SqlType × List Lexeme)
  | .word w :: .opening :: .word n :: .closing :: ls => do
    let n ← number? (.word n)
    if w = "VARCHAR" then some (.varchar (.ofNat n), ls) else none
  | .word w :: .opening :: .word p :: .comma :: .word s :: .closing :: ls => do
    let p ← number? (.word p)
    let s ← number? (.word s)
    if w = "DECIMAL" then some (.decimal (.ofNat p) (.ofNat s), ls) else none
  | .word w :: ls => (sizeless.find? fun t => t.sql = w).map fun t => (t, ls)
  | _ => none

namespace Keyword

def create : List Lexeme := [.word "CREATE", .word "TABLE"]
def ifNotExists : List Lexeme := [.word "IF", .word "NOT", .word "EXISTS"]
def notNull : List Lexeme := [.word "NOT", .word "NULL"]
def default : List Lexeme := [.word "DEFAULT"]
def autoIncrement : List Lexeme := [.word "AUTO_INCREMENT"]
def primaryKey : List Lexeme := [.word "PRIMARY", .word "KEY"]
def foreignKey : List Lexeme := [.word "FOREIGN", .word "KEY"]

end Keyword

/-- Whether the lexemes start with a keyword, and what is left without it. -/
def readKeyword (keyword ls : List Lexeme) : Bool × List Lexeme :=
  match ls.dropPrefix? keyword with
  | some rest => (true, rest)
  | none => (false, ls)

/-- The default value, if the lexemes start with one, and what is left without it. -/
def readDefault (ls : List Lexeme) : Option String × List Lexeme :=
  match ls.dropPrefix? Keyword.default with
  | some (.word e :: rest) => (some e, rest)
  | _ => (none, ls)

def readColumn : List Lexeme → Option ColumnDefinition
  | .word name :: ls => do
    let (type, ls) ← readType ls
    let (notNull, ls) := readKeyword Keyword.notNull ls
    let (defaultValue, ls) := readDefault ls
    let (autoIncrement, ls) := readKeyword Keyword.autoIncrement ls
    let (primaryKey, ls) := readKeyword Keyword.primaryKey ls
    if ls = [] then some ⟨name, type, !notNull, defaultValue, autoIncrement, primaryKey⟩ else none
  | _ => none

def readConstraint (ls : List Lexeme) : Option Constraint :=
  match ls.dropPrefix? Keyword.foreignKey with
  | some [.opening, .word column, .closing, .word "REFERENCES", .word table, .opening, .word key,
      .closing] => some ⟨column, ⟨table, key⟩⟩
  | _ => none

/-- What a definition has in its list. -/
inductive Item where
  | column (d : ColumnDefinition)
  | constraint (c : Constraint)

/-- A column may be called like the keyword of a constraint. -/
def readItem (ls : List Lexeme) : Option Item :=
  (readConstraint ls).map .constraint <|> (readColumn ls).map .column

def Item.column? : Item → Option ColumnDefinition
  | column d => some d
  | constraint _ => none

def Item.constraint? : Item → Option Constraint
  | column _ => none
  | constraint c => some c

/-- Reads the definition of a table off its statement. -/
def readDefinition (sql : String) : Option TableDefinition := do
  let ls ← (lexemes sql.toList).dropPrefix? Keyword.create
  match readKeyword Keyword.ifNotExists ls with
  | (ifNotExists, .word table :: .opening :: ls) =>
    if ls.getLast? = some .closing then
      let items ← (splitItems 0 [] ls.dropLast).mapM readItem
      return ⟨ifNotExists, table, items.filterMap Item.column?, items.filterMap Item.constraint?⟩
    else none
  | _ => none

/-! ## Types -/

/-- The first lexeme is another one. -/
def Without (l : Lexeme) (ls : List Lexeme) : Prop := ls.head? ≠ some l

variable {l : Lexeme} {ls ks : List Lexeme}

theorem without_nil (l : Lexeme) : Without l [] := nofun

theorem without_cons {k : Lexeme} (h : k ≠ l) (ls : List Lexeme) : Without l (k :: ls) :=
  fun same => h (Option.some.inj same)

theorem Without.append (hs : Without l ls) (ht : Without l ks) : Without l (ls ++ ks) := by
  cases ls with
  | nil => exact ht
  | cons k ls => exact hs

theorem without_if (b : Bool) (h : Without l ls) : Without l (if b then ls else []) := by
  cases b with
  | true => exact h
  | false => exact without_nil l

theorem dropPrefix?_eq_none (h : Without l ls) : ls.dropPrefix? (l :: ks) = none := by
  cases ls with
  | nil => rfl
  | cons k ls =>
    have other : (k == l) = false := by
      rw [beq_eq_false_iff_ne]
      rintro rfl
      exact h rfl
    rw [List.dropPrefix?, other]
    rfl

/-- A name that is the first word of a keyword is told from it by what follows. -/
theorem dropPrefix?_cons_eq_none (k k' : Lexeme) (h : Without l ls) :
    (k :: ls).dropPrefix? (k' :: l :: ks) = none := by
  rw [List.dropPrefix?, dropPrefix?_eq_none h, ite_self]

def typeLexemes : SqlType → List Lexeme
  | .varchar n => [.word "VARCHAR", .opening, .word (.ofList (Number.digits n.toNat)), .closing]
  | .decimal p s => [.word "DECIMAL", .opening, .word (.ofList (Number.digits p.toNat)), .comma,
      .word (.ofList (Number.digits s.toNat)), .closing]
  | t => [.word t.sql]

theorem readType_word (w : String) (h : Without .opening ls) : readType (.word w :: ls) =
    (sizeless.find? fun t => t.sql = w).map fun t => (t, ls) := by
  cases ls with
  | nil => rfl
  | cons k ls =>
    cases k with
    | opening => exact absurd rfl h
    | _ => rfl

theorem readType_typeLexemes (t : SqlType) (h : Without .opening ls) :
    readType (typeLexemes t ++ ls) = some (t, ls) := by
  cases t with
  | varchar n => simp [typeLexemes, readType, number?_digits]
  | decimal p s => simp [typeLexemes, readType, number?_digits]
  | _ => exact (readType_word _ h).trans rfl

theorem lexes_digits (n : Nat) :
    Lexes (Number.digits n) [.word (.ofList (Number.digits n))] := by
  have numeral := lexes_word (solid_of_plain (plain_digits n))
  rwa [String.toList_ofList] at numeral

theorem lexes_type (t : SqlType) : Lexes t.sql.toList (typeLexemes t) := by
  cases t with
  | varchar n =>
    have spelled := (lexes_word (w := "VARCHAR") (by decide)).append_cons (c := '(') (by decide)
      ((lexes_digits n.toNat).append_cons (c := ')') (by decide) lexes_nil)
    have text : (SqlType.varchar n).sql.toList =
        "VARCHAR".toList ++ '(' :: (Number.digits n.toNat ++ [')']) := by
      simp [SqlType.sql]
    rw [text]
    exact spelled
  | decimal p s =>
    have scale := (lexes_digits s.toNat).append_cons (c := ')') (by decide) lexes_nil
    have spelled := (lexes_word (w := "DECIMAL") (by decide)).append_cons (c := '(') (by decide)
      ((lexes_digits p.toNat).append_cons (c := ',') (by decide)
        (scale.cons (c := ' ') (by decide)))
    have text : (SqlType.decimal p s).sql.toList = "DECIMAL".toList ++
        '(' :: (Number.digits p.toNat ++ ',' :: ' ' :: (Number.digits s.toNat ++ [')'])) := by
      simp [SqlType.sql]
    rw [text]
    exact spelled
  | _ => exact lexes_word (by decide)

theorem unbroken_type (t : SqlType) : Unbroken (typeLexemes t) := by
  intro item rest
  cases t with
  | varchar n => simp [typeLexemes, splitItems, Lexeme.depthAfter]
  | decimal p s => simp [typeLexemes, splitItems, Lexeme.depthAfter]
  | _ => rfl

theorem without_typeLexemes (t : SqlType) (ls : List Lexeme) :
    Without (.word "KEY") (typeLexemes t ++ ls) := by
  cases t with
  | _ => exact without_cons (by decide) _

/-! ## Columns -/

theorem readKeyword_if (keyword : List Lexeme) (b : Bool) (h : ls.dropPrefix? keyword = none) :
    readKeyword keyword ((if b then keyword else []) ++ ls) = (b, ls) := by
  cases b with
  | true =>
    have found : (keyword ++ ls).dropPrefix? keyword = some ls :=
      List.dropPrefix?_append_of_beq ls BEq.rfl
    rw [if_pos rfl, readKeyword, found]
  | false =>
    rw [if_neg (by decide), List.nil_append, readKeyword, h]

def defaultLexemes (e : Option String) : List Lexeme :=
  e.elim [] fun e => Keyword.default ++ [.word e]

theorem readDefault_defaultLexemes (e : Option String) (h : Without (.word "DEFAULT") ls) :
    readDefault (defaultLexemes e ++ ls) = (e, ls) := by
  cases e with
  | some e => rfl
  | none => rw [defaultLexemes, Option.elim_none, List.nil_append, readDefault, Keyword.default,
      dropPrefix?_eq_none h]

theorem without_defaultLexemes (h : .word "DEFAULT" ≠ l) (e : Option String) :
    Without l (defaultLexemes e) := by
  cases e with
  | none => exact without_nil l
  | some e => exact without_cons h _

/-- The lexemes of the options after the default value. -/
def lastLexemes (f : Field) : List Lexeme :=
  (if f.autoIncrement then Keyword.autoIncrement else []) ++
    if f.primaryKey then Keyword.primaryKey else []

/-- The lexemes of what stands behind the type of a column. -/
def optionsLexemes (f : Field) : List Lexeme :=
  (if !f.nullable then Keyword.notNull else []) ++ (defaultLexemes f.defaultValue ++ lastLexemes f)

def columnLexemes (f : Field) : List Lexeme :=
  .word f.column :: (typeLexemes f.type ++ optionsLexemes f)

/-- Each option is looked for in its place, and none of the later ones starts with its keyword. -/
theorem readColumn_columnLexemes (f : Field) :
    readColumn (columnLexemes f) = some f.columnDefinition := by
  have beforeKey {l : Lexeme} (h : .word "PRIMARY" ≠ l) :
      Without l (if f.primaryKey then Keyword.primaryKey else []) :=
    without_if _ (without_cons h _)
  have beforeLast {l : Lexeme} (h : .word "PRIMARY" ≠ l) (h' : .word "AUTO_INCREMENT" ≠ l) :
      Without l (lastLexemes f) :=
    (without_if _ (without_cons h' _)).append (beforeKey h)
  have beforeDefault {l : Lexeme} (h : .word "PRIMARY" ≠ l) (h' : .word "AUTO_INCREMENT" ≠ l)
      (h'' : .word "DEFAULT" ≠ l) : Without l (defaultLexemes f.defaultValue ++ lastLexemes f) :=
    (without_defaultLexemes h'' _).append (beforeLast h h')
  have beforeOptions : Without .opening (optionsLexemes f) :=
    (without_if _ (without_cons (by decide) _)).append
      (beforeDefault (by decide) (by decide) (by decide))
  have notNull : readKeyword Keyword.notNull (optionsLexemes f) = (!f.nullable, _) :=
    readKeyword_if _ _ (dropPrefix?_eq_none (beforeDefault (by decide) (by decide) (by decide)))
  have default := readDefault_defaultLexemes f.defaultValue (beforeLast (by decide) (by decide))
  have autoIncrement : readKeyword Keyword.autoIncrement (lastLexemes f) = (f.autoIncrement, _) :=
    readKeyword_if _ _ (dropPrefix?_eq_none (beforeKey (by decide)))
  have primaryKey : readKeyword Keyword.primaryKey
      ((if f.primaryKey then Keyword.primaryKey else []) ++ []) = (f.primaryKey, []) :=
    readKeyword_if _ _ rfl
  rw [List.append_nil] at primaryKey
  rw [columnLexemes, readColumn, readType_typeLexemes f.type beforeOptions]
  simp only [Option.bind_eq_bind, Option.bind_some, notNull, default, autoIncrement, primaryKey,
    Bool.not_not, if_true]
  rfl

theorem behind_optionsText {f : Field} (h : ∀ e ∈ f.defaultValue, Solid e) :
    Behind (optionsText f).toList (optionsLexemes f) := by
  have notNull : Behind (if f.nullable then "" else " NOT NULL").toList
      (if !f.nullable then Keyword.notNull else []) := by
    cases f.nullable with
    | true => exact behind_nil
    | false => exact behind_words ["NOT", "NULL"] (by decide)
  have default : Behind (f.defaultValue.elim "" fun e => " DEFAULT " ++ e).toList
      (defaultLexemes f.defaultValue) := by
    cases hf : f.defaultValue with
    | none => exact behind_nil
    | some e =>
      have text : (" DEFAULT " ++ e).toList = ["DEFAULT", e].flatMap fun w => ' ' :: w.toList := by
        simp
      rw [Option.elim_some, text]
      exact behind_words ["DEFAULT", e] (by simpa using ⟨by decide, h e hf⟩)
  have autoIncrement : Behind " AUTO_INCREMENT".toList Keyword.autoIncrement :=
    behind_words ["AUTO_INCREMENT"] (by decide)
  have primaryKey : Behind " PRIMARY KEY".toList Keyword.primaryKey :=
    behind_words ["PRIMARY", "KEY"] (by decide)
  rw [optionsText, String.append_assoc, String.append_assoc]
  simp only [String.toList_append]
  exact notNull.append (default.append ((behind_if _ autoIncrement).append (behind_if _ primaryKey)))

theorem lexes_definitionText {f : Field} (name : Plain f.column)
    (h : ∀ e ∈ f.defaultValue, Solid e) : Lexes f.definitionText.toList (columnLexemes f) := by
  have options := behind_optionsText h
  have whole := (lexes_word (solid_of_plain name)).append_cons (c := ' ') (by decide)
    ((lexes_type f.type).append options.lexes options.setOff)
  have text : f.definitionText.toList =
      f.column.toList ++ ' ' :: (f.type.sql.toList ++ (optionsText f).toList) := by
    simp [Field.definitionText, optionsText]
  rw [text]
  exact whole

theorem unbroken_columnLexemes (f : Field) : Unbroken (columnLexemes f) := by
  have default : Unbroken (defaultLexemes f.defaultValue) := by
    cases f.defaultValue with
    | none => exact unbroken_nil
    | some e => exact .cons _ (.cons _ unbroken_nil)
  have last : Unbroken (lastLexemes f) :=
    (unbroken_if _ (.cons _ unbroken_nil)).append (unbroken_if _ (.cons _ (.cons _ unbroken_nil)))
  have options : Unbroken (optionsLexemes f) :=
    (unbroken_if _ (.cons _ (.cons _ unbroken_nil))).append (default.append last)
  exact .cons _ ((unbroken_type f.type).append options)

/-! ## Constraints -/

def constraintLexemes (column : String) (k : ForeignKey) : List Lexeme :=
  Keyword.foreignKey ++ [.opening, .word column, .closing, .word "REFERENCES", .word k.table,
    .opening, .word k.column, .closing]

theorem lexes_constraintText {column : String} {k : ForeignKey} (hcolumn : Plain column)
    (table : Plain k.table) (key : Plain k.column) :
    Lexes (k.constraintText column).toList (constraintLexemes column k) := by
  have reference := (behind_words ["REFERENCES", k.table]
    (by simpa using ⟨by decide, solid_of_plain table⟩)).append
      (behind_list (lexes_word (solid_of_plain key)) lexes_nil)
  have rest := (behind_words ["KEY"] (by decide)).append
    (behind_list (lexes_word (solid_of_plain hcolumn)) reference.lexes)
  have whole := (lexes_word (w := "FOREIGN") (by decide)).append rest.lexes rest.setOff
  have text : (k.constraintText column).toList = "FOREIGN".toList ++
      (["KEY"].flatMap (fun w => ' ' :: w.toList) ++ ' ' :: '(' :: (column.toList ++ ')' ::
        (["REFERENCES", k.table].flatMap (fun w => ' ' :: w.toList) ++
          ' ' :: '(' :: (k.column.toList ++ [')'])))) := by
    unfold ForeignKey.constraintText
    simp
  rw [text]
  exact whole

theorem unbroken_constraintLexemes (column : String) (k : ForeignKey) :
    Unbroken (constraintLexemes column k) := by
  intro item rest
  simp [constraintLexemes, Keyword.foreignKey, splitItems, Lexeme.depthAfter]

theorem readItem_constraintLexemes (column : String) (k : ForeignKey) :
    readItem (constraintLexemes column k) = some (.constraint ⟨column, k⟩) := rfl

theorem readItem_columnLexemes (f : Field) :
    readItem (columnLexemes f) = some (.column f.columnDefinition) := by
  have noConstraint : readConstraint (columnLexemes f) = none := by
    rw [readConstraint, columnLexemes, Keyword.foreignKey,
      dropPrefix?_cons_eq_none _ _ (without_typeLexemes f.type _)]
  rw [readItem, noConstraint, readColumn_columnLexemes]
  rfl

/-! ## Statements -/

/-- Plain names, and default values that are one word each. -/
structure Legible (m : Model) : Prop where
  names : m.PlainNames
  defaults : ∀ f ∈ m.fields.toList, ∀ e ∈ f.defaultValue, Solid e

section Statements

variable {m : Model}

/-- The lexemes of the items in the list of a definition. -/
def itemsLexemes (m : Model) : List (List Lexeme) :=
  m.fields.toList.map columnLexemes ++ m.foreignKeys.map fun p => constraintLexemes p.1.column p.2

theorem lexes_items (h : Legible m) :
    Lexes (listText m.items).toList ([Lexeme.comma].intercalate (itemsLexemes m)) := by
  refine lexes_listText (List.rel_append (forall₂_lexes ?_) (forall₂_lexes ?_))
  · exact fun f hf => lexes_definitionText (h.names.columns f hf) (h.defaults f hf)
  · intro p hp
    obtain ⟨table, key⟩ := h.names.references p hp
    have column := h.names.columns p.1 (Model.mem_fields_of_mem_foreignKeys hp).1
    exact lexes_constraintText column table key

theorem splitItems_itemsLexemes (m : Model) :
    splitItems 0 [] ([Lexeme.comma].intercalate (itemsLexemes m)) = itemsLexemes m := by
  refine splitItems_intercalate (List.forall_mem_append.2 ⟨?_, ?_⟩)
  · refine List.forall_mem_map.2 fun f _ => ⟨List.cons_ne_nil _ _, unbroken_columnLexemes f⟩
  · refine List.forall_mem_map.2 fun p _ => ⟨List.cons_ne_nil _ _, unbroken_constraintLexemes _ _⟩

theorem mapM_readItem {α : Type} {spelled : α → List Lexeme} {item : α → Item}
    (h : ∀ a, readItem (spelled a) = some (item a)) (as : List α) :
    (as.map spelled).mapM readItem = some (as.map item) := by
  have read : readItem ∘ spelled = fun a => pure (item a) := funext h
  rw [List.mapM_map, read, List.mapM_pure]
  rfl

/-- The items in the list of a definition. -/
def itemsOf (m : Model) : List Item :=
  m.fields.toList.map (fun f => .column f.columnDefinition) ++
    m.foreignKeys.map fun p => .constraint ⟨p.1.column, p.2⟩

theorem mapM_readItem_itemsLexemes (m : Model) :
    (itemsLexemes m).mapM readItem = some (itemsOf m) := by
  have constraints := mapM_readItem
    (fun p : Field × ForeignKey => readItem_constraintLexemes p.1.column p.2) m.foreignKeys
  rw [itemsLexemes, List.mapM_append, mapM_readItem readItem_columnLexemes, constraints]
  rfl

theorem filterMap_column?_itemsOf (m : Model) :
    (itemsOf m).filterMap Item.column? = m.fields.toList.map Field.columnDefinition := by
  simp [itemsOf, Function.comp_def, Item.column?]

theorem filterMap_constraint?_itemsOf (m : Model) : (itemsOf m).filterMap Item.constraint? =
    m.foreignKeys.map fun p => ⟨p.1.column, p.2⟩ := by
  simp [itemsOf, Function.comp_def, Item.constraint?]

/-- A table may be called like the keyword, and then the list of its columns follows. -/
theorem dropPrefix?_ifNotExists (table : String) (ls : List Lexeme) :
    (.word table :: .opening :: ls).dropPrefix? Keyword.ifNotExists = none :=
  dropPrefix?_cons_eq_none _ _ (without_cons (by decide) ls)

/-- The lexemes of a definition. -/
def definitionLexemes (q : CreateTable) : List Lexeme :=
  Keyword.create ++ ((if q.ifNotExists then Keyword.ifNotExists else []) ++
    (.word q.model.table :: .opening ::
      ([Lexeme.comma].intercalate (itemsLexemes q.model) ++ [.closing])))

theorem lexemes_text {q : CreateTable} (h : Legible q.model) :
    lexemes q.text.toList = definitionLexemes q := by
  have list := behind_list (lexes_items h) lexes_nil
  have flag : Behind (if q.ifNotExists then " IF NOT EXISTS" else "").toList
      (if q.ifNotExists then Keyword.ifNotExists else []) :=
    behind_if _ (behind_words ["IF", "NOT", "EXISTS"] (by decide))
  have table := behind_words [q.model.table] (by simpa using solid_of_plain h.names.table)
  have rest := (behind_words ["TABLE"] (by decide)).append (flag.append (table.append list))
  have whole := (lexes_word (w := "CREATE") (by decide)).append rest.lexes rest.setOff
  have text : q.text.toList = "CREATE".toList ++ (["TABLE"].flatMap (fun w => ' ' :: w.toList) ++
      ((if q.ifNotExists then " IF NOT EXISTS" else "").toList ++
        ([q.model.table].flatMap (fun w => ' ' :: w.toList) ++
          (' ' :: '(' :: ((listText q.model.items).toList ++ [')']))))) := by
    rw [q.text_eq]
    generalize listText q.model.items = items
    cases q.ifNotExists <;> simp
  rw [text, whole.lexemes]
  rfl

theorem readDefinition_text {q : CreateTable} (h : Legible q.model) :
    readDefinition q.text = some q.definition := by
  have start : (definitionLexemes q).dropPrefix? Keyword.create = some _ :=
    List.dropPrefix?_append_of_beq _ BEq.rfl
  have flag := readKeyword_if Keyword.ifNotExists q.ifNotExists
    (dropPrefix?_ifNotExists q.model.table
      ([Lexeme.comma].intercalate (itemsLexemes q.model) ++ [.closing]))
  rw [readDefinition, lexemes_text h, start, Option.bind_eq_bind, Option.bind_some, flag]
  simp only [List.getLast?_concat, if_true, List.dropLast_concat, splitItems_itemsLexemes,
    mapM_readItem_itemsLexemes, Option.bind_eq_bind, Option.bind_some, filterMap_column?_itemsOf,
    filterMap_constraint?_itemsOf]
  rfl

end Statements

end Sql

/-- A constraint has columns before it, and one of them is the column that it is on. -/
structure TableDefinition.Sound (d : TableDefinition) : Prop where
  nonempty : d.constraints ≠ [] → d.columns ≠ []
  onColumn : ∀ c ∈ d.constraints, ∃ column ∈ d.columns, column.name = c.column

theorem CreateTable.sound_definition (q : CreateTable) : q.definition.Sound := by
  have onColumn : ∀ c ∈ q.definition.constraints,
      ∃ column ∈ q.definition.columns, column.name = c.column := by
    intro c hc
    obtain ⟨p, hp, rfl⟩ := List.mem_map.1 hc
    have field := (Model.mem_fields_of_mem_foreignKeys hp).1
    exact ⟨p.1.columnDefinition, List.mem_map_of_mem field, rfl⟩
  refine ⟨fun some none => ?_, onColumn⟩
  obtain ⟨c, hc⟩ := List.exists_mem_of_ne_nil _ some
  obtain ⟨column, mem, _⟩ := onColumn c hc
  rw [none] at mem
  cases mem

/-- **The text of a table definition determines it.** One reader gives back, for every query with
plain names and default values of one word, whether the table may exist, its name, the definition of a
column for each field and a constraint for each foreign key, in order. There are columns before a
constraint, which is on one of them, and queries with one text have one definition. -/
theorem CreateTable.definition_of_text {q : CreateTable} (h : Sql.Legible q.model) :
    ∃ f, Dialect.mysql.compile (.createTable q) = .ok f ∧
      Sql.readDefinition f.sql = some q.definition ∧ q.definition.Sound ∧
      ∀ (q' : CreateTable) (f' : Fragment), Sql.Legible q'.model →
        Dialect.mysql.compile (.createTable q') = .ok f' → f'.sql = f.sql →
        q'.definition = q.definition := by
  have read {p : CreateTable} (hp : Sql.Legible p.model) :
      Sql.readDefinition p.fragment.sql = some p.definition := by
    rw [CreateTable.sql_fragment]
    exact Sql.readDefinition_text hp
  refine ⟨q.fragment, rfl, read h, q.sound_definition, ?_⟩
  intro q' f' h' compiled same
  cases compiled
  have both := read h'
  rw [same, read h] at both
  exact (Option.some.inj both).symm

/-- Names and default values that read like keywords, and a type with a comma. -/
def keywordModel : Model :=
  ((((Model.named "IF").add
    ((Field.plain "FOREIGN" (.decimal 10 2)).set (.defaultValue "NOT"))).add
    (((Field.plain "KEY" (.varchar 255)).set .nullable).set (.defaultValue "'"))).add
    (((Field.plain "id" .bigInt).set .primaryKey).set .autoIncrement)).add
    ((Field.plain "PRIMARY" .integer).set (.references "REFERENCES" "KEY"))

/-- Everything is told from the keywords by its place. The key of the model is not in the text. -/
theorem keywordModel_read : Sql.Legible keywordModel ∧
    ∃ f, Dialect.mysql.compile (.createTable ⟨keywordModel, false⟩) = .ok f ∧
      f.sql = "CREATE TABLE IF (FOREIGN DECIMAL(10, 2) NOT NULL DEFAULT NOT, " ++
        "KEY VARCHAR(255) DEFAULT ', id BIGINT NOT NULL AUTO_INCREMENT PRIMARY KEY, " ++
        "PRIMARY_id INT NOT NULL, FOREIGN KEY (PRIMARY_id) REFERENCES REFERENCES (KEY))" ∧
      Sql.readDefinition f.sql = some ⟨false, "IF",
        [⟨"FOREIGN", .decimal 10 2, false, some "NOT", false, false⟩,
          ⟨"KEY", .varchar 255, true, some "'", false, false⟩,
          ⟨"id", .bigInt, false, none, true, true⟩,
          ⟨"PRIMARY_id", .integer, false, none, false, false⟩],
        [⟨"PRIMARY_id", ⟨"REFERENCES", "KEY"⟩⟩]⟩ ∧
      CreateTable.definition ⟨keywordModel.withPrimaryKey "KEY", false⟩ =
        CreateTable.definition ⟨keywordModel, false⟩ := by
  have names : keywordModel.PlainNames := ⟨by decide, by decide, by decide⟩
  have legible : Sql.Legible keywordModel := ⟨names, by decide⟩
  have other : Sql.Legible (keywordModel.withPrimaryKey "KEY") :=
    ⟨⟨names.table, names.fields, names.references⟩, legible.defaults⟩
  obtain ⟨f, compiled, read, _, same⟩ :=
    CreateTable.definition_of_text (q := ⟨keywordModel, false⟩) legible
  have text : f.sql = (CreateTable.mk keywordModel false).fragment.sql :=
    congrArg Fragment.sql (Except.ok.inj compiled).symm
  refine ⟨legible, f, compiled, text.trans ?_, read, same _ _ other rfl text.symm⟩
  decide +kernel

end QueryBuilder
