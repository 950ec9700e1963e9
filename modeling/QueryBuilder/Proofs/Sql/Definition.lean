import QueryBuilder.Proofs.Builder
import QueryBuilder.Proofs.Join.ForeignKey
import QueryBuilder.Proofs.Sql.Word

/-!
# Statements that define tables as SQL reads them

`readTableChange` reads from the text alone which table a statement creates or drops, and which tables
the clauses of a new table reference: a clause is the keyword `REFERENCES` with a table and a list of
columns behind it. A column may be called like the keyword, but its type follows, and no list of
columns on the type. The expressions of default values are the only texts of a definition that can be
anything; those that have neither the keyword nor a comment outside of their literals are `Quiet`. Main
statements: whole statements are read as they are (`readTableChange_create`, `readTableChange_drop`).
-/

namespace QueryBuilder
set_option autoImplicit false

namespace Sql

/-- What a statement that defines tables does. -/
inductive TableChange where
  | create (table : String) (references : List String)
  | drop (table : String)
  deriving DecidableEq

/-! ## The reader -/

/-- The keyword of a clause, in whatever letters. -/
def isReferences (w : String) : Bool := w.toList.map Char.toUpper == "REFERENCES".toList

def opensList (w : String) : Bool := w.toList.head? == some '('

/-- The tables that clauses name: each stands between the keyword and a list of columns. -/
def referenced : List String → List String
  | w :: table :: list :: ws =>
    if isReferences w ∧ opensList list then table :: referenced (table :: list :: ws)
    else referenced (table :: list :: ws)
  | _ => []

/-- Whether a comment starts in a text. -/
def startsComment : List Char → Bool
  | [] => false
  | '#' :: _ => true
  | '-' :: '-' :: _ => true
  | '/' :: '*' :: _ => true
  | _ :: cs => startsComment cs

/-- A comment starts within one word, as none of the characters that start it ends a word. -/
def hasComment (ws : List String) : Bool := ws.any fun w => startsComment w.toList

/-- Reads a statement that creates or drops a table. Statements with comments are not read. -/
def readTableChange (sql : String) : Option TableChange :=
  if hasComment (words sql.toList) then none
  else
    match words sql.toList with
    | ["DROP", "TABLE", table] => some (.drop table)
    | "CREATE" :: "TABLE" :: table :: ws => some (.create table (referenced ws))
    | _ => none

/-! ## Comments -/

theorem hasComment_cons (w : String) (ws : List String) :
    hasComment (w :: ws) = (startsComment w.toList || hasComment ws) := rfl

theorem hasComment_append (ws vs : List String) :
    hasComment (ws ++ vs) = (hasComment ws || hasComment vs) := List.any_append

theorem hasComment_flatMap {α : Type} {spelled : α → List String} {as : List α}
    (h : ∀ a ∈ as, hasComment (spelled a) = false) : hasComment (as.flatMap spelled) = false := by
  rw [hasComment, List.any_flatMap, List.any_eq_false]
  intro a ha
  simpa [hasComment] using h a ha

/-- The characters that comments start with. -/
def isCommentMark (c : Char) : Bool := c == '#' || c == '-' || c == '/'

theorem startsComment_eq_false {cs : List Char} (h : cs.any isCommentMark = false) :
    startsComment cs = false := by
  fun_induction startsComment cs with
  | case1 => rfl
  | case2 => cases h
  | case3 => cases h
  | case4 => cases h
  | case5 c cs _ _ _ ih => exact ih (Bool.or_eq_false_iff.1 h).2

theorem isCommentMark_of_isWordChar {c : Char} (h : isWordChar c = true) : isCommentMark c = false := by
  cases mark : isCommentMark c with
  | false => rfl
  | true =>
    simp only [isCommentMark, Bool.or_eq_true, beq_iff_eq] at mark
    rcases mark with (rfl | rfl) | rfl <;> exact absurd h (by decide)

/-- A plain name has no comment, nor has it one with a word in front that has none. -/
theorem startsComment_append {v w : String} (hv : v.toList.any isCommentMark = false)
    (hw : Plain w) : startsComment (v ++ w).toList = false := by
  have unmarked : w.toList.any isCommentMark = false :=
    List.any_eq_false.2 fun c hc => by simp [isCommentMark_of_isWordChar (hw.2 c hc)]
  refine startsComment_eq_false ?_
  rw [String.toList_append, List.any_append, hv, unmarked]
  rfl

theorem startsComment_plain {w : String} (h : Plain w) : startsComment w.toList = false := by
  have whole := startsComment_append (v := "") rfl h
  rwa [String.empty_append] at whole

/-! ## Clauses -/

/-- The words do not start with a list of columns. -/
def NoList (ws : List String) : Prop := ∀ w ∈ ws.head?, opensList w = false

instance (ws : List String) : Decidable (NoList ws) :=
  inferInstanceAs (Decidable (∀ w ∈ ws.head?, opensList w = false))

theorem noList_cons {w : String} (h : opensList w = false) (ws : List String) :
    NoList (w :: ws) := by
  intro v hv
  cases hv
  exact h

theorem NoList.append {ws vs : List String} (hws : NoList ws) (hvs : NoList vs) :
    NoList (ws ++ vs) := by
  cases ws with
  | nil => exact hvs
  | cons w ws => exact hws

theorem noList_flatMap {α : Type} {spelled : α → List String} {as : List α}
    (h : ∀ a ∈ as, NoList (spelled a)) : NoList (as.flatMap spelled) := by
  induction as with
  | nil => exact fun _ hw => nomatch hw
  | cons a as ih =>
    rw [List.flatMap_cons]
    exact (h a List.mem_cons_self).append (ih fun b hb => h b (List.mem_cons_of_mem a hb))

theorem referenced_cons_of_noList {ws : List String} (w table : String) (h : NoList ws) :
    referenced (w :: table :: ws) = referenced (table :: ws) := by
  cases ws with
  | nil => rfl
  | cons list ws => rw [referenced, if_neg (by simp [h list rfl])]

theorem referenced_cons_of_not_isReferences {w : String} (h : isReferences w = false)
    (ws : List String) : referenced (w :: ws) = referenced ws := by
  match ws with
  | [] => rfl
  | [_] => rfl
  | table :: list :: ws => rw [referenced, if_neg (by simp [h])]

theorem referenced_append {ws : List String} (h : ∀ w ∈ ws, isReferences w = false)
    (rest : List String) : referenced (ws ++ rest) = referenced rest := by
  induction ws with
  | nil => rfl
  | cons w ws ih =>
    rw [List.cons_append, referenced_cons_of_not_isReferences (h w List.mem_cons_self)]
    exact ih fun v hv => h v (List.mem_cons_of_mem w hv)

theorem opensList_append (s : String) : opensList ("(" ++ s) = true := by
  simp [opensList]

/-- A word with a parenthesis in front of it is no keyword. -/
theorem not_isReferences_append (s : String) : isReferences ("(" ++ s) = false := by
  rw [isReferences, String.toList_append]
  rfl

theorem not_opensList_of_plain {w : String} (h : Plain w) : opensList w = false := by
  obtain ⟨c, cs, hcs, word⟩ := h.exists_cons
  have other : c ≠ '(' := by
    rintro rfl
    exact absurd word (by decide)
  simp [opensList, hcs, other]

/-- The words of the clause that makes a constraint of a foreign key. -/
def clauseWords (column : String) (k : ForeignKey) : List String :=
  ["FOREIGN", "KEY", "(" ++ column, "REFERENCES", k.table, "(" ++ k.column]

theorem spells_constraintText {column : String} {k : ForeignKey} (hcolumn : Plain column)
    (table : Plain k.table) (key : Plain k.column) :
    Spells (k.constraintText column).toList (clauseWords column k) := by
  have list := (spells_opening key).append_cons (c := ')') (by decide) spells_nil
  have reference := (spells_plain (w := "REFERENCES") (by decide)).spaced
    ((spells_plain table).spaced list)
  have columns := (spells_opening hcolumn).append_cons (c := ')') (by decide)
    (reference.cons (c := ' ') (by decide))
  have text : (k.constraintText column).toList = "FOREIGN".toList ++ ' ' :: ("KEY".toList ++
      ' ' :: (("(" ++ column).toList ++ ')' :: ' ' :: ("REFERENCES".toList ++ ' ' :: (k.table.toList ++
        ' ' :: (("(" ++ k.column).toList ++ [')']))))) := by
    unfold ForeignKey.constraintText
    simp
  have whole := (spells_plain (w := "FOREIGN") (by decide)).spaced
    ((spells_plain (w := "KEY") (by decide)).spaced columns)
  rw [text]
  exact whole

/-- The table of a clause may be called like the keyword, so what follows must not be a list. -/
theorem referenced_clauseWords (column : String) (k : ForeignKey) {rest : List String}
    (h : NoList rest) : referenced (clauseWords column k ++ rest) = k.table :: referenced rest := by
  have names : ∀ w ∈ ["FOREIGN", "KEY", "(" ++ column], isReferences w = false := by
    simp only [List.forall_mem_cons, not_isReferences_append]
    decide
  have keyword : referenced ("REFERENCES" :: k.table :: ("(" ++ k.column) :: rest) =
      k.table :: referenced (k.table :: ("(" ++ k.column) :: rest) :=
    if_pos ⟨by decide, opensList_append k.column⟩
  calc referenced (clauseWords column k ++ rest)
      = referenced ("REFERENCES" :: k.table :: ("(" ++ k.column) :: rest) :=
        referenced_append names _
    _ = k.table :: referenced rest := by
        rw [keyword, referenced_cons_of_noList _ _ h,
          referenced_cons_of_not_isReferences (not_isReferences_append _)]

end Sql

/-- All names in the definition of the model's table are plain. -/
structure Model.PlainNames (m : Model) : Prop where
  table : Plain m.table
  fields : ∀ f ∈ m.fields.toList, Plain f.name
  references : ∀ p ∈ m.foreignKeys, Plain p.2.table ∧ Plain p.2.column

theorem Model.PlainNames.columns {m : Model} (h : m.PlainNames) :
    ∀ f ∈ m.fields.toList, Plain f.column :=
  fun f hf => Field.plain_column (h.fields f hf)

/-- The clauses in the definition of the model's table. -/
def Model.clausesText (m : Model) : String :=
  String.join (m.foreignKeys.map fun p => ", " ++ p.2.constraintText p.1.column)

namespace Sql

/-- The words of the clauses of some foreign keys. -/
def clausesWords (keys : List (Field × ForeignKey)) : List String :=
  keys.flatMap fun p => clauseWords p.1.column p.2

theorem noList_clausesWords (keys : List (Field × ForeignKey)) : NoList (clausesWords keys) :=
  noList_flatMap fun _ _ => noList_cons (by decide) _

theorem referenced_clausesWords (keys : List (Field × ForeignKey)) :
    referenced (clausesWords keys) = keys.map fun p => p.2.table := by
  induction keys with
  | nil => rfl
  | cons p keys ih =>
    have split : clausesWords (p :: keys) = clauseWords p.1.column p.2 ++ clausesWords keys :=
      List.flatMap_cons
    rw [split, referenced_clauseWords _ _ (noList_clausesWords keys), ih, List.map_cons]

theorem toList_clausesText (m : Model) : m.clausesText.toList =
    m.foreignKeys.flatMap fun p => ',' :: ' ' :: (p.2.constraintText p.1.column).toList := by
  simp [Model.clausesText, List.flatMap_map]

theorem apart_clausesText (m : Model) : Apart m.clausesText.toList := by
  rw [toList_clausesText]
  exact apart_flatMap fun _ => apart_cons (by decide) _

variable {m : Model}

theorem spells_clausesText (h : m.PlainNames) :
    Spells m.clausesText.toList (clausesWords m.foreignKeys) := by
  rw [toList_clausesText]
  refine spells_flatMap (fun p hp => ?_) fun _ => apart_cons (by decide) _
  have column := h.columns p.1 (Model.mem_fields_of_mem_foreignKeys hp).1
  obtain ⟨table, key⟩ := h.references p hp
  have clause := (spells_constraintText column table key).cons (c := ' ') (by decide)
  exact clause.cons (by decide)

/-! ## Columns -/

/-- Whether the keyword stands in a word, alone or set off by characters of no name, as in
`0.REFERENCES`. -/
def mentionsReferences (w : String) : Bool :=
  (w.toList.splitOnP (!isWordChar ·)).any fun run => isReferences (String.ofList run)

theorem isWordChar_of_isReferences {w : String} (h : isReferences w = true) :
    ∀ c ∈ w.toList, isWordChar c = true := by
  intro c hc
  have upper : c.toUpper ∈ "REFERENCES".toList := by
    rw [← eq_of_beq h]
    exact List.mem_map_of_mem hc
  have word : ∀ d ∈ "REFERENCES".toList, isWordChar d = true := by
    simp only [← List.all_eq_true]
    decide
  by_cases lower : c.val ≥ 'a'.val ∧ c.val ≤ 'z'.val
  · have letter : c.isLower = true :=
      Bool.and_eq_true_iff.2 ⟨decide_eq_true lower.1, decide_eq_true lower.2⟩
    show (c.isUpper || c.isLower || c.isDigit || c == '_') = true
    simp [letter]
  · have same : c.toUpper = c := dif_neg lower
    exact word c (same ▸ upper)

theorem not_isReferences_of_not_mentionsReferences {w : String} (h : mentionsReferences w = false) :
    isReferences w = false := by
  cases keyword : isReferences w with
  | false => rfl
  | true =>
    have word := isWordChar_of_isReferences keyword
    rw [mentionsReferences, List.splitOnP_eq_singleton fun c hc => by simp [word c hc]] at h
    simp [keyword] at h

/-- A text without the keyword and without comments outside of its literals. -/
structure Quiet (s : List Char) : Prop where
  closed : Closed s
  quiet : ∀ w ∈ words s, mentionsReferences w = false
  uncommented : hasComment (words s) = false

instance (s : List Char) : Decidable (Quiet s) :=
  decidable_of_iff
    (Closed s ∧ (∀ w ∈ words s, mentionsReferences w = false) ∧ hasComment (words s) = false)
    ⟨fun h => ⟨h.1, h.2.1, h.2.2⟩, fun h => ⟨h.closed, h.quiet, h.uncommented⟩⟩

/-- A text that may stand behind the type of a column. -/
structure Trails (s : List Char) : Prop extends Quiet s where
  apart : Apart s
  noList : NoList (words s)

theorem Trails.append {s t : List Char} (hs : Trails s) (ht : Trails t) : Trails (s ++ t) := by
  have whole := Spells.append ⟨hs.closed, rfl⟩ ⟨ht.closed, rfl⟩ ht.apart
  refine ⟨⟨whole.closed, ?_, ?_⟩, hs.apart.append ht.apart, ?_⟩
  · rw [whole.words]
    exact List.forall_mem_append.2 ⟨hs.quiet, ht.quiet⟩
  · rw [whole.words, hasComment_append, hs.uncommented, ht.uncommented]
    rfl
  · rw [whole.words]
    exact hs.noList.append ht.noList

theorem trails_nil : Trails [] := by
  refine ⟨⟨rfl, ?_, rfl⟩, ?_, ?_⟩ <;> intro _ h <;> cases h

theorem trails_default {e : String} (h : Quiet e.toList) : Trails (" DEFAULT " ++ e).toList := by
  have spelled : Spells (" DEFAULT " ++ e).toList ("DEFAULT" :: words e.toList) := by
    have whole := ((spells_plain (w := "DEFAULT") (by decide)).spaced ⟨h.closed, rfl⟩).cons
      (c := ' ') (by decide)
    rw [String.toList_append]
    exact whole
  refine ⟨⟨spelled.closed, ?_, ?_⟩, ?_, ?_⟩
  · rw [spelled.words]
    exact List.forall_mem_cons.2 ⟨by decide, h.quiet⟩
  · rw [spelled.words, hasComment_cons, h.uncommented]
    rfl
  · rw [String.toList_append]
    exact apart_cons (by decide) _
  · rw [spelled.words]
    exact noList_cons (by decide) _

theorem trails_if (b : Bool) {s : String} (h : Trails s.toList) :
    Trails (if b then s else "").toList := by
  cases b with
  | true => exact h
  | false => exact trails_nil

/-- What stands behind the type of a column. -/
def optionsText (f : Field) : String :=
  (if f.nullable then "" else " NOT NULL") ++ (f.defaultValue.elim "" fun e => " DEFAULT " ++ e) ++
    (if f.autoIncrement then " AUTO_INCREMENT" else "") ++
    (if f.primaryKey then " PRIMARY KEY" else "")

theorem trails_optionsText {f : Field} (h : ∀ e ∈ f.defaultValue, Quiet e.toList) :
    Trails (optionsText f).toList := by
  have notNull : Trails " NOT NULL".toList :=
    ⟨⟨by decide, by decide, by decide⟩, by decide, by decide⟩
  have autoIncrement : Trails " AUTO_INCREMENT".toList :=
    ⟨⟨by decide, by decide, by decide⟩, by decide, by decide⟩
  have primaryKey : Trails " PRIMARY KEY".toList :=
    ⟨⟨by decide, by decide, by decide⟩, by decide, by decide⟩
  have default : Trails (f.defaultValue.elim "" fun e => " DEFAULT " ++ e).toList := by
    cases hf : f.defaultValue with
    | none => exact trails_nil
    | some e => exact trails_default (h e hf)
  have nullable : Trails (if f.nullable then "" else " NOT NULL").toList := by
    cases f.nullable with
    | true => exact trails_nil
    | false => exact notNull
  rw [optionsText, String.toList_append, String.toList_append, String.toList_append]
  exact ((nullable.append default).append (trails_if _ autoIncrement)).append
    (trails_if _ primaryKey)

/-- A numeral has no letters. -/
theorem not_isReferences_of_digits (n : Nat) :
    isReferences (String.ofList (Number.digits n)) = false := by
  obtain ⟨c, cs, hcs⟩ := List.exists_cons_of_ne_nil (plain_digits n).1
  have digit : c.isDigit = true := by
    refine Nat.isDigit_of_mem_toDigits (b := 10) (n := n) (by decide) (by decide) ?_
    have mem : c ∈ (String.ofList (Number.digits n)).toList := hcs ▸ List.mem_cons_self
    rwa [String.toList_ofList] at mem
  have same : c.toUpper = c := by
    simp only [Char.isDigit, Bool.and_eq_true, decide_eq_true_eq] at digit
    refine dif_neg fun lower => ?_
    exact absurd (UInt32.le_trans lower.1 digit.2) (by decide)
  have other : c ≠ 'R' := by
    rintro rfl
    exact absurd digit (by decide)
  simp [isReferences, hcs, same, other]

/-- The words of a type. Only a scale is a word of its own. -/
def typeWords : SqlType → List String
  | .varchar n => ["VARCHAR(" ++ .ofList (Number.digits n.toNat)]
  | .decimal p s => ["DECIMAL(" ++ .ofList (Number.digits p.toNat), .ofList (Number.digits s.toNat)]
  | t => [t.sql]

theorem spells_type (t : SqlType) : Spells t.sql.toList (typeWords t) := by
  cases t with
  | varchar n =>
    have length := plain_digits n.toNat
    have spelled := (spells_append_plain (v := "VARCHAR(") (by decide) length).append_cons
      (c := ')') (by decide) spells_nil
    rw [SqlType.sql, String.toList_append]
    exact spelled
  | decimal p s =>
    have scale := ((spells_plain (plain_digits s.toNat)).append_cons (c := ')') (by decide)
      spells_nil).cons (c := ' ') (by decide)
    have spelled := (spells_append_plain (v := "DECIMAL(") (by decide)
      (plain_digits p.toNat)).append_cons (c := ',') (by decide) scale
    have text : (SqlType.decimal p s).sql.toList =
        ("DECIMAL(" ++ String.ofList (Number.digits p.toNat)).toList ++
          ',' :: ' ' :: ((String.ofList (Number.digits s.toNat)).toList ++ [')']) := by
      simp [SqlType.sql]
    rw [text]
    exact spelled
  | _ => exact ⟨by decide, by decide⟩

theorem not_isReferences_of_mem_typeWords (t : SqlType) :
    ∀ w ∈ typeWords t, isReferences w = false := by
  cases t with
  | varchar n =>
    refine List.forall_mem_singleton.2 ?_
    rw [isReferences, String.toList_append]
    rfl
  | decimal p s =>
    refine List.forall_mem_cons.2 ⟨?_, List.forall_mem_singleton.2 (not_isReferences_of_digits _)⟩
    rw [isReferences, String.toList_append]
    rfl
  | _ => decide

/-- No list of columns follows on the first word of a type. -/
theorem exists_typeWords_eq_cons (t : SqlType) : ∃ w ws, typeWords t = w :: ws ∧ NoList ws := by
  cases t with
  | decimal p s =>
    have scale := not_opensList_of_plain (plain_digits s.toNat)
    exact ⟨_, _, rfl, noList_cons scale []⟩
  | _ => exact ⟨_, [], rfl, by decide⟩

/-- The words of the definition of a column that has `name` as its first word. -/
def columnWords (name : String) (f : Field) : List String :=
  name :: (typeWords f.type ++ words (optionsText f).toList)

theorem spells_definitionText {f : Field} (h : ∀ e ∈ f.defaultValue, Quiet e.toList) {v : String}
    (hv : v.toList.all isInner = true) (name : Plain f.column) :
    Spells (v ++ f.definitionText).toList (columnWords (v ++ f.column) f) := by
  have options := trails_optionsText h
  have typed := (spells_type f.type).append ⟨options.closed, rfl⟩ options.apart
  have whole := (spells_append_plain hv name).spaced typed
  have text : (v ++ f.definitionText).toList =
      (v ++ f.column).toList ++ ' ' :: (f.type.sql.toList ++ (optionsText f).toList) := by
    simp [Field.definitionText, optionsText]
  rw [text]
  exact whole

/-- A column names no table, whatever it is called. -/
theorem referenced_columnWords {f : Field} (h : ∀ e ∈ f.defaultValue, Quiet e.toList)
    (name : String) {rest : List String} (hrest : NoList rest) :
    referenced (columnWords name f ++ rest) = referenced rest := by
  have options := trails_optionsText h
  have quiet : ∀ w ∈ typeWords f.type ++ words (optionsText f).toList, isReferences w = false :=
    List.forall_mem_append.2 ⟨not_isReferences_of_mem_typeWords f.type, fun w hw =>
      not_isReferences_of_not_mentionsReferences (options.quiet w hw)⟩
  obtain ⟨w, ws, type, noList⟩ := exists_typeWords_eq_cons f.type
  have second : NoList (ws ++ (words (optionsText f).toList ++ rest)) :=
    noList.append (options.noList.append hrest)
  calc referenced (columnWords name f ++ rest)
      = referenced (name :: w :: (ws ++ (words (optionsText f).toList ++ rest))) := by
        rw [columnWords, type]
        simp
    _ = referenced (typeWords f.type ++ words (optionsText f).toList ++ rest) := by
        rw [referenced_cons_of_noList _ _ second, type]
        simp
    _ = referenced rest := referenced_append quiet rest

/-- Every default value of the model is an expression without the keyword and without comments. -/
def QuietDefaults (m : Model) : Prop :=
  ∀ f ∈ m.fields.toList, ∀ e ∈ f.defaultValue, Quiet e.toList

instance (m : Model) : Decidable (QuietDefaults m) :=
  inferInstanceAs (Decidable (∀ f ∈ m.fields.toList, ∀ e ∈ f.defaultValue, Quiet e.toList))

/-! ## Statements -/

section Columns

variable {fs : List Field}

/-- The columns after the first one. -/
def columnsText (fs : List Field) : List Char :=
  fs.flatMap fun f => ',' :: ' ' :: f.definitionText.toList

def columnsWords (fs : List Field) : List String := fs.flatMap fun f => columnWords f.column f

theorem apart_columnsText (fs : List Field) : Apart (columnsText fs) :=
  apart_flatMap fun _ => apart_cons (by decide) _

theorem spells_columnsText (plain : ∀ f ∈ fs, Plain f.column)
    (defaults : ∀ f ∈ fs, ∀ e ∈ f.defaultValue, Quiet e.toList) :
    Spells (columnsText fs) (columnsWords fs) := by
  refine spells_flatMap (fun f hf => ?_) fun _ => apart_cons (by decide) _
  have definition := spells_definitionText (defaults f hf) (v := "") (by decide) (plain f hf)
  rw [String.empty_append, String.empty_append] at definition
  exact (definition.cons (c := ' ') (by decide)).cons (by decide)

theorem noList_columnsWords (plain : ∀ f ∈ fs, Plain f.column) : NoList (columnsWords fs) :=
  noList_flatMap fun f hf => noList_cons (not_opensList_of_plain (plain f hf)) _

theorem referenced_columnsWords (plain : ∀ f ∈ fs, Plain f.column)
    (defaults : ∀ f ∈ fs, ∀ e ∈ f.defaultValue, Quiet e.toList) {rest : List String}
    (hrest : NoList rest) : referenced (columnsWords fs ++ rest) = referenced rest := by
  induction fs with
  | nil => rfl
  | cons f fs ih =>
    have others := fun g hg => plain g (List.mem_cons_of_mem f hg)
    have split : columnsWords (f :: fs) = columnWords f.column f ++ columnsWords fs :=
      List.flatMap_cons
    rw [split, List.append_assoc, referenced_columnWords (defaults f List.mem_cons_self) _
      ((noList_columnsWords others).append hrest)]
    exact ih others fun g hg => defaults g (List.mem_cons_of_mem f hg)

end Columns

/-- What a definition has in parentheses: the columns, then the clauses. -/
def itemsText (m : Model) : String :=
  "(" ++ listText (m.fields.toList.map Field.definitionText) ++ m.clausesText ++ ")"

/-- The first column has the parenthesis, which is a word if there is no column. -/
def itemsWords (m : Model) : List String :=
  match m.fields.toList with
  | [] => ["("]
  | f :: fs => columnWords ("(" ++ f.column) f ++ (columnsWords fs ++ clausesWords m.foreignKeys)

theorem toList_itemsText {f : Field} {fs : List Field} (hm : m.fields.toList = f :: fs) :
    (itemsText m).toList = ("(" ++ f.definitionText).toList ++
      (columnsText fs ++ (m.clausesText.toList ++ [')'])) := by
  rw [itemsText, hm, List.map_cons, listText_cons]
  simp [columnsText, List.flatMap_map]

theorem spells_itemsText (h : m.PlainNames) (defaults : QuietDefaults m) :
    Spells (itemsText m).toList (itemsWords m) := by
  have columns := h.columns
  rw [QuietDefaults] at defaults
  cases hm : m.fields.toList with
  | nil =>
    have none : m.foreignKeys = [] := by
      rw [Model.foreignKeys, hm]
      rfl
    have text : itemsText m = "()" := by
      rw [itemsText, hm, Model.clausesText, none]
      rfl
    have nothing : Spells "()".toList ["("] := ⟨by decide, by decide⟩
    rw [text, itemsWords, hm]
    exact nothing
  | cons f fs =>
    rw [hm] at columns defaults
    obtain ⟨column, others⟩ := List.forall_mem_cons.1 columns
    obtain ⟨default, otherDefaults⟩ := List.forall_mem_cons.1 defaults
    have clauses := (spells_clausesText h).append_cons (c := ')') (by decide) spells_nil
    have apart : Apart (m.clausesText.toList ++ [')']) := (apart_clausesText m).append (by decide)
    have first := spells_definitionText default (v := "(") (by decide) column
    have whole := first.append ((spells_columnsText others otherDefaults).append clauses apart)
      ((apart_columnsText fs).append apart)
    rw [List.append_nil] at whole
    rw [toList_itemsText hm, itemsWords, hm]
    exact whole

theorem referenced_itemsWords (h : m.PlainNames) (defaults : QuietDefaults m) :
    referenced (itemsWords m) = m.foreignKeys.map fun p => p.2.table := by
  have columns := h.columns
  rw [QuietDefaults] at defaults
  unfold itemsWords
  cases hm : m.fields.toList with
  | nil =>
    rw [Model.foreignKeys, hm]
    rfl
  | cons f fs =>
    rw [hm] at columns defaults
    obtain ⟨_, others⟩ := List.forall_mem_cons.1 columns
    obtain ⟨default, otherDefaults⟩ := List.forall_mem_cons.1 defaults
    have last := noList_clausesWords m.foreignKeys
    dsimp only
    rw [referenced_columnWords default _ ((noList_columnsWords others).append last),
      referenced_columnsWords others otherDefaults last, referenced_clausesWords]

theorem uncommented_typeWords (t : SqlType) : hasComment (typeWords t) = false := by
  cases t with
  | varchar n =>
    rw [typeWords, hasComment_cons, startsComment_append (by decide) (plain_digits n.toNat)]
    rfl
  | decimal p s =>
    rw [typeWords, hasComment_cons, hasComment_cons,
      startsComment_append (by decide) (plain_digits p.toNat), startsComment_plain (plain_digits s.toNat)]
    rfl
  | _ => decide

theorem uncommented_columnWords {f : Field} (h : ∀ e ∈ f.defaultValue, Quiet e.toList) {name : String}
    (hname : startsComment name.toList = false) : hasComment (columnWords name f) = false := by
  rw [columnWords, hasComment_cons, hasComment_append, hname, uncommented_typeWords,
    (trails_optionsText h).uncommented]
  rfl

theorem uncommented_clauseWords {column : String} {k : ForeignKey} (hcolumn : Plain column)
    (table : Plain k.table) (key : Plain k.column) : hasComment (clauseWords column k) = false := by
  simp only [clauseWords, hasComment_cons, startsComment_append (v := "(") (by decide) hcolumn,
    startsComment_append (v := "(") (by decide) key, startsComment_plain table]
  decide

theorem uncommented_itemsWords (h : m.PlainNames) (defaults : QuietDefaults m) :
    hasComment (itemsWords m) = false := by
  have columns := h.columns
  rw [QuietDefaults] at defaults
  unfold itemsWords
  cases hm : m.fields.toList with
  | nil => rfl
  | cons f fs =>
    rw [hm] at columns defaults
    obtain ⟨column, others⟩ := List.forall_mem_cons.1 columns
    obtain ⟨default, otherDefaults⟩ := List.forall_mem_cons.1 defaults
    have first := uncommented_columnWords default (startsComment_append (v := "(") (by decide) column)
    have rest : hasComment (columnsWords fs) = false := hasComment_flatMap fun g hg =>
      uncommented_columnWords (otherDefaults g hg) (startsComment_plain (others g hg))
    have clauses : hasComment (clausesWords m.foreignKeys) = false := hasComment_flatMap fun p hp =>
      uncommented_clauseWords (h.columns p.1 (Model.mem_fields_of_mem_foreignKeys hp).1)
        (h.references p hp).1 (h.references p hp).2
    dsimp only
    rw [hasComment_append, hasComment_append, first, rest, clauses]
    rfl

/-- **The creation of a table is read as it is.** -/
theorem readTableChange_create (h : m.PlainNames) (defaults : QuietDefaults m) :
    readTableChange (CreateTable.mk m false).text =
      some (.create m.table (m.foreignKeys.map fun p => p.2.table)) := by
  have whole := (spells_plain (w := "CREATE") (by decide)).spaced
    ((spells_plain (w := "TABLE") (by decide)).spaced
      ((spells_plain h.table).spaced (spells_itemsText h defaults)))
  have text : (CreateTable.mk m false).text.toList = "CREATE".toList ++ ' ' :: ("TABLE".toList ++
      ' ' :: (m.table.toList ++ ' ' :: (itemsText m).toList)) := by
    unfold CreateTable.text itemsText Model.clausesText
    simp
  have uncommented : hasComment ("CREATE" :: "TABLE" :: m.table :: itemsWords m) = false := by
    rw [hasComment_cons, hasComment_cons, hasComment_cons, startsComment_plain h.table,
      uncommented_itemsWords h defaults]
    decide
  have read : words (CreateTable.mk m false).text.toList =
      "CREATE" :: "TABLE" :: m.table :: itemsWords m := by
    rw [text, whole.words]
    rfl
  rw [readTableChange, read, uncommented, ← referenced_itemsWords h defaults]
  rfl

end Sql

end QueryBuilder
