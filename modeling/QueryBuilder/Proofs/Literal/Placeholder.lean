import QueryBuilder.Proofs.Literal.Text
import QueryBuilder.Proofs.Name

/-!
# Placeholders and parameters

`Inlines lit f s` says that the fragment `f` has one placeholder for each parameter and that
writing `lit v` in the place of each, the first for the first, gives the text `s`. Fragments and
texts are put together alike (`Inlines.append`), so the relation goes from the pieces of a
statement to the whole of it, as long as no text that is taken over as it is has a `?` of its own.
Main statement: a compiled statement inlines to `Query.literalText` (`inlines_of_compile`).
-/

namespace QueryBuilder
set_option autoImplicit false

/-! ## Filling placeholders -/

/-- The text with the `k`-th `?` replaced by the `k`-th item, all at once; what is put in is not
looked at again. -/
def fillMarks : List Char → List String → List Char
  | [], _ => []
  | '?' :: cs, t :: ts => t.toList ++ fillMarks cs ts
  | c :: cs, ts => c :: fillMarks cs ts

theorem fillMarks_append {cs ds : List Char} {ts us : List String} (h : cs.count '?' = ts.length) :
    fillMarks (cs ++ ds) (ts ++ us) = fillMarks cs ts ++ fillMarks ds us := by
  fun_induction fillMarks cs ts with
  | case1 ts =>
    have empty : ts = [] := List.length_eq_zero_iff.1 h.symm
    rw [empty]
    rfl
  | case2 cs t ts ih =>
    have count : cs.count '?' = ts.length := by simpa using h
    rw [List.cons_append, List.cons_append, fillMarks, ih count, List.append_assoc]
  | case3 c cs ts other ih =>
    have plain : c ≠ '?' := by
      rintro rfl
      cases ts with
      | nil => simp at h
      | cons t ts => exact other t ts rfl rfl
    have count : cs.count '?' = ts.length := by rwa [List.count_cons_of_ne plain] at h
    rw [List.cons_append, fillMarks, ih count, List.cons_append]
    exact fun _ _ _ e => plain e

theorem fillMarks_of_notMem {cs : List Char} (h : '?' ∉ cs) : fillMarks cs [] = cs := by
  induction cs with
  | nil => rfl
  | cons c cs ih =>
    rw [List.mem_cons, not_or] at h
    rw [fillMarks, ih h.2]
    exact fun _ _ _ e => h.1 e.symm

/-- One placeholder for each parameter, in the places where `s` has the texts of the literals. -/
structure Inlines (lit : Value → String) (f : Fragment) (s : String) : Prop where
  count : f.sql.toList.count '?' = f.params.length
  filled : fillMarks f.sql.toList (f.params.map lit) = s.toList

namespace Inlines

variable {lit : Value → String} {f g : Fragment} {s t : String}

theorem text (h : '?' ∉ s.toList) : Inlines lit (.text s) s :=
  ⟨List.count_eq_zero_of_not_mem h, fillMarks_of_notMem h⟩

theorem param (v : Value) : Inlines lit (.param v) (lit v) :=
  ⟨by simp, by simp [fillMarks]⟩

theorem append (hf : Inlines lit f s) (hg : Inlines lit g t) : Inlines lit (f ++ g) (s ++ t) := by
  constructor
  · simp [List.count_append, hf.count, hg.count]
  · have lengths : f.sql.toList.count '?' = (f.params.map lit).length := by
      rw [hf.count, List.length_map]
    simp only [Fragment.sql_append, Fragment.params_append, String.toList_append, List.map_append]
    rw [fillMarks_append lengths, hf.filled, hg.filled]

theorem empty : Inlines lit .empty "" := text (by decide)

theorem enclosed (h : Inlines lit f s) : Inlines lit f.enclosed ("(" ++ s ++ ")") :=
  ((text (by decide)).append h).append (text (by decide))

variable {α : Type} {r : α → Fragment} {w : α → String}

theorem concat {as : List α} (h : ∀ a ∈ as, Inlines lit (r a) (w a)) :
    Inlines lit (.concat (as.map r)) (String.join (as.map w)) := by
  induction as with
  | nil => exact empty
  | cons a as ih =>
    rw [List.map_cons, List.map_cons, String.join_cons, Fragment.concat]
    exact (h a List.mem_cons_self).append (ih fun b hb => h b (List.mem_cons_of_mem _ hb))

theorem commaSeparated {as : List α} (h : ∀ a ∈ as, Inlines lit (r a) (w a)) :
    Inlines lit (.commaSeparated (as.map r)) (listText (as.map w)) := by
  induction as with
  | nil => exact empty
  | cons a as ih =>
    have first := h a List.mem_cons_self
    cases as with
    | nil => simpa [Fragment.commaSeparated, listText] using first
    | cons b as =>
      have others := ih fun c hc => h c (List.mem_cons_of_mem _ hc)
      have both := (first.append (text (s := ", ") (by decide))).append others
      have text : listText ((a :: b :: as).map w) = w a ++ ", " ++ listText ((b :: as).map w) :=
        String.intercalate_cons_cons
      rw [text]
      exact both

end Inlines

/-! ## Columns, conditions and joins -/

section Pieces

variable {lit : Value → String}

theorem Column.mark_notMem_text {c : Column} (h : ∀ s ∈ c.names, '?' ∉ s.toList) :
    '?' ∉ c.text.toList := by
  obtain ⟨table, name⟩ := c
  have inName : '?' ∉ name.toList := h name (by simp [Column.names])
  cases table with
  | none => exact inName
  | some table =>
    have inTable : '?' ∉ table.toList := h table (by simp [Column.names])
    simp [Column.text, inName, inTable]

theorem Column.inlines {c : Column} (h : ∀ s ∈ c.names, '?' ∉ s.toList) :
    Inlines lit c.fragment c.text := by
  have fragment : c.fragment = .text c.text := by
    rw [← Column.sql_fragment]
    exact congrArg (Fragment.mk _) (Column.params_fragment c)
  rw [fragment]
  exact .text (Column.mark_notMem_text h)

theorem Operand.inlines {o : Operand} (h : ∀ s ∈ o.names, '?' ∉ s.toList) :
    Inlines lit o.fragment (o.literalText lit) := by
  cases o with
  | value v => exact .param v
  | column c => exact Column.inlines h

theorem Comparison.mark_notMem_symbol (op : Comparison) : '?' ∉ op.symbol.toList := by
  cases op <;> decide

theorem Clause.inlines_operand {c : Clause} (h : Inlines lit c.fragment (c.literalText lit)) :
    Inlines lit c.operandFragment
      (if c.isComposite then "(" ++ c.literalText lit ++ ")" else c.literalText lit) := by
  unfold Clause.operandFragment
  cases c.isComposite with
  | true => exact h.enclosed
  | false => exact h

theorem Clause.inlines {c : Clause} (h : ∀ s ∈ c.names, '?' ∉ s.toList) :
    Inlines lit c.fragment (c.literalText lit) := by
  induction c with
  | compare left op right =>
    have hleft : Inlines lit left.fragment left.text :=
      Column.inlines fun s hs => h s (List.mem_append_left _ hs)
    have hright : Inlines lit right.fragment (right.literalText lit) :=
      Operand.inlines fun s hs => h s (List.mem_append_right _ hs)
    exact (((hleft.append (.text (by decide))).append (.text op.mark_notMem_symbol)).append
      (.text (by decide))).append hright
  | and left right ihLeft ihRight =>
    have hleft := inlines_operand (ihLeft fun s hs => h s (List.mem_append_left _ hs))
    have hright := inlines_operand (ihRight fun s hs => h s (List.mem_append_right _ hs))
    rw [Clause.fragment_and, Clause.literalText]
    exact (hleft.append (.text (by decide))).append hright
  | or left right ihLeft ihRight =>
    have hleft := inlines_operand (ihLeft fun s hs => h s (List.mem_append_left _ hs))
    have hright := inlines_operand (ihRight fun s hs => h s (List.mem_append_right _ hs))
    rw [Clause.fragment_or, Clause.literalText]
    exact (hleft.append (.text (by decide))).append hright

theorem Join.inlines {j : Join} (h : ∀ s ∈ j.names, '?' ∉ s.toList) :
    Inlines lit j.fragment j.text := by
  have keyword : '?' ∉ j.kind.keyword.toList := by cases j.kind <;> decide
  have table : '?' ∉ j.right.table.toList := h _ List.mem_cons_self
  have foreignKey : Inlines lit j.on.foreignKey.fragment j.on.foreignKey.text :=
    Column.inlines fun s hs => h s (List.mem_cons_of_mem _ (List.mem_append_left _ hs))
  have primaryKey : Inlines lit j.on.primaryKey.fragment j.on.primaryKey.text :=
    Column.inlines fun s hs => h s (List.mem_cons_of_mem _ (List.mem_append_right _ hs))
  exact ((((((Inlines.text keyword).append (.text (by decide))).append (.text table)).append
    (.text (by decide))).append foreignKey).append (.text (by decide))).append primaryKey

theorem SortKey.inlines {k : SortKey} (h : ∀ s ∈ k.column.names, '?' ∉ s.toList) :
    Inlines lit k.fragment k.text := by
  have keyword : '?' ∉ k.direction.keyword.toList := by cases k.direction <;> decide
  exact ((Column.inlines h).append (.text (by decide))).append (.text keyword)

/-- A numeral has no `?`. -/
theorem mark_notMem_digits (n : Nat) : '?' ∉ Number.digits n := by
  intro h
  have word := isWordChar_of_mem_digits h
  revert word
  decide

theorem inlines_rowCount (n : UInt64) : Inlines lit (Select.rowCount n) (toString n.toNat) := by
  rw [Nat.toString_eq_ofList_toDigits]
  refine Inlines.text ?_
  rw [String.toList_ofList]
  exact mark_notMem_digits n.toNat

end Pieces

/-! ## Select queries -/

namespace Select

variable {lit : Value → String} {q : Select}

theorem inlines_projection (h : ∀ s ∈ q.fields, '?' ∉ s.toList) :
    Inlines lit q.projectionFragment q.projectionText := by
  unfold projectionFragment projectionText
  cases q.fields.isEmpty with
  | true => exact .text (by decide)
  | false =>
    have fields : Inlines lit (.commaSeparated (q.fields.map Fragment.text))
        (listText (q.fields.map id)) := .commaSeparated fun s hs => .text (h s hs)
    rwa [List.map_id] at fields

theorem inlines_source (table : '?' ∉ q.model.table.toList)
    (joins : ∀ j ∈ q.joins, ∀ s ∈ j.names, '?' ∉ s.toList) :
    Inlines lit q.sourceFragment q.sourceText := by
  have each : ∀ j ∈ q.joins, Inlines lit (.text " " ++ j.fragment) (" " ++ j.text) := by
    intro j hj
    exact (Inlines.text (by decide)).append (Join.inlines (joins j hj))
  exact ((Inlines.text (by decide)).append (.text table)).append (.concat each)

theorem inlines_filter (h : ∀ c ∈ q.filter, ∀ s ∈ c.names, '?' ∉ s.toList) :
    Inlines lit q.filterFragment (q.filterText lit) := by
  unfold filterFragment filterText
  cases hq : q.filter with
  | none => exact .empty
  | some c => exact (Inlines.text (by decide)).append (Clause.inlines (h c hq))

theorem inlines_order (h : ∀ k ∈ q.order, ∀ s ∈ k.column.names, '?' ∉ s.toList) :
    Inlines lit q.orderFragment q.orderText := by
  unfold orderFragment orderText
  cases q.order.isEmpty with
  | true => exact .empty
  | false =>
    refine (Inlines.text (by decide)).append (.commaSeparated fun k hk => ?_)
    exact SortKey.inlines (h k hk)

theorem inlines_limit : Inlines lit q.limitFragment q.limitText := by
  unfold limitFragment limitText
  split
  · exact (Inlines.text (by decide)).append (inlines_rowCount q.limit)
  · split
    · exact (Inlines.text (by decide)).append (inlines_rowCount unboundedLimit)
    · exact .empty

theorem inlines_offset : Inlines lit q.offsetFragment q.offsetText := by
  unfold offsetFragment offsetText
  split
  · exact (Inlines.text (by decide)).append (inlines_rowCount q.offset)
  · exact .empty

theorem inlines (h : ∀ s ∈ q.fields ++ q.names, '?' ∉ s.toList) :
    Inlines lit q.fragment (q.literalText lit) := by
  have fields := fun s hs => h s (List.mem_append_left _ hs)
  obtain ⟨table, joins, filter, order⟩ :=
    forall_names_iff.1 fun s hs => h s (List.mem_append_right _ hs)
  exact (((Inlines.text (by decide)).append (inlines_projection fields)).append
    ((inlines_source table joins).append (inlines_filter filter))).append
    (((inlines_order order).append inlines_limit).append inlines_offset)

end Select

/-! ## Queries that write rows -/

section Writes

variable {lit : Value → String}

theorem Insert.cells_eq_given (q : Insert) : q.cells = q.given := by
  unfold cells given
  congr 1
  funext c
  rw [Bool.eq_iff_iff]
  simp

theorem Update.cells_eq_given (q : Update) : q.cells = q.given := by
  unfold cells given
  congr 1
  funext c
  rw [Bool.eq_iff_iff]
  simp

theorem Insert.inlines {q : Insert} {f : Fragment} (compiled : q.compile = .ok f)
    (h : ∀ s ∈ (Query.insert q).verbatim, '?' ∉ s.toList) :
    Inlines lit f (q.literalText lit) := by
  obtain ⟨_, rfl⟩ := Insert.compile_eq_ok_iff.1 compiled
  have table : '?' ∉ q.model.table.toList := h _ List.mem_cons_self
  have unmarked : ∀ c ∈ q.given, '?' ∉ c.1.toList :=
    Row.forall_filter (P := fun s => '?' ∉ s.toList) (fun s hs => h s (List.mem_cons_of_mem _ hs)) _
  have columns : ∀ c ∈ q.given, Inlines lit (.text c.1) c.1 := fun c hc => .text (unmarked c hc)
  have values : ∀ c ∈ q.given, Inlines lit (.param c.2) (lit c.2) := fun c _ => .param c.2
  rw [cells_eq_given]
  exact ((((((Inlines.text (by decide)).append (.text table)).append (.text (by decide))).append
    (.commaSeparated columns)).append (.text (by decide))).append
    (.commaSeparated values)).append (.text (by decide))

theorem inlines_keyCondition {statement : KeyedStatement} {m : Model} {r : Row} {key : Value}
    (hkey : keyValue statement m r = .ok key) (h : '?' ∉ m.primaryKey.toList) :
    Inlines lit (keyCondition m key) (keyText lit m r) := by
  have found : (r.get? m.primaryKey).getD .null = key := by
    rw [(keyValue_eq_ok_iff.1 hkey).1]
    rfl
  rw [keyText, found]
  exact (((Inlines.text (by decide)).append (.text h)).append (.text (by decide))).append (.param key)

theorem Update.inlines {q : Update} {f : Fragment} (compiled : q.compile = .ok f)
    (h : ∀ s ∈ (Query.update q).verbatim, '?' ∉ s.toList) :
    Inlines lit f (q.literalText lit) := by
  obtain ⟨key, hkey, _, rfl⟩ := Update.compile_eq_ok_iff.1 compiled
  have table : '?' ∉ q.model.table.toList := h _ List.mem_cons_self
  have primaryKey : '?' ∉ q.model.primaryKey.toList :=
    h _ (List.mem_cons_of_mem _ List.mem_cons_self)
  have unmarked : ∀ c ∈ q.given, '?' ∉ c.1.toList :=
    Row.forall_filter (P := fun s => '?' ∉ s.toList)
      (fun s hs => h s (List.mem_cons_of_mem _ (List.mem_cons_of_mem _ hs))) _
  have changes : ∀ c ∈ q.given,
      Inlines lit (.text c.1 ++ .text " = " ++ .param c.2) (c.1 ++ " = " ++ lit c.2) := fun c hc =>
    ((Inlines.text (unmarked c hc)).append (.text (by decide))).append (.param c.2)
  rw [cells_eq_given]
  exact ((((Inlines.text (by decide)).append (.text table)).append (.text (by decide))).append
    (.commaSeparated changes)).append (inlines_keyCondition hkey primaryKey)

theorem Delete.inlines {q : Delete} {f : Fragment} (compiled : q.compile = .ok f)
    (h : ∀ s ∈ (Query.delete q).verbatim, '?' ∉ s.toList) :
    Inlines lit f (q.literalText lit) := by
  obtain ⟨key, hkey, rfl⟩ := Delete.compile_eq_ok_iff.1 compiled
  have table : '?' ∉ q.model.table.toList := h _ List.mem_cons_self
  have primaryKey : '?' ∉ q.model.primaryKey.toList :=
    h _ (List.mem_cons_of_mem _ List.mem_cons_self)
  exact ((Inlines.text (by decide)).append (.text table)).append
    (inlines_keyCondition hkey primaryKey)

end Writes

/-! ## Queries that define tables -/

section Definitions

variable {lit : Value → String}

theorem inlines_textIf {b : Bool} {s : String} (h : '?' ∉ s.toList) :
    Inlines lit (.textIf b s) (if b then s else "") := by
  cases b with
  | true => exact .text h
  | false => exact .empty

theorem SqlType.mark_notMem_sql (t : SqlType) : '?' ∉ t.sql.toList := by
  cases t with
  | varchar n => simp [sql, mark_notMem_digits]
  | decimal p s => simp [sql, mark_notMem_digits]
  | _ => decide

theorem Field.inlines_definition {f : Field} (h : ∀ s ∈ f.verbatim, '?' ∉ s.toList) :
    Inlines lit f.definition f.definitionText := by
  have column : '?' ∉ f.column.toList := h _ List.mem_cons_self
  have notNull : Inlines lit (.textIf (!f.nullable) " NOT NULL")
      (if f.nullable then "" else " NOT NULL") := by
    cases f.nullable with
    | true => exact .empty
    | false => exact .text (by decide)
  unfold definition definitionText
  refine ((((((Inlines.text column).append (.text (by decide))).append
    (.text f.type.mark_notMem_sql)).append notNull).append ?_).append
    (inlines_textIf (by decide))).append (inlines_textIf (by decide))
  -- what is left is the default value
  cases he : f.defaultValue with
  | none => exact .empty
  | some e =>
    have expression : '?' ∉ e.toList := h e (by simp [verbatim, he])
    exact (Inlines.text (by decide)).append (.text expression)

theorem ForeignKey.inlines_constraint {k : ForeignKey} {column : String}
    (h : ∀ s ∈ [column, k.table, k.column], '?' ∉ s.toList) :
    Inlines lit (k.constraint column) (k.constraintText column) := by
  have hcolumn : '?' ∉ column.toList := h _ (by simp)
  have htable : '?' ∉ k.table.toList := h _ (by simp)
  have hkey : '?' ∉ k.column.toList := h _ (by simp)
  exact ((((((Inlines.text (by decide)).append (.text hcolumn)).append (.text (by decide))).append
    (.text htable)).append (.text (by decide))).append (.text hkey)).append (.text (by decide))

theorem Model.mem_fields_of_mem_foreignKeys {m : Model} {p : Field × ForeignKey}
    (h : p ∈ m.foreignKeys) : p.1 ∈ m.fields.toList ∧ p.1.foreignKey = some p.2 := by
  obtain ⟨f, hf, hp⟩ := List.mem_filterMap.1 h
  obtain ⟨k, hk, rfl⟩ := Option.map_eq_some_iff.1 hp
  exact ⟨hf, hk⟩

theorem CreateTable.inlines {q : CreateTable}
    (h : ∀ s ∈ (Query.createTable q).verbatim, '?' ∉ s.toList) : Inlines lit q.fragment q.text := by
  have table : '?' ∉ q.model.table.toList := h _ List.mem_cons_self
  have fields : ∀ f ∈ q.model.fields.toList, ∀ s ∈ f.verbatim, '?' ∉ s.toList := fun f hf s hs =>
    h s (List.mem_cons_of_mem _ (List.mem_flatMap.2 ⟨f, hf, hs⟩))
  have definitions : ∀ f ∈ q.model.fields.toList, Inlines lit f.definition f.definitionText :=
    fun f hf => Field.inlines_definition (fields f hf)
  have constraints : ∀ p ∈ q.model.foreignKeys, Inlines lit
      (.text ", " ++ p.2.constraint p.1.column) (", " ++ p.2.constraintText p.1.column) := by
    intro p hp
    obtain ⟨hf, hk⟩ := Model.mem_fields_of_mem_foreignKeys hp
    refine (Inlines.text (by decide)).append (ForeignKey.inlines_constraint fun s hs => ?_)
    refine fields p.1 hf s ?_
    rw [List.mem_cons] at hs
    rcases hs with rfl | hs
    · exact List.mem_cons_self
    · exact List.mem_cons_of_mem _ (List.mem_append_right _ (by simpa [hk] using hs))
  exact ((((((Inlines.text (by decide)).append (inlines_textIf (by decide))).append
    (.text table)).append (.text (by decide))).append (.commaSeparated definitions)).append
    (.concat constraints)).append (.text (by decide))

theorem DropTable.inlines {q : DropTable} (h : '?' ∉ q.model.table.toList) :
    Inlines lit q.fragment q.text :=
  ((Inlines.text (by decide)).append (inlines_textIf (by decide))).append (.text h)

end Definitions

/-! ## Compiled statements -/

theorem Query.inlines {lit : Value → String} {q : Query} {f : Fragment}
    (h : ∀ s ∈ q.verbatim, '?' ∉ s.toList) (compiled : q.compile = .ok f) :
    Inlines lit f (q.literalText lit) := by
  cases q with
  | select q => cases compiled; exact Select.inlines h
  | insert q => exact Insert.inlines compiled h
  | update q => exact Update.inlines compiled h
  | delete q => exact Delete.inlines compiled h
  | createTable q => cases compiled; exact CreateTable.inlines h
  | dropTable q => cases compiled; exact DropTable.inlines (h _ List.mem_cons_self)
  | showTables => cases compiled; exact .text (by decide)

/-- **Each parameter stands at its placeholder.** A compiled statement has as many placeholders as
parameters, and with the text of each parameter in the place of its own placeholder it is the
statement with its literals in place. -/
theorem inlines_of_compile (lit : Value → String) {q : Query} {f : Fragment}
    (unmarked : ∀ s ∈ q.verbatim, '?' ∉ s.toList) (compiled : Dialect.mysql.compile q = .ok f) :
    f.sql.toList.count '?' = f.params.length ∧
      fillMarks f.sql.toList (f.params.map lit) = (q.literalText lit).toList := by
  have h : Inlines lit f (q.literalText lit) :=
    Query.inlines unmarked (Dialect.compile_eq_ok_iff.1 compiled)
  exact ⟨h.count, h.filled⟩

/-- An update with the primary key between the other columns and a `?` inside a literal. -/
def markedUpdate : Query :=
  .update ⟨.named "user", .ofCells [("name", .string "who?"), ("id", .int32 7), ("age", .null)]⟩

theorem markedUpdate_inlines :
    (∀ s ∈ markedUpdate.verbatim, '?' ∉ s.toList) ∧
    Dialect.mysql.compile markedUpdate = .ok ⟨"UPDATE user SET name = ?, age = ? WHERE id = ?",
      [.string "who?", .null, .int32 7]⟩ ∧
    fillMarks "UPDATE user SET name = ?, age = ? WHERE id = ?".toList ["who?", "NULL", "7"] =
      "UPDATE user SET name = who?, age = NULL WHERE id = 7".toList := by
  have unmarked : ∀ s ∈ markedUpdate.verbatim, '?' ∉ s.toList := by decide
  have compiled : Dialect.mysql.compile markedUpdate = .ok
      ⟨"UPDATE user SET name = ?, age = ? WHERE id = ?", [.string "who?", .null, .int32 7]⟩ := by
    rfl
  have text : (markedUpdate.literalText Value.text).toList =
      "UPDATE user SET name = who?, age = NULL WHERE id = 7".toList := by decide
  exact ⟨unmarked, compiled, (inlines_of_compile Value.text unmarked compiled).2.trans text⟩

end QueryBuilder
