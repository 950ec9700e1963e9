import QueryBuilder.Query

/-!
# Names in statements

A statement takes over some texts as they are: names of tables and columns, projected fields,
the expressions of default values. `Query.verbatim` lists them; everything else in a statement
is a keyword, a numeral or a placeholder. A name is plain if it consists of ASCII letters, ASCII
digits and underscores. Keywords count as plain names too, so a reader of statements cannot tell
a column `AND` from the connective by its letters, only by the place where it stands.
-/

namespace QueryBuilder
set_option autoImplicit false

/-- The characters of plain names. -/
def isWordChar (c : Char) : Bool := c.isAlphanum || c == '_'

/-- A name with at least one character and with plain characters only. -/
def Plain (s : String) : Prop := s.toList ≠ [] ∧ ∀ c ∈ s.toList, isWordChar c = true

instance (s : String) : Decidable (Plain s) :=
  decidable_of_iff ((!s.toList.isEmpty && s.toList.all isWordChar) = true) (by simp [Plain])

theorem Plain.append {s t : String} (hs : Plain s) (ht : Plain t) : Plain (s ++ t) := by
  refine ⟨?_, ?_⟩
  · rw [String.toList_append]
    exact List.append_ne_nil_of_left_ne_nil hs.1 _
  · intro c hc
    rw [String.toList_append, List.mem_append] at hc
    rcases hc with hc | hc
    · exact hs.2 c hc
    · exact ht.2 c hc

/-- The first character of a plain name and what is left of it. -/
theorem Plain.exists_cons {s : String} (h : Plain s) :
    ∃ c cs, s.toList = c :: cs ∧ isWordChar c = true := by
  obtain ⟨c, cs, hcs⟩ := List.exists_cons_of_ne_nil h.1
  exact ⟨c, cs, hcs, h.2 c (hcs ▸ List.mem_cons_self)⟩

theorem isWordChar_of_mem_digits {n : Nat} {c : Char} (h : c ∈ Number.digits n) :
    isWordChar c = true := by
  have digit : c.isDigit = true := Nat.isDigit_of_mem_toDigits (by decide) (by decide) h
  simp [isWordChar, Char.isAlphanum, digit]

theorem plain_digits (n : Nat) : Plain (String.ofList (Number.digits n)) := by
  refine ⟨?_, ?_⟩
  · rw [String.toList_ofList]
    exact Nat.toDigits_ne_nil
  · intro c hc
    rw [String.toList_ofList] at hc
    exact isWordChar_of_mem_digits hc

/-- The characters of projected fields: those of names, dots and parentheses. -/
def isFieldChar (c : Char) : Bool := isWordChar c || c == '.' || c == '(' || c == ')'

/-- A field with at least one character and with characters of fields only. -/
def PlainField (s : String) : Prop := s.toList ≠ [] ∧ ∀ c ∈ s.toList, isFieldChar c = true

instance (s : String) : Decidable (PlainField s) :=
  decidable_of_iff ((!s.toList.isEmpty && s.toList.all isFieldChar) = true) (by simp [PlainField])

/-! ## The names of a query -/

/-- The table of a column, if it is given, and its name. -/
def Column.names (c : Column) : List String := c.table.toList ++ [c.name]

def Operand.names : Operand → List String
  | value _ => []
  | column c => c.names

/-- The names in a condition, from left to right. -/
def Clause.names : Clause → List String
  | compare left _ right => left.names ++ right.names
  | and left right => left.names ++ right.names
  | or left right => left.names ++ right.names

/-- The joined table and the names of the columns that it is joined on. -/
def Join.names (j : Join) : List String :=
  j.right.table :: (j.on.foreignKey.names ++ j.on.primaryKey.names)

/-- The names of tables and columns in a select query. -/
def Select.names (q : Select) : List String :=
  q.model.table :: (q.joins.flatMap Join.names ++ q.filter.toList.flatMap Clause.names ++
    q.order.flatMap fun k => k.column.names)

theorem Select.forall_names_iff {q : Select} {P : String → Prop} :
    (∀ s ∈ q.names, P s) ↔ P q.model.table ∧ (∀ j ∈ q.joins, ∀ s ∈ j.names, P s) ∧
      (∀ c ∈ q.filter, ∀ s ∈ c.names, P s) ∧ ∀ k ∈ q.order, ∀ s ∈ k.column.names, P s := by
  simp only [names, List.forall_mem_cons, List.forall_mem_append, List.forall_mem_flatMap,
    Option.mem_toList, Option.mem_def, and_assoc]

/-- The texts in the definition of a column and in its constraint. -/
def Field.verbatim (f : Field) : List String :=
  f.column :: (f.defaultValue.toList ++ f.foreignKey.toList.flatMap fun k => [k.table, k.column])

/-- The texts that a query takes over into its statement as they are. -/
def Query.verbatim : Query → List String
  | select q => q.fields ++ q.names
  | insert q => q.model.table :: q.row.keys
  | update q => q.model.table :: q.model.primaryKey :: q.row.keys
  | delete q => [q.model.table, q.model.primaryKey]
  | createTable q => q.model.table :: q.model.fields.toList.flatMap Field.verbatim
  | dropTable q => [q.model.table]
  | showTables => []

end QueryBuilder
