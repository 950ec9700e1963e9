import QueryBuilder.Fragment

/-!
# Columns

A column is named by itself or together with its table. As text the two names are joined by a
dot, and the first dot of a text is the one that separates them (`Column.ofText`), so the
text of a read column is the text that was read (`text_ofText`).
-/

namespace QueryBuilder
set_option autoImplicit false

/-- The name of a column, with its table if that is given. -/
structure Column where
  table : Option String
  name : String
  deriving DecidableEq

namespace Column

/-- A column without a table, whatever characters its name has. -/
def unqualified (name : String) : Column := ⟨none, name⟩

/-- A column of a table. -/
def qualified (table name : String) : Column := ⟨some table, name⟩

/-- The parts before and after the first dot. -/
def splitAtDot? : List Char → Option (List Char × List Char)
  | [] => none
  | '.' :: rest => some ([], rest)
  | c :: rest => (splitAtDot? rest).map fun p => (c :: p.1, p.2)

/-- Reads `table.column`; a text without a dot is an unqualified column. -/
def ofText (s : String) : Column :=
  match splitAtDot? s.toList with
  | some (table, name) => qualified (String.ofList table) (String.ofList name)
  | none => unqualified s

/-- The text `table.column`, or the name of the column alone. -/
def text (c : Column) : String :=
  match c.table with
  | some table => table ++ "." ++ c.name
  | none => c.name

/-- The column as it stands in SQL. -/
def fragment (c : Column) : Fragment :=
  match c.table with
  | some table => .text table ++ .text "." ++ .text c.name
  | none => .text c.name

theorem append_of_splitAtDot? {s t n : List Char} (h : splitAtDot? s = some (t, n)) :
    t ++ '.' :: n = s := by
  fun_induction splitAtDot? s generalizing t n with
  | case1 => simp at h
  | case2 rest => simp at h; obtain ⟨rfl, rfl⟩ := h; rfl
  | case3 c rest _ ih =>
    obtain ⟨⟨t', n'⟩, hs, he⟩ := Option.map_eq_some_iff.1 h
    cases he
    simp [ih hs]

theorem splitAtDot?_append {t : List Char} (h : '.' ∉ t) (n : List Char) :
    splitAtDot? (t ++ '.' :: n) = some (t, n) := by
  induction t with
  | nil => rfl
  | cons c t ih =>
    rw [List.mem_cons, not_or] at h
    rw [List.cons_append, splitAtDot?, ih h.2]
    · rfl
    · exact fun e => h.1 e.symm

theorem splitAtDot?_eq_none {s : List Char} (h : '.' ∉ s) : splitAtDot? s = none := by
  induction s with
  | nil => rfl
  | cons c s ih =>
    rw [List.mem_cons, not_or] at h
    rw [splitAtDot?, ih h.2]
    · rfl
    · exact fun e => h.1 e.symm

theorem sql_fragment (c : Column) : c.fragment.sql = c.text := by
  unfold fragment text
  cases c.table with
  | some table => rfl
  | none => rfl

theorem params_fragment (c : Column) : c.fragment.params = [] := by
  unfold fragment
  cases c.table with
  | some table => rfl
  | none => rfl

theorem text_ofText (s : String) : (ofText s).text = s := by
  unfold ofText
  split
  · next t n h =>
    apply String.toList_injective
    simpa [text, qualified] using append_of_splitAtDot? h
  · rfl

end Column

end QueryBuilder
