import QueryBuilder.Proofs.Rendering.Composition

/-!
# Columns as text

The text of a column joins a table and a name by a dot, and a text is read as a column by splitting it
at its first dot. So every text is the text of the column that is read from it, and a column is read
from its text exactly if the first dot of that text is the one that was put there (`ofText_text_iff`).
What is rendered of a column or of a sort key is its text. Main statement: `Column.text_laws`.
-/

namespace QueryBuilder
set_option autoImplicit false

open Rendering

namespace Column

/-- A text is split at the first dot, so never into a part with a dot and another part. -/
theorem dot_notMem_of_splitAtDot? {s t n : List Char} (h : splitAtDot? s = some (t, n)) :
    '.' ∉ t := by
  fun_induction splitAtDot? s generalizing t n with
  | case1 => cases h
  | case2 rest =>
    cases h
    exact List.not_mem_nil
  | case3 c rest other ih =>
    obtain ⟨⟨t', n'⟩, split, same⟩ := Option.map_eq_some_iff.1 h
    cases same
    intro dot
    rcases List.mem_cons.1 dot with head | tail
    · exact other head.symm
    · exact ih split tail

theorem dot_notMem_of_splitAtDot?_eq_none {s : List Char} (h : splitAtDot? s = none) : '.' ∉ s := by
  intro dot
  obtain ⟨t, n, rfl, first⟩ := List.eq_append_cons_of_mem dot
  rw [splitAtDot?_append first] at h
  cases h

/-- The table of a column that is read has no dot, nor has its name if it has no table. -/
theorem ofText_cases (s : String) :
    (∃ table name, ofText s = qualified table name ∧ '.' ∉ table.toList) ∨
      (ofText s = unqualified s ∧ '.' ∉ s.toList) := by
  unfold ofText
  cases h : splitAtDot? s.toList with
  | none => exact .inr ⟨rfl, dot_notMem_of_splitAtDot?_eq_none h⟩
  | some parts =>
    refine .inl ⟨_, _, rfl, ?_⟩
    rw [String.toList_ofList]
    exact dot_notMem_of_splitAtDot? h

theorem ofText_qualified {table : String} (h : '.' ∉ table.toList) (name : String) :
    ofText (table ++ "." ++ name) = qualified table name := by
  have dot : (table ++ "." ++ name).toList = table.toList ++ '.' :: name.toList := by simp
  unfold ofText
  rw [dot, splitAtDot?_append h]
  simp only [String.ofList_toList]

theorem ofText_unqualified {name : String} (h : '.' ∉ name.toList) :
    ofText name = unqualified name := by
  unfold ofText
  rw [splitAtDot?_eq_none h]

/-- A column survives as text exactly if its first part has no dot. -/
theorem ofText_text_iff (c : Column) : ofText c.text = c ↔
    (∃ table, c.table = some table ∧ '.' ∉ table.toList) ∨ (c.table = none ∧ '.' ∉ c.name.toList) := by
  constructor
  · intro h
    rcases ofText_cases c.text with ⟨table, name, read, dot⟩ | ⟨read, dot⟩
    · refine .inl ⟨table, ?_, dot⟩
      rw [← h, read]
      rfl
    · have bare : c = unqualified c.text := h.symm.trans read
      refine .inr ⟨congrArg Column.table bare, ?_⟩
      rw [congrArg Column.name bare]
      exact dot
  · obtain ⟨table, name⟩ := c
    rintro (⟨t, rfl, dot⟩ | ⟨rfl, dot⟩)
    · exact ofText_qualified dot name
    · exact ofText_unqualified dot

theorem fragment_eq (c : Column) : c.fragment = .text c.text := by
  show Fragment.mk c.fragment.sql c.fragment.params = Fragment.mk c.text []
  rw [sql_fragment, params_fragment]

end Column

theorem SortKey.fragment_eq (k : SortKey) : k.fragment = .text k.text := by
  rw [fragment, k.column.fragment_eq, text]
  rfl

/-- **Columns as text.** The text of the column that is read from a text is that text. The column that
is read from the text of a column is that column exactly if its table has no dot or, when it has no
table, its name has none. What is rendered of a column or a sort key, behind whatever there is, is its
text, and no parameter. -/
theorem Column.text_laws :
    (∀ s, (ofText s).text = s) ∧
    (∀ c, ofText c.text = c ↔ (∃ table, c.table = some table ∧ '.' ∉ table.toList) ∨
      (c.table = none ∧ '.' ∉ c.name.toList)) ∧
    (∀ (c : Column) before, after before c.render = ⟨before.sql ++ c.text, before.params⟩) ∧
    ∀ (k : SortKey) before, after before k.render = ⟨before.sql ++ k.text, before.params⟩ := by
  refine ⟨text_ofText, ofText_text_iff, fun c before => ?_, fun k before => ?_⟩
  · rw [c.adds before, c.fragment_eq, Fragment.append_text]
  · rw [k.adds before, k.fragment_eq, Fragment.append_text]

end QueryBuilder
