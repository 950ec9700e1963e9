import QueryBuilder.KeyedList
import QueryBuilder.Value

/-!
# Rows

A row gives values to columns, at most one to each, in the order in which the columns were
first named.
-/

namespace QueryBuilder
set_option autoImplicit false

/-- The cells of a row: column names with their values. -/
abbrev Row := KeyedList (Prod.fst : String × Value → String)

namespace Row

/-- The row with these cells; of a repeated column the first position and the last value count. -/
def ofCells (cells : List (String × Value)) : Row := KeyedList.ofList cells

/-- The value of a column. -/
def get? (r : Row) (column : String) : Option Value := (r.find? column).map Prod.snd

/-- The value of the first column. -/
def first? (r : Row) : Option Value := r.toList.head?.map Prod.snd

/-- The same columns with the same values; the order of the columns does not count. -/
def same (r s : Row) : Bool := r.agrees (fun a b => a.2.same b.2) s

theorem get?_of_mem {r : Row} {c : String × Value} (h : c ∈ r.toList) : r.get? c.1 = some c.2 := by
  rw [get?, KeyedList.find?_of_mem h]
  rfl

theorem get?_eq_none_iff {r : Row} {column : String} : r.get? column = none ↔ column ∉ r.keys := by
  rw [get?, Option.map_eq_none_iff, KeyedList.find?_eq_none_iff]

theorem get?_eq_some_iff {r : Row} {column : String} {v : Value} :
    r.get? column = some v ↔ (column, v) ∈ r.toList := by
  constructor
  · intro h
    obtain ⟨c, hc, rfl⟩ := Option.map_eq_some_iff.1 h
    obtain ⟨mem, rfl⟩ := KeyedList.mem_of_find?_eq_some hc
    exact mem
  · intro h
    exact get?_of_mem h

theorem first?_eq_some_iff {r : Row} {v : Value} :
    r.first? = some v ↔ ∃ column cells, r.toList = (column, v) :: cells := by
  rw [first?, Option.map_eq_some_iff]
  constructor
  · rintro ⟨⟨column, w⟩, first, rfl⟩
    obtain ⟨cells, hcells⟩ := List.head?_eq_some_iff.1 first
    exact ⟨column, cells, hcells⟩
  · rintro ⟨column, cells, hcells⟩
    exact ⟨(column, v), by rw [hcells]; rfl, rfl⟩

/-- What holds of all columns holds of the columns of the cells that are picked out. -/
theorem forall_filter {r : Row} {P : String → Prop} (h : ∀ s ∈ r.keys, P s)
    (p : String × Value → Bool) : ∀ c ∈ r.toList.filter p, P c.1 := fun c hc =>
  h c.1 (List.mem_map_of_mem (List.mem_filter.1 hc).1)

end Row

end QueryBuilder
