import QueryBuilder.Query.Select

/-!
# SQL of select queries

The text of a select query is its projection, its core (tables, joins and filter) and its
window (order, limit and offset). The dialect has no offset without a limit, so an offset
alone comes with the greatest limit there is.
-/

namespace QueryBuilder.Select
set_option autoImplicit false

open Number

/-- What is selected. -/
def projectionFragment (q : Select) : Fragment :=
  if q.fields.isEmpty then .text "*" else Fragment.commaSeparated (q.fields.map Fragment.text)

/-- The table and the tables joined to it. -/
def sourceFragment (q : Select) : Fragment :=
  .text " FROM " ++ .text q.model.table ++
    Fragment.concat (q.joins.map fun j => .text " " ++ j.fragment)

/-- The condition, if there is one. -/
def filterFragment (q : Select) : Fragment :=
  match q.filter with
  | some c => .text " WHERE " ++ c.fragment
  | none => .empty

/-- The order, if there is one. -/
def orderFragment (q : Select) : Fragment :=
  if q.order.isEmpty then .empty
  else .text " ORDER BY " ++ Fragment.commaSeparated (q.order.map SortKey.fragment)

/-- The limit that stands for none. -/
def unboundedLimit : UInt64 := 18446744073709551615

/-- A count of rows in SQL. -/
def rowCount (n : UInt64) : Fragment := .text (String.ofList (digits n.toNat))

/-- The limit, if there is one or if there is an offset. -/
def limitFragment (q : Select) : Fragment :=
  if 0 < q.limit then .text " LIMIT " ++ rowCount q.limit
  else if 0 < q.offset then .text " LIMIT " ++ rowCount unboundedLimit
  else .empty

/-- The offset, if there is one. -/
def offsetFragment (q : Select) : Fragment :=
  if 0 < q.offset then .text " OFFSET " ++ rowCount q.offset else .empty

/-- Tables, joins and filter. -/
def coreFragment (q : Select) : Fragment := q.sourceFragment ++ q.filterFragment

/-- Order, limit and offset. -/
def windowFragment (q : Select) : Fragment :=
  q.orderFragment ++ q.limitFragment ++ q.offsetFragment

/-- The query in SQL. -/
def fragment (q : Select) : Fragment :=
  .text "SELECT " ++ q.projectionFragment ++ q.coreFragment ++ q.windowFragment

/-! ## Parameters -/

theorem params_projectionFragment (q : Select) : q.projectionFragment.params = [] := by
  unfold projectionFragment
  split
  · rfl
  · rw [Fragment.params_commaSeparated, List.flatMap_map]
    exact List.flatMap_eq_nil_iff.2 fun _ _ => rfl

theorem params_sourceFragment (q : Select) : q.sourceFragment.params = [] := by
  have joins : ∀ j ∈ q.joins, (Fragment.text " " ++ j.fragment).params = [] := fun j _ => by
    simp [Join.fragment, Column.params_fragment]
  simp only [sourceFragment, Fragment.params_append, Fragment.params_text, Fragment.params_concat,
    List.nil_append, List.flatMap_map]
  exact List.flatMap_eq_nil_iff.2 joins

theorem params_filterFragment (q : Select) :
    q.filterFragment.params = q.filter.toList.flatMap fun c => c.fragment.params := by
  unfold filterFragment
  cases q.filter with
  | none => rfl
  | some c => simp

theorem params_windowFragment (q : Select) : q.windowFragment.params = [] := by
  have order : q.orderFragment.params = [] := by
    unfold orderFragment
    split
    · rfl
    · rw [Fragment.params_append, Fragment.params_text, Fragment.params_commaSeparated,
        List.nil_append, List.flatMap_map]
      exact List.flatMap_eq_nil_iff.2 fun k _ => by simp [SortKey.fragment, Column.params_fragment]
  have limit : q.limitFragment.params = [] := by
    unfold limitFragment
    split
    · rfl
    · split <;> rfl
  have offset : q.offsetFragment.params = [] := by
    unfold offsetFragment
    split <;> rfl
  simp [windowFragment, order, limit, offset]

/-- A select query binds the literals of its filter and nothing else. -/
theorem params_fragment (q : Select) :
    q.fragment.params = q.filter.toList.flatMap fun c => c.fragment.params := by
  simp [fragment, coreFragment, params_projectionFragment, params_sourceFragment,
    params_filterFragment, params_windowFragment]

end QueryBuilder.Select
