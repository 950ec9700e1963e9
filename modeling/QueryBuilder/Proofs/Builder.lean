import QueryBuilder.Proofs.Name

/-!
# Select queries that can be built

`Select.Reachable` holds of the queries that steps lead to from a query for all rows of a model.
Their joins form a chain (`Join.Chained`): each of them starts from the model of the join before
it, and its condition is the relation between its two models. So the conditions of a query take
all their names from its models.
-/

namespace QueryBuilder
set_option autoImplicit false

/-- A query that steps of building lead to. A step that fails gives no query. -/
inductive Select.Reachable : Select → Prop where
  | all (m : Model) : Reachable (.all m)
  | step {q q' : Select} {s : Step} : Reachable q → q.apply s = .ok q' → Reachable q'

/-- Joins of which the first starts from a model and every other one from the model joined before
it, each on the relation between its models. -/
def Join.Chained (first : Model) : List Join → Prop
  | [] => True
  | j :: js => j.left = first ∧ Relation.between first j.right = .ok j.on ∧ Chained j.right js

/-- The model that a chain of joins ends with. -/
def Join.lastModel (first : Model) (js : List Join) : Model :=
  (js.getLast?.map Join.right).getD first

theorem Join.lastModel_cons (first : Model) (j : Join) (js : List Join) :
    lastModel first (j :: js) = lastModel j.right js := by
  cases js with
  | nil => rfl
  | cons k js => simp [lastModel, List.getLast?_eq_some_getLast]

/-- A chain goes on from the model that it ends with. -/
theorem Join.Chained.snoc {first : Model} {js : List Join} {j : Join} (h : Chained first js)
    (left : j.left = lastModel first js)
    (related : Relation.between (lastModel first js) j.right = .ok j.on) :
    Chained first (js ++ [j]) := by
  induction js generalizing first with
  | nil => exact ⟨left, related, trivial⟩
  | cons k js ih =>
    obtain ⟨hleft, hrelated, hrest⟩ := h
    rw [lastModel_cons] at left related
    exact ⟨hleft, hrelated, ih hrest left related⟩

namespace Select

/-- What a successful join adds to the query. -/
theorem join_eq_ok_iff {q q' : Select} {m : Model} {kind : JoinKind} :
    q.join m kind = .ok q' ↔ ∃ on, Relation.between q.lastModel m = .ok on ∧
      q' = { q with joins := q.joins ++ [⟨q.lastModel, m, kind, on⟩] } := by
  unfold join Join.between
  cases h : Relation.between q.lastModel m with
  | error e => simp [Except.map]
  | ok on =>
    constructor
    · intro hq
      exact ⟨on, rfl, (Except.ok.inj hq).symm⟩
    · rintro ⟨_, hon, rfl⟩
      cases hon
      rfl

/-- Only a join changes the joins, and no step changes the model. -/
theorem apply_chained {q q' : Select} {s : Step} (h : Join.Chained q.model q.joins)
    (hs : q.apply s = .ok q') : Join.Chained q'.model q'.joins := by
  cases s with
  | join m kind =>
    obtain ⟨on, related, rfl⟩ := join_eq_ok_iff.1 hs
    exact h.snoc rfl related
  | project fields => cases hs; exact h
  | restrict c => cases hs; exact h
  | orderBy k => cases hs; exact h
  | limit n => cases hs; exact h
  | offset n => cases hs; exact h
  | paginate page size => cases hs; exact h
  | count => cases hs; exact h

theorem Reachable.chained {q : Select} (h : Reachable q) : Join.Chained q.model q.joins := by
  induction h with
  | all m => trivial
  | step _ hs ih => exact apply_chained ih hs

end Select

/-! ## Names -/

/-- The names that a model declares. -/
def Model.names (m : Model) : List String :=
  m.table :: m.primaryKey :: m.fields.toList.map Field.name

theorem Field.plain_column {f : Field} (h : Plain f.name) : Plain f.column := by
  unfold column
  cases f.foreignKey.isSome with
  | true => exact h.append (by decide)
  | false => exact h

theorem Relation.mem_of_reference? {m target : Model} {f : Field}
    (h : reference? m target = some f) : f ∈ m.fields.toList := by
  obtain ⟨⟨g, k⟩, hp, rfl⟩ := Option.map_eq_some_iff.1 h
  obtain ⟨g', hg', hk⟩ := List.mem_filterMap.1 (List.mem_of_find?_eq_some hp)
  obtain ⟨k', _, he⟩ := Option.map_eq_some_iff.1 hk
  cases he
  exact hg'

/-- The tables and names of the columns that two tables are joined on. -/
def Relation.names (on : Relation) : List String := on.foreignKey.names ++ on.primaryKey.names

theorem Relation.plain_through {m target : Model} {f : Field} (hm : ∀ s ∈ m.names, Plain s)
    (htarget : ∀ s ∈ target.names, Plain s) (hf : f ∈ m.fields.toList) :
    ∀ s ∈ (through m f target).names, Plain s := by
  have declared : f.name ∈ m.names :=
    List.mem_cons_of_mem _ (List.mem_cons_of_mem _ (List.mem_map_of_mem hf))
  have table : Plain m.table := hm _ List.mem_cons_self
  have column : Plain f.column := f.plain_column (hm _ declared)
  have targetTable : Plain target.table := htarget _ List.mem_cons_self
  have key : Plain target.primaryKey := htarget _ (List.mem_cons_of_mem _ List.mem_cons_self)
  intro s hs
  simp only [names, through, Column.names, Column.qualified, Option.toList_some, List.mem_append,
    List.mem_singleton] at hs
  rcases hs with (rfl | rfl) | (rfl | rfl)
  · exact table
  · exact column
  · exact targetTable
  · exact key

theorem Relation.plain_between {left right : Model} {on : Relation} (hl : ∀ s ∈ left.names, Plain s)
    (hr : ∀ s ∈ right.names, Plain s) (h : between left right = .ok on) :
    ∀ s ∈ on.names, Plain s := by
  unfold between at h
  split at h
  · next f hf =>
    cases h
    exact plain_through hl hr (mem_of_reference? hf)
  · split at h
    · next f hf =>
      cases h
      exact plain_through hr hl (mem_of_reference? hf)
    · cases h

/-- The models of a query, from left to right. -/
def Select.models (q : Select) : List Model := q.model :: q.joins.map Join.right

theorem Join.Chained.plain {first : Model} {js : List Join} (h : Chained first js)
    (plain : ∀ m ∈ first :: js.map Join.right, ∀ s ∈ m.names, Plain s) :
    ∀ j ∈ js, ∀ s ∈ j.names, Plain s := by
  induction js generalizing first with
  | nil =>
    intro j hj
    cases hj
  | cons k js ih =>
    obtain ⟨_, related, hrest⟩ := h
    have hfirst := plain first List.mem_cons_self
    have hright := plain k.right (List.mem_cons_of_mem _ List.mem_cons_self)
    intro j hj
    rcases List.mem_cons.1 hj with rfl | hj
    · intro s hs
      rcases List.mem_cons.1 hs with rfl | hs
      · exact hright _ List.mem_cons_self
      · exact Relation.plain_between hfirst hright related s hs
    · exact ih hrest (fun m hm => plain m (List.mem_cons_of_mem _ hm)) j hj

/-- All names of a query are plain: those that its models declare, those in its condition and in its
order, and its fields. -/
structure Select.PlainNames (q : Select) : Prop where
  models : ∀ m ∈ q.models, ∀ s ∈ m.names, Plain s
  fields : ∀ f ∈ q.fields, PlainField f
  filter : ∀ c ∈ q.filter, ∀ s ∈ c.names, Plain s
  order : ∀ k ∈ q.order, ∀ s ∈ k.column.names, Plain s

theorem Select.PlainNames.names {q : Select} (h : q.PlainNames) (built : q.Reachable) :
    ∀ s ∈ q.names, Plain s := by
  have table : Plain q.model.table := h.models q.model List.mem_cons_self _ List.mem_cons_self
  have joins := built.chained.plain h.models
  exact forall_names_iff.2 ⟨table, joins, h.filter, h.order⟩

end QueryBuilder
