import QueryBuilder.Compile
import QueryBuilder.Proofs.Builder
import QueryBuilder.Proofs.Literal.Text

/-!
# Chains of joins

`Select.build m steps` is the query that a run of steps leads to from all rows of `m`; a step that
fails leaves the query as it was. Only offers of a model change the joins, and an offer is related
to the model that was joined last. So the joins of a run are those of its offers that succeed
(`Select.joins_foldl`), each of them starts where the one before it ends, and its condition names no
table that is not in the statement yet. Main statement: `Select.build_linked`.
-/

namespace QueryBuilder
set_option autoImplicit false

/-! ## Runs of steps -/

/-- The query after a step, or the query itself if the step fails. -/
def Select.after (q : Select) (s : Step) : Select :=
  match q.apply s with
  | .ok q' => q'
  | .error _ => q

/-- The query after a run of steps, from all rows of a model on. -/
def Select.build (m : Model) (steps : List Step) : Select := steps.foldl after (.all m)

/-- The model that a step offers to join. -/
def Select.Step.offer? : Step → Option (Model × JoinKind)
  | .join m kind => some (m, kind)
  | _ => none

/-- The joins that offers lead to from a model. An offer that fails is passed over. -/
def Join.chain (first : Model) : List (Model × JoinKind) → List Join
  | [] => []
  | (m, kind) :: rest =>
    match between first m kind with
    | .ok j => j :: chain m rest
    | .error _ => chain first rest

theorem Join.between_right {left right : Model} {kind : JoinKind} {j : Join}
    (h : between left right kind = .ok j) : j.right = right := by
  unfold between at h
  cases hon : Relation.between left right with
  | ok on =>
    rw [hon] at h
    cases h
    rfl
  | error e =>
    rw [hon] at h
    cases h

theorem Join.between_eq_error_iff {left right : Model} (kind : JoinKind) {e : Error} :
    between left right kind = .error e ↔ Relation.between left right = .error e := by
  unfold between
  cases Relation.between left right with
  | ok on => simp [Except.map]
  | error e' => simp [Except.map]

theorem Join.lastModel_snoc (first : Model) (js : List Join) (j : Join) :
    lastModel first (js ++ [j]) = j.right := by
  simp [lastModel]

namespace Select

theorem Reachable.after {q : Select} (h : q.Reachable) (s : Step) : (q.after s).Reachable := by
  unfold Select.after
  cases hs : q.apply s with
  | ok q' => exact h.step hs
  | error e => exact h

theorem Reachable.foldl {q : Select} (h : q.Reachable) (steps : List Step) :
    (steps.foldl Select.after q).Reachable := by
  induction steps generalizing q with
  | nil => exact h
  | cons s steps ih => exact ih (h.after s)

section Offers

variable {q : Select} {m : Model} {kind : JoinKind}

theorem after_of_between_ok {j : Join} (h : Join.between q.lastModel m kind = .ok j) :
    q.after (.join m kind) = { q with joins := q.joins ++ [j] } := by
  simp only [after, apply, join, h, Except.map]

theorem after_of_between_error {e : Error} (h : Join.between q.lastModel m kind = .error e) :
    q.after (.join m kind) = q := by
  simp only [after, apply, join, h, Except.map]

end Offers

/-- No step changes the model. -/
theorem model_after (q : Select) (s : Step) : (q.after s).model = q.model := by
  cases s with
  | join m kind =>
    cases h : Join.between q.lastModel m kind with
    | ok j => rw [after_of_between_ok h]
    | error e => rw [after_of_between_error h]
  | _ => rfl

theorem model_foldl (q : Select) (steps : List Step) : (steps.foldl after q).model = q.model := by
  induction steps generalizing q with
  | nil => rfl
  | cons s steps ih => exact (ih (q.after s)).trans (model_after q s)

/-- A run goes on with the chain of its offers and keeps the joins that are there. -/
theorem joins_foldl (q : Select) (steps : List Step) : (steps.foldl after q).joins =
    q.joins ++ Join.chain q.lastModel (steps.filterMap Step.offer?) := by
  induction steps generalizing q with
  | nil => exact (List.append_nil _).symm
  | cons s steps ih =>
    rw [List.foldl_cons, ih]
    cases s with
    | join m kind =>
      have offers : (Step.join m kind :: steps).filterMap Step.offer? =
          (m, kind) :: steps.filterMap Step.offer? := rfl
      rw [offers, Join.chain]
      cases h : Join.between q.lastModel m kind with
      | ok j =>
        have last : (q.after (.join m kind)).lastModel = m := by
          rw [after_of_between_ok h, ← Join.between_right h]
          exact Join.lastModel_snoc q.model q.joins j
        rw [last, after_of_between_ok h, List.append_assoc]
        rfl
      | error e => rw [after_of_between_error h]
    | _ => rfl

end Select

/-! ## Links of a chain -/

/-- The columns of one of the two models and of the other one are equated. -/
def Relation.Connects (on : Relation) (left right : Model) : Prop :=
  (on.foreignKey.table = some left.table ∧ on.primaryKey.table = some right.table) ∨
    on.foreignKey.table = some right.table ∧ on.primaryKey.table = some left.table

theorem Relation.connects_of_between {left right : Model} {on : Relation}
    (h : between left right = .ok on) : on.Connects left right := by
  unfold between at h
  split at h
  · cases h
    exact .inl ⟨rfl, rfl⟩
  · split at h
    · cases h
      exact .inr ⟨rfl, rfl⟩
    · cases h

/-- The tables of a model and of the models joined to it. -/
def Join.tables (first : Model) (js : List Join) : List String :=
  first.table :: js.map fun j => j.right.table

theorem Join.table_lastModel_mem (first : Model) (js : List Join) :
    (lastModel first js).table ∈ tables first js := by
  unfold lastModel
  cases h : js.getLast? with
  | none => exact List.mem_cons_self
  | some j => exact List.mem_cons_of_mem _ (List.mem_map_of_mem (List.mem_of_getLast? h))

namespace Join.Chained

variable {first : Model} {js : List Join}

/-- Each join starts from the model that the joins before it end with. -/
theorem left_eq (h : Chained first js) (i : Nat) (hi : i < js.length) :
    js[i].left = lastModel first (js.take i) := by
  induction js generalizing first i with
  | nil => cases hi
  | cons j js ih =>
    obtain ⟨hleft, _, hrest⟩ := h
    cases i with
    | zero => exact hleft
    | succ i =>
      rw [List.getElem_cons_succ, List.take_succ_cons, lastModel_cons]
      exact ih hrest i _

theorem related (h : Chained first js) : ∀ j ∈ js, Relation.between j.left j.right = .ok j.on := by
  induction js generalizing first with
  | nil =>
    intro j hj
    cases hj
  | cons k js ih =>
    obtain ⟨rfl, hrelated, hrest⟩ := h
    exact List.forall_mem_cons.2 ⟨hrelated, ih hrest⟩

/-- The left table of a join is in front of it, the right one comes with it. -/
theorem tables_mem (h : Chained first js) (i : Nat) (hi : i < js.length) :
    js[i].left.table ∈ tables first (js.take (i + 1)) ∧
      js[i].right.table ∈ tables first (js.take (i + 1)) := by
  have take : js.take (i + 1) = js.take i ++ [js[i]] := List.take_succ_eq_append_getElem hi
  constructor
  · have before := table_lastModel_mem first (js.take i)
    rw [← h.left_eq i hi, tables, List.mem_cons] at before
    rw [tables, take, List.map_append, List.mem_cons, List.mem_append]
    exact before.imp_right .inl
  · rw [tables, take, List.map_append, List.mem_cons, List.mem_append]
    exact .inr (.inr List.mem_cons_self)

end Join.Chained

/-! ## Joins in a statement -/

theorem Join.sql_fragment (j : Join) : j.fragment.sql = j.text := by
  simp [fragment, text, Column.sql_fragment]

/-- The joins of a query are a chain from its model on, and its statement has them in that order. -/
structure Select.Linked (q : Select) : Prop where
  /-- The first join starts from the model of the query. -/
  first : ∀ j ∈ q.joins.head?, j.left = q.model
  /-- Every other join starts from the model that the one before it joins. -/
  next : ∀ i (h : i + 1 < q.joins.length), q.joins[i + 1].left = q.joins[i].right
  related : ∀ j ∈ q.joins, Relation.between j.left j.right = .ok j.on
  connects : ∀ j ∈ q.joins, j.on.Connects j.left j.right
  /-- The tables of a condition are in the statement, at the latest with the join itself. -/
  inScope : ∀ i (h : i < q.joins.length),
    ∀ c ∈ [q.joins[i].on.foreignKey, q.joins[i].on.primaryKey],
      ∃ table ∈ Join.tables q.model (q.joins.take (i + 1)), c.text = table ++ "." ++ c.name
  text : ∃ f, Dialect.mysql.compile (.select q) = .ok f ∧
    f.sql = "SELECT " ++ q.projectionFragment.sql ++ " FROM " ++ q.model.table ++
      String.join (q.joins.map fun j => " " ++ j.text) ++ q.filterFragment.sql ++
      q.windowFragment.sql

theorem Column.text_of_table {c : Column} {table : String} (h : c.table = some table) :
    c.text = table ++ "." ++ c.name := by
  rw [text, h]

theorem Select.linked_of_chained {q : Select} (h : Join.Chained q.model q.joins) : q.Linked where
  first := by
    intro j hj
    obtain ⟨positive, rfl⟩ := List.getElem?_eq_some_iff.1 (List.head?_eq_getElem? ▸ hj)
    exact h.left_eq 0 positive
  next i hi := by
    rw [h.left_eq (i + 1) hi, List.take_succ_eq_append_getElem (Nat.lt_of_succ_lt hi),
      Join.lastModel_snoc]
  related := h.related
  connects j hj := Relation.connects_of_between (h.related j hj)
  inScope i hi := by
    obtain ⟨left, right⟩ := h.tables_mem i hi
    have connects := Relation.connects_of_between (h.related _ (List.getElem_mem hi))
    rw [List.forall_mem_cons, List.forall_mem_singleton]
    rcases connects with ⟨foreignKey, primaryKey⟩ | ⟨foreignKey, primaryKey⟩
    · exact ⟨⟨_, left, Column.text_of_table foreignKey⟩, _, right, Column.text_of_table primaryKey⟩
    · exact ⟨⟨_, right, Column.text_of_table foreignKey⟩, _, left, Column.text_of_table primaryKey⟩
  text := by
    refine ⟨q.fragment, rfl, ?_⟩
    simp [fragment, coreFragment, sourceFragment, Fragment.sql_concat_eq_join, Function.comp_def,
      Join.sql_fragment, String.append_assoc]

/-- **The joins of every query that can be built form a chain.** They are the joins of the offers
that succeed, each is resolved against the model joined last, and an offer fails exactly if its model
has no relation to that one, with the error that says so. -/
theorem Select.build_linked (m : Model) (steps : List Step) :
    (build m steps).model = m ∧
    (build m steps).joins = Join.chain m (steps.filterMap Step.offer?) ∧
    (build m steps).Linked ∧
    ∀ m' kind e, (build m steps).apply (.join m' kind) = .error e ↔
      Relation.between (build m steps).lastModel m' = .error e := by
  have model : (build m steps).model = m := model_foldl (.all m) steps
  have joins : (build m steps).joins = Join.chain m (steps.filterMap Step.offer?) :=
    joins_foldl (.all m) steps
  have built : (build m steps).Reachable := (Reachable.all m).foldl steps
  refine ⟨model, joins, linked_of_chained built.chained, fun m' kind e => ?_⟩
  rw [apply, join, ← Join.between_eq_error_iff kind]
  cases Join.between (build m steps).lastModel m' kind with
  | ok j => simp [Except.map]
  | error e' => simp [Except.map]

/-- A tag has no relation to a post, so the chain goes on from the post. -/
example :
    let user := Model.named "user"
    let post := (Model.named "post").add (.foreign "author" user)
    let comment := (Model.named "comment").add (.foreign "post" post)
    (Select.build comment
      [.join post .inner, .join (.named "tag") .left, .limit 5, .join user .left]).joins.map Join.text =
        ["INNER JOIN post ON comment.post_id = post.id",
          "LEFT JOIN user ON post.author_id = user.id"] := by
  decide

end QueryBuilder
