import Mathlib.Data.List.FinRange
import Mathlib.Logic.Equiv.Defs
import QueryBuilder.Proofs.Join.Chain
import QueryBuilder.Proofs.Join.ForeignKey

/-!
# Steps that can change places

A step of building a query writes some components of it: its projection, filter, order, chain of
joins, limit or offset. `Select.Step.rewrite` is what a step makes of one component, and it is a
function of that component alone (`Draft.view_step`). So the component that a run ends with is made
by the steps that write it, in their order (`Draft.view_foldl`), and steps without a common component
can change places. Main statement: `Draft.run_laws`.
-/

namespace QueryBuilder
set_option autoImplicit false

/-! ## Drafts -/

/-- The error with which a step fails, if it does. -/
def Select.failure? (q : Select) (s : Step) : Option Error :=
  match q.apply s with
  | .ok _ => none
  | .error e => some e

/-- A query in the making, with the errors of the steps that have failed. -/
structure Draft where
  query : Select
  errors : List Error

namespace Draft

/-- The draft after a step. A step that fails leaves the query as it is, and its error is noted. -/
def step (d : Draft) (s : Select.Step) : Draft :=
  ⟨d.query.after s, d.errors ++ (d.query.failure? s).toList⟩

/-- The draft after a run of steps, from all rows of a model on. -/
def run (m : Model) (steps : List Select.Step) : Draft := steps.foldl step ⟨.all m, []⟩

section Step

variable {d : Draft} {s : Select.Step}

theorem step_of_ok {q : Select} (h : d.query.apply s = .ok q) : d.step s = ⟨q, d.errors⟩ := by
  simp only [step, Select.after, Select.failure?, h, Option.toList_none, List.append_nil]

theorem step_of_error {e : Error} (h : d.query.apply s = .error e) :
    d.step s = ⟨d.query, d.errors ++ [e]⟩ := by
  simp only [step, Select.after, Select.failure?, h, Option.toList_some]

end Step

end Draft

/-! ## Components -/

namespace Select

/-- The parts of a query that steps write. -/
inductive Component where
  | projection | filter | order | joins | limit | offset
  deriving DecidableEq

/-- What a component holds. A chain of joins starts from the model of the query, and nothing but a
join fails, so the model and the errors belong to the joins. -/
def Component.Content : Component → Type
  | projection => List String
  | filter => Option Clause
  | order => List SortKey
  | joins => Model × List Join × List Error
  | limit => UInt64
  | offset => UInt64

/-- The components that a step writes. -/
def Step.writes : Step → List Component
  | .project _ => [.projection]
  | .restrict _ => [.filter]
  | .orderBy _ => [.order]
  | .join _ _ => [.joins]
  | .limit _ => [.limit]
  | .offset _ => [.offset]
  | .paginate _ _ => [.limit, .offset]
  | .count => [.projection, .order, .limit, .offset]

/-- A condition that is added to another one, if there is one. -/
def conjoin (old : Option Clause) (c : Clause) : Option Clause :=
  some (match old with | some d => .and d c | none => c)

/-- A chain of joins with the errors of the offers that failed, after one more offer. -/
def offered (m : Model) (kind : JoinKind) :
    Model × List Join × List Error → Model × List Join × List Error
  | (first, js, errors) =>
    match Join.between (Join.lastModel first js) m kind with
    | .ok j => (first, js ++ [j], errors)
    | .error e => (first, js, errors ++ [e])

/-- What a step makes of a component. -/
def Step.rewrite (s : Step) : (c : Component) → c.Content → c.Content
  | .projection, fields =>
    match s with
    | .project fields' => fields'
    | .count => [countColumn]
    | _ => fields
  | .filter, old =>
    match s with
    | .restrict c => conjoin old c
    | _ => old
  | .order, keys =>
    match s with
    | .orderBy k => List.append keys [k]
    | .count => []
    | _ => keys
  | .joins, chain =>
    match s with
    | .join m kind => offered m kind chain
    | _ => chain
  | .limit, n =>
    match s with
    | .limit n' => n'
    | .paginate _ size => size
    | .count => (0 : UInt64)
    | _ => n
  | .offset, n =>
    match s with
    | .offset n' => n'
    | .paginate page size => UInt64.ofNatClamp ((page.toNat - 1) * size.toNat)
    | .count => (0 : UInt64)
    | _ => n

theorem Step.rewrite_of_notMem {s : Step} {c : Component} (h : c ∉ s.writes) (x : c.Content) :
    s.rewrite c x = x := by
  cases c with
  | projection =>
    cases s with
    | project fields | count => exact absurd (by simp [writes]) h
    | _ => rfl
  | filter =>
    cases s with
    | restrict c => exact absurd (by simp [writes]) h
    | _ => rfl
  | order =>
    cases s with
    | orderBy k | count => exact absurd (by simp [writes]) h
    | _ => rfl
  | joins =>
    cases s with
    | join m kind => exact absurd (by simp [writes]) h
    | _ => rfl
  | limit =>
    cases s with
    | limit n | paginate page size | count => exact absurd (by simp [writes]) h
    | _ => rfl
  | offset =>
    cases s with
    | offset n | paginate page size | count => exact absurd (by simp [writes]) h
    | _ => rfl

end Select

namespace Draft

open Select (Component Step)

/-- The content of a component. -/
def view (d : Draft) : (c : Component) → c.Content
  | .projection => d.query.fields
  | .filter => d.query.filter
  | .order => d.query.order
  | .joins => (d.query.model, d.query.joins, d.errors)
  | .limit => d.query.limit
  | .offset => d.query.offset

/-- A draft is its components. -/
theorem ext_view {d d' : Draft} (h : ∀ c, d.view c = d'.view c) : d = d' := by
  obtain ⟨⟨model, fields, filter, order, joins, limit, offset⟩, errors⟩ := d
  obtain ⟨⟨model', fields', filter', order', joins', limit', offset'⟩, errors'⟩ := d'
  cases (h .projection : fields = fields')
  cases (h .filter : filter = filter')
  cases (h .order : order = order')
  cases (h .joins : (model, joins, errors) = (model', joins', errors'))
  cases (h .limit : limit = limit')
  cases (h .offset : offset = offset')
  rfl

/-- A step looks at no other component than the one that it rewrites. -/
theorem view_step (d : Draft) (s : Step) (c : Component) :
    (d.step s).view c = s.rewrite c (d.view c) := by
  cases s with
  | join m kind =>
    have applied : d.query.apply (.join m kind) =
        (Join.between (Join.lastModel d.query.model d.query.joins) m kind).map fun j =>
          { d.query with joins := d.query.joins ++ [j] } := rfl
    have chain : (Step.join m kind).rewrite .joins (d.view .joins) =
        Select.offered m kind (d.query.model, d.query.joins, d.errors) := rfl
    cases joined : Join.between (Join.lastModel d.query.model d.query.joins) m kind with
    | ok j =>
      rw [joined] at applied
      rw [step_of_ok applied]
      cases c with
      | joins =>
        rw [chain, Select.offered, joined]
        rfl
      | _ => rfl
    | error e =>
      rw [joined] at applied
      rw [step_of_error applied]
      cases c with
      | joins =>
        rw [chain, Select.offered, joined]
        rfl
      | _ => rfl
  | project fields =>
    rw [step_of_ok (q := d.query.project fields) rfl]
    cases c <;> rfl
  | restrict condition =>
    rw [step_of_ok (q := d.query.restrict condition) rfl]
    cases c <;> rfl
  | orderBy k =>
    rw [step_of_ok (q := d.query.orderBy k) rfl]
    cases c <;> rfl
  | limit n =>
    rw [step_of_ok (q := d.query.limitTo n) rfl]
    cases c <;> rfl
  | offset n =>
    rw [step_of_ok (q := d.query.skip n) rfl]
    cases c <;> rfl
  | paginate page size =>
    rw [step_of_ok (q := d.query.paginate page size) rfl]
    cases c <;> rfl
  | count =>
    rw [step_of_ok (q := d.query.count) rfl]
    cases c <;> rfl

/-- A component is made by the steps that write it. -/
theorem view_foldl (steps : List Step) (d : Draft) (c : Component) :
    (steps.foldl step d).view c =
      (steps.filter fun s => c ∈ s.writes).foldl (fun x s => s.rewrite c x) (d.view c) := by
  induction steps generalizing d with
  | nil => rfl
  | cons s steps ih =>
    rw [List.foldl_cons, ih, view_step]
    by_cases writes : c ∈ s.writes
    · rw [List.filter_cons_of_pos (by simpa using writes), List.foldl_cons]
    · rw [List.filter_cons_of_neg (by simpa using writes), Step.rewrite_of_notMem writes]

end Draft

/-! ## Rearrangements -/

/-- The steps write a common component. -/
def Select.Step.Conflicts (s t : Step) : Prop := ∃ c ∈ s.writes, c ∈ t.writes

instance (s t : Select.Step) : Decidable (s.Conflicts t) := inferInstanceAs (Decidable (∃ c ∈ _, _))

/-- The same steps, each once more at a place of its own, where steps that write a common component
keep their order. -/
def Select.Rearranged (as bs : List Step) : Prop :=
  ∃ place : Fin as.length ≃ Fin bs.length, (∀ i, bs[place i] = as[i]) ∧
    ∀ i j, i < j → as[i].Conflicts as[j] → place i < place j

/-- Places that keep the order of some elements keep the list of these elements. -/
theorem filter_eq_of_places {α : Type} {as bs : List α} (p : α → Bool)
    (place : Fin as.length ≃ Fin bs.length) (same : ∀ i, bs[place i] = as[i])
    (order : ∀ i j, i < j → p as[i] = true → p as[j] = true → place i < place j) :
    as.filter p = bs.filter p := by
  have indices (l : List α) :
      l.filter p = ((List.finRange l.length).filter fun i => p l[i]).map fun i => l[i] := by
    have whole := congrArg (List.filter p) (List.map_getElem_finRange l).symm
    rwa [List.filter_map] at whole
  -- both lists of indices are sorted, and they have the same members
  have sorted (l : List α) : ((List.finRange l.length).filter fun i => p l[i]).Pairwise (· < ·) :=
    (List.pairwise_lt_finRange _).filter _
  have moved : (((List.finRange as.length).filter fun i => p as[i]).map place).Pairwise (· < ·) := by
    rw [List.pairwise_map, List.pairwise_filter]
    exact (List.pairwise_lt_finRange _).imp fun {i j} before hi hj => order i j before hi hj
  have members : ((List.finRange as.length).filter fun i => p as[i]).map place =
      (List.finRange bs.length).filter fun j => p bs[j] := by
    refine List.Perm.eq_of_pairwise (fun a b _ _ ab ba => absurd ba (Fin.lt_asymm ab)) moved
      (sorted bs) ((List.perm_ext_iff_of_nodup moved.nodup (sorted bs).nodup).2 fun j => ?_)
    rw [List.mem_map, List.mem_filter]
    constructor
    · rintro ⟨i, hi, rfl⟩
      rw [same i]
      exact ⟨List.mem_finRange _, (List.mem_filter.1 hi).2⟩
    · rintro ⟨_, hj⟩
      obtain ⟨i, rfl⟩ := place.surjective j
      rw [same i] at hj
      exact ⟨i, List.mem_filter.2 ⟨List.mem_finRange _, hj⟩, rfl⟩
  rw [indices as, indices bs, ← members, List.map_map]
  exact List.map_congr_left fun i _ => (same i).symm

theorem Select.Rearranged.filter_eq {as bs : List Select.Step} (h : Rearranged as bs)
    (c : Component) : (as.filter fun s => c ∈ s.writes) = bs.filter fun s => c ∈ s.writes := by
  obtain ⟨place, same, order⟩ := h
  refine filter_eq_of_places _ place same fun i j before hi hj => order i j before ⟨c, ?_, ?_⟩
  · simpa using hi
  · simpa using hj

/-! ## Conditions -/

/-- The conditions joined by `AND`, nested to the left. -/
def Clause.conjunction : List Clause → Option Clause
  | [] => none
  | c :: cs => some (cs.foldl .and c)

/-- The condition that a step adds. -/
def Select.Step.condition? : Step → Option Clause
  | .restrict c => some c
  | _ => none

theorem Select.foldl_conjoin (c : Clause) (cs : List Clause) :
    cs.foldl conjoin (some c) = some (cs.foldl .and c) := by
  induction cs generalizing c with
  | nil => rfl
  | cons d cs ih => exact ih (.and c d)

theorem Select.foldl_conjoin_none (cs : List Clause) :
    cs.foldl conjoin none = Clause.conjunction cs := by
  cases cs with
  | nil => rfl
  | cons c cs => exact foldl_conjoin c cs

theorem Select.Step.condition?_eq_none_of_mem {s : Step} {c : Component} (h : c ∈ s.writes)
    (other : c ≠ .filter) : s.condition? = none := by
  cases s with
  | restrict d => exact absurd (List.mem_singleton.1 h) other
  | _ => rfl

deriving instance DecidableEq for Select.Step

namespace Draft

open Select (Component Step)

theorem run_eq_of_filter_eq (m : Model) {as bs : List Step}
    (h : ∀ c : Component, (as.filter fun s => c ∈ s.writes) = bs.filter fun s => c ∈ s.writes) :
    run m as = run m bs :=
  ext_view fun c => by rw [run, run, view_foldl, view_foldl, h c]

theorem filter_foldl (steps : List Step) (d : Draft) :
    (steps.foldl step d).query.filter =
      (steps.filterMap Step.condition?).foldl Select.conjoin d.query.filter := by
  induction steps generalizing d with
  | nil => rfl
  | cons s steps ih =>
    have first : (d.step s).query.filter = s.rewrite .filter d.query.filter := d.view_step s .filter
    rw [List.foldl_cons, ih, first]
    cases s with
    | restrict c => rfl
    | _ => rfl

/-- The conditions of a run can be given together at its end. -/
theorem run_eq_restrict_last (m : Model) {steps : List Step} {c : Clause} {cs : List Clause}
    (conditions : steps.filterMap Step.condition? = c :: cs) :
    run m steps =
      run m (steps.filter (fun s => s.condition?.isNone) ++ [.restrict (cs.foldl .and c)]) := by
  refine ext_view fun component => ?_
  by_cases filter : component = .filter
  · subst filter
    have none : (steps.filter fun s => s.condition?.isNone).filterMap Step.condition? = [] := by
      refine List.filterMap_eq_nil_iff.2 fun s hs => ?_
      simpa using (List.mem_filter.1 hs).2
    refine ((filter_foldl steps _).trans ?_).trans (filter_foldl _ _).symm
    rw [conditions, List.filterMap_append, none]
    exact Select.foldl_conjoin c cs
  · have writers : (fun s : Step => decide (component ∈ s.writes) && s.condition?.isNone) =
        fun s => decide (component ∈ s.writes) := by
      funext s
      by_cases writes : component ∈ s.writes
      · rw [Step.condition?_eq_none_of_mem writes filter]
        exact Bool.and_true _
      · rw [decide_eq_false writes, Bool.false_and]
    have last : component ∉ (Step.restrict (cs.foldl .and c)).writes := fun h =>
      filter (List.mem_singleton.1 h)
    rw [run, run, view_foldl, view_foldl, List.filter_append, List.filter_filter, writers,
      List.filter_cons_of_neg (by simpa using last), List.filter_nil, List.append_nil]

/-- **Steps without a common component can change places.** Two runs of the same steps in which steps
that write a common component keep their order end in the same query with the same statement, and
the same joins fail. The condition of a query is the conjunction of all that were given, in their
order, whatever else was done, so they can as well be given as one. -/
theorem run_laws (m : Model) :
    (∀ as bs, Select.Rearranged as bs →
      (run m as).query = (run m bs).query ∧ (run m as).errors = (run m bs).errors ∧
      ∃ f, Dialect.mysql.compile (.select (run m as).query) = .ok f ∧
        Dialect.mysql.compile (.select (run m bs).query) = .ok f) ∧
    (∀ steps,
      (run m steps).query.filter = Clause.conjunction (steps.filterMap Step.condition?)) ∧
    ∀ steps c cs, steps.filterMap Step.condition? = c :: cs →
      ∃ f, Dialect.mysql.compile (.select (run m steps).query) = .ok f ∧
        Dialect.mysql.compile (.select (run m (steps.filter (fun s => s.condition?.isNone) ++
          [.restrict (cs.foldl .and c)])).query) = .ok f := by
  have compiles {d d' : Draft} (same : d = d') :
      ∃ f, Dialect.mysql.compile (.select d.query) = .ok f ∧
        Dialect.mysql.compile (.select d'.query) = .ok f :=
    ⟨d.query.fragment, rfl, same ▸ rfl⟩
  refine ⟨fun as bs rearranged => ?_, fun steps => ?_, fun steps c cs conditions => ?_⟩
  · have same : run m as = run m bs := run_eq_of_filter_eq m rearranged.filter_eq
    exact ⟨congrArg query same, congrArg errors same, compiles same⟩
  · rw [← Select.foldl_conjoin_none]
    exact filter_foldl steps _
  · exact compiles (run_eq_restrict_last m conditions)

/-- Messages of an account, with an offer that fails. -/
def messageSteps : List Step :=
  [.restrict (.eq (.unqualified "id") (.int32 1)), .join (.named "tag") .inner, .count,
    .join accountModel .left, .limit 5, .restrict (.eq (.qualified "account" "email") (.string "a"))]

/-- The steps in another order. The limit stays behind the count, which removes limits. -/
def messageStepsMoved : List Step :=
  [.join (.named "tag") .inner, .restrict (.eq (.unqualified "id") (.int32 1)),
    .join accountModel .left, .restrict (.eq (.qualified "account" "email") (.string "a")), .count,
    .limit 5]

/-- Where each step has gone. -/
def messagePlaces : Fin 6 ≃ Fin 6 where
  toFun i := [1, 0, 4, 2, 5, 3][i]
  invFun i := [1, 0, 3, 5, 2, 4][i]
  left_inv i := by
    revert i
    decide
  right_inv i := by
    revert i
    decide

theorem messageSteps_rearranged : Select.Rearranged messageSteps messageStepsMoved := by
  have same : ∀ i : Fin 6, messageStepsMoved[messagePlaces i] = messageSteps[i] := by decide
  have order : ∀ i j : Fin 6, i < j → messageSteps[i].Conflicts messageSteps[j] →
      messagePlaces i < messagePlaces j := by decide
  exact ⟨messagePlaces, same, order⟩

/-- One offer fails in both orders, and the conditions can be given as one. -/
theorem messageSteps_change_places :
    Select.Rearranged messageSteps messageStepsMoved ∧
    (run messageModel messageSteps).errors = [.noRelation "message" "tag"] ∧
    (run messageModel messageStepsMoved).errors = (run messageModel messageSteps).errors ∧
    (run messageModel messageStepsMoved).query = (run messageModel messageSteps).query ∧
    (run messageModel messageStepsMoved).query.filter =
      some (.and (.eq (.unqualified "id") (.int32 1))
        (.eq (.qualified "account" "email") (.string "a"))) := by
  obtain ⟨places, conditions, _⟩ := run_laws messageModel
  obtain ⟨queries, errors, _⟩ := places _ _ messageSteps_rearranged
  exact ⟨messageSteps_rearranged, rfl, errors.symm, queries.symm, conditions messageStepsMoved⟩

end Draft

end QueryBuilder
