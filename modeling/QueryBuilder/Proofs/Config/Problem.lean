import QueryBuilder.Proofs.Text.ByteOrder

/-!
# Runs that accept or report

A run has a condition under which it accepts, what it gives then, and problems it reports otherwise
(`Decides`). Visiting entries in the order of their keys until one is at fault reports the first
problem in this order (`decides_foldlM`).
-/

namespace QueryBuilder
set_option autoImplicit false

open Text (bytes Increasing)

variable {α ε σ : Type} {run : Except ε α} {accepted accepted' : Prop} {result result' : α}
  {problem problem' : ε → Prop}

/-- The run gives the result if the condition holds, and else reports a problem. -/
structure Decides (run : Except ε α) (accepted : Prop) (result : α) (problem : ε → Prop) : Prop where
  ok : accepted → run = .ok result
  error : ∀ e, problem e → run = .error e
  total : accepted ∨ ∃ e, problem e

namespace Decides

theorem not_problem (h : Decides run accepted result problem) (a : accepted) (e : ε) :
    ¬problem e :=
  fun p => nomatch (h.ok a).symm.trans (h.error e p)

theorem ok_iff (h : Decides run accepted result problem) (c : α) :
    run = .ok c ↔ accepted ∧ c = result := by
  constructor
  · intro given
    rcases h.total with a | ⟨e, p⟩
    · exact ⟨a, by simpa using given.symm.trans (h.ok a)⟩
    · exact nomatch given.symm.trans (h.error e p)
  · rintro ⟨a, rfl⟩
    exact h.ok a

theorem error_iff (h : Decides run accepted result problem) (e : ε) :
    run = .error e ↔ problem e := by
  refine ⟨fun reported => ?_, h.error e⟩
  rcases h.total with a | ⟨e', p⟩
  · exact nomatch reported.symm.trans (h.ok a)
  · have same : e = e' := by simpa using reported.symm.trans (h.error e' p)
    exact same ▸ p

theorem congr (h : Decides run accepted result problem) (sameCondition : accepted ↔ accepted')
    (sameResult : accepted → result = result') (sameProblem : ∀ e, problem e ↔ problem' e) :
    Decides run accepted' result' problem' where
  ok a := sameResult (sameCondition.2 a) ▸ h.ok (sameCondition.2 a)
  error e p := h.error e ((sameProblem e).2 p)
  total := h.total.imp sameCondition.1 fun ⟨e, p⟩ => ⟨e, (sameProblem e).1 p⟩

end Decides

/-- An entry has the problem, and no entry with a smaller key has any. -/
def FirstProblem (key : σ → String) (problem : σ → ε → Prop) (l : List σ) (e : ε) : Prop :=
  ∃ a ∈ l, problem a e ∧ ∀ b ∈ l, bytes (key b) < bytes (key a) → ∀ e', ¬problem b e'

variable {key : σ → String} {faulty : σ → ε → Prop} {l m : List σ} {e : ε}

theorem firstProblem_congr (same : ∀ a, a ∈ l ↔ a ∈ m) :
    FirstProblem key faulty l e ↔ FirstProblem key faulty m e := by
  simp only [FirstProblem, same]

/-- The least entry is passed over if it has no problem. -/
theorem firstProblem_cons_of_none {a : σ} (least : ∀ b ∈ l, bytes (key a) < bytes (key b))
    (none : ∀ e, ¬faulty a e) :
    FirstProblem key faulty (a :: l) e ↔ FirstProblem key faulty l e := by
  constructor
  · rintro ⟨b, mem, problem, before⟩
    rcases List.mem_cons.1 mem with rfl | mem
    · exact absurd problem (none e)
    · exact ⟨b, mem, problem, fun c hc => before c (List.mem_cons_of_mem _ hc)⟩
  · rintro ⟨b, mem, problem, before⟩
    refine ⟨b, List.mem_cons_of_mem _ mem, problem, List.forall_mem_cons.2 ⟨fun _ => none, before⟩⟩

/-- If the least entry has a problem, it is the first one. -/
theorem firstProblem_cons_of_some {a : σ} {e₀ : ε} (least : ∀ b ∈ l, bytes (key a) < bytes (key b))
    (some : faulty a e₀) : FirstProblem key faulty (a :: l) e ↔ faulty a e := by
  constructor
  · rintro ⟨b, mem, problem, before⟩
    rcases List.mem_cons.1 mem with rfl | mem
    · exact problem
    · exact absurd some (before a List.mem_cons_self (least b mem) e₀)
  · intro problem
    refine ⟨a, List.mem_cons_self, problem, List.forall_mem_cons.2 ⟨fun less => ?_, fun b mem less => ?_⟩⟩
    · exact absurd less (List.lt_irrefl _)
    · exact absurd less (List.lt_asymm (least b mem))

/-- Visiting increasing entries accepts if all are accepted and else reports the first problem. -/
theorem decides_foldlM {step : α → σ → Except ε α} {accepts : σ → Prop} {set : α → σ → α}
    (increasing : Increasing key l)
    (each : ∀ a ∈ l, ∀ c, Decides (step c a) (accepts a) (set c a) (faulty a)) (c : α) :
    Decides (l.foldlM step c) (∀ a ∈ l, accepts a) (l.foldl set c) (FirstProblem key faulty l) := by
  induction l generalizing c with
  | nil =>
    refine ⟨fun _ => rfl, fun e first => ?_, .inl fun _ mem => nomatch mem⟩
    obtain ⟨_, mem, _⟩ := first
    cases mem
  | cons a l ih =>
    obtain ⟨least, increasing⟩ := List.pairwise_cons.1 increasing
    obtain ⟨first, each⟩ := List.forall_mem_cons.1 each
    rw [List.foldlM_cons, List.foldl_cons]
    rcases (first c).total with accepted | ⟨e₀, problem⟩
    · rw [(first c).ok accepted]
      refine (ih increasing each (set c a)).congr ?_ (fun _ => rfl) fun e => ?_
      · rw [List.forall_mem_cons]
        exact ⟨fun rest => ⟨accepted, rest⟩, And.right⟩
      · exact (firstProblem_cons_of_none least ((first c).not_problem accepted)).symm
    · rw [(first c).error e₀ problem]
      refine ⟨fun all => ?_, fun e p => ?_, .inr ⟨e₀, ?_⟩⟩
      · exact absurd problem ((first c).not_problem (all a List.mem_cons_self) e₀)
      · rw [firstProblem_cons_of_some least problem] at p
        exact ((first c).error e₀ problem).symm.trans ((first c).error e p) ▸ rfl
      · exact (firstProblem_cons_of_some least problem).2 problem

end QueryBuilder
