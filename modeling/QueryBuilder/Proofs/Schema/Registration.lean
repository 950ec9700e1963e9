import QueryBuilder.Proofs.Text.ByteOrder
import QueryBuilder.Schema.Registry

/-!
# The order of registration

Models are registered in an order that nobody chooses. The schema that is collected from them does
not show it: it has the models in the byte order of their table names, and looking up a table gives
the one model that was registered for it. Main statement: `Schema.collect_laws`.
-/

namespace QueryBuilder.Schema
set_option autoImplicit false

/-- What a schema has of registered models. -/
structure Registers (s : Schema) (registered : List Model) : Prop where
  /-- Every registered model is there once, and nothing else is there. -/
  once : ∀ m, s.models.count m = if m ∈ registered then 1 else 0
  increasing : Text.Increasing Model.table s.models
  known : ∀ table m, s.model table = .ok m ↔ m ∈ registered ∧ m.table = table
  unknown : ∀ table e, s.model table = .error e ↔
    e = .unknownModel table ∧ ∀ m ∈ registered, m.table ≠ table

variable {s : Schema} {registered : List Model}

/-- A look-up gives the model of a table if no two models have the same one. -/
theorem model_eq_ok_iff (distinct : (s.models.map Model.table).Nodup) {table : String} {m : Model} :
    s.model table = .ok m ↔ m ∈ s.models ∧ m.table = table := by
  constructor
  · intro h
    unfold model at h
    split at h
    · next n found =>
      obtain rfl : n = m := by injection h
      exact ⟨List.mem_of_find?_eq_some found, by simpa using List.find?_some found⟩
    · cases h
  · rintro ⟨hm, rfl⟩
    rw [model, KeyedList.find?_eq_some_of_nodup distinct hm]

theorem model_eq_error_iff {table : String} {e : Error} :
    s.model table = .error e ↔ e = .unknownModel table ∧ ∀ m ∈ s.models, m.table ≠ table := by
  have missing : (∀ m ∈ s.models, m.table ≠ table) ↔ s.models.find? (·.table = table) = none := by
    simp
  rw [missing, model]
  cases s.models.find? (·.table = table) with
  | some m => simp
  | none => simp [eq_comm]

theorem registers_collect (distinct : (registered.map Model.table).Nodup) :
    (collect registered).Registers registered := by
  have perm : (collect registered).models.Perm registered := List.mergeSort_perm _ _
  have tables : ((collect registered).models.map Model.table).Nodup :=
    (perm.map Model.table).nodup_iff.2 distinct
  refine ⟨fun m => ?_, Text.increasing_mergeSort distinct, fun table m => ?_, fun table e => ?_⟩
  · rw [perm.count_eq]
    exact (List.Nodup.of_map Model.table distinct).count
  · rw [model_eq_ok_iff tables, perm.mem_iff]
  · simp only [model_eq_error_iff, perm.mem_iff]

/-- **A schema does not depend on the order of registration.** From models of different tables, in
whatever order they were registered, the same schema is collected. It has each of them once, in the
byte order of their tables, and finds the model of a table exactly if one was registered for it. -/
theorem collect_laws (distinct : (registered.map Model.table).Nodup) (other : List Model)
    (h : other.Perm registered) :
    collect other = collect registered ∧ (collect other).Registers registered := by
  have same : collect other = collect registered :=
    congrArg Schema.mk
      (Text.mergeSort_eq_of_perm ((h.map Model.table).nodup_iff.2 distinct) h)
  exact ⟨same, same ▸ registers_collect distinct⟩

/-- Models whose tables are not in the order of an alphabet: capitals come before other letters,
letters of ASCII before all others, and a name before those that it begins. -/
def lands : List Model := ["île", "city", "Zone", "city_ring", "zone"].map .named

/-- Tables are told apart by every character, and unknown ones are reported by their name. -/
theorem lands_collected :
    (lands.map Model.table).Nodup ∧ lands.reverse.Perm lands ∧
    (collect lands.reverse).models = ["Zone", "city", "city_ring", "zone", "île"].map .named ∧
    (collect lands.reverse).model "city" = .ok (.named "city") ∧
    (collect lands.reverse).model "ile" = .error (.unknownModel "ile") := by
  have distinct : (lands.map Model.table).Nodup := by decide
  obtain ⟨_, reversed⟩ := collect_laws distinct lands.reverse (List.reverse_perm lands)
  have listed : (["Zone", "city", "city_ring", "zone", "île"].map Model.named).Perm
      (collect lands.reverse).models := by
    refine List.Perm.trans ?_ (List.mergeSort_perm _ _).symm
    decide
  have increasing : Text.Increasing Model.table
      (["Zone", "city", "city_ring", "zone", "île"].map Model.named) := by
    simp only [Text.Increasing, Text.bytes_lt_iff]
    decide
  exact ⟨distinct, List.reverse_perm lands,
    (increasing.eq_of_perm reversed.increasing listed).symm,
    (reversed.known "city" _).2 ⟨by decide, rfl⟩, (reversed.unknown "ile" _).2 ⟨rfl, by decide⟩⟩

end QueryBuilder.Schema
