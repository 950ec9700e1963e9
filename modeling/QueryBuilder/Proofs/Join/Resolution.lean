import QueryBuilder.Proofs.Join.ForeignKey

/-!
# How two models are related

`Relation.Resolves` says how a relation is found: by the first field of the left model that is a
foreign key to the table of the right one, else by the first field of the right model that is one to
the left table, else not at all. Nothing else of the fields counts, so a relation depends on the
foreign keys between the two models only, and the order of the two models makes a difference exactly
if both have such keys or none has. Main statement: `Relation.between_resolves`.
-/

namespace QueryBuilder
set_option autoImplicit false

/-- The field is a foreign key to a table of this name. -/
def Field.References (f : Field) (table : String) : Prop :=
  f.foreignKey.map ForeignKey.table = some table

instance (f : Field) (table : String) : Decidable (f.References table) :=
  inferInstanceAs (Decidable (_ = _))

namespace Model

/-- The foreign keys of a model to a table, in declaration order. -/
def references (m : Model) (table : String) : List Field :=
  m.fields.toList.filter fun f => f.References table

/-- The model has a foreign key to a table. -/
def PointsTo (m : Model) (table : String) : Prop := ∃ f ∈ m.fields.toList, f.References table

instance (m : Model) (table : String) : Decidable (m.PointsTo table) :=
  inferInstanceAs (Decidable (∃ f ∈ _, _))

/-- The first field of a model, in declaration order, that is a foreign key to a table. -/
def FirstReference (m : Model) (f : Field) (table : String) : Prop :=
  ∃ before after, m.fields.toList = before ++ f :: after ∧ f.References table ∧
    ∀ g ∈ before, ¬ g.References table

theorem FirstReference.pointsTo {m : Model} {f : Field} {table : String}
    (h : m.FirstReference f table) : m.PointsTo table := by
  obtain ⟨before, after, split, key, _⟩ := h
  exact ⟨f, split ▸ List.mem_append_right _ List.mem_cons_self, key⟩

end Model

theorem Field.column_of_references {f : Field} {table : String} (h : f.References table) :
    f.column = f.name ++ "_id" := by
  obtain ⟨k, key, _⟩ := Option.map_eq_some_iff.1 h
  rw [column, key]
  rfl

namespace Relation

/-- How two models are related. -/
inductive Resolves (left right : Model) : Except Error Relation → Prop where
  | byLeft (f : Field) : left.FirstReference f right.table → Resolves left right
      (.ok ⟨.qualified left.table (f.name ++ "_id"), .qualified right.table right.primaryKey⟩)
  | byRight (f : Field) : ¬ left.PointsTo right.table → right.FirstReference f left.table →
      Resolves left right
        (.ok ⟨.qualified right.table (f.name ++ "_id"), .qualified left.table left.primaryKey⟩)
  | unrelated : ¬ left.PointsTo right.table → ¬ right.PointsTo left.table →
      Resolves left right (.error (.noRelation left.table right.table))

/-! ## The field that decides -/

section Reference

variable {m target : Model}

/-- The target counts by the name of its table only. -/
theorem reference?_eq_find? (m target : Model) :
    reference? m target = m.fields.toList.find? fun f => f.References target.table := by
  have same : (fun f : Field => (f.foreignKey.map (f, ·)).any fun p => p.2.table = target.table) =
      fun f => decide (f.References target.table) := by
    funext f
    rw [Bool.eq_iff_iff, decide_eq_true_iff, Field.References]
    cases f.foreignKey with
    | none => simp
    | some k => simp
  rw [reference?, Model.foreignKeys, List.find?_filterMap, same]
  cases h : m.fields.toList.find? fun f => f.References target.table with
  | none => rfl
  | some f =>
    have key : f.References target.table := by simpa using List.find?_some h
    obtain ⟨k, hk, _⟩ := Option.map_eq_some_iff.1 key
    rw [Option.bind_some, hk]
    rfl

theorem reference?_eq_head? (m target : Model) :
    reference? m target = (m.references target.table).head? := by
  rw [reference?_eq_find?, Model.references, List.head?_filter]

theorem reference?_eq_some_iff {f : Field} :
    reference? m target = some f ↔ m.FirstReference f target.table := by
  rw [reference?_eq_find?, List.find?_eq_some_iff_append]
  constructor
  · rintro ⟨key, before, after, split, others⟩
    exact ⟨before, after, split, by simpa using key, by simpa using others⟩
  · rintro ⟨before, after, split, key, others⟩
    exact ⟨by simpa using key, before, after, split, by simpa using others⟩

theorem reference?_eq_none_iff : reference? m target = none ↔ ¬ m.PointsTo target.table := by
  rw [reference?_eq_find?, List.find?_eq_none]
  simp [Model.PointsTo]

theorem exists_reference_iff : (∃ f, reference? m target = some f) ↔ m.PointsTo target.table := by
  rw [← Option.ne_none_iff_exists', ne_eq, reference?_eq_none_iff, Classical.not_not]

theorem through_of_references {f : Field} (h : m.FirstReference f target.table) :
    through m f target =
      ⟨.qualified m.table (f.name ++ "_id"), .qualified target.table target.primaryKey⟩ := by
  obtain ⟨_, _, _, key, _⟩ := h
  rw [through, Field.column_of_references key]

end Reference

/-! ## The relation -/

section Between

variable {left right : Model}

theorem between_of_left {f : Field} (h : left.FirstReference f right.table) :
    between left right = .ok (through left f right) :=
  between_of_reference (reference?_eq_some_iff.2 h)

theorem between_of_right {f : Field} (none : ¬ left.PointsTo right.table)
    (h : right.FirstReference f left.table) : between left right = .ok (through right f left) := by
  rw [between, reference?_eq_none_iff.2 none, reference?_eq_some_iff.2 h]

theorem between_of_none (none : ¬ left.PointsTo right.table) (none' : ¬ right.PointsTo left.table) :
    between left right = .error (.noRelation left.table right.table) := by
  rw [between, reference?_eq_none_iff.2 none, reference?_eq_none_iff.2 none']

theorem between_of_resolves {x : Except Error Relation} (h : Resolves left right x) :
    between left right = x := by
  cases h with
  | byLeft f first => rw [between_of_left first, through_of_references first]
  | byRight f none first => rw [between_of_right none first, through_of_references first]
  | unrelated none none' => exact between_of_none none none'

/-- Every two models are in one of the three cases. -/
theorem exists_resolves (left right : Model) : ∃ x, Resolves left right x := by
  by_cases l : left.PointsTo right.table
  · obtain ⟨f, hf⟩ := exists_reference_iff.2 l
    exact ⟨_, .byLeft f (reference?_eq_some_iff.1 hf)⟩
  · by_cases r : right.PointsTo left.table
    · obtain ⟨f, hf⟩ := exists_reference_iff.2 r
      exact ⟨_, .byRight f l (reference?_eq_some_iff.1 hf)⟩
    · exact ⟨_, .unrelated l r⟩

theorem between_eq_iff_resolves {x : Except Error Relation} :
    between left right = x ↔ Resolves left right x := by
  constructor
  · rintro rfl
    obtain ⟨y, hy⟩ := exists_resolves left right
    exact between_of_resolves hy ▸ hy
  · exact between_of_resolves

theorem exists_between_iff : (∃ on, between left right = .ok on) ↔
    left.PointsTo right.table ∨ right.PointsTo left.table := by
  constructor
  · rintro ⟨on, resolved⟩
    cases between_eq_iff_resolves.1 resolved with
    | byLeft f first => exact .inl first.pointsTo
    | byRight f none first => exact .inr first.pointsTo
  · intro key
    obtain ⟨x, resolves⟩ := exists_resolves left right
    cases resolves with
    | byLeft f first => exact ⟨_, between_of_left first⟩
    | byRight f none first => exact ⟨_, between_of_right none first⟩
    | unrelated none none' => exact absurd key (not_or.2 ⟨none, none'⟩)

/-- Models of two tables have the same relation in both orders exactly if one of them has a foreign
key to the other and not the other way round: with keys both ways each order takes the key of its own
left model. -/
theorem exists_between_symm_iff (different : left.table ≠ right.table) :
    (∃ on, between left right = .ok on ∧ between right left = .ok on) ↔
      (left.PointsTo right.table ∧ ¬ right.PointsTo left.table) ∨
        (right.PointsTo left.table ∧ ¬ left.PointsTo right.table) := by
  obtain ⟨x, resolves⟩ := exists_resolves left right
  cases resolves with
  | byLeft f first =>
    by_cases back : right.PointsTo left.table
    · obtain ⟨g, hg⟩ := exists_reference_iff.2 back
      have swapped := between_of_left (reference?_eq_some_iff.1 hg)
      refine ⟨?_, fun one => ?_⟩
      · rintro ⟨on, same, same'⟩
        rw [between_of_left first] at same
        rw [swapped] at same'
        have tables : some left.table = some right.table :=
          congrArg (fun on => on.foreignKey.table) (Except.ok.inj (same.trans same'.symm))
        exact absurd (Option.some.inj tables) different
      · rcases one with ⟨_, none⟩ | ⟨_, none⟩
        · exact absurd back none
        · exact absurd first.pointsTo none
    · exact iff_of_true ⟨_, between_of_left first, between_of_right back first⟩
        (.inl ⟨first.pointsTo, back⟩)
  | byRight f none first =>
    exact iff_of_true ⟨_, between_of_right none first, between_of_left first⟩
      (.inr ⟨first.pointsTo, none⟩)
  | unrelated none none' =>
    refine ⟨?_, fun one => ?_⟩
    · rintro ⟨on, same, _⟩
      rw [between_of_none none none'] at same
      cases same
    · rcases one with ⟨key, _⟩ | ⟨key, _⟩
      · exact absurd key none
      · exact absurd key none'

end Between

/-- Two pairs of models with the same tables and primary keys and with the same foreign keys between
the two models of a pair, in the same order. Their other fields may be any. -/
structure SameLinks (left right left' right' : Model) : Prop where
  leftTable : left'.table = left.table
  rightTable : right'.table = right.table
  leftKey : left'.primaryKey = left.primaryKey
  rightKey : right'.primaryKey = right.primaryKey
  forward : left'.references right.table = left.references right.table
  backward : right'.references left.table = right.references left.table

theorem SameLinks.between_eq {left right left' right' : Model}
    (h : SameLinks left right left' right') : between left' right' = between left right := by
  have forward : reference? left' right' = reference? left right := by
    rw [reference?_eq_head?, reference?_eq_head?, h.rightTable, h.forward]
  have backward : reference? right' left' = reference? right left := by
    rw [reference?_eq_head?, reference?_eq_head?, h.leftTable, h.backward]
  simp only [between, through, forward, backward, h.leftTable, h.rightTable, h.leftKey, h.rightKey]

/-- **How two models are related.** The relation is the one that `Resolves` describes. There is one
exactly if one of the models has a foreign key to the other, it is the same in both orders exactly
if only one of them has, and no field but the foreign keys between the two makes a difference. -/
theorem between_resolves (left right : Model) :
    (∀ x, between left right = x ↔ Resolves left right x) ∧
    (left.table ≠ right.table →
      ((∃ on, between left right = .ok on) ↔
        left.PointsTo right.table ∨ right.PointsTo left.table) ∧
      ((∃ on, between left right = .ok on ∧ between right left = .ok on) ↔
        (left.PointsTo right.table ∧ ¬ right.PointsTo left.table) ∨
          (right.PointsTo left.table ∧ ¬ left.PointsTo right.table)) ∧
      ∀ f g, left.FirstReference f right.table → right.FirstReference g left.table →
        between left right = .ok
          ⟨.qualified left.table (f.name ++ "_id"), .qualified right.table right.primaryKey⟩ ∧
        between right left = .ok
          ⟨.qualified right.table (g.name ++ "_id"), .qualified left.table left.primaryKey⟩) ∧
    ∀ left' right', SameLinks left right left' right' →
      between left' right' = between left right := by
  refine ⟨fun x => between_eq_iff_resolves, fun different => ⟨exists_between_iff,
    exists_between_symm_iff different, fun f g first first' => ?_⟩, fun left' right' same =>
    same.between_eq⟩
  exact ⟨between_of_resolves (.byLeft f first), between_of_resolves (.byLeft g first')⟩

/-- Tickets of an account. The column `account_id` belongs to no foreign key, and two do. -/
def ticketModel : Model :=
  (((Model.named "ticket").add (.plain "account_id" .bigInt)).add
    (.foreign "owner" accountModel)).add (.foreign "reviewer" accountModel)

/-- Accounts that point back to a ticket. -/
def pinningModel : Model := accountModel.add (.foreign "pinned" ticketModel)

/-- Tickets that have the two foreign keys and fields of other names. -/
def bareTicketModel : Model :=
  (((Model.named "ticket").add (.foreign "owner" accountModel)).add (.plain "email" .text)).add
    (.foreign "reviewer" accountModel)

/-- The owner decides, in both orders as long as accounts do not point back, and whatever other
columns there are. -/
theorem ticket_relations :
    ticketModel.table ≠ accountModel.table ∧
    (∃ on, between ticketModel accountModel = .ok on ∧ between accountModel ticketModel = .ok on) ∧
    between ticketModel accountModel =
      .ok ⟨.qualified "ticket" "owner_id", .qualified "account" "id"⟩ ∧
    (¬ ∃ on, between ticketModel pinningModel = .ok on ∧ between pinningModel ticketModel = .ok on) ∧
    between bareTicketModel accountModel = between ticketModel accountModel := by
  have different : ticketModel.table ≠ accountModel.table := by decide
  obtain ⟨resolves, laws, others⟩ := between_resolves ticketModel accountModel
  refine ⟨different, (laws different).2.1.2 (by decide), (resolves _).2 ?_, fun same => ?_,
    others bareTicketModel accountModel ?_⟩
  · exact .byLeft (.foreign "owner" accountModel) (reference?_eq_some_iff.1 rfl)
  · have one := ((between_resolves ticketModel pinningModel).2.1 (by decide)).2.1.1 same
    revert one
    decide
  · exact ⟨rfl, rfl, rfl, rfl, by decide, by decide⟩

end Relation

end QueryBuilder
