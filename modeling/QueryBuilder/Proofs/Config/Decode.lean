import QueryBuilder.Config.Decode
import QueryBuilder.Proofs.Config.Problem
import QueryBuilder.Proofs.Toml.Distinct

/-!
# What decoding accepts and what it reports

What is accepted is said beside what it gives, and beside the problems of everything else, from the
texts up to the table of a document (`Config.decides_ofTable`). Since keys are visited in their order,
the first problem is the one under the least key, at the top and again within the table of `db`.
-/

namespace QueryBuilder
set_option autoImplicit false

open Text (Increasing)
open Toml (Value Table)

/-! ## Texts -/

namespace Toml.Value

/-- The text that a value is. -/
def text? : Value → Option String
  | .string s => some s
  | _ => none

/-- Whether a value is a text. -/
def IsText (v : Value) : Prop := v.text?.isSome

theorem isText_iff {v : Value} : v.IsText ↔ ∃ s, v = .string s := by
  cases v <;> simp [IsText, text?]

end Toml.Value

theorem decodeText_of_not_isText {v : Value} (h : ¬v.IsText) :
    decodeText v = .error (.mismatch v .text) := by
  cases v with
  | string s => exact absurd rfl h
  | _ => rfl

/-- The text under a key. -/
def Toml.textUnder (key : String) (t : Table) : Option String := (t.lookup key).bind Value.text?

theorem Toml.textUnder_cons (key : String) (entry : String × Value) (t : Table) :
    textUnder key (entry :: t) = if entry.1 = key then entry.2.text? else textUnder key t := by
  rw [textUnder, List.lookup_cons]
  by_cases same : entry.1 = key
  · simp [same]
  · have differ : (key == entry.1) = false := by simpa using Ne.symm same
    rw [differ, if_neg same]
    rfl

/-! ## The table of the key `db` -/

namespace DbConfig

/-- What the table of the key `db` may have. -/
def keys : List String := ["driver", "url", "database"]

/-- What the table gives takes the place of what there was. -/
def filled (c : DbConfig) (t : Table) : DbConfig where
  driver := (Toml.textUnder "driver" t).getD c.driver
  url := (Toml.textUnder "url" t).or c.url
  database := (Toml.textUnder "database" t).or c.database

/-- The problem of an entry of the table. -/
inductive EntryProblem (entry : String × Value) : DecodeError → Prop where
  | unknownKey (unknown : entry.1 ∉ keys) : EntryProblem entry (.unknownKey entry.1 keys)
  | noText (known : entry.1 ∈ keys) (noText : ¬entry.2.IsText) :
      EntryProblem entry (.mismatch entry.2 .text)

theorem setKey_text (c : DbConfig) {key : String} (known : key ∈ keys) (s : String) :
    c.setKey key (.string s) = .ok (c.filled [(key, .string s)]) := by
  simp only [keys, List.mem_cons, List.not_mem_nil, or_false] at known
  rcases known with rfl | rfl | rfl <;> rfl

theorem setKey_of_not_isText (c : DbConfig) {key : String} (known : key ∈ keys) {v : Value}
    (noText : ¬v.IsText) : c.setKey key v = .error (.mismatch v .text) := by
  simp only [keys, List.mem_cons, List.not_mem_nil, or_false] at known
  rcases known with rfl | rfl | rfl <;> simp only [setKey, decodeText_of_not_isText noText] <;> rfl

theorem setKey_unknown (c : DbConfig) {key : String} (unknown : key ∉ keys) (v : Value) :
    c.setKey key v = .error (.unknownKey key keys) := by
  simp only [keys, List.mem_cons, List.not_mem_nil, or_false, not_or] at unknown
  simp only [setKey, unknown, if_false]
  rfl

theorem decides_setKey (c : DbConfig) (entry : String × Value) :
    Decides (c.setKey entry.1 entry.2) (entry.1 ∈ keys ∧ entry.2.IsText) (c.filled [entry])
      (EntryProblem entry) where
  ok := by
    obtain ⟨key, v⟩ := entry
    rintro ⟨known, text⟩
    obtain ⟨s, rfl⟩ := Value.isText_iff.1 text
    exact setKey_text c known s
  error e problem := by
    cases problem with
    | unknownKey unknown => exact setKey_unknown c unknown entry.2
    | noText known noText => exact setKey_of_not_isText c known noText
  total := by
    by_cases known : entry.1 ∈ keys
    · by_cases text : entry.2.IsText
      · exact .inl ⟨known, text⟩
      · exact .inr ⟨_, .noText known text⟩
    · exact .inr ⟨_, .unknownKey known⟩

end DbConfig

/-! ## Tables with different keys -/

namespace Toml

variable {t u : Table}

theorem lookup_eq_some_iff (keys : (t.map Prod.fst).Nodup) {key : String} {v : Value} :
    t.lookup key = some v ↔ (key, v) ∈ t := by
  rw [List.lookup_eq_some_iff]
  constructor
  · rintro ⟨before, after, rfl, _⟩
    simp
  · intro mem
    obtain ⟨before, after, rfl⟩ := List.append_of_mem mem
    rw [List.map_append, List.nodup_append] at keys
    refine ⟨before, after, rfl, fun entry earlier => ?_⟩
    have differ := keys.2.2 entry.1 (List.mem_map_of_mem earlier) key (by simp)
    simpa using Ne.symm differ

theorem lookup_eq_of_perm (keys : (t.map Prod.fst).Nodup) (same : t.Perm u) (key : String) :
    t.lookup key = u.lookup key := by
  refine Option.ext fun v => ?_
  rw [lookup_eq_some_iff keys, lookup_eq_some_iff ((same.map Prod.fst).nodup_iff.1 keys),
    same.mem_iff]

theorem perm_sortedByKey (t : Table) : (sortedByKey t).Perm t := List.mergeSort_perm t _

theorem increasing_sortedByKey (keys : (t.map Prod.fst).Nodup) :
    Increasing Prod.fst (sortedByKey t) :=
  Text.increasing_mergeSort keys

theorem textUnder_sortedByKey (keys : (t.map Prod.fst).Nodup) (key : String) :
    textUnder key (sortedByKey t) = textUnder key t := by
  have keys' := ((perm_sortedByKey t).map Prod.fst).nodup_iff.2 keys
  rw [textUnder, lookup_eq_of_perm keys' (perm_sortedByKey t), textUnder]

/-- No later entry has the key of the first one. -/
theorem textUnder_cons_of_nodup {entry : String × Value}
    (keys : ((entry :: t).map Prod.fst).Nodup) (key : String) :
    textUnder key (entry :: t) = (textUnder key t).or (textUnder key [entry]) := by
  rw [textUnder_cons, textUnder_cons]
  by_cases same : entry.1 = key
  · have none : t.lookup key = none := by
      rw [List.lookup_eq_none_iff]
      intro later mem
      rw [List.map_cons, List.nodup_cons, same] at keys
      have differ : key ≠ later.1 := fun eq => keys.1 (eq ▸ List.mem_map_of_mem mem)
      simpa using differ
    rw [if_pos same, if_pos same, textUnder, none]
    rfl
  · rw [if_neg same, if_neg same]
    exact (Option.or_none).symm

end Toml

namespace DbConfig

theorem filled_cons (c : DbConfig) {entry : String × Value} {t : Table}
    (keys : ((entry :: t).map Prod.fst).Nodup) :
    c.filled (entry :: t) = (c.filled [entry]).filled t := by
  simp only [filled, Toml.textUnder_cons_of_nodup keys, Option.or_assoc, Option.getD_or]

theorem foldl_filled (c : DbConfig) {t : Table} (keys : (t.map Prod.fst).Nodup) :
    t.foldl (fun c entry => c.filled [entry]) c = c.filled t := by
  induction t generalizing c with
  | nil => rfl
  | cons entry t ih =>
    rw [List.foldl_cons, ih _ (List.nodup_cons.1 keys).2, filled_cons c keys]

theorem filled_sortedByKey (c : DbConfig) {t : Table} (keys : (t.map Prod.fst).Nodup) :
    c.filled (Toml.sortedByKey t) = c.filled t := by
  simp only [filled, Toml.textUnder_sortedByKey keys]

theorem decides_ofTable {t : Table} (distinct : (t.map Prod.fst).Nodup) :
    Decides (ofTable t) (∀ entry ∈ t, entry.1 ∈ keys ∧ entry.2.IsText) (standard.filled t)
      (FirstProblem Prod.fst EntryProblem t) := by
  have same (entry) : entry ∈ Toml.sortedByKey t ↔ entry ∈ t := (Toml.perm_sortedByKey t).mem_iff
  refine (decides_foldlM (Toml.increasing_sortedByKey distinct)
    (fun entry _ c => decides_setKey c entry) standard).congr (forall_congr' fun entry => ?_)
    (fun _ => ?_) fun e => firstProblem_congr same
  · rw [same]
  · rw [foldl_filled standard (((Toml.perm_sortedByKey t).map Prod.fst).nodup_iff.2 distinct),
      filled_sortedByKey standard distinct]

/-! ## The value of the key `db` -/

/-- What may stand under the key `db`: a table of texts with the right keys, or an array that begins
with three texts. -/
def Accepts : Value → Prop
  | .table t => ∀ entry ∈ t, entry.1 ∈ keys ∧ entry.2.IsText
  | .array items => 3 ≤ items.length ∧ ∀ v ∈ items.take 3, v.IsText
  | _ => False

/-- What an accepted value of the key `db` gives. -/
def given : Value → DbConfig
  | .table t => standard.filled t
  | .array (.string driver :: .string url :: .string database :: _) =>
    ⟨driver, some url, some database⟩
  | _ => standard

/-- The problem of a value of the key `db`: the first one of a table in the order of its keys, the
first one of an array by position. -/
inductive ValueProblem : Value → DecodeError → Prop where
  | table {t : Table} {e : DecodeError} (first : FirstProblem Prod.fst EntryProblem t e) :
      ValueProblem (.table t) e
  | noText {before after : List Value} {v : Value} (few : before.length < 3)
      (texts : ∀ w ∈ before, w.IsText) (noText : ¬v.IsText) :
      ValueProblem (.array (before ++ v :: after)) (.mismatch v .text)
  | tooShort {items : List Value} (few : items.length < 3) (texts : ∀ v ∈ items, v.IsText) :
      ValueProblem (.array items) (.tooShort (max 1 items.length))
  /-- A date or a time is read as a table with a key of its own. -/
  | moment (text : String) : ValueProblem (.moment text) (.unknownKey Value.momentKey keys)
  | scalar {v : Value} (scalar : v.isScalar) (noMoment : ∀ text, v ≠ .moment text) :
      ValueProblem v (.mismatch v .database)

/-- An array begins with so many texts, or has something else before, or ends before. -/
theorem texts_cases (n : Nat) (items : List Value) :
    (n ≤ items.length ∧ ∀ v ∈ items.take n, v.IsText) ∨
    (∃ before v after, items = before ++ v :: after ∧ before.length < n ∧
      (∀ w ∈ before, w.IsText) ∧ ¬v.IsText) ∨
    (items.length < n ∧ ∀ v ∈ items, v.IsText) := by
  induction items generalizing n with
  | nil => cases n <;> simp
  | cons v items ih =>
    cases n with
    | zero => simp
    | succ n =>
      by_cases text : v.IsText
      · rcases ih n with ⟨long, texts⟩ | ⟨before, w, after, rfl, few, texts, noText⟩ | ⟨few, texts⟩
        · exact .inl ⟨by simpa using long, by simpa using ⟨text, texts⟩⟩
        · exact .inr (.inl ⟨v :: before, w, after, rfl, by simpa using few,
            by simpa using ⟨text, texts⟩, noText⟩)
        · exact .inr (.inr ⟨by simpa using few, by simpa using ⟨text, texts⟩⟩)
      · exact .inr (.inl ⟨[], v, items, rfl, by simp, by simp, text⟩)

/-- Fewer than three texts. -/
theorem eq_of_length_lt_three {items : List Value} (few : items.length < 3)
    (texts : ∀ v ∈ items, v.IsText) :
    items = [] ∨ (∃ driver, items = [.string driver]) ∨
      ∃ driver url, items = [.string driver, .string url] := by
  rcases items with _ | ⟨driver, _ | ⟨url, _ | ⟨database, rest⟩⟩⟩
  · exact .inl rfl
  · simp only [List.forall_mem_cons, Value.isText_iff] at texts
    obtain ⟨⟨driver, rfl⟩, _⟩ := texts
    exact .inr (.inl ⟨driver, rfl⟩)
  · simp only [List.forall_mem_cons, Value.isText_iff] at texts
    obtain ⟨⟨driver, rfl⟩, ⟨url, rfl⟩, _⟩ := texts
    exact .inr (.inr ⟨driver, url, rfl⟩)
  · simp only [List.length_cons] at few
    omega

theorem decides_ofArray (items : List Value) :
    Decides (ofArray items) (Accepts (.array items)) (given (.array items))
      (ValueProblem (.array items)) where
  ok := by
    rintro ⟨long, texts⟩
    rcases items with _ | ⟨driver, _ | ⟨url, _ | ⟨database, rest⟩⟩⟩ <;> simp at long
    simp only [List.take, List.forall_mem_cons, Value.isText_iff] at texts
    obtain ⟨⟨driver, rfl⟩, ⟨url, rfl⟩, ⟨database, rfl⟩, _⟩ := texts
    rfl
  error e problem := by
    cases problem with
    | @noText before after v few texts noText =>
      rcases eq_of_length_lt_three few texts with rfl | ⟨driver, rfl⟩ | ⟨driver, url, rfl⟩ <;>
        simp only [List.cons_append, List.nil_append, ofArray, decodeText_of_not_isText noText] <;>
        rfl
    | tooShort few texts =>
      rcases eq_of_length_lt_three few texts with rfl | ⟨driver, rfl⟩ | ⟨driver, url, rfl⟩ <;> rfl
    | scalar scalar => cases scalar
  total := by
    rcases texts_cases 3 items with accepted | ⟨before, v, after, rfl, few, texts, noText⟩ | ⟨few, texts⟩
    · exact .inl accepted
    · exact .inr ⟨_, .noText few texts noText⟩
    · exact .inr ⟨_, .tooShort few texts⟩

theorem ofValue_scalar {v : Value} (scalar : v.isScalar) (noMoment : ∀ text, v ≠ .moment text) :
    ofValue v = .error (.mismatch v .database) := by
  cases v with
  | array | table => cases scalar
  | moment text => exact absurd rfl (noMoment text)
  | _ => rfl

theorem ofValue_moment (text : String) :
    ofValue (.moment text) = .error (.unknownKey Value.momentKey keys) := by
  have unknown : Value.momentKey ∉ keys := by decide
  rw [ofValue, ofTable, Toml.sortedByKey, List.mergeSort_singleton, List.foldlM_cons,
    setKey_unknown standard unknown]
  rfl

theorem decides_scalar {v : Value} (scalar : v.isScalar) :
    Decides (ofValue v) (Accepts v) (given v) (ValueProblem v) where
  ok accepted := by
    cases v with
    | array | table => cases scalar
    | _ => cases accepted
  error e problem := by
    cases problem with
    | scalar _ noMoment => exact ofValue_scalar scalar noMoment
    | moment text => exact ofValue_moment text
    | _ => cases scalar
  total := by
    by_cases moment : ∃ text, v = .moment text
    · obtain ⟨text, rfl⟩ := moment
      exact .inr ⟨_, .moment text⟩
    · exact .inr ⟨_, .scalar scalar (not_exists.1 moment)⟩

theorem decides_ofValue {v : Value} (distinct : v.Distinct) :
    Decides (ofValue v) (Accepts v) (given v) (ValueProblem v) := by
  cases distinct with
  | scalar scalar => exact decides_scalar scalar
  | array => exact decides_ofArray _
  | table keys =>
    refine (decides_ofTable keys).congr .rfl (fun _ => rfl) fun e => ⟨.table, fun problem => ?_⟩
    cases problem with
    | table first => exact first
    | scalar scalar => cases scalar

end DbConfig

/-! ## The table of a document -/

namespace Config

/-- What a document may have: nothing but the key `db`, with a value that is accepted. -/
def Accepts (t : Table) : Prop := ∀ entry ∈ t, entry.1 = "db" ∧ DbConfig.Accepts entry.2

/-- What an accepted document gives. -/
def given (t : Table) : Config := ⟨((t.lookup "db").map DbConfig.given).getD .standard⟩

/-- The problem of an entry of a document. -/
inductive EntryProblem (entry : String × Value) : DecodeError → Prop where
  | unknownKey (unknown : entry.1 ≠ "db") : EntryProblem entry (.unknownKey entry.1 ["db"])
  | value {e : DecodeError} (known : entry.1 = "db") (problem : DbConfig.ValueProblem entry.2 e) :
      EntryProblem entry e

/-- Reads an entry of a document. -/
def ofEntry (entry : String × Value) : Except DecodeError Config :=
  if entry.1 = "db" then do return ⟨← DbConfig.ofValue entry.2⟩
  else .error (.unknownKey entry.1 ["db"])

theorem ofTable_eq (t : Table) :
    ofTable t = (Toml.sortedByKey t).foldlM (fun _ entry => ofEntry entry) .standard := rfl

theorem decides_ofEntry {entry : String × Value} (distinct : entry.2.Distinct) :
    Decides (ofEntry entry) (entry.1 = "db" ∧ DbConfig.Accepts entry.2) ⟨DbConfig.given entry.2⟩
      (EntryProblem entry) := by
  have value := DbConfig.decides_ofValue distinct
  refine ⟨fun ⟨known, accepted⟩ => ?_, fun e problem => ?_, ?_⟩
  · rw [ofEntry, if_pos known, value.ok accepted]
    rfl
  · cases problem with
    | unknownKey unknown => rw [ofEntry, if_neg unknown]
    | value known problem =>
      rw [ofEntry, if_pos known, value.error e problem]
      rfl
  · by_cases known : entry.1 = "db"
    · exact value.total.imp (⟨known, ·⟩) fun ⟨e, problem⟩ => ⟨e, .value known problem⟩
    · exact .inr ⟨_, .unknownKey known⟩

/-- Of different keys at most one is `db`. -/
theorem Accepts.eq_nil_or_singleton {t : Table} (accepted : Accepts t)
    (distinct : (t.map Prod.fst).Nodup) : t = [] ∨ ∃ v, t = [("db", v)] := by
  have known (entry) (mem : entry ∈ t) : entry.1 = "db" := (accepted entry mem).1
  rcases t with _ | ⟨⟨key, v⟩, _ | ⟨⟨key', v'⟩, rest⟩⟩
  · exact .inl rfl
  · obtain rfl : key = "db" := known (key, v) List.mem_cons_self
    exact .inr ⟨v, rfl⟩
  · obtain rfl : key = "db" := known (key, v) (by simp)
    obtain rfl : key' = "db" := known (key', v') (by simp)
    simp at distinct

theorem Accepts.foldl_sortedByKey {t : Table} (accepted : Accepts t)
    (distinct : (t.map Prod.fst).Nodup) :
    (Toml.sortedByKey t).foldl (fun _ entry => ⟨DbConfig.given entry.2⟩) standard = given t := by
  rcases accepted.eq_nil_or_singleton distinct with rfl | ⟨v, rfl⟩
  · rw [Toml.sortedByKey, List.mergeSort_nil]
    rfl
  · rw [Toml.sortedByKey, List.mergeSort_singleton]
    rfl

theorem decides_ofTable {t : Table} (distinct : Value.Distinct (.table t)) :
    Decides (ofTable t) (Accepts t) (given t) (FirstProblem Prod.fst EntryProblem t) := by
  have same (entry) : entry ∈ Toml.sortedByKey t ↔ entry ∈ t := (Toml.perm_sortedByKey t).mem_iff
  have each (entry) (mem : entry ∈ Toml.sortedByKey t) (_ : Config) :=
    decides_ofEntry (distinct.of_mem ((same entry).1 mem))
  refine (decides_foldlM (Toml.increasing_sortedByKey distinct.nodup_keys) each .standard).congr
    (forall_congr' fun entry => ?_) (fun accepted => ?_) fun e => firstProblem_congr same
  · rw [same]
  · exact Accepts.foldl_sortedByKey (fun entry mem => accepted entry ((same entry).2 mem))
      distinct.nodup_keys

end Config

end QueryBuilder
