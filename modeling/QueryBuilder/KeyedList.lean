/-!
# Lists with one entry per key

`KeyedList key` is a list in which no two entries have the same key. Inserting an
entry whose key is present replaces the old entry where it stands; a new key goes to
the end. So the keys are in order of first insertion (`keys_ofList`) and each entry is
the last one inserted under its key (`find?_ofList`). Rows of a table and the fields of
a model are such lists.
-/

namespace QueryBuilder
set_option autoImplicit false

/-- Entries in order of first insertion, at most one for each key. -/
structure KeyedList {α κ : Type} (key : α → κ) where
  toList : List α
  nodup_keys : (toList.map key).Nodup

namespace KeyedList

variable {α κ : Type} {key : α → κ}

theorem ext {l m : KeyedList key} (h : l.toList = m.toList) : l = m := by
  cases l; cases m; simp_all

instance [DecidableEq α] : DecidableEq (KeyedList key) := fun l m =>
  if h : l.toList = m.toList then isTrue (ext h) else isFalse fun e => h (e ▸ rfl)

/-- The list without entries. -/
def empty : KeyedList key := ⟨[], List.nodup_nil⟩

instance : EmptyCollection (KeyedList key) := ⟨empty⟩

instance : Inhabited (KeyedList key) := ⟨empty⟩

/-- The keys, in order of first insertion. -/
def keys (l : KeyedList key) : List κ := l.toList.map key

def size (l : KeyedList key) : Nat := l.toList.length

variable [DecidableEq κ]

/-- The entry under a key. -/
def find? (l : KeyedList key) (k : κ) : Option α := l.toList.find? (key · = k)

/-- Replaces the first entry with the key of `a`, or puts `a` at the end. -/
def replaceOrAppend (key : α → κ) (a : α) : List α → List α
  | [] => [a]
  | b :: rest => if key b = key a then a :: rest else b :: replaceOrAppend key a rest

theorem map_replaceOrAppend (a : α) (l : List α) :
    (replaceOrAppend key a l).map key =
      if key a ∈ l.map key then l.map key else l.map key ++ [key a] := by
  induction l with
  | nil => simp [replaceOrAppend]
  | cons b rest ih =>
    unfold replaceOrAppend
    by_cases hb : key b = key a
    · simp [hb]
    · simp only [hb, if_false, List.map_cons, ih, List.mem_cons]
      by_cases hm : key a ∈ rest.map key
      · simp [hm]
      · have : ¬ key a = key b := fun h => hb h.symm
        simp [hm, this]

theorem find?_replaceOrAppend (a : α) (k : κ) (l : List α) :
    (replaceOrAppend key a l).find? (key · = k) =
      if key a = k then some a else l.find? (key · = k) := by
  induction l with
  | nil => simp [replaceOrAppend, List.find?_cons]; split <;> simp_all
  | cons b rest ih =>
    unfold replaceOrAppend
    by_cases hb : key b = key a
    · simp only [hb, if_true, List.find?_cons]
      by_cases hk : key a = k <;> simp_all
    · simp only [hb, if_false, List.find?_cons, ih]
      by_cases hk : key a = k <;> by_cases hk' : key b = k <;> simp_all

theorem nodup_replaceOrAppend {a : α} {l : List α} (h : (l.map key).Nodup) :
    ((replaceOrAppend key a l).map key).Nodup := by
  rw [map_replaceOrAppend]
  split
  · exact h
  · next hm =>
    exact List.nodup_append.2 ⟨h, by simp, fun x hx y hy e =>
      hm (by rw [List.mem_singleton] at hy; subst hy; exact e ▸ hx)⟩

/-- Adds an entry: in place of the one with its key, else at the end. -/
def insert (l : KeyedList key) (a : α) : KeyedList key :=
  ⟨replaceOrAppend key a l.toList, nodup_replaceOrAppend l.nodup_keys⟩

/-- The list that holds `as`, inserted from left to right. -/
def ofList (as : List α) : KeyedList key := as.foldl insert empty

/-- The same keys, and under each key entries that `eq` accepts; order does not count. -/
def agrees (eq : α → α → Bool) (l m : KeyedList key) : Bool :=
  l.size == m.size && l.toList.all fun a => (m.find? (key a)).any (eq a)

theorem keys_insert (l : KeyedList key) (a : α) :
    (l.insert a).keys = if key a ∈ l.keys then l.keys else l.keys ++ [key a] :=
  map_replaceOrAppend a l.toList

theorem find?_insert (l : KeyedList key) (a : α) (k : κ) :
    (l.insert a).find? k = if key a = k then some a else l.find? k :=
  find?_replaceOrAppend a k l.toList

@[simp] theorem find?_empty (k : κ) : (empty : KeyedList key).find? k = none := rfl

theorem mem_of_find?_eq_some {l : KeyedList key} {k : κ} {a : α} (h : l.find? k = some a) :
    a ∈ l.toList ∧ key a = k :=
  ⟨List.mem_of_find?_eq_some h, by simpa using List.find?_some h⟩

theorem find?_eq_none_iff {l : KeyedList key} {k : κ} : l.find? k = none ↔ k ∉ l.keys := by
  simp only [find?, keys, List.find?_eq_none, decide_eq_true_eq, List.mem_map, not_exists, not_and]

theorem find?_eq_some_of_nodup {l : List α} (h : (l.map key).Nodup) {a : α} (ha : a ∈ l) :
    l.find? (key · = key a) = some a := by
  induction l with
  | nil => cases ha
  | cons b rest ih =>
    rw [List.map_cons, List.nodup_cons] at h
    rcases List.mem_cons.1 ha with rfl | ha
    · simp
    · have other : key b ≠ key a := fun e => h.1 (e ▸ List.mem_map_of_mem ha)
      rw [List.find?_cons_of_neg (by simpa using other)]
      exact ih h.2 ha

/-- An entry is found under its key, since no other entry has the key. -/
theorem find?_of_mem {l : KeyedList key} {a : α} (h : a ∈ l.toList) : l.find? (key a) = some a :=
  find?_eq_some_of_nodup l.nodup_keys h

/-! ## Entries inserted one after another -/

theorem replaceOrAppend_of_notMem {a : α} {l : List α} (h : key a ∉ l.map key) :
    replaceOrAppend key a l = l ++ [a] := by
  induction l with
  | nil => rfl
  | cons b rest ih =>
    rw [List.map_cons, List.mem_cons, not_or] at h
    rw [replaceOrAppend, if_neg fun e => h.1 e.symm, ih h.2, List.cons_append]

/-- New keys go to the end, each at its first insertion. -/
theorem keys_foldl_insert (l : KeyedList key) (as : List α) :
    (as.foldl insert l).keys = l.keys ++ ((as.map key).removeAll l.keys).eraseDups := by
  induction as generalizing l with
  | nil => simp
  | cons a as ih =>
    rw [List.foldl_cons, ih, keys_insert, List.map_cons, List.cons_removeAll]
    by_cases known : key a ∈ l.keys
    · rw [if_pos known, if_neg (by simp [known])]
    · have others : (as.map key).removeAll (l.keys ++ [key a]) =
          ((as.map key).removeAll l.keys).filter fun k => !k == key a := by
        simp [List.removeAll, List.filter_filter, Bool.and_comm]
        rfl
      rw [if_neg known, if_pos (by simp [known]), others, List.eraseDups_cons, List.append_assoc,
        List.singleton_append]

/-- The last entry with a key is the one that is found. -/
theorem find?_foldl_insert (l : KeyedList key) (as : List α) (k : κ) :
    (as.foldl insert l).find? k = ((as.filter (key · = k)).getLast?).or (l.find? k) := by
  induction as generalizing l with
  | nil => rfl
  | cons a as ih =>
    rw [List.foldl_cons, ih, find?_insert]
    by_cases same : key a = k
    · rw [if_pos same, List.filter_cons_of_pos (by simpa using same), List.getLast?_cons]
      cases (as.filter (key · = k)).getLast? <;> rfl
    · rw [if_neg same, List.filter_cons_of_neg (by simpa using same)]

/-- Entries with new and different keys are all kept as they come. -/
theorem toList_foldl_insert {l : KeyedList key} {as : List α} (h : (l.keys ++ as.map key).Nodup) :
    (as.foldl insert l).toList = l.toList ++ as := by
  induction as generalizing l with
  | nil => exact (List.append_nil _).symm
  | cons a as ih =>
    have new : key a ∉ l.keys := by
      intro mem
      exact (List.nodup_append.1 h).2.2 _ mem _ List.mem_cons_self rfl
    have appended : (l.insert a).toList = l.toList ++ [a] := replaceOrAppend_of_notMem new
    have keys : (l.insert a).keys ++ as.map key = l.keys ++ (a :: as).map key := by
      rw [keys_insert, if_neg new, List.append_assoc]
      rfl
    rw [List.foldl_cons, ih (keys ▸ h), appended, List.append_assoc, List.singleton_append]

theorem keys_ofList (as : List α) : (ofList as : KeyedList key).keys = (as.map key).eraseDups := by
  have none : (empty : KeyedList key).keys = [] := rfl
  rw [ofList, keys_foldl_insert, none, List.nil_append, List.removeAll_nil]

theorem find?_ofList (as : List α) (k : κ) :
    (ofList as : KeyedList key).find? k = (as.filter (key · = k)).getLast? := by
  rw [ofList, find?_foldl_insert, find?_empty, Option.or_none]

theorem toList_ofList {as : List α} (h : (as.map key).Nodup) :
    (ofList as : KeyedList key).toList = as :=
  toList_foldl_insert (l := empty) h

end KeyedList

end QueryBuilder
