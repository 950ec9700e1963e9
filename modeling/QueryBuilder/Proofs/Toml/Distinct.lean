import Mathlib.Data.Option.Basic
import QueryBuilder.KeyedList
import QueryBuilder.Toml.Document

/-!
# Tables of a document have each key once

A value is put under a key of a table only where nothing stands, so in what a document gives no
table has two entries with one key, however deep it lies (`Toml.distinct_read?`). The invariant holds
of the tables under construction, and all that is done to them, at the end of a path or on the way
there, is putting a node under a key (`Entries.Distinct.put`).
-/

namespace QueryBuilder.Toml
set_option autoImplicit false

/-! ## Values -/

/-- Whether a value has no values within. -/
def Value.isScalar : Value → Bool
  | .array _ | .table _ => false
  | _ => true

/-- Every table within the value has each key once. -/
inductive Value.Distinct : Value → Prop where
  | scalar {v : Value} (scalar : v.isScalar) : Distinct v
  | array {vs : List Value} (items : ∀ v ∈ vs, Distinct v) : Distinct (.array vs)
  | table {t : Table} (keys : (t.map Prod.fst).Nodup) (values : ∀ entry ∈ t, Distinct entry.2) :
      Distinct (.table t)

theorem Value.Distinct.nodup_keys {t : Table} (h : Distinct (.table t)) :
    (t.map Prod.fst).Nodup := by
  cases h with
  | scalar h => cases h
  | table keys _ => exact keys

theorem Value.Distinct.of_mem {t : Table} (h : Distinct (.table t)) {entry : String × Value}
    (mem : entry ∈ t) : entry.2.Distinct := by
  cases h with
  | scalar h => cases h
  | table _ values => exact values entry mem

/-! ## Tables under construction -/

/-- Every table within the node has each key once. -/
inductive Node.Distinct : Node → Prop where
  | value {v : Value} (value : v.Distinct) : Distinct (.value v)
  | table {origin : Origin} {es : Entries} (keys : (es.map Prod.fst).Nodup)
      (nodes : ∀ entry ∈ es, Distinct entry.2) : Distinct (.table origin es)
  | elements {ts : List Entries} (keys : ∀ es ∈ ts, (es.map Prod.fst).Nodup)
      (nodes : ∀ es ∈ ts, ∀ entry ∈ es, Distinct entry.2) : Distinct (.elements ts)

namespace Entries

/-- The table and every table within have each key once. -/
structure Distinct (es : Entries) : Prop where
  keys : (es.map Prod.fst).Nodup
  nodes : ∀ entry ∈ es, entry.2.Distinct

theorem distinct_nil : Distinct [] := ⟨List.nodup_nil, by simp⟩

end Entries

theorem Node.distinct_table_iff {origin : Origin} {es : Entries} :
    (Node.table origin es).Distinct ↔ es.Distinct :=
  ⟨fun | .table keys nodes => ⟨keys, nodes⟩, fun h => .table h.keys h.nodes⟩

theorem Node.distinct_elements_iff {ts : List Entries} :
    (Node.elements ts).Distinct ↔ ∀ es ∈ ts, es.Distinct :=
  ⟨fun | .elements keys nodes => fun es mem => ⟨keys es mem, nodes es mem⟩,
    fun h => .elements (fun es mem => (h es mem).keys) fun es mem => (h es mem).nodes⟩

namespace Entries

theorem put_eq (key : String) (n : Node) (es : Entries) :
    put key n es = KeyedList.replaceOrAppend Prod.fst (key, n) es := by
  induction es with
  | nil => rfl
  | cons entry rest ih =>
    rw [put, KeyedList.replaceOrAppend, ih]
    by_cases same : entry.1 = key <;> simp [same]

theorem mem_put {key : String} {n : Node} {es : Entries} {entry : String × Node}
    (mem : entry ∈ put key n es) : entry = (key, n) ∨ entry ∈ es := by
  induction es with
  | nil => exact .inl (by simpa [put] using mem)
  | cons first rest ih =>
    rw [put] at mem
    split at mem <;> rcases List.mem_cons.1 mem with rfl | mem
    · next same => exact .inl (by rw [same])
    · exact .inr (List.mem_cons_of_mem _ mem)
    · exact .inr List.mem_cons_self
    · exact (ih mem).imp_right (List.mem_cons_of_mem _)

namespace Distinct

variable {es sub : Entries} {ts : List Entries} {key : String} {n : Node} {origin : Origin}

theorem put (h : es.Distinct) (node : n.Distinct) : (put key n es).Distinct where
  keys := put_eq key n es ▸ KeyedList.nodup_replaceOrAppend h.keys
  nodes entry mem := by
    rcases mem_put mem with rfl | old
    · exact node
    · exact h.nodes entry old

theorem put_table (h : es.Distinct) (table : sub.Distinct) :
    (Entries.put key (.table origin sub) es).Distinct :=
  h.put (Node.distinct_table_iff.2 table)

theorem put_elements (h : es.Distinct) (elements : ∀ sub ∈ ts, sub.Distinct) :
    (Entries.put key (.elements ts) es).Distinct :=
  h.put (Node.distinct_elements_iff.2 elements)

theorem lookup (h : es.Distinct) (found : es.lookup key = some n) : n.Distinct := by
  obtain ⟨before, after, rfl, _⟩ := List.lookup_eq_some_iff.1 found
  exact h.nodes (key, n) (by simp)

theorem table (h : es.Distinct) (found : es.lookup key = some (.table origin sub)) :
    sub.Distinct :=
  Node.distinct_table_iff.1 (h.lookup found)

theorem elements (h : es.Distinct) (found : es.lookup key = some (.elements ts)) :
    ∀ sub ∈ ts, sub.Distinct :=
  Node.distinct_elements_iff.1 (h.lookup found)

end Distinct

/-- The change leaves each key once in every table. -/
def Keeps (f : Entries → Option Entries) : Prop :=
  ∀ es es', es.Distinct → f es = some es' → es'.Distinct

variable {f : Entries → Option Entries}

theorem Keeps.updateLast? (keeps : Keeps f) {ts ts' : List Entries} (h : ∀ es ∈ ts, es.Distinct)
    (run : updateLast? f ts = some ts') : ∀ es ∈ ts', es.Distinct := by
  induction ts generalizing ts' with
  | nil => cases run
  | cons t rest ih =>
    rw [List.forall_mem_cons] at h
    cases rest with
    | nil =>
      obtain ⟨t', changed, rfl⟩ := Option.map_eq_some_iff.1 run
      simpa using keeps t t' h.1 changed
    | cons u more =>
      obtain ⟨rest', changed, rfl⟩ := Option.map_eq_some_iff.1 run
      exact List.forall_mem_cons.2 ⟨h.1, ih h.2 changed⟩

theorem Keeps.descend? (keeps : Keeps f) (path : List String) : Keeps (descend? f path) := by
  induction path with
  | nil => exact keeps
  | cons k path ih =>
    intro es es' h run
    rw [Entries.descend?] at run
    split at run
    · obtain ⟨sub, made, rfl⟩ := Option.map_eq_some_iff.1 run
      exact h.put_table (ih [] sub distinct_nil made)
    · next origin sub found =>
      obtain ⟨sub', changed, rfl⟩ := Option.map_eq_some_iff.1 run
      exact h.put_table (ih sub sub' (h.table found) changed)
    · next ts found =>
      obtain ⟨ts', changed, rfl⟩ := Option.map_eq_some_iff.1 run
      exact h.put_elements (ih.updateLast? (h.elements found) changed)
    · cases run

theorem keeps_openTable? (key : String) : Keeps (openTable? key) := by
  intro es es' h run
  rw [openTable?] at run
  split at run
  · cases run
    exact h.put_table distinct_nil
  · next sub found =>
    cases run
    exact h.put_table (h.table found)
  · cases run

theorem keeps_openElement? (key : String) : Keeps (openElement? key) := by
  intro es es' h run
  rw [openElement?] at run
  split at run
  · cases run
    exact h.put_elements (by simp [distinct_nil])
  · next ts found =>
    cases run
    refine h.put_elements fun es mem => ?_
    rcases List.mem_append.1 mem with mem | mem
    · exact h.elements found es mem
    · exact List.mem_singleton.1 mem ▸ distinct_nil
  · cases run

theorem keeps_enter? {v : Value} (value : v.Distinct) (path : List String) :
    Keeps (enter? v path) := by
  induction path with
  | nil => intro es es' _ run; cases run
  | cons k path ih =>
    intro es es' h run
    cases path with
    | nil =>
      rw [enter?] at run
      split at run
      · cases run
      · cases run
        exact h.put (.value value)
    | cons next path =>
      rw [enter?] at run
      · split at run
        · obtain ⟨sub, made, rfl⟩ := Option.map_eq_some_iff.1 run
          exact h.put_table (ih [] sub distinct_nil made)
        · cases run
        · next origin sub _ found =>
          split at run
          · cases run
          · obtain ⟨sub', changed, rfl⟩ := Option.map_eq_some_iff.1 run
            exact h.put_table (ih sub sub' (h.table found) changed)
        · next ts found =>
          split at run
          · cases run
          · obtain ⟨ts', changed, rfl⟩ := Option.map_eq_some_iff.1 run
            exact h.put_elements (ih.updateLast? (h.elements found) changed)
        · cases run
      · exact List.cons_ne_nil next path

end Entries

/-! ## Finished tables -/

theorem closeEntries_eq (es : Entries) :
    closeEntries es = es.map fun entry => (entry.1, entry.2.close) := by
  induction es with
  | nil => simp [closeEntries]
  | cons entry rest ih => simp [closeEntries, ih]

theorem closeTables_eq (ts : List Entries) :
    closeTables ts = ts.map fun es => .table (closeEntries es) := by
  induction ts with
  | nil => simp [closeTables]
  | cons es rest ih => simp [closeTables, ih]

theorem distinct_closeEntries {es : Entries} (keys : (es.map Prod.fst).Nodup)
    (closed : ∀ entry ∈ es, entry.2.close.Distinct) : Value.Distinct (.table (closeEntries es)) := by
  rw [closeEntries_eq]
  refine .table ?_ fun entry mem => ?_
  · rw [List.map_map]
    exact keys
  · obtain ⟨entry, old, rfl⟩ := List.mem_map.1 mem
    exact closed entry old

theorem Node.Distinct.close {n : Node} (h : n.Distinct) : n.close.Distinct := by
  induction h with
  | value h => rwa [Node.close]
  | table keys _ ih =>
    rw [Node.close]
    exact distinct_closeEntries keys ih
  | elements keys _ ih =>
    rw [Node.close, closeTables_eq]
    refine .array fun v mem => ?_
    obtain ⟨es, old, rfl⟩ := List.mem_map.1 mem
    exact distinct_closeEntries (keys es old) (ih es old)

theorem Entries.Distinct.close {es : Entries} (h : es.Distinct) :
    Value.Distinct (.table (closeEntries es)) :=
  distinct_closeEntries h.keys fun entry mem => (h.nodes entry mem).close

/-! ## Values of a document -/

theorem isScalar_roundedFloat (negative : Bool) (whole fraction : List Char) (exponent : Int) :
    (roundedFloat negative whole fraction exponent).isScalar := by
  unfold roundedFloat
  dsimp only
  split <;> rfl

theorem isScalar_float? {cs : List Char} {v : Value} (h : float? cs = some v) : v.isScalar := by
  rw [float?] at h
  dsimp only at h
  split at h
  · cases h; rfl
  · split at h
    · cases h; rfl
    · -- whatever its fraction and its exponent are, the numeral is rounded
      obtain ⟨_, _, h⟩ := Option.bind_eq_some_iff.1 h
      obtain ⟨whole, _, h⟩ := Option.bind_eq_some_iff.1 h
      split at h <;> obtain ⟨fraction, _, h⟩ := Option.bind_eq_some_iff.1 h <;>
        split at h <;> obtain ⟨power, _, h⟩ := Option.bind_eq_some_iff.1 h <;> cases h <;>
        exact isScalar_roundedFloat _ whole fraction power

theorem isScalar_scalar? {cs : List Char} {v : Value} (h : scalar? cs = some v) : v.isScalar := by
  rw [scalar?] at h
  split at h
  · cases h; rfl
  · split at h
    · cases h; rfl
    · split at h
      · cases h; rfl
      · split at h
        · next read => cases h; exact isScalar_float? read
        · split at h
          · cases h; rfl
          · cases h

/-- What is read has each key once in every table. -/
def ReadsDistinct (item : List Token → Option (Value × List Token)) : Prop :=
  ∀ ts v rest, item ts = some (v, rest) → v.Distinct

theorem readsDistinct_plainValue? : ReadsDistinct plainValue? := by
  intro ts v rest h
  obtain ⟨w, read, same⟩ := Option.map_eq_some_iff.1 h
  cases same
  exact .scalar (isScalar_scalar? read)

variable {item : List Token → Option (Value × List Token)}

theorem ReadsDistinct.items? (reads : ReadsDistinct item) {n : Nat} {ts rest : List Token}
    {vs : List Value} (h : items? item n ts = some (vs, rest)) : ∀ v ∈ vs, v.Distinct := by
  induction n generalizing ts vs rest with
  | zero => cases h
  | succ n ih =>
    rw [Toml.items?] at h
    split at h
    · cases h
      simp
    · obtain ⟨⟨v, rest₁⟩, read, h⟩ := Option.bind_eq_some_iff.1 h
      have first := reads _ v rest₁ read
      dsimp only at h
      split at h
      · cases h
        simpa using first
      · obtain ⟨⟨more, rest₂⟩, further, h⟩ := Option.bind_eq_some_iff.1 h
        cases h
        exact List.forall_mem_cons.2 ⟨first, ih further⟩
      · cases h

theorem ReadsDistinct.inlineEntries? (reads : ReadsDistinct item) {n : Nat} {ts rest : List Token}
    {es es' : Entries} (distinct : es.Distinct)
    (h : inlineEntries? item n es ts = some (es', rest)) : es'.Distinct := by
  induction n generalizing ts es with
  | zero => cases h
  | succ n ih =>
    rw [Toml.inlineEntries?] at h
    split at h
    · cases h
      exact distinct
    · obtain ⟨⟨path, rest₁⟩, _, h⟩ := Option.bind_eq_some_iff.1 h
      dsimp only at h
      split at h
      · obtain ⟨⟨v, rest₂⟩, read, h⟩ := Option.bind_eq_some_iff.1 h
        obtain ⟨more, entered, h⟩ := Option.bind_eq_some_iff.1 h
        have distinct' := Entries.keeps_enter? (reads _ v rest₂ read) path es more distinct entered
        dsimp only at h
        split at h
        · cases h
          exact distinct'
        · exact ih distinct' h
        · cases h
      · cases h

theorem readsDistinct_value? (depth : Nat) : ReadsDistinct (value? depth) := by
  induction depth with
  | zero =>
    intro ts v rest h
    unfold value? at h
    split at h
    · cases h
      exact .scalar rfl
    · cases ‹0 = _ + 1›
    · cases ‹0 = _ + 1›
    · exact readsDistinct_plainValue? _ v rest h
  | succ depth ih =>
    intro ts v rest h
    unfold value? at h
    split at h
    · cases h
      exact .scalar rfl
    · next same =>
      cases same
      obtain ⟨⟨vs, rest'⟩, read, same⟩ := Option.map_eq_some_iff.1 h
      cases same
      exact .array (ih.items? read)
    · next same =>
      cases same
      obtain ⟨⟨es, rest'⟩, read, same⟩ := Option.map_eq_some_iff.1 h
      cases same
      exact (ih.inlineEntries? Entries.distinct_nil read).close
    · exact readsDistinct_plainValue? _ v rest h

/-! ## Documents -/

namespace Draft

variable {d d' : Draft}

theorem distinct_openHeader? {add : String → Entries → Option Entries}
    (keeps : ∀ key, Entries.Keeps (add key)) {path : List String} (h : d.root.Distinct)
    (run : d.openHeader? add path = some d') : d'.root.Distinct := by
  obtain ⟨key, _, run⟩ := Option.bind_eq_some_iff.1 run
  obtain ⟨root, changed, run⟩ := Option.bind_eq_some_iff.1 run
  cases run
  exact (keeps key).descend? path.dropLast d.root root h changed

theorem distinct_enter? {key : List String} {v : Value} (value : v.Distinct)
    (h : d.root.Distinct) (run : d.enter? key v = some d') : d'.root.Distinct := by
  obtain ⟨root, changed, rfl⟩ := Option.map_eq_some_iff.1 run
  exact (Entries.keeps_enter? value key).descend? d.path d.root root h changed

theorem distinct_line? {ts rest : List Token} (h : d.root.Distinct)
    (run : d.line? ts = some (d', rest)) : d'.root.Distinct := by
  unfold line? at run
  split at run
  · obtain ⟨⟨path, rest₁⟩, _, run⟩ := Option.bind_eq_some_iff.1 run
    dsimp only at run
    split at run
    · obtain ⟨d₁, opened, run⟩ := Option.bind_eq_some_iff.1 run
      cases run
      exact distinct_openHeader? Entries.keeps_openElement? h opened
    · cases run
  · obtain ⟨⟨path, rest₁⟩, _, run⟩ := Option.bind_eq_some_iff.1 run
    dsimp only at run
    split at run
    · obtain ⟨d₁, opened, run⟩ := Option.bind_eq_some_iff.1 run
      cases run
      exact distinct_openHeader? Entries.keeps_openTable? h opened
    · cases run
  · obtain ⟨⟨path, rest₁⟩, _, run⟩ := Option.bind_eq_some_iff.1 run
    dsimp only at run
    split at run
    · obtain ⟨⟨v, rest₂⟩, read, run⟩ := Option.bind_eq_some_iff.1 run
      obtain ⟨d₁, entered, run⟩ := Option.bind_eq_some_iff.1 run
      cases run
      exact distinct_enter? (readsDistinct_value? nestingLimit _ v rest₂ read) h entered
    · cases run

theorem distinct_lines? {n : Nat} {ts : List Token} (h : d.root.Distinct)
    (run : d.lines? n ts = some d') : d'.root.Distinct := by
  induction n generalizing d ts with
  | zero => cases run
  | succ n ih =>
    rw [lines?] at run
    split at run
    · cases run
      exact h
    · obtain ⟨⟨d₁, rest⟩, line, run⟩ := Option.bind_eq_some_iff.1 run
      have next := distinct_line? h line
      dsimp only at run
      split at run
      · cases run
        exact next
      · exact ih next run
      · cases run

end Draft

/-- In the table of a document, as in every table within, no key stands twice. -/
theorem distinct_read? {s : String} {t : Table} (h : read? s = some t) :
    Value.Distinct (.table t) := by
  obtain ⟨tokens, _, h⟩ := Option.bind_eq_some_iff.1 h
  obtain ⟨d, read, h⟩ := Option.bind_eq_some_iff.1 h
  cases h
  exact (Draft.distinct_lines? Entries.distinct_nil read).close

end QueryBuilder.Toml
