import Mathlib.Data.List.Forall2
import QueryBuilder.Config.Load
import QueryBuilder.Proofs.Config.Decode

/-!
# The order of keys does not count

Two tables with the same keys and values are visited alike, whatever the order is in which each has
them: the keys come in one order, and under a key stand values that are decoded to the same text or
are no text either (`SameOutcome.foldlM`). So are two documents, in which the tables may be written
inline, under headers or with dotted keys. Main statement: `Config.decode_laws`.
-/

namespace QueryBuilder
set_option autoImplicit false

open Text (Increasing)
open Toml (Value Table)

/-! ## Values in another order -/

/-- The values differ at most in the order of the entries of tables within. -/
inductive Toml.Value.Reordered : Value → Value → Prop where
  | same (v : Value) : Reordered v v
  | array {vs ws : List Value} (items : List.Forall₂ Reordered vs ws) :
      Reordered (.array vs) (.array ws)
  | table {t u : Table} (keys : (t.map Prod.fst).Perm (u.map Prod.fst))
      (values : ∀ key v w, (key, v) ∈ t → (key, w) ∈ u → Reordered v w) :
      Reordered (.table t) (.table u)

namespace Toml

variable {t u : Table}

theorem forall₂_of_keys_eq (keys : t.map Prod.fst = u.map Prod.fst)
    (values : ∀ key v w, (key, v) ∈ t → (key, w) ∈ u → v.Reordered w) :
    List.Forall₂ (fun a b => a.1 = b.1 ∧ a.2.Reordered b.2) t u := by
  induction t generalizing u with
  | nil =>
    obtain rfl : u = [] := by simpa using keys.symm
    exact .nil
  | cons a t ih =>
    obtain ⟨b, u, rfl, same, rest⟩ := List.map_eq_cons_iff.1 keys.symm
    refine .cons ⟨same.symm, values a.1 a.2 b.2 List.mem_cons_self ?_⟩
      (ih rest.symm fun key v w hv hw => ?_)
    · rw [← same]
      exact List.mem_cons_self
    · exact values key v w (List.mem_cons_of_mem _ hv) (List.mem_cons_of_mem _ hw)

/-- Writing the entries of a table in another order changes no value. -/
theorem Value.Reordered.of_perm (distinct : (t.map Prod.fst).Nodup) (h : t.Perm u) :
    Reordered (.table t) (.table u) := by
  refine .table (h.map Prod.fst) fun key v w hv hw => ?_
  have found := (lookup_eq_some_iff distinct).2 hv
  rw [(lookup_eq_some_iff distinct).2 (h.mem_iff.2 hw)] at found
  cases found
  exact .same v

/-- Different keys have one increasing order. -/
theorem keys_sortedByKey_eq (distinct : (t.map Prod.fst).Nodup)
    (keys : (t.map Prod.fst).Perm (u.map Prod.fst)) :
    (sortedByKey t).map Prod.fst = (sortedByKey u).map Prod.fst := by
  have increasing {t : Table} (distinct : (t.map Prod.fst).Nodup) :
      Increasing id ((sortedByKey t).map Prod.fst) :=
    List.pairwise_map.2 (increasing_sortedByKey distinct)
  have same : ((sortedByKey t).map Prod.fst).Perm ((sortedByKey u).map Prod.fst) :=
    (((perm_sortedByKey t).map Prod.fst).trans keys).trans ((perm_sortedByKey u).map Prod.fst).symm
  exact (increasing distinct).eq_of_perm (increasing (keys.nodup_iff.1 distinct)) same

/-- Sorted tables have the same keys, and values in another order under each. -/
theorem Value.Reordered.forall₂_sortedByKey (h : Reordered (.table t) (.table u))
    (distinct : (t.map Prod.fst).Nodup) :
    List.Forall₂ (fun a b => a.1 = b.1 ∧ a.2.Reordered b.2) (sortedByKey t) (sortedByKey u) := by
  cases h with
  | same => exact List.forall₂_same.2 fun entry _ => ⟨rfl, .same entry.2⟩
  | table keys values =>
    refine forall₂_of_keys_eq (keys_sortedByKey_eq distinct keys) fun key v w hv hw => ?_
    exact values key v w ((perm_sortedByKey t).mem_iff.1 hv) ((perm_sortedByKey u).mem_iff.1 hw)

end Toml

/-! ## Outcomes -/

/-- The errors are the same, but for the order of entries in the value at fault. -/
inductive DecodeError.Alike : DecodeError → DecodeError → Prop where
  | same (e : DecodeError) : Alike e e
  | wrongType {v w : Value} (reordered : v.Reordered w) (expected : Expected) :
      Alike (.wrongType v expected) (.wrongType w expected)

theorem Toml.Value.Reordered.description_eq {v w : Value} (h : v.Reordered w) :
    v.description = w.description := by
  cases h <;> rfl

/-- Such errors have one message. -/
theorem DecodeError.Alike.message?_eq {e e' : DecodeError} (h : e.Alike e') :
    e.message? = e'.message? := by
  cases h with
  | same => rfl
  | wrongType reordered expected => simp only [DecodeError.message?, reordered.description_eq]

theorem Toml.Value.Reordered.mismatch_alike {v w : Value} (h : v.Reordered w)
    (expected : Expected) :
    (DecodeError.mismatch v expected).Alike (DecodeError.mismatch w expected) := by
  cases h with
  | same => exact .same _
  | array items => exact .wrongType (.array items) expected
  | table keys values => exact .wrongType (.table keys values) expected

/-- Both runs give the same, or both report the same error. -/
inductive SameOutcome {α : Type} : Except DecodeError α → Except DecodeError α → Prop where
  | ok (a : α) : SameOutcome (.ok a) (.ok a)
  | error {e e' : DecodeError} (alike : e.Alike e') : SameOutcome (.error e) (.error e')

namespace SameOutcome

variable {α β σ : Type}

theorem refl : (x : Except DecodeError α) → SameOutcome x x
  | .ok a => .ok a
  | .error e => .error (.same e)

theorem bind {x y : Except DecodeError α} {f g : α → Except DecodeError β} (h : SameOutcome x y)
    (next : ∀ a, SameOutcome (f a) (g a)) : SameOutcome (x >>= f) (y >>= g) := by
  cases h with
  | ok a => exact next a
  | error alike => exact .error alike

theorem foldlM {related : σ → σ → Prop} {step : α → σ → Except DecodeError α} {l m : List σ}
    (h : List.Forall₂ related l m)
    (each : ∀ a b, a ∈ l → related a b → ∀ c, SameOutcome (step c a) (step c b)) (c : α) :
    SameOutcome (l.foldlM step c) (m.foldlM step c) := by
  induction h generalizing c with
  | nil => exact .ok c
  | @cons a b l m first _ ih =>
    rw [List.foldlM_cons, List.foldlM_cons]
    exact (each a b List.mem_cons_self first c).bind
      (ih fun a b mem => each a b (List.mem_cons_of_mem _ mem))

end SameOutcome

/-! ## Decoding -/

namespace Toml.Value.Reordered

variable {v w : Value}

theorem sameOutcome_decodeText (h : v.Reordered w) :
    SameOutcome (decodeText v) (decodeText w) := by
  cases h with
  | same => exact .refl _
  | array items => exact .error (mismatch_alike (.array items) .text)
  | table keys values => exact .error (mismatch_alike (.table keys values) .text)

theorem sameOutcome_setKey (h : v.Reordered w) (c : DbConfig) (key : String) :
    SameOutcome (c.setKey key v) (c.setKey key w) := by
  unfold DbConfig.setKey
  split
  · exact h.sameOutcome_decodeText.bind fun _ => .refl _
  · split
    · exact h.sameOutcome_decodeText.bind fun _ => .refl _
    · split
      · exact h.sameOutcome_decodeText.bind fun _ => .refl _
      · exact .refl _

theorem sameOutcome_ofArray {vs ws : List Value} (h : List.Forall₂ Reordered vs ws) :
    SameOutcome (DbConfig.ofArray vs) (DbConfig.ofArray ws) := by
  cases h with
  | nil => exact .refl _
  | cons driver h =>
    refine driver.sameOutcome_decodeText.bind fun _ => ?_
    cases h with
    | nil => exact .refl _
    | cons url h =>
      refine url.sameOutcome_decodeText.bind fun _ => ?_
      cases h with
      | nil => exact .refl _
      | cons database h => exact database.sameOutcome_decodeText.bind fun _ => .refl _

theorem sameOutcome_ofValue (h : v.Reordered w) (distinct : v.Distinct) :
    SameOutcome (DbConfig.ofValue v) (DbConfig.ofValue w) := by
  cases h with
  | same => exact .refl _
  | array items => exact sameOutcome_ofArray items
  | table keys values =>
    refine SameOutcome.foldlM ((table keys values).forall₂_sortedByKey distinct.nodup_keys) ?_ _
    rintro ⟨key, v⟩ ⟨_, w⟩ _ ⟨rfl, related⟩ c
    exact related.sameOutcome_setKey c key

theorem sameOutcome_ofTable {t u : Table} (h : Reordered (.table t) (.table u))
    (distinct : Value.Distinct (.table t)) :
    SameOutcome (Config.ofTable t) (Config.ofTable u) := by
  rw [Config.ofTable_eq, Config.ofTable_eq]
  refine SameOutcome.foldlM (h.forall₂_sortedByKey distinct.nodup_keys) ?_ _
  rintro ⟨key, v⟩ ⟨_, w⟩ mem ⟨rfl, related⟩ _
  have within : v.Distinct := distinct.of_mem ((Toml.perm_sortedByKey t).mem_iff.1 mem)
  unfold Config.ofEntry
  dsimp only
  split
  · exact (related.sameOutcome_ofValue within).bind fun _ => .refl _
  · exact .refl _

end Toml.Value.Reordered

/-! ## Documents -/

namespace Config

/-- What decoding the table of a document gives and what it reports. -/
structure Decodes (t : Table) : Prop where
  accepts : ∀ c, ofTable t = .ok c ↔ Accepts t ∧ c = given t
  rejects : ∀ e, ofTable t = .error e ↔ FirstProblem Prod.fst EntryProblem t e

/-- The documents give the same configuration, or the same error with the same message. -/
def ParsedAlike (s s' : String) : Prop :=
  (∃ c, parse s = .ok c ∧ parse s' = .ok c) ∨
  ∃ e e', parse s = .error (.undecodable e) ∧ parse s' = .error (.undecodable e') ∧
    e.Alike e' ∧ e.message? = e'.message?

theorem decodes {t : Table} (distinct : Value.Distinct (.table t)) : Decodes t :=
  ⟨(decides_ofTable distinct).ok_iff, (decides_ofTable distinct).error_iff⟩

theorem parse_eq {s : String} {t : Table} (read : Toml.read? s = some t) :
    parse s = (ofTable t).mapError .undecodable := by
  rw [parse, read]

theorem parsedAlike {s s' : String} {t t' : Table} (read : Toml.read? s = some t)
    (read' : Toml.read? s' = some t') (reordered : Value.Reordered (.table t) (.table t')) :
    ParsedAlike s s' := by
  rw [ParsedAlike, parse_eq read, parse_eq read']
  have same := reordered.sameOutcome_ofTable (Toml.distinct_read? read)
  revert same
  generalize ofTable t = x
  generalize ofTable t' = y
  rintro (c | alike)
  · exact .inl ⟨c, rfl, rfl⟩
  · exact .inr ⟨_, _, rfl, rfl, alike, alike.message?_eq⟩

/-- **Decoding accepts exactly its schema, whatever the order of keys is.** Of every table without
repeated keys exactly the accepted ones give a configuration, the one they describe; of others the
problem under the least key is reported, within the table of `db` too. A document is decoded as the
table it has, in which no key is repeated; two documents with the same keys and values give the same
configuration or the same error. -/
theorem decode_laws :
    (∀ t, Value.Distinct (.table t) → Decodes t) ∧
    (∀ t u, Value.Distinct (.table t) → Value.Reordered (.table t) (.table u) →
      SameOutcome (ofTable t) (ofTable u)) ∧
    (∀ s t, Toml.read? s = some t →
      Value.Distinct (.table t) ∧ parse s = (ofTable t).mapError .undecodable) ∧
    ∀ s s' t t', Toml.read? s = some t → Toml.read? s' = some t' →
      Value.Reordered (.table t) (.table t') → ParsedAlike s s' :=
  ⟨fun _ => decodes, fun _ _ distinct reordered => reordered.sameOutcome_ofTable distinct,
    fun _ _ read => ⟨Toml.distinct_read? read, parse_eq read⟩,
    fun _ _ _ _ => parsedAlike⟩

/-- A document with a misspelled key and values that are no texts, the table of `db` inline. -/
def inlineDocument : String := "db=\x7burl=true,drivr=\"\"\x7d\nport=true"

/-- The same keys and values in the opposite order, the table of `db` under a header. -/
def headerDocument : String := "port=true\n[db]\ndrivr=\"\"\nurl=true"

/-- The table of `db` in the order of the inline document. -/
def misspelled : Table := [("url", .boolean true), ("drivr", .string "")]

theorem read?_inlineDocument :
    Toml.read? inlineDocument = some [("db", .table misspelled), ("port", .boolean true)] := by
  have tokens : Toml.Token.scan (Toml.dropByteOrderMark inlineDocument.toList) =
      some [.word ['d', 'b'], .equals, .openBrace, .word ['u', 'r', 'l'], .equals,
        .word ['t', 'r', 'u', 'e'], .comma, .word ['d', 'r', 'i', 'v', 'r'], .equals, .string "" false,
        .closeBrace, .newline, .word ['p', 'o', 'r', 't'], .equals, .word ['t', 'r', 'u', 'e']] := by
    decide +kernel
  rw [Toml.read?, tokens]
  rfl

theorem read?_headerDocument :
    Toml.read? headerDocument =
      some [("port", .boolean true), ("db", .table misspelled.reverse)] := by
  have tokens : Toml.Token.scan (Toml.dropByteOrderMark headerDocument.toList) =
      some [.word ['p', 'o', 'r', 't'], .equals, .word ['t', 'r', 'u', 'e'], .newline, .openBracket,
        .word ['d', 'b'], .closeBracket, .newline, .word ['d', 'r', 'i', 'v', 'r'], .equals,
        .string "" false, .newline, .word ['u', 'r', 'l'], .equals, .word ['t', 'r', 'u', 'e']] := by
    decide +kernel
  rw [Toml.read?, tokens]
  rfl

theorem reordered_documents : Value.Reordered
    (.table [("db", .table misspelled), ("port", .boolean true)])
    (.table [("port", .boolean true), ("db", .table misspelled.reverse)]) := by
  have inner : Value.Reordered (.table misspelled) (.table misspelled.reverse) :=
    .of_perm (by decide) misspelled.reverse_perm.symm
  refine .table (by decide) fun key v w hv hw => ?_
  simp only [List.mem_cons, List.not_mem_nil, or_false, Prod.mk.injEq] at hv
  rcases hv with ⟨rfl, rfl⟩ | ⟨rfl, rfl⟩
  · obtain rfl : w = .table misspelled.reverse := by simpa using hw
    exact inner
  · obtain rfl : w = .boolean true := by simpa using hw
    exact .same _

/-- The misspelled key is reported, since it comes before the others in the order of bytes. -/
theorem documents_decoded :
    ParsedAlike inlineDocument headerDocument ∧
    parse inlineDocument = .error (.undecodable (.unknownKey "drivr" DbConfig.keys)) := by
  obtain ⟨trees, _, documents, reorders⟩ := decode_laws
  refine ⟨reorders _ _ _ _ read?_inlineDocument read?_headerDocument reordered_documents, ?_⟩
  obtain ⟨distinct, parsed⟩ := documents _ _ read?_inlineDocument
  have first : FirstProblem Prod.fst DbConfig.EntryProblem misspelled
      (.unknownKey "drivr" DbConfig.keys) := by
    have least : ∀ entry ∈ misspelled, ¬Text.bytes entry.1 < Text.bytes "drivr" := by decide
    exact ⟨("drivr", .string ""), by simp [misspelled], .unknownKey (by decide),
      fun entry mem less => absurd less (least entry mem)⟩
  have top : FirstProblem Prod.fst EntryProblem
      [("db", .table misspelled), ("port", .boolean true)] (.unknownKey "drivr" DbConfig.keys) := by
    have least : ∀ entry ∈ [("db", Value.table misspelled), ("port", .boolean true)],
        ¬Text.bytes entry.1 < Text.bytes "db" := by decide
    exact ⟨("db", .table misspelled), by simp, .value rfl (.table first),
      fun entry mem less => absurd less (least entry mem)⟩
  rw [parsed, ((trees _ distinct).rejects _).2 top]
  rfl

end Config

end QueryBuilder
