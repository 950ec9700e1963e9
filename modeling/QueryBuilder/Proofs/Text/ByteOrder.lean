import Mathlib.Data.List.Sort
import Mathlib.Data.String.Basic

/-!
# The order of texts by their bytes

Texts are compared character by character, which gives the order of their bytes in UTF-8
(`bytes_lt_iff`): of two characters the smaller one has the smaller bytes, whatever follows, since
more bytes begin with a greater one and as many bytes hold the digits of the code point from the
highest one on (`utf8EncodeChar_append_lt`). Entries with different keys have one increasing list
(`Increasing.eq_of_perm`), and sorting them by their keys gives it (`increasing_mergeSort`).
-/

namespace QueryBuilder.Text
set_option autoImplicit false

/-- The bytes of a text in UTF-8. -/
def bytes (s : String) : List UInt8 := s.toByteArray.data.toList

theorem bytes_eq (s : String) : bytes s = s.toList.flatMap String.utf8EncodeChar := by
  rw [bytes, ← String.utf8Encode_toList, List.utf8Encode]
  simp

/-! ## Characters -/

/-- The bytes of a character are the digits of its code point to the base 64, each with a mark; how
many there are depends on the size of the code point. -/
theorem utf8EncodeChar_cases (c : Char) :
    (c.toNat < 128 ∧ String.utf8EncodeChar c = [.ofNat c.toNat]) ∨
    (∃ k m, 2 ≤ k ∧ k < 32 ∧ m < 64 ∧ c.toNat = 64 * k + m ∧
      String.utf8EncodeChar c = [.ofNat (k + 192), .ofNat (m + 128)]) ∨
    (∃ k m n, 32 ≤ 64 * k + m ∧ k < 16 ∧ m < 64 ∧ n < 64 ∧ c.toNat = 4096 * k + 64 * m + n ∧
      String.utf8EncodeChar c = [.ofNat (k + 224), .ofNat (m + 128), .ofNat (n + 128)]) ∨
    (∃ k m n p, 16 ≤ 64 * k + m ∧ k < 8 ∧ m < 64 ∧ n < 64 ∧ p < 64 ∧
      c.toNat = 262144 * k + 4096 * m + 64 * n + p ∧ String.utf8EncodeChar c =
        [.ofNat (k + 240), .ofNat (m + 128), .ofNat (n + 128), .ofNat (p + 128)]) := by
  have value : c.toNat = c.val.toNat := rfl
  have range : c.val.toNat < 0x110000 := by
    rcases c.valid with low | ⟨_, high⟩
    · exact Nat.lt_trans low (by decide)
    · exact high
  fun_cases String.utf8EncodeChar c with
  | case1 v h => exact .inl ⟨Nat.lt_succ_of_le h, rfl⟩
  | case2 v _ h =>
    refine .inr (.inl ⟨v / 64 % 32, v % 64, ?_, ?_, ?_, ?_, rfl⟩) <;> omega
  | case3 v _ _ h =>
    refine .inr (.inr (.inl ⟨v / 4096 % 16, v / 64 % 64, v % 64, ?_, ?_, ?_, ?_, ?_, rfl⟩)) <;> omega
  | case4 v _ _ h =>
    refine .inr (.inr (.inr ⟨v / 262144 % 8, v / 4096 % 64, v / 64 % 64, v % 64,
      ?_, ?_, ?_, ?_, ?_, ?_, rfl⟩)) <;> omega

theorem utf8EncodeChar_append_lt {c d : Char} (h : c < d) (x y : List UInt8) :
    String.utf8EncodeChar c ++ x < String.utf8EncodeChar d ++ y := by
  have less : c.toNat < d.toNat := h
  rcases utf8EncodeChar_cases c with h | ⟨k, m, h⟩ | ⟨k, m, n, h⟩ | ⟨k, m, n, p, h⟩ <;>
  rcases utf8EncodeChar_cases d with h' | ⟨k', m', h'⟩ | ⟨k', m', n', h'⟩ | ⟨k', m', n', p', h'⟩ <;>
  simp only [h, h', List.cons_append, List.nil_append, List.cons_lt_cons_iff,
    UInt8.lt_iff_toNat_lt, ← UInt8.toNat_inj, UInt8.toNat_ofNat'] <;> omega

/-! ## Texts -/

theorem flatMap_utf8EncodeChar_lt {cs ds : List Char} (h : cs < ds) :
    cs.flatMap String.utf8EncodeChar < ds.flatMap String.utf8EncodeChar := by
  induction h with
  | @nil d ds =>
    obtain ⟨b, bs, nonempty⟩ := List.exists_cons_of_ne_nil (String.utf8EncodeChar_ne_nil (c := d))
    rw [List.flatMap_nil, List.flatMap_cons, nonempty]
    exact List.nil_lt_cons b _
  | rel h => exact utf8EncodeChar_append_lt h _ _
  | cons h ih => exact List.append_left_lt ih

/-- Comparing texts by their characters is comparing them by their bytes. -/
theorem bytes_lt_iff {s t : String} : bytes s < bytes t ↔ s < t := by
  have forward {s t : String} (h : s < t) : bytes s < bytes t := by
    rw [bytes_eq, bytes_eq]
    exact flatMap_utf8EncodeChar_lt (String.lt_iff_toList_lt.1 h)
  refine ⟨fun h => ?_, forward⟩
  rcases lt_trichotomy s t with less | rfl | greater
  · exact less
  · exact absurd h (List.lt_irrefl _)
  · exact absurd h (List.lt_asymm (forward greater))

/-! ## Entries in the order of their keys -/

section Increasing

variable {α : Type} {key : α → String} {l m : List α}

/-- The entries are in the byte order of their keys, each key once. -/
def Increasing (key : α → String) (l : List α) : Prop :=
  l.Pairwise fun a b => bytes (key a) < bytes (key b)

theorem increasing_mergeSort (distinct : (l.map key).Nodup) :
    Increasing key (l.mergeSort fun a b => key a ≤ key b) := by
  have ordered : (l.mergeSort fun a b => key a ≤ key b).Pairwise fun a b => key a ≤ key b := by
    have trans (a b c : α) (hab : decide (key a ≤ key b)) (hbc : decide (key b ≤ key c)) :
        decide (key a ≤ key c) :=
      decide_eq_true (le_trans (of_decide_eq_true hab) (of_decide_eq_true hbc))
    have total (a b : α) : decide (key a ≤ key b) || decide (key b ≤ key a) := by
      simpa using le_total (key a) (key b)
    exact (List.pairwise_mergeSort trans total l).imp of_decide_eq_true
  have apart : (l.mergeSort fun a b => key a ≤ key b).Pairwise fun a b => key a ≠ key b :=
    List.pairwise_map.1 (((List.mergeSort_perm l _).map key).nodup_iff.2 distinct)
  exact (ordered.and apart).imp fun h => bytes_lt_iff.2 (lt_of_le_of_ne h.1 h.2)

theorem Increasing.eq_of_perm (hl : Increasing key l) (hm : Increasing key m) (h : l.Perm m) :
    l = m :=
  h.eq_of_pairwise (fun _ _ _ _ less greater => absurd less (List.lt_asymm greater)) hl hm

/-- The order in which entries with different keys come does not count once they are sorted. -/
theorem mergeSort_eq_of_perm (distinct : (l.map key).Nodup) (h : l.Perm m) :
    (l.mergeSort fun a b => key a ≤ key b) = m.mergeSort fun a b => key a ≤ key b := by
  have same : (l.mergeSort fun a b => key a ≤ key b).Perm (m.mergeSort fun a b => key a ≤ key b) :=
    ((List.mergeSort_perm l _).trans h).trans (List.mergeSort_perm m _).symm
  exact (increasing_mergeSort distinct).eq_of_perm
    (increasing_mergeSort ((h.map key).nodup_iff.1 distinct)) same

end Increasing

end QueryBuilder.Text
