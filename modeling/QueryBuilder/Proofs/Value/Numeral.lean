import QueryBuilder.Proofs.Sql.Token
import QueryBuilder.Toml.Scalar

/-!
# Numerals read back

A numeral stands for a number whatever zeros are in front of it (`IsNumeral`), so padding does not
lose anything, and the digits around a point together are one numeral again. The readers take a sign,
a run of digits or a point with decimal places off a text, and give what was written there.
-/

namespace QueryBuilder.Number
set_option autoImplicit false

open Toml (splitAt splitSign)

/-- Digits that stand for a number, perhaps with zeros in front. -/
structure IsNumeral (ds : List Char) (n : Nat) : Prop where
  nonempty : ds ≠ []
  digits : ∀ c ∈ ds, c.isDigit = true
  value : Nat.ofDigitChars 10 ds 0 = n

/-! ## Readers -/

/-- The number that a numeral stands for. -/
def natural? (ds : List Char) : Option Nat :=
  if ds ≠ [] ∧ ds.all Char.isDigit = true then some (Nat.ofDigitChars 10 ds 0) else none

/-- A number with a sign. -/
def withSign (negative : Bool) (n : Nat) : Int := if negative then -n else n

/-- Reads a numeral with a sign. -/
def integer? (cs : List Char) : Option Int :=
  (natural? (splitSign cs).2).map (withSign (splitSign cs).1)

/-- Reads the digits that a text starts with. -/
def leading? (cs : List Char) : Option (Nat × List Char) :=
  (natural? (cs.takeWhile Char.isDigit)).map fun n => (n, cs.dropWhile Char.isDigit)

/-- Reads the digits behind a mark that a text starts with. -/
def marked? (mark : Char) : List Char → Option (Nat × List Char)
  | [] => none
  | c :: cs => if c = mark then leading? cs else none

/-- Reads digits with a point between them, and gives how many there are behind it. -/
def pointed? (cs : List Char) : Option (Nat × Nat) :=
  let (whole, places) := splitAt (· == '.') cs
  (natural? (whole ++ places.getD [])).map fun n => (n, (places.getD []).length)

/-! ## Numerals -/

theorem isNumeral_digits (n : Nat) : IsNumeral (digits n) n where
  nonempty := Nat.toDigits_ne_nil
  digits _ hc := Nat.isDigit_of_mem_toDigits (by decide) (by decide) hc
  value := Nat.ofDigitChars_ten_toDigits

/-- Zeros in front of a numeral do not count. -/
theorem isNumeral_padded (width n : Nat) : IsNumeral (padded width n) n := by
  have whole := isNumeral_digits n
  refine ⟨?_, ?_, ?_⟩
  · exact List.append_ne_nil_of_right_ne_nil _ whole.nonempty
  · intro c hc
    rcases List.mem_append.1 hc with zero | digit
    · rw [List.eq_of_mem_replicate zero]
      rfl
    · exact whole.digits c digit
  · show Nat.ofDigitChars 10 (List.replicate _ '0' ++ digits n) 0 = n
    rw [Nat.ofDigitChars_append, Nat.ofDigitChars_replicate_zero, Nat.mul_zero, whole.value]

theorem length_padded {width n : Nat} (positive : 0 < width) (h : n < Nat.pow 10 width) :
    (padded width n).length = width := by
  have short : (digits n).length ≤ width :=
    (Nat.length_toDigits_le_iff (by decide) positive).2 h
  rw [padded, List.length_leftpad]
  omega

theorem le_length_padded (width n : Nat) : width ≤ (padded width n).length := by
  rw [padded, List.length_leftpad]
  omega

/-- A text that starts with another character does not go on with the digits in front of it. -/
theorem head_cons_not_isDigit {mark : Char} (h : mark.isDigit = false) (cs : List Char) :
    ∀ c ∈ (mark :: cs).head?, c.isDigit = false := by
  intro c hc
  cases hc
  exact h

section Numerals

variable {ds : List Char} {n : Nat}

theorem IsNumeral.natural?_eq (h : IsNumeral ds n) : natural? ds = some n := by
  rw [natural?, if_pos ⟨h.nonempty, List.all_eq_true.2 h.digits⟩, h.value]

theorem IsNumeral.head_isDigit (h : IsNumeral ds n) (rest : List Char) :
    ∀ c ∈ (ds ++ rest).head?, c.isDigit = true := by
  intro c hc
  obtain ⟨d, cs, rfl⟩ := List.exists_cons_of_ne_nil h.nonempty
  cases hc
  exact h.digits c List.mem_cons_self

/-- The number of a text that goes on with something else is that of its digits. -/
theorem IsNumeral.leading?_append (h : IsNumeral ds n) {rest : List Char}
    (other : ∀ c ∈ rest.head?, c.isDigit = false) :
    leading? (ds ++ rest) = some (n, rest) := by
  rw [leading?, Sql.takeWhile_run h.digits other, Sql.dropWhile_run h.digits other, h.natural?_eq]
  rfl

theorem IsNumeral.marked?_cons (h : IsNumeral ds n) (mark : Char) {rest : List Char}
    (other : ∀ c ∈ rest.head?, c.isDigit = false) :
    marked? mark (mark :: (ds ++ rest)) = some (n, rest) := by
  rw [marked?, if_pos rfl, h.leading?_append other]

end Numerals

/-! ## Signs -/

theorem withSign_natAbs (n : Int) : withSign (decide (n < 0)) n.natAbs = n := by
  unfold withSign
  split
  · next negative =>
    have : n < 0 := of_decide_eq_true negative
    omega
  · next positive =>
    have : ¬ n < 0 := fun h => positive (decide_eq_true h)
    omega

/-- A digit is no sign. -/
theorem splitSign_of_isDigit {cs : List Char} (h : ∀ c ∈ cs.head?, c.isDigit = true) :
    splitSign cs = (false, cs) := by
  unfold splitSign
  split
  · have minus := h '-' rfl
    cases minus
  · have plus := h '+' rfl
    cases plus
  · rfl

theorem splitSign_signed (negative : Bool) {cs : List Char}
    (h : ∀ c ∈ cs.head?, c.isDigit = true) : splitSign (signed negative cs) = (negative, cs) := by
  cases negative with
  | true => rfl
  | false => exact splitSign_of_isDigit h

theorem integer?_integerText (n : Int) : integer? (integerText n) = some n := by
  have numeral := isNumeral_digits n.natAbs
  have split : splitSign (integerText n) = (decide (n < 0), digits n.natAbs) :=
    splitSign_signed _ (List.append_nil (digits n.natAbs) ▸ numeral.head_isDigit [])
  rw [integer?, split, numeral.natural?_eq, Option.map_some, withSign_natAbs]

theorem integerText_eq (n : Int) : String.ofList (integerText n) = toString n := by
  apply String.toList_injective
  rw [Int.toString_eq_repr, Int.repr_eq_if]
  by_cases h : n < 0
  · have negative : ¬ 0 ≤ n := by omega
    have absolute : n.natAbs = (-n).toNat := by omega
    rw [if_neg negative, String.toList_ofList, String.toList_append, Nat.toList_repr]
    simp [integerText, signed, h, absolute, digits]
  · have positive : 0 ≤ n := by omega
    have absolute : n.natAbs = n.toNat := by omega
    rw [if_pos positive, String.toList_ofList, Nat.toList_repr]
    simp [integerText, signed, h, absolute, digits]

/-! ## Decimal places -/

theorem splitAt_of_forall {mark : Char → Bool} {cs : List Char} (h : ∀ c ∈ cs, mark c = false) :
    splitAt mark cs = (cs, none) := by
  have kept : ∀ c ∈ cs, (!mark c) = true := fun c hc => by rw [h c hc]; rfl
  have ends : ∀ c ∈ ([] : List Char).head?, (!mark c) = false := fun _ hc => nomatch hc
  have taken := Sql.takeWhile_run kept ends
  have left := Sql.dropWhile_run kept ends
  rw [List.append_nil] at taken left
  rw [splitAt, taken, left]
  rfl

theorem splitAt_append {mark : Char → Bool} {as : List Char} (h : ∀ c ∈ as, mark c = false)
    {m : Char} (hm : mark m = true) (bs : List Char) :
    splitAt mark (as ++ m :: bs) = (as, some bs) := by
  have kept : ∀ c ∈ as, (!mark c) = true := fun c hc => by rw [h c hc]; rfl
  have ends : ∀ c ∈ (m :: bs).head?, (!mark c) = false := by
    intro c hc
    cases hc
    rw [hm]
    rfl
  rw [splitAt, Sql.takeWhile_run kept ends, Sql.dropWhile_run kept ends]
  rfl

theorem point_of_isDigit {c : Char} (h : c.isDigit = true) : (c == '.') = false := by
  rw [beq_eq_false_iff_ne]
  rintro rfl
  cases h

/-- A number without decimal places is a numeral; otherwise there is a point with as many digits
behind it as there are places, and at least one in front of it. -/
theorem fixed_cases (places n : Nat) :
    (places = 0 ∧ fixed places n = digits n) ∨
      ∃ whole fraction, fixed places n = whole ++ '.' :: fraction ∧ whole ≠ [] ∧
        fraction.length = places ∧ IsNumeral (whole ++ fraction) n := by
  by_cases none : places = 0
  · exact .inl ⟨none, if_pos none⟩
  · have numeral := isNumeral_padded (places + 1) n
    have long := le_length_padded (places + 1) n
    refine .inr ⟨_, _, if_neg none, ?_, ?_, ?_⟩
    · apply List.ne_nil_of_length_pos
      rw [List.length_take]
      omega
    · rw [List.length_drop]
      omega
    · rw [List.take_append_drop]
      exact numeral

/-- A number with decimal places reads back, and so does the number of its places. -/
theorem pointed?_fixed (places n : Nat) : pointed? (fixed places n) = some (n, places) := by
  rcases fixed_cases places n with ⟨none, text⟩ | ⟨whole, fraction, text, _, count, numeral⟩
  · have numeral := isNumeral_digits n
    have bare := splitAt_of_forall fun c hc => point_of_isDigit (numeral.digits c hc)
    rw [text, pointed?, bare, none]
    simp [numeral.natural?_eq]
  · have digits : ∀ c ∈ whole, (c == '.') = false := fun c hc =>
      point_of_isDigit (numeral.digits c (List.mem_append_left _ hc))
    have split : splitAt (· == '.') (whole ++ '.' :: fraction) = (whole, some fraction) :=
      splitAt_append digits rfl fraction
    rw [text, pointed?, split]
    simp [numeral.natural?_eq, count]

theorem head_fixed_isDigit (places n : Nat) : ∀ c ∈ (fixed places n).head?, c.isDigit = true := by
  rcases fixed_cases places n with ⟨_, text⟩ | ⟨whole, fraction, text, nonempty, _, numeral⟩
  · rw [text]
    exact List.append_nil (digits n) ▸ (isNumeral_digits n).head_isDigit []
  · obtain ⟨d, cs, rfl⟩ := List.exists_cons_of_ne_nil nonempty
    intro c hc
    rw [text] at hc
    cases hc
    exact numeral.digits d List.mem_cons_self

end QueryBuilder.Number
