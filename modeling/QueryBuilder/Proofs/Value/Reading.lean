import QueryBuilder.Proofs.Value.Numeral
import QueryBuilder.Value

/-!
# Values read back from their texts

The text of a value does not show its kind, so a text is read as a value of a given kind
(`Value.ofText?`). It gives back the value that was written, be it a date before the year 0 or after
the year 9999, a leap second, a fraction of a second that ends in zeros or a decimal with zeros behind
its point. The exception are times whose count of nanoseconds runs on from another second than the
last one of a minute: such a time has the text of the next second (`Value.carried`), and no reader can
tell the two (`Value.no_timestamp_reader`). Floating-point numbers have no reader here: NaN has many
bits and one text. Main statement: `Value.ofText?_text`.
-/

namespace QueryBuilder
set_option autoImplicit false

open Number Calendar
open Toml (hexDigit? splitSign)

/-! ## Readers -/

/-- Reads a date that a text starts with. -/
def Date.leading? (cs : List Char) : Option (Date × List Char) := do
  let (negative, cs) := splitSign cs
  let (year, cs) ← Number.leading? cs
  let (month, cs) ← marked? '-' cs
  let (day, cs) ← marked? '-' cs
  let date ← Date.of? (withSign negative year) month day
  return (date, cs)

/-- Reads a part of a second in nanoseconds; the last digit counts for what is behind the point. -/
def Calendar.fraction? : List Char → Option Nat
  | [] => some 0
  | '.' :: ds => (natural? ds).map (· * Nat.pow 10 (9 - ds.length))
  | _ => none

/-- Reads a time of day. Second 60 is the leap second, which goes on from second 59. -/
def TimeOfDay.ofChars? (cs : List Char) : Option TimeOfDay := do
  let (hour, cs) ← leading? cs
  let (minute, cs) ← marked? ':' cs
  let (second, cs) ← marked? ':' cs
  let nanosecond ← fraction? cs
  if second = 60 then TimeOfDay.of? hour minute 59 (1000000000 + nanosecond)
  else TimeOfDay.of? hour minute second nanosecond

/-- Reads a date and a time of day with a blank between them. -/
def Timestamp.ofChars? (cs : List Char) : Option Timestamp := do
  match ← Date.leading? cs with
  | (date, ' ' :: cs) => (TimeOfDay.ofChars? cs).map fun time => ⟨date, time⟩
  | _ => none

/-- Reads a decimal; its scale is the number of digits behind the point. -/
def Decimal.ofChars? (cs : List Char) : Option Decimal := do
  let (negative, cs) := splitSign cs
  let (mantissa, scale) ← pointed? cs
  Decimal.of? (withSign negative mantissa) scale

namespace Value

/-- Reads bytes, two hexadecimal digits each. -/
def bytes? : List Char → Option (List UInt8)
  | [] => some []
  | [_] => none
  | high :: low :: cs => do
    let high ← hexDigit? high
    let low ← hexDigit? low
    let rest ← bytes? cs
    return .ofNat (16 * high + low) :: rest

/-- Reads an integer that a type with these conversions can hold. -/
def bounded? {α : Type} (ofInt : Int → α) (toInt : α → Int) (cs : List Char) : Option α := do
  let n ← Number.integer? cs
  if toInt (ofInt n) = n then some (ofInt n) else none

/-- The kinds of values that a text can be read as. -/
inductive Kind where
  | bool | int16 | int32 | int64 | string | bytes | timestamp | decimal
  deriving DecidableEq

/-- The kinds of integers. -/
def Kind.isInteger : Kind → Bool
  | int16 | int32 | int64 => true
  | _ => false

/-- The kind of a value that is neither `NULL` nor a floating-point number. -/
def kind? : Value → Option Kind
  | null | single _ | double _ => none
  | bool _ => some .bool
  | int16 _ => some .int16
  | int32 _ => some .int32
  | int64 _ => some .int64
  | string _ => some .string
  | bytes _ => some .bytes
  | timestamp _ => some .timestamp
  | decimal _ => some .decimal

/-- Reads a text as a value of a kind. -/
def ofText? (k : Kind) (s : String) : Option Value :=
  match k with
  | .bool => if s = "true" then some (bool true) else if s = "false" then some (bool false) else none
  | .int16 => (bounded? Int16.ofInt Int16.toInt s.toList).map int16
  | .int32 => (bounded? Int32.ofInt Int32.toInt s.toList).map int32
  | .int64 => (bounded? Int64.ofInt Int64.toInt s.toList).map int64
  | .string => some (string s)
  | .bytes => (bytes? s.toList).map bytes
  | .timestamp => (Timestamp.ofChars? s.toList).map timestamp
  | .decimal => (Decimal.ofChars? s.toList).map decimal

end Value

/-! ## Dates -/

theorem Date.of?_self (d : Date) : Date.of? d.year d.month d.day = some d :=
  dif_pos ⟨d.year_ge, d.year_le, d.isDay⟩

/-- A year is written with its sign in front of its digits, where it has one. -/
theorem Calendar.splitSign_yearText (year : Int) (rest : List Char) :
    ∃ ds, IsNumeral ds year.natAbs ∧
      splitSign (yearText year ++ rest) = (decide (year < 0), ds ++ rest) := by
  unfold yearText
  split
  · next late =>
    have positive : decide (year < 0) = false := decide_eq_false (by omega)
    refine ⟨digits year.natAbs, isNumeral_digits _, ?_⟩
    rw [positive]
    rfl
  · have numeral := isNumeral_padded 4 year.natAbs
    refine ⟨padded 4 year.natAbs, numeral, ?_⟩
    have front : signed (decide (year < 0)) (padded 4 year.natAbs) ++ rest =
        signed (decide (year < 0)) (padded 4 year.natAbs ++ rest) := by
      cases decide (year < 0) <;> rfl
    rw [front, splitSign_signed _ (numeral.head_isDigit rest)]

theorem Date.leading?_text (d : Date) {rest : List Char}
    (other : ∀ c ∈ rest.head?, c.isDigit = false) : leading? (d.text ++ rest) = some (d, rest) := by
  have dash : ∀ cs, ∀ c ∈ ('-' :: cs).head?, c.isDigit = false := head_cons_not_isDigit rfl
  have text : d.text ++ rest = yearText d.year ++
      '-' :: (padded 2 d.month ++ '-' :: (padded 2 d.day ++ rest)) := by simp [Date.text]
  obtain ⟨ds, numeral, sign⟩ := splitSign_yearText d.year
    ('-' :: (padded 2 d.month ++ '-' :: (padded 2 d.day ++ rest)))
  have year := numeral.leading?_append (dash (padded 2 d.month ++ '-' :: (padded 2 d.day ++ rest)))
  have month := (isNumeral_padded 2 d.month).marked?_cons '-' (dash (padded 2 d.day ++ rest))
  have day := (isNumeral_padded 2 d.day).marked?_cons '-' other
  rw [text, leading?, sign]
  simp [year, month, day, withSign_natAbs, d.of?_self]

/-! ## Times of day -/

/-- Three, six or nine digits give the nanoseconds back, whichever are written. -/
theorem Calendar.fraction?_fractionText {n : Nat} (h : n < 1000000000) :
    fraction? (fractionText n) = some n := by
  have read {width m : Nat} (positive : 0 < width) (small : m < 10 ^ width) :
      fraction? ('.' :: padded width m) = some (m * 10 ^ (9 - width)) := by
    rw [fraction?, (isNumeral_padded width m).natural?_eq, length_padded positive small]
    rfl
  unfold fractionText
  split
  · next zero => rw [zero, fraction?]
  · split
    · next millis =>
      rw [read (by omega) (by omega)]
      congr 1
      omega
    · split
      · next micros =>
        rw [read (by omega) (by omega)]
        congr 1
        omega
      · rw [read (by omega) (by omega)]
        congr 1
        omega

theorem Calendar.head_fractionText (n : Nat) :
    ∀ c ∈ (fractionText n).head?, c.isDigit = false := by
  unfold fractionText
  split
  · exact fun _ hc => nomatch hc
  · split
    · exact head_cons_not_isDigit rfl _
    · split
      · exact head_cons_not_isDigit rfl _
      · exact head_cons_not_isDigit rfl _

namespace TimeOfDay

/-- The count of nanoseconds passes 10^9 only in second 59. -/
def Regular (t : TimeOfDay) : Prop := 1000000000 ≤ t.nanosecond → t.second = 59

instance (t : TimeOfDay) : Decidable t.Regular :=
  inferInstanceAs (Decidable (1000000000 ≤ t.nanosecond → t.second = 59))

/-- The regular time that is written alike: what passes 10^9 is carried to the next second. -/
def carried (t : TimeOfDay) : TimeOfDay :=
  if h : t.Regular then t
  else
    { t with
      second := t.second + 1
      nanosecond := t.nanosecond - 1000000000
      second_lt := by
        have other : t.second ≠ 59 := fun e => h fun _ => e
        have := t.second_lt
        omega
      nanosecond_lt := by
        have := t.nanosecond_lt
        omega }

theorem carried_eq_self_iff {t : TimeOfDay} : t.carried = t ↔ t.Regular := by
  unfold carried
  split
  · next regular => exact iff_of_true rfl regular
  · next irregular =>
    refine iff_of_false (fun same => ?_) irregular
    have second : t.second + 1 = t.second := congrArg TimeOfDay.second same
    omega

theorem of?_self {t : TimeOfDay} (h : t.Regular) :
    TimeOfDay.of? t.hour t.minute t.second t.nanosecond = some t :=
  dif_pos ⟨t.hour_lt, t.minute_lt, t.second_lt, t.nanosecond_lt, h⟩

theorem regular_carried (t : TimeOfDay) : t.carried.Regular := by
  unfold carried
  split
  · next regular => exact regular
  · intro late
    have below := t.nanosecond_lt
    dsimp only at late
    omega

theorem text_carried (t : TimeOfDay) : t.carried.text = t.text := by
  unfold carried
  split
  · rfl
  · next irregular =>
    have late : 1000000000 ≤ t.nanosecond := (Decidable.not_imp_iff_and_not.1 irregular).1
    have second : t.second + 1 + (t.nanosecond - 1000000000) / 1000000000 =
        t.second + t.nanosecond / 1000000000 := by omega
    have rest : (t.nanosecond - 1000000000) % 1000000000 = t.nanosecond % 1000000000 := by omega
    simp only [text, second, rest]

/-- What is written as second 60 runs on from second 59, and everything else is what it says. -/
theorem of?_written (t : TimeOfDay) :
    (if t.second + t.nanosecond / 1000000000 = 60 then
      TimeOfDay.of? t.hour t.minute 59 (1000000000 + t.nanosecond % 1000000000)
    else TimeOfDay.of? t.hour t.minute (t.second + t.nanosecond / 1000000000)
      (t.nanosecond % 1000000000)) = some t.carried := by
  have below := t.second_lt
  have bound := t.nanosecond_lt
  rw [← of?_self t.regular_carried]
  by_cases late : 1000000000 ≤ t.nanosecond
  · have whole : t.nanosecond / 1000000000 = 1 := by omega
    have rest : t.nanosecond % 1000000000 = t.nanosecond - 1000000000 := by omega
    rw [whole, rest]
    by_cases last : t.second = 59
    · have regular : t.Regular := fun _ => last
      have back : 1000000000 + (t.nanosecond - 1000000000) = t.nanosecond := by omega
      rw [if_pos (by omega), back, carried, dif_pos regular, last]
    · have irregular : ¬ t.Regular := fun h => last (h late)
      rw [if_neg (by omega), carried, dif_neg irregular]
  · have regular : t.Regular := fun h => absurd h late
    have whole : t.nanosecond / 1000000000 = 0 := by omega
    have rest : t.nanosecond % 1000000000 = t.nanosecond := by omega
    rw [whole, rest, Nat.add_zero, if_neg (by omega), carried, dif_pos regular]

theorem ofChars?_text (t : TimeOfDay) : ofChars? t.text = some t.carried := by
  have colon : ∀ cs, ∀ c ∈ (':' :: cs).head?, c.isDigit = false := head_cons_not_isDigit rfl
  have written := t.of?_written
  have below : t.nanosecond % 1000000000 < 1000000000 := Nat.mod_lt _ (by decide)
  have fraction := fraction?_fractionText below
  have stops := head_fractionText (t.nanosecond % 1000000000)
  unfold text
  generalize t.second + t.nanosecond / 1000000000 = second at written ⊢
  generalize fractionText (t.nanosecond % 1000000000) = rest at fraction stops ⊢
  have text : padded 2 t.hour ++ ':' :: padded 2 t.minute ++ ':' :: padded 2 second ++ rest =
      padded 2 t.hour ++ ':' :: (padded 2 t.minute ++ ':' :: (padded 2 second ++ rest)) := by simp
  have hour := (isNumeral_padded 2 t.hour).leading?_append
    (colon (padded 2 t.minute ++ ':' :: (padded 2 second ++ rest)))
  have minute := (isNumeral_padded 2 t.minute).marked?_cons ':' (colon (padded 2 second ++ rest))
  have seconds := (isNumeral_padded 2 second).marked?_cons ':' stops
  rw [text, ofChars?]
  simpa [hour, minute, seconds, fraction] using written

end TimeOfDay

theorem Timestamp.ofChars?_text (t : Timestamp) :
    ofChars? t.text = some ⟨t.date, t.time.carried⟩ := by
  rw [text, ofChars?, t.date.leading?_text (head_cons_not_isDigit rfl t.time.text)]
  simp [t.time.ofChars?_text]

/-! ## Decimals, bytes and integers -/

theorem Decimal.of?_self (d : Decimal) : Decimal.of? d.mantissa d.scale = some d :=
  dif_pos ⟨d.mantissa_lt, d.scale_le⟩

theorem Decimal.ofChars?_text (d : Decimal) : ofChars? d.text = some d := by
  have sign := splitSign_signed (decide (d.mantissa < 0))
    (head_fixed_isDigit d.scale d.mantissa.natAbs)
  rw [text, ofChars?, sign]
  simp [pointed?_fixed, withSign_natAbs, d.of?_self]

namespace Value

theorem hexDigit?_digitChar : ∀ n < 16, hexDigit? (Nat.digitChar n) = some n := by decide

theorem bytes?_flatMap (bs : List UInt8) : bytes? (bs.flatMap byteText) = some bs := by
  induction bs with
  | nil => rfl
  | cons b bs ih =>
    have range : b.toNat < 256 := b.toNat_lt
    have high := hexDigit?_digitChar (b.toNat / 16) (by omega)
    have low := hexDigit?_digitChar (b.toNat % 16) (by omega)
    have halves : 16 * (b.toNat / 16) + b.toNat % 16 = b.toNat := by omega
    have byte : UInt8.ofNat (16 * (b.toNat / 16) + b.toNat % 16) = b := by
      rw [halves]
      exact UInt8.ofNat_toNat
    have digits : (b :: bs).flatMap byteText = Nat.digitChar (b.toNat / 16) ::
        Nat.digitChar (b.toNat % 16) :: bs.flatMap byteText := rfl
    rw [digits, bytes?, high, low, ih]
    exact congrArg (fun c => some (c :: bs)) byte

theorem bounded?_integerText {α : Type} {ofInt : Int → α} {toInt : α → Int}
    (inverse : ∀ x, ofInt (toInt x) = x) (x : α) :
    bounded? ofInt toInt (integerText (toInt x)) = some x := by
  rw [bounded?, integer?_integerText]
  simp [inverse x]

/-- Every value is regular but for times whose count runs on from another second than the last. -/
def Regular : Value → Prop
  | timestamp t => t.time.Regular
  | _ => True

/-- The regular value of the same kind that is written alike. -/
def carried : Value → Value
  | timestamp t => timestamp ⟨t.date, t.time.carried⟩
  | v => v

theorem carried_eq_self_iff {v : Value} : v.carried = v ↔ v.Regular := by
  cases v with
  | timestamp t =>
    obtain ⟨date, time⟩ := t
    simp only [carried, Regular, timestamp.injEq, Timestamp.mk.injEq, true_and,
      TimeOfDay.carried_eq_self_iff]
  | _ => exact iff_of_true rfl trivial

theorem text_carried (v : Value) : v.carried.text = v.text := by
  cases v with
  | timestamp t =>
    have date : (Timestamp.mk t.date t.time.carried).text = t.text := by
      rw [Timestamp.text, TimeOfDay.text_carried]
      rfl
    exact congrArg String.ofList date
  | _ => rfl

theorem ofText?_text_of_kind? {v : Value} {k : Kind} (h : v.kind? = some k) :
    ofText? k v.text = some v.carried := by
  cases v with
  | null => cases h
  | single x => cases h
  | double x => cases h
  | bool b =>
    cases h
    cases b <;> rfl
  | int16 n =>
    cases h
    rw [ofText?, toList_text, chars, bounded?_integerText Int16.ofInt_toInt]
    rfl
  | int32 n =>
    cases h
    rw [ofText?, toList_text, chars, bounded?_integerText Int32.ofInt_toInt]
    rfl
  | int64 n =>
    cases h
    rw [ofText?, toList_text, chars, bounded?_integerText Int64.ofInt_toInt]
    rfl
  | string s =>
    cases h
    rw [ofText?, text, chars, String.ofList_toList]
    rfl
  | bytes bs =>
    cases h
    rw [ofText?, toList_text, chars, bytes?_flatMap]
    rfl
  | timestamp t =>
    cases h
    rw [ofText?, toList_text, chars, t.ofChars?_text]
    rfl
  | decimal d =>
    cases h
    rw [ofText?, toList_text, chars, d.ofChars?_text]
    rfl

theorem text_of_isInteger {v : Value} {k : Kind} (h : v.kind? = some k) (integer : k.isInteger) :
    ∃ n, v.integer? = some n ∧ v.text = toString n := by
  cases v with
  | int16 n => exact ⟨n.toInt, rfl, integerText_eq n.toInt⟩
  | int32 n => exact ⟨n.toInt, rfl, integerText_eq n.toInt⟩
  | int64 n => exact ⟨n.toInt, rfl, integerText_eq n.toInt⟩
  | _ =>
    cases h <;> cases integer

theorem kind?_eq_none_iff {v : Value} :
    v.kind? = none ↔ v = null ∨ (∃ x, v = single x) ∨ ∃ x, v = double x := by
  cases v <;> simp [kind?]

/-- **What texts of values lose.** Every value that is neither `NULL` nor a floating-point number has
a kind, and it is what its text is read as in that kind exactly if it is regular. Two values of one kind
have one text exactly if they are carried to one value. The text of an integer is the decimal form of
the number that it holds. -/
theorem ofText?_text (v : Value) :
    (v.kind? = none ↔ v = null ∨ (∃ x, v = single x) ∨ ∃ x, v = double x) ∧
    ∀ k, v.kind? = some k →
      (ofText? k v.text = some v ↔ v.Regular) ∧
      (∀ w : Value, w.kind? = some k → (w.text = v.text ↔ w.carried = v.carried)) ∧
      (k.isInteger = true → ∃ n, v.integer? = some n ∧ v.text = toString n) := by
  refine ⟨kind?_eq_none_iff, fun k kind => ?_⟩
  have read := ofText?_text_of_kind? kind
  refine ⟨?_, fun w other => ⟨fun same => ?_, fun same => ?_⟩, text_of_isInteger kind⟩
  · rw [read, Option.some.injEq, carried_eq_self_iff]
  · have both := ofText?_text_of_kind? other
    rw [same, read] at both
    exact (Option.some.inj both).symm
  · rw [← w.text_carried, same, v.text_carried]

/-- A leap second of a year before the year 0, and ten nanoseconds. -/
def leapSecond : Timestamp :=
  ⟨⟨-44, 12, 31, by decide, by decide, by decide⟩,
    ⟨23, 59, 59, 1000000010, by decide, by decide, by decide, by decide⟩⟩

/-- Fifty units of the fourth decimal place below zero. -/
def smallDecimal : Decimal := ⟨-50, 4, by decide, by decide⟩

/-- Zeros are kept where they stand for something, and the least number of 16 bits is in range. -/
theorem leapSecond_read :
    ofText? .timestamp "-0044-12-31 23:59:60.000000010" = some (timestamp leapSecond) ∧
    ofText? .decimal "-0.0050" = some (decimal smallDecimal) ∧
    ofText? .bytes "0aff00" = some (bytes [10, 255, 0]) ∧
    ofText? .int16 "-32768" = some (int16 (-32768)) ∧ toString (-32768 : Int) = "-32768" := by
  have instant : (timestamp leapSecond).text = "-0044-12-31 23:59:60.000000010" := by decide
  have amount : (decimal smallDecimal).text = "-0.0050" := by decide
  have blob : (bytes [10, 255, 0]).text = "0aff00" := by decide
  have number : (int16 (-32768)).text = "-32768" := by decide
  have leap : (timestamp leapSecond).Regular := fun _ => rfl
  obtain ⟨least, _, decimalForm⟩ := (int16 (-32768)).ofText?_text.2 _ rfl
  obtain ⟨n, held, form⟩ := decimalForm rfl
  cases held
  rw [← instant, ← amount, ← blob, ← number]
  exact ⟨((timestamp leapSecond).ofText?_text.2 _ rfl).1.2 leap,
    ((decimal smallDecimal).ofText?_text.2 _ rfl).1.2 trivial,
    ((bytes [10, 255, 0]).ofText?_text.2 _ rfl).1.2 trivial, least.2 trivial, form.symm⟩

/-- Shortly after 23:56:05, as the second before it with a count that runs on. -/
def lateCount : Timestamp :=
  ⟨⟨2015, 6, 30, by decide, by decide, by decide⟩,
    ⟨23, 56, 4, 1333333333, by decide, by decide, by decide, by decide⟩⟩

/-- Shortly after 23:56:05. -/
def nextSecond : Timestamp :=
  ⟨lateCount.date, ⟨23, 56, 5, 333333333, by decide, by decide, by decide, by decide⟩⟩

/-- Replacing the count of a time gives one that runs on. Such a time is not the next second and has its
text, so whatever reads timestamps misreads one of the two. -/
theorem no_timestamp_reader :
    (TimeOfDay.of? 23 56 4 12345678).bind (·.withNanosecond? 1333333333) = some lateCount.time ∧
    (timestamp lateCount).same (timestamp nextSecond) = false ∧
    (timestamp lateCount).text = "2015-06-30 23:56:05.333333333" ∧
    (timestamp nextSecond).text = "2015-06-30 23:56:05.333333333" ∧
    ¬ ∃ read : String → Option Value, ∀ v : Value, v.kind? = some .timestamp → read v.text = some v := by
  have late : (timestamp lateCount).text = "2015-06-30 23:56:05.333333333" := by decide
  have next : (timestamp nextSecond).text = "2015-06-30 23:56:05.333333333" := by decide
  refine ⟨by decide, by decide, late, next, fun ⟨read, recovers⟩ => ?_⟩
  have first := recovers (timestamp lateCount) rfl
  have second := recovers (timestamp nextSecond) rfl
  rw [late] at first
  rw [next, first] at second
  exact absurd (Option.some.inj second) (by decide)

end Value

end QueryBuilder
