import QueryBuilder.Calendar
import QueryBuilder.Toml.Token
import QueryBuilder.Toml.Value

/-!
# TOML scalars that are written without quotes

Booleans, integers, floating-point numbers, dates and times. A numeral may have single
underscores between digits; a decimal one has no leading zero. Integers are not bounded
here: what a reader of the value can hold is its own affair.
-/

namespace QueryBuilder.Toml
set_option autoImplicit false

open Number

/-- Decimal digits. -/
def isDigit (c : Char) : Bool := '0' ≤ c && c ≤ '9'

/-- The digits of a nonempty numeral that may have single underscores between digits. -/
def digitGroups? (digit : Char → Bool) : List Char → Option (List Char)
  | [] => none
  | [c] => if digit c then some [c] else none
  | c :: '_' :: rest => if digit c then (digitGroups? digit rest).map (c :: ·) else none
  | c :: rest => if digit c then (digitGroups? digit rest).map (c :: ·) else none

/-- The number that digits give in a base up to sixteen. -/
def ofDigits (base : Nat) (ds : List Char) : Nat :=
  ds.foldl (fun n c => base * n + (hexDigit? c).getD 0) 0

/-- A numeral in a base that is named by a sign after a zero. -/
def basedInteger? (base : Nat) (cs : List Char) : Option Nat :=
  (digitGroups? (fun c => (hexDigit? c).any (· < base)) cs).map (ofDigits base)

/-- The digits of a decimal numeral without a leading zero. -/
def decimalDigits? (cs : List Char) : Option (List Char) :=
  match digitGroups? isDigit cs with
  | some ('0' :: _ :: _) => none
  | ds => ds

/-- An optional sign in front of a numeral. -/
def splitSign : List Char → Bool × List Char
  | '-' :: rest => (true, rest)
  | '+' :: rest => (false, rest)
  | cs => (false, cs)

/-- Reads an integer: decimal with an optional sign, or in base 16, 8 or 2 without one. -/
def integer? (cs : List Char) : Option Int :=
  match cs with
  | '0' :: 'x' :: rest => (basedInteger? 16 rest).map Int.ofNat
  | '0' :: 'o' :: rest => (basedInteger? 8 rest).map Int.ofNat
  | '0' :: 'b' :: rest => (basedInteger? 2 rest).map Int.ofNat
  | _ =>
    let (negative, numeral) := splitSign cs
    (decimalDigits? numeral).map fun ds =>
      if negative then -(ofDigits 10 ds : Int) else ofDigits 10 ds

/-- Splits a numeral at the first character that `mark` accepts, which is dropped. -/
def splitAt (mark : Char → Bool) (cs : List Char) : List Char × Option (List Char) :=
  (cs.takeWhile (!mark ·), (cs.dropWhile (!mark ·)).tail?)

/-- The bits of `± whole.fraction * 10 ^ exponent`, rounded to the nearest number; `none` if
that is infinite. -/
def roundedFloat (negative : Bool) (whole fraction : List Char) (exponent : Int) : Value :=
  let bits := Format.double.nearest negative (ofDigits 10 (whole ++ fraction))
    (exponent - fraction.length)
  match Format.double.decode bits with
  | .infinite _ => .floatOverflow
  | _ => .float ⟨bits.toUInt64⟩

/-- Reads a floating-point number: digits with a fraction, an exponent or both, or one of the
names `inf` and `nan`. -/
def float? (cs : List Char) : Option Value :=
  let (negative, unsigned) := splitSign cs
  let sign : UInt64 := if negative then 0x8000000000000000 else 0
  if unsigned = "inf".toList then some (.float ⟨sign ||| 0x7ff0000000000000⟩)
  else if unsigned = "nan".toList then some (.float ⟨sign ||| 0x7ff8000000000000⟩)
  else do
    let (mantissa, exponent) := splitAt (fun c => c == 'e' || c == 'E') unsigned
    let (whole, fraction) := splitAt (· == '.') mantissa
    guard (fraction.isSome || exponent.isSome)
    let wholeDigits ← decimalDigits? whole
    let fractionDigits ← match fraction with
      | none => some []
      | some ds => digitGroups? isDigit ds
    let power ← match exponent with
      | none => some 0
      | some e =>
        let (below, ds) := splitSign e
        (digitGroups? isDigit ds).map fun ds =>
          if below then -(ofDigits 10 ds : Int) else (ofDigits 10 ds : Int)
    return roundedFloat negative wholeDigits fractionDigits power

/-- The number of two digits. -/
def pair? (a b : Char) : Option Nat :=
  if isDigit a && isDigit b then some (ofDigits 10 [a, b]) else none

/-- What follows a full date at the front of a text. -/
def afterDate? : List Char → Option (List Char)
  | y₁ :: y₂ :: y₃ :: y₄ :: '-' :: m₁ :: m₂ :: '-' :: d₁ :: d₂ :: rest => do
    let century ← pair? y₁ y₂
    let year ← pair? y₃ y₄
    let month ← pair? m₁ m₂
    let day ← pair? d₁ d₂
    guard (Calendar.isDay (100 * century + year : Nat) month day)
    return rest
  | _ => none

/-- What follows the fraction of a second, if there is one at the front of a text. -/
def afterFraction? : List Char → Option (List Char)
  | '.' :: c :: rest => if isDigit c then some (rest.dropWhile isDigit) else none
  | '.' :: [] => none
  | cs => some cs

/-- What follows a time of day at the front of a text. Seconds may be missing. -/
def afterTime? : List Char → Option (List Char)
  | h₁ :: h₂ :: ':' :: m₁ :: m₂ :: rest => do
    let hour ← pair? h₁ h₂
    let minute ← pair? m₁ m₂
    guard (hour ≤ 24 && minute ≤ 59)
    match rest with
    | ':' :: s₁ :: s₂ :: rest => do
      let second ← pair? s₁ s₂
      guard (second ≤ 60)
      afterFraction? rest
    | rest => some rest
  | _ => none

/-- Whether a text is the offset of a zone, or empty. -/
def isOffset : List Char → Bool
  | [] | ['Z'] | ['z'] => true
  | [sign, h₁, h₂, ':', m₁, m₂] =>
    (sign == '+' || sign == '-') &&
      match pair? h₁ h₂, pair? m₁ m₂ with
      | some hour, some minute => 60 * hour + minute ≤ 1440
      | _, _ => false
  | _ => false

/-- Whether a text is a date, a time of day, or a date and a time with an optional offset. -/
def isMoment (cs : List Char) : Bool :=
  match afterDate? cs with
  | some [] => true
  | some (mark :: rest) => ['T', 't', ' '].contains mark && (afterTime? rest).any isOffset
  | none => afterTime? cs == some []

/-- Reads a value that is written without quotes. -/
def scalar? (cs : List Char) : Option Value :=
  if cs = "true".toList then some (.boolean true)
  else if cs = "false".toList then some (.boolean false)
  else
    match integer? cs with
    | some n => some (.integer n)
    | none =>
      match float? cs with
      | some x => some x
      | none => if isMoment cs then some (.moment (String.ofList cs)) else none

end QueryBuilder.Toml
