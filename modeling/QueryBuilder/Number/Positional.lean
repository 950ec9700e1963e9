/-!
# Decimal numerals without an exponent

`digits` is the decimal numeral of a natural number and `positional c e` writes `c * 10 ^ e`
with a point where `e` is negative: `positional 5 (-3)` is `0.005`, `positional 12 3` is
`12000`. There is always a digit before the point.
-/

namespace QueryBuilder.Number
set_option autoImplicit false

/-- The decimal numeral of `n`. -/
def digits (n : Nat) : List Char := Nat.toDigits 10 n

/-- The decimal numeral of `n`, filled up with zeros on the left to `width` characters. -/
def padded (width n : Nat) : List Char := (digits n).leftpad width '0'

/-- A numeral with a minus sign in front when `negative` holds. -/
def signed (negative : Bool) (numeral : List Char) : List Char :=
  if negative then '-' :: numeral else numeral

/-- The decimal numeral of an integer. -/
def integerText (n : Int) : List Char := signed (decide (n < 0)) (digits n.natAbs)

/-- The numeral of `n` with a point before its last `places` digits. -/
def fixed (places n : Nat) : List Char :=
  if places = 0 then digits n
  else
    let ds := padded (places + 1) n
    ds.take (ds.length - places) ++ '.' :: ds.drop (ds.length - places)

/-- The number `c * 10 ^ e` written out. -/
def positional (c : Nat) (e : Int) : List Char :=
  match e with
  | .ofNat zeros => digits c ++ List.replicate zeros '0'
  | .negSucc k => fixed (k + 1) c

theorem digits_injective {m n : Nat} (h : digits m = digits n) : m = n := by
  have h' := congrArg (fun ds => Nat.ofDigitChars 10 ds 0) h
  simpa [digits, Nat.ofDigitChars_ten_toDigits] using h'

end QueryBuilder.Number
