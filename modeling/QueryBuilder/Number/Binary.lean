/-!
# Binary floating-point formats

A finite number of a format is `m * 2 ^ q`. `Format.decode` reads the bits of the binary
interchange encoding (sign, biased exponent, fraction) and `Format.nearest` rounds a
decimal to the bits of the closest number, a tie going to the even significand.
-/

namespace QueryBuilder.Number
set_option autoImplicit false

/-- A binary interchange format: the widths of its fraction and exponent fields. -/
structure Format where
  fractionBits : Nat
  exponentBits : Nat

/-- The 32-bit format. -/
def Format.single : Format := ⟨23, 8⟩

/-- The 64-bit format. -/
def Format.double : Format := ⟨52, 11⟩

/-- What the bits of a format stand for; a finite number is `± m * 2 ^ q`. -/
inductive Datum where
  | nan
  | infinite (negative : Bool)
  | finite (negative : Bool) (m : Nat) (q : Int)
  deriving DecidableEq

namespace Format

/-- The exponent of two of the smallest positive number. -/
def minExponent (f : Format) : Int := 2 - (Nat.pow 2 (f.exponentBits - 1) : Int) - f.fractionBits

/-- The largest biased exponent, which infinities and NaN carry. -/
def topExponent (f : Format) : Nat := Nat.pow 2 f.exponentBits - 1

/-- What one step of the exponent field adds to the bits, which is also the least significand of
a number with a leading one. -/
def exponentUnit (f : Format) : Nat := Nat.pow 2 f.fractionBits

/-- The weight of the sign bit. -/
def signUnit (f : Format) : Nat := Nat.pow 2 (f.fractionBits + f.exponentBits)

/-- The bits of infinity. -/
def infinityBits (f : Format) : Nat := f.topExponent * f.exponentUnit

/-- The datum that `bits` encodes. -/
def decode (f : Format) (bits : Nat) : Datum :=
  let negative := decide (f.signUnit ≤ bits)
  let fraction := bits % f.exponentUnit
  let exponent := bits / f.exponentUnit % Nat.pow 2 f.exponentBits
  if exponent = f.topExponent then
    if fraction = 0 then .infinite negative else .nan
  else if exponent = 0 then .finite negative fraction f.minExponent
  else .finite negative (f.exponentUnit + fraction) (f.minExponent + (exponent - 1))

/-- The ratio `num / den` rounded to the nearest natural number, a tie to the even one. -/
def roundHalfEven (num den : Nat) : Nat :=
  let floor := num / den
  let twice := 2 * (num % den)
  if den < twice || (twice == den && floor % 2 == 1) then floor + 1 else floor

/-- The bits of the number closest to `num / den`; past the largest finite number, those of
infinity. -/
def nearestRatio (f : Format) (num den : Nat) : Nat :=
  if num = 0 then 0
  else
    let estimate : Int := (Nat.log2 num : Int) - Nat.log2 den - (f.fractionBits + 1)
    let scaled (q : Int) : Nat × Nat := (num * Nat.pow 2 (-q).toNat, den * Nat.pow 2 q.toNat)
    let fits (q : Int) : Bool := (scaled q).1 / (scaled q).2 < 2 * f.exponentUnit
    let q := max f.minExponent (if fits estimate then estimate else estimate + 1)
    let m := roundHalfEven (scaled q).1 (scaled q).2
    min f.infinityBits ((q - f.minExponent).toNat * f.exponentUnit + m)

/-- The bits of the number closest to `± c * 10 ^ e`. A decimal exponent that leaves the
format's range is answered without computing the power. -/
def nearest (f : Format) (negative : Bool) (c : Nat) (e : Int) : Nat :=
  let reach : Int := Nat.pow 2 f.exponentBits
  let order : Int := (Nat.log2 c : Int) / 4 + e
  let magnitude :=
    if c = 0 then 0
    else if reach < order then f.infinityBits
    else if (Nat.log2 c : Int) + e < -reach then 0
    else f.nearestRatio (c * Nat.pow 10 e.toNat) (Nat.pow 10 (-e).toNat)
  magnitude + if negative then f.signUnit else 0

end Format

/-- Whether two data are the same number: a NaN is no number, and zero has no sign. -/
def Datum.sameNumber : Datum → Datum → Bool
  | .infinite n, .infinite n' => n == n'
  | .finite n m q, .finite n' m' q' => (m == 0 && m' == 0) || (n == n' && m == m' && q == q')
  | _, _ => false

end QueryBuilder.Number

namespace QueryBuilder
set_option autoImplicit false

open Number

/-- A floating-point number of the 32-bit format, given by its bits. -/
structure Single where
  bits : UInt32
  deriving DecidableEq

/-- A floating-point number of the 64-bit format, given by its bits. -/
structure Double where
  bits : UInt64
  deriving DecidableEq

/-- What the bits stand for. -/
def Single.datum (x : Single) : Datum := Format.single.decode x.bits.toNat

/-- What the bits stand for. -/
def Double.datum (x : Double) : Datum := Format.double.decode x.bits.toNat

end QueryBuilder
