import QueryBuilder.Number.Positional

/-!
# Exact decimals

A decimal is `mantissa * 10 ^ (-scale)` with at most 28 places and a mantissa of at most
96 bits. The scale is part of the value and of its text (`1.00` is not written `1`), but
not of the number that two decimals are compared by.
-/

namespace QueryBuilder
set_option autoImplicit false

/-- A decimal with a fixed number of places. -/
structure Decimal where
  mantissa : Int
  scale : Nat
  mantissa_lt : mantissa.natAbs < Nat.pow 2 96
  scale_le : scale ≤ 28
  deriving DecidableEq

namespace Decimal

/-- The decimal `mantissa * 10 ^ (-scale)`, if both numbers are in range. -/
def of? (mantissa : Int) (scale : Nat) : Option Decimal :=
  if h : mantissa.natAbs < Nat.pow 2 96 ∧ scale ≤ 28 then some ⟨mantissa, scale, h.1, h.2⟩
  else none

/-- Whether two decimals are the same number, whatever their scales. -/
def sameNumber (x y : Decimal) : Bool :=
  x.mantissa * Nat.pow 10 y.scale == y.mantissa * Nat.pow 10 x.scale

/-- All digits of the mantissa, the last `scale` of them after a point. -/
def text (x : Decimal) : List Char :=
  Number.signed (decide (x.mantissa < 0)) (Number.fixed x.scale x.mantissa.natAbs)

end Decimal

end QueryBuilder
