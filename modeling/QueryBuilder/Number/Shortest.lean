import QueryBuilder.Number.Binary
import QueryBuilder.Number.Positional

/-!
# The fewest digits that read back

The reals that round to a finite binary number form an interval around it, whose ends
belong to it when the significand is even. `shortest` looks for a decimal in that
interval on the grids of multiples of `10 ^ e`, from coarse to fine, and takes the first
grid on which one of the value's two neighbours lies inside: of two such neighbours the
nearer, and the upper one when both are equally near. The number itself lies on the grid
of its own power of two written in tens, so the search ends.
-/

namespace QueryBuilder.Number
set_option autoImplicit false

/-- The reals between `low` and `high` times `2 ^ scale`, around `mid` times `2 ^ scale`. -/
structure Interval where
  low : Nat
  mid : Nat
  high : Nat
  scale : Int
  /-- Whether the ends belong to the interval. -/
  closed : Bool

namespace Interval

/-- The reals that the format rounds to `m * 2 ^ q`. Below a power of two the numbers lie
twice as close as above it. -/
def around (f : Format) (m : Nat) (q : Int) : Interval where
  low := if m = f.exponentUnit && f.minExponent < q then 4 * m - 1 else 4 * m - 2
  mid := 4 * m
  high := 4 * m + 2
  scale := q - 2
  closed := m % 2 == 0

/-- The factor that turns multiples of `2 ^ scale` into a unit shared with `10 ^ e`. -/
def binaryUnit (i : Interval) (e : Int) : Nat := Nat.pow 2 i.scale.toNat * Nat.pow 10 (-e).toNat

/-- The factor that turns multiples of `10 ^ e` into that unit. -/
def decimalUnit (i : Interval) (e : Int) : Nat := Nat.pow 10 e.toNat * Nat.pow 2 (-i.scale).toNat

/-- Whether `c * 10 ^ e` lies in the interval. -/
def contains (i : Interval) (c : Nat) (e : Int) : Bool :=
  let x := c * i.decimalUnit e
  let low := i.low * i.binaryUnit e
  let high := i.high * i.binaryUnit e
  if i.closed then low ≤ x && x ≤ high else low < x && x < high

/-- The neighbour of the middle on the grid of `10 ^ e` that lies in the interval, if any. -/
def onGrid? (i : Interval) (e : Int) : Option (Nat × Int) :=
  let mid := i.mid * i.binaryUnit e
  let unit := i.decimalUnit e
  let c := mid / unit
  match i.contains c e, i.contains (c + 1) e with
  | true, true => if mid - c * unit < (c + 1) * unit - mid then some (c, e) else some (c + 1, e)
  | true, false => some (c, e)
  | false, true => some (c + 1, e)
  | false, false => none

end Interval

/-- A power of ten above `m * 2 ^ q`, given by its exponent. -/
def orderBound (m : Nat) (q : Int) : Int :=
  let top : Int := Nat.log2 m + 1 + q
  if 0 ≤ top then top / 3 + 1 else -(3 * -top / 10)

/-- The shortest decimal `c * 10 ^ e` that the format reads back as `m * 2 ^ q`. -/
def shortest (f : Format) (m : Nat) (q : Int) : Nat × Int :=
  let top := orderBound m q
  let bottom := min q 0
  let grids := (List.range ((top - bottom).toNat + 1)).map fun i : Nat => top - i
  (grids.findSome? (Interval.around f m q).onGrid?).getD
    (m * Nat.pow 2 q.toNat * Nat.pow 5 (-q).toNat, bottom)

/-- The text of a datum: `NaN`, `inf`, or the shortest digits, written out without an
exponent and without a point after a whole number. -/
def Datum.text (f : Format) : Datum → List Char
  | .nan => "NaN".toList
  | .infinite negative => signed negative "inf".toList
  | .finite negative m q =>
    signed negative <|
      if m = 0 then ['0']
      else
        let (c, e) := shortest f m q
        positional c e

end QueryBuilder.Number
