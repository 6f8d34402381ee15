import Recast.Binary.Basic

/-!
# Decimal — the shortest decimal text of a floating-point value

The reals that read back as a value form an interval around it.  Of the decimal grids
`10 ^ -324 * 10 ^ i`, the coarsest one with a point in that interval is chosen, and on it the point
nearest to the value.  All quantities are whole numbers of parts, `Decimal.fineness` to a unit.
-/

namespace Recast
namespace Decimal

/-- The finest grid has this many decimal places. -/
def places : Nat := 324

def fineness : Nat := 4 * 10 ^ places

def step : Nat := 4 * Binary.one

/-- The reals that read back as one value, in parts. -/
structure Interval where
  low : Nat
  value : Nat
  high : Nat
  closed : Bool

namespace Interval

def ofMagnitude (f : FloatKind) (m : Nat) : Interval :=
  let e := f.spacingExponent m
  let half := 2 ^ e * fineness / 2
  let significand := m / 2 ^ e
  -- Below a power of two the neighbour is half as far away, unless the spacing is the least already.
  let narrow := significand = 2 ^ (f.precision - 1) ∧ e ≠ f.minExponent
  { low := m * fineness - (if narrow then half / 2 else half)
    value := m * fineness
    high := m * fineness + half
    closed := significand % 2 == 0 }

def contains (r : Interval) (x : Nat) : Bool :=
  if r.closed then r.low ≤ x && x ≤ r.high else r.low < x && x < r.high

/-- The multiplier of the point of a grid nearest to the value, if it lies in the interval. -/
def hit? (r : Interval) (grid : Nat) : Option Nat :=
  let c := r.value / grid
  let below := r.contains (c * grid)
  let above := r.contains ((c + 1) * grid)
  -- Of two hits the nearer one counts, and at equal distance the one above.
  if above && (!below || grid ≤ 2 * (r.value - c * grid)) then
    some (c + 1)
  else if below then
    some c
  else
    none

/-- The first hit on the grids from `10 ^ i` steps down to single steps, and the power of its grid. -/
def coarsest (r : Interval) : Nat → Nat × Nat
  | 0 => ((r.hit? step).getD (r.value / step), 0)
  | i + 1 =>
      match r.hit? (step * 10 ^ (i + 1)) with
      | some c => (c, i + 1)
      | none => r.coarsest i

/-- A power of ten that no point of the interval reaches, in steps of the finest grid. -/
def topPower (r : Interval) : Nat :=
  bitLength (r.high / step) / 3 + 1

def shortest (r : Interval) : Nat × Nat :=
  r.coarsest r.topPower

end Interval

def digits (n : Nat) : List Char :=
  Nat.toDigits 10 n

def padded (width : Nat) (ds : List Char) : List Char :=
  List.replicate (width - ds.length) '0' ++ ds

def positional (c i : Nat) : List Char :=
  if places ≤ i then
    digits c ++ List.replicate (i - places) '0'
  else
    let ds := padded (places - i + 1) (digits c)
    let whole := ds.length - (places - i)
    ds.take whole ++ '.' :: ds.drop whole

def ofMagnitude (f : FloatKind) (m : Nat) : List Char :=
  if m = 0 then
    ['0']
  else
    let found := (Interval.ofMagnitude f m).shortest
    positional found.1 found.2

end Decimal

/-- The text of a value; a negative zero has its minus sign, and a NaN has none. -/
def Binary.text {f : FloatKind} : Binary f → String
  | .nan _ _ _ => "NaN"
  | .infinite negative => if negative then "-inf" else "inf"
  | .finite negative m _ =>
      String.ofList ((if negative then ['-'] else []) ++ Decimal.ofMagnitude f m)

end Recast
