import Recast.Binary.Basic

/-!
# Arithmetic — sums, order and whole parts in a format
-/

namespace Recast
namespace Binary

variable {f : FloatKind}

/-- The NaN that operations without a result answer. -/
def quietNaN (f : FloatKind) : Binary f :=
  .nan false f.quietBit (FloatKind.isNaNFraction_quiet (Nat.two_pow_pos _))

/-- A value without its fraction, which the format holds as well. -/
def whole : Binary f → Binary f
  | .finite negative m _ => ofMagnitude f negative (m / one * one)
  | x => x

/-- The value nearest to a sum.  A sum of zero is negative only if both summands are. -/
def add : Binary f → Binary f → Binary f
  | .finite a m _, .finite b n _ =>
      let sum := signed a m + signed b n
      ofMagnitude f (decide (sum < 0) || (sum == 0 && a && b)) sum.natAbs
  | .infinite a, .infinite b => if a = b then .infinite a else quietNaN f
  | .infinite a, .finite _ _ _ => .infinite a
  | .finite _ _ _, .infinite b => .infinite b
  | _, _ => quietNaN f

/-- Order as numbers; NaN is not comparable. -/
def le : Binary f → Binary f → Bool
  | .finite a m _, .finite b n _ => signed a m ≤ signed b n
  | .infinite a, .infinite b => a || !b
  | .infinite a, .finite _ _ _ => a
  | .finite _ _ _, .infinite b => !b
  | _, _ => false

/-- Strict order as numbers; NaN is not comparable. -/
def lt : Binary f → Binary f → Bool
  | .finite a m _, .finite b n _ => signed a m < signed b n
  | .infinite a, .infinite b => a && !b
  | .infinite a, .finite _ _ _ => a
  | .finite _ _ _, .infinite b => !b
  | _, _ => false

end Binary
end Recast
