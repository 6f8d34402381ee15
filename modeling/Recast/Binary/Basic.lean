import Recast.Binary.Rounding

/-!
# Binary — values of a binary floating-point format

The values of a format are signed magnitudes in units of `2 ^ -1074`, zero with either sign, two
infinities, and the NaNs, each with the sign and the fraction that is stored.
-/

namespace Recast
namespace FloatKind

/-! ## Fractions of NaN -/

/-- The fractions that mark a NaN.  An infinity is stored with the fraction zero. -/
def IsNaNFraction (f : FloatKind) (n : Nat) : Prop :=
  0 < n ∧ n < 2 ^ f.fractionBits

instance (f : FloatKind) (n : Nat) : Decidable (f.IsNaNFraction n) :=
  inferInstanceAs (Decidable (_ ∧ _))

/-- The leading bit of a fraction, which marks a quiet NaN. -/
def quietBit (f : FloatKind) : Nat :=
  2 ^ (f.fractionBits - 1)

theorem isNaNFraction_quiet {f : FloatKind} {n : Nat} (h : n < f.quietBit) :
    f.IsNaNFraction (f.quietBit + n) := by
  have hpos : 0 < f.quietBit := Nat.two_pow_pos _
  have htwice : 2 ^ f.fractionBits = f.quietBit + f.quietBit := by
    cases f <;> decide
  exact ⟨by omega, by omega⟩

/-- The fraction with which a NaN arrives in another format: its leading bits keep their place, and
the NaN becomes quiet. -/
def carryFraction (f g : FloatKind) (n : Nat) : Nat :=
  if f = g then
    n
  else
    let aligned := n * 2 ^ (g.fractionBits - f.fractionBits) / 2 ^ (f.fractionBits - g.fractionBits)
    g.quietBit + aligned % g.quietBit

theorem isNaNFraction_carryFraction {f : FloatKind} (g : FloatKind) {n : Nat}
    (h : f.IsNaNFraction n) : g.IsNaNFraction (f.carryFraction g n) := by
  unfold carryFraction
  split
  · rename_i heq
    rw [← heq]
    exact h
  · exact isNaNFraction_quiet (Nat.mod_lt _ (Nat.two_pow_pos _))

end FloatKind

inductive Binary (f : FloatKind) where
  | nan (negative : Bool) (fraction : Nat) (marks : f.IsNaNFraction fraction)
  | infinite (negative : Bool)
  | finite (negative : Bool) (magnitude : Nat) (representable : f.Representable magnitude)
  deriving DecidableEq

namespace Binary

/-- The number one, in units. -/
def one : Nat := 2 ^ (1074 : Nat)

def isNaN {f : FloatKind} : Binary f → Bool
  | .nan _ _ _ => true
  | _ => false

def isInfinite {f : FloatKind} : Binary f → Bool
  | .infinite _ => true
  | _ => false

def isFinite {f : FloatKind} : Binary f → Bool
  | .finite _ _ _ => true
  | _ => false

def signed (negative : Bool) (m : Nat) : Int :=
  if negative then -(m : Int) else m

/-- The exact value of a finite number, in units. -/
def units? {f : FloatKind} : Binary f → Option Int
  | .finite negative m _ => some (signed negative m)
  | _ => none

/-! ## Rounding into a format -/

/-- The value nearest to an exact magnitude; from half a step above the greatest finite value on,
the infinity of this sign. -/
def ofMagnitude (f : FloatKind) (negative : Bool) (m : Nat) : Binary f :=
  if h : f.nearest m < 2 ^ f.limitExponent then
    .finite negative (f.nearest m) (FloatKind.representable_nearest h)
  else
    .infinite negative

theorem ofMagnitude_of_representable {f : FloatKind} {m : Nat} (negative : Bool)
    (h : f.Representable m) : ofMagnitude f negative m = .finite negative m h := by
  have heq := FloatKind.nearest_eq_self h
  simp only [ofMagnitude, heq]
  exact dif_pos h.2

def ofInt (f : FloatKind) (n : Int) : Binary f :=
  ofMagnitude f (n < 0) (n.natAbs * one)

/-- The value of a format nearest to a value of any format; what is no finite number carries over. -/
def toFormat {f : FloatKind} (g : FloatKind) : Binary f → Binary g
  | .nan negative n h => .nan negative (f.carryFraction g n) (FloatKind.isNaNFraction_carryFraction g h)
  | .infinite negative => .infinite negative
  | .finite negative m _ => ofMagnitude g negative m

@[simp]
theorem isNaN_toFormat {f : FloatKind} (g : FloatKind) (x : Binary f) :
    (x.toFormat g).isNaN = x.isNaN := by
  cases x with
  | finite negative m _ =>
      rw [toFormat, ofMagnitude]
      split <;> rfl
  | _ => rfl

/-- The integer part of a finite value, which drops the fraction of either sign. -/
def trunc? {f : FloatKind} : Binary f → Option Int
  | .finite negative m _ => some (signed negative (m / one))
  | _ => none

/-- Equality as numbers: NaN equals nothing, and the two zeros are equal. -/
def numericEq {f : FloatKind} : Binary f → Binary f → Bool
  | .infinite a, .infinite b => a == b
  | .finite a m _, .finite b n _ => m == n && (a == b || m == 0)
  | _, _ => false

end Binary
end Recast
