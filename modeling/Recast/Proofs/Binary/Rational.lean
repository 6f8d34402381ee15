import Mathlib.Data.Rat.Floor
import Recast.Proofs.Binary.Magnitudes

/-!
# Rational — floating-point values as rational numbers

Units are a way of counting: a finite value is a rational number, its units divided by those of one.

* `Binary.trunc?_eq`: the integer part taken of the units is that of the rational number;
* `Binary.isInfinite_toFormat_iff`: a conversion into a format makes an infinity of the finite values
  from half a step below its limit on.
-/

namespace Recast

/-- The integer part of a rational number, which drops the fraction of either sign. -/
def integerPart (q : ℚ) : ℤ :=
  if q < 0 then ⌈q⌉ else ⌊q⌋

theorem integerPart_of_nonneg {q : ℚ} (h : 0 ≤ q) : integerPart q = ⌊q⌋ :=
  if_neg (not_lt.2 h)

theorem integerPart_neg (q : ℚ) : integerPart (-q) = -integerPart q := by
  rcases lt_trichotomy q 0 with hneg | rfl | hpos
  · have hflip : 0 ≤ -q := neg_nonneg.2 hneg.le
    rw [integerPart_of_nonneg hflip, integerPart, if_pos hneg, Int.floor_neg]
  · simp [integerPart]
  · have hflip : -q < 0 := neg_neg_iff_pos.2 hpos
    rw [integerPart_of_nonneg hpos.le, integerPart, if_pos hflip, Int.ceil_neg]

namespace Binary

variable {f g : FloatKind}

/-- The rational number that a finite value is. -/
def toRat? (x : Binary f) : Option ℚ :=
  x.units?.map fun n => (n : ℚ) / one

theorem cast_one_pos : (0 : ℚ) < one :=
  Nat.cast_pos.2 one_pos

@[simp]
theorem toRat?_finite (negative : Bool) {m : Nat} (h : f.Representable m) :
    (finite negative m h).toRat? = some ((signed negative m : ℚ) / one) :=
  rfl

theorem toRat?_eq_some_iff {x : Binary f} {q : ℚ} :
    x.toRat? = some q ↔
      ∃ negative m h, x = .finite negative m h ∧ q = (signed negative m : ℚ) / one := by
  constructor
  · intro heq
    cases x with
    | nan => cases heq
    | infinite negative => cases heq
    | finite negative m h => exact ⟨negative, m, h, rfl, (Option.some.inj heq).symm⟩
  · rintro ⟨negative, m, h, rfl, rfl⟩
    rfl

/-! ## Integer part -/

theorem integerPart_div (negative : Bool) (m d : Nat) :
    integerPart ((signed negative m : ℚ) / d) = signed negative (m / d) := by
  have hmagnitude : integerPart ((m : ℚ) / d) = (m / d : ℕ) := by
    have hfloor := Rat.floor_intCast_div_natCast m d
    rw [Int.cast_natCast] at hfloor
    rw [integerPart_of_nonneg (by positivity), hfloor]
    rfl
  cases negative with
  | false => simpa [signed] using hmagnitude
  | true =>
      have hneg : ((signed true m : ℤ) : ℚ) / d = -((m : ℚ) / d) := by
        simp [signed, neg_div]
      rw [hneg, integerPart_neg, hmagnitude]
      simp [signed]

theorem trunc?_eq (x : Binary f) : x.trunc? = x.toRat?.map integerPart := by
  cases x with
  | nan => rfl
  | infinite negative => rfl
  | finite negative m h =>
      rw [toRat?_finite, Option.map_some, integerPart_div]
      rfl

theorem trunc?_of_toRat? {x : Binary f} {q : ℚ} (h : x.toRat? = some q) :
    x.trunc? = some (integerPart q) := by
  rw [trunc?_eq, h, Option.map_some]

/-! ## Overflow of a format -/

theorem abs_signed (negative : Bool) (m : Nat) : |(signed negative m : ℚ)| = m := by
  cases negative <;> simp [signed]

theorem isInfinite_ofMagnitude_iff {negative : Bool} {m : Nat} :
    (ofMagnitude g negative m).isInfinite = true ↔ g.overflowThreshold ≤ m := by
  rw [← not_lt, ← FloatKind.nearest_lt_limit_iff]
  unfold ofMagnitude
  split <;> simp [isInfinite, *]

/-- The rational number from which on a format rounds to infinity. -/
def overflowBound (g : FloatKind) : ℚ :=
  g.overflowThreshold / one

theorem isInfinite_toFormat_iff {x : Binary f} {q : ℚ} (hx : x.toRat? = some q) :
    (x.toFormat g).isInfinite = true ↔ overflowBound g ≤ |q| := by
  rcases toRat?_eq_some_iff.1 hx with ⟨negative, m, h, rfl, rfl⟩
  calc
    (ofMagnitude g negative m).isInfinite = true ↔ g.overflowThreshold ≤ m :=
      isInfinite_ofMagnitude_iff
    _ ↔ (g.overflowThreshold : ℚ) / one ≤ m / one := by
      rw [div_le_div_iff_of_pos_right cast_one_pos, Nat.cast_le]
    _ ↔ overflowBound g ≤ |(signed negative m : ℚ) / one| := by
      rw [abs_div, abs_signed, abs_of_pos cast_one_pos, overflowBound]

theorem overflowBound_single : overflowBound .single = 2 ^ 128 - 2 ^ 103 := by
  rw [overflowBound, FloatKind.overflowThreshold_single, Nat.cast_mul,
    mul_div_cancel_right₀ _ cast_one_pos.ne']
  norm_num

end Binary
end Recast
