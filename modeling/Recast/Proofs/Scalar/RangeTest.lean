import Recast.Proofs.Binary.Magnitudes
import Recast.Scalar.Convert

/-!
# RangeTest — the range of an integer kind in double precision

Whether a floating-point value has its integer part in the range of an integer kind can be asked
without leaving the longest format: drop the fraction there, and compare with the least value of the
kind and with the sum of the greatest one and one.  The greatest value of a kind of 64 bits is no
value of the format.  It is rounded up to the power of two after it, where adding one changes nothing
any more, so that in every case the upper end is the first integer out of range.

* `IntKind.upperEnd_units`: the upper end, as it is computed;
* `IntKind.passesRangeTest_iff`: the test decides whether the integer part is in range.
-/

namespace Recast

namespace Binary

variable {f : FloatKind} {x y : Binary f} {i j : Int}

/-! ## Arithmetic in a format -/

theorem le_iff_of_units? (hx : x.units? = some i) (hy : y.units? = some j) :
    x.le y = true ↔ i ≤ j := by
  cases x with
  | finite a m _ =>
      cases y with
      | finite b n _ =>
          cases hx
          cases hy
          exact decide_eq_true_iff
      | _ => cases hy
  | _ => cases hx

theorem lt_iff_of_units? (hx : x.units? = some i) (hy : y.units? = some j) :
    x.lt y = true ↔ i < j := by
  cases x with
  | finite a m _ =>
      cases y with
      | finite b n _ =>
          cases hx
          cases hy
          exact decide_eq_true_iff
      | _ => cases hy
  | _ => cases hx

/-- A whole part is exact. -/
theorem units?_whole (h : x.trunc? = some i) : x.whole.units? = some (i * one) := by
  cases x with
  | finite negative m hm =>
      cases h
      rw [whole, ofMagnitude_of_representable negative (FloatKind.representable_whole hm)]
      exact congrArg some (signed_mul negative (m / one) one)
  | _ => cases h

theorem trunc?_isSome (x : Binary f) : x.trunc?.isSome = x.isFinite := by
  cases x <;> rfl

/-- The longest format holds every value of any format. -/
theorem trunc?_toDouble (x : Binary f) :
    (x.toFormat .double).trunc? = x.trunc? ∧ (x.toFormat .double).isFinite = x.isFinite := by
  cases x with
  | nan negative n h => exact ⟨rfl, rfl⟩
  | infinite negative => exact ⟨rfl, rfl⟩
  | finite negative m h =>
      have hlonger : f.precision ≤ FloatKind.double.precision := by
        cases f <;> decide
      rw [toFormat_of_precision_le hlonger]
      exact ⟨rfl, rfl⟩

end Binary

namespace IntKind

variable {f : FloatKind} {v : Binary f} {i : Int}

/-! ## The test -/

theorem lowerEnd_units (k : IntKind) : k.lowerEnd.units? = some (k.minValue * Binary.one) := by
  have hall : ∀ k ∈ all, k.lowerEnd.units? = some (k.minValue * Binary.one) := by decide +kernel
  exact hall k (mem_all k)

/-- The upper end is the first integer out of range, also where the greatest value is rounded. -/
theorem upperEnd_units (k : IntKind) :
    k.upperEnd.units? = some ((k.maxValue + 1) * Binary.one) := by
  have hall : ∀ k ∈ all, k.upperEnd.units? = some ((k.maxValue + 1) * Binary.one) := by
    decide +kernel
  exact hall k (mem_all k)

/-- The test decides whether the integer part of a value exists and lies in the range of a kind. -/
theorem passesRangeTest_iff {k : IntKind} :
    k.passesRangeTest v = true ↔ ∃ i, v.trunc? = some i ∧ k.Contains i := by
  have hone : (0 : Int) < Binary.one := Int.natCast_pos.2 Binary.one_pos
  rcases v.trunc?_toDouble with ⟨htrunc, hfinite⟩
  simp only [passesRangeTest]
  rw [hfinite, ← v.trunc?_isSome, ← htrunc]
  cases hi : (v.toFormat .double).trunc? with
  | none => simp
  | some i =>
      have hunits := Binary.units?_whole hi
      have hlower : k.lowerEnd.le (v.toFormat .double).whole = true ↔ k.minValue ≤ i := by
        rw [Binary.le_iff_of_units? k.lowerEnd_units hunits, Int.mul_le_mul_right hone]
      have hupper : (v.toFormat .double).whole.lt k.upperEnd = true ↔ i ≤ k.maxValue := by
        rw [Binary.lt_iff_of_units? hunits k.upperEnd_units, Int.mul_lt_mul_right hone,
          Int.lt_add_one_iff]
      simp [hlower, hupper, Contains]

end IntKind
end Recast
