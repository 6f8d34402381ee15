import Mathlib.Data.Int.ModEq
import Recast.Scalar.Convert

/-!
# Integers — conversion between integer kinds

Without a check the value of the target kind is the congruent one, of which there is one only; with a
check it is the same integer, or there is none.

* `Num.eq_wrap_iff`: congruence singles out the value that an integer wraps around to;
* `Scalar.integer_conversion_exact`: hence both conversions are determined by the integer alone, and
  a checked one can be taken back.
-/

namespace Recast

/-- The range of a kind: two's complement with a sign, and from zero without. -/
theorem IntKind.contains_iff {k : IntKind} {i : Int} :
    k.Contains i ↔
      (k.signed = true ∧ -(2 ^ (k.bits - 1)) ≤ i ∧ i < 2 ^ (k.bits - 1)) ∨
        (k.signed = false ∧ 0 ≤ i ∧ i < 2 ^ k.bits) := by
  unfold Contains minValue maxValue magnitudeBits
  rw [Int.le_sub_one_iff]
  cases k.signed <;> simp

namespace Num

variable {k : IntKind} {m : Num k} {i j : Int}

/-! ## Wrapping around -/

theorem wrap_modEq (k : IntKind) (i : Int) : (wrap k i).toInt ≡ i [ZMOD 2 ^ k.bits] := by
  have hshifted := (Int.mod_modEq (i - k.minValue) (2 ^ k.bits)).add_right k.minValue
  rw [Int.sub_add_cancel] at hshifted
  exact hshifted

theorem wrap_congr (h : i ≡ j [ZMOD 2 ^ k.bits]) : wrap k i = wrap k j := by
  have hshifted : (i - k.minValue) % 2 ^ k.bits = (j - k.minValue) % 2 ^ k.bits :=
    h.sub_right k.minValue
  apply Num.ext
  show (i - k.minValue) % 2 ^ k.bits + k.minValue = (j - k.minValue) % 2 ^ k.bits + k.minValue
  rw [hshifted]

/-- Congruence singles out one value of a kind. -/
theorem eq_wrap_iff : m = wrap k i ↔ m.toInt ≡ i [ZMOD 2 ^ k.bits] := by
  constructor
  · rintro rfl
    exact wrap_modEq k i
  · intro h
    calc
      m = wrap k m.toInt := (wrap_toInt_self m).symm
      _ = wrap k i := wrap_congr h

end Num

namespace Scalar

variable {a k : IntKind} {n : Num a} {m : Num k}

/-! ## Conversion -/

theorem inRange_int_iff : inRange ⟨.int a, n⟩ (.int k) = true ↔ k.Contains n.toInt :=
  decide_eq_true_iff

theorem convertUnchecked_int_of_eq (h : m.toInt = n.toInt) :
    convertUnchecked ⟨.int a, n⟩ (.int k) = .ok ⟨.int k, m⟩ := by
  simp only [convertUnchecked, ← h, Num.wrap_toInt_self]

theorem convertChecked_int_of_eq (h : m.toInt = n.toInt) :
    convertChecked ⟨.int a, n⟩ (.int k) = .ok ⟨.int k, m⟩ := by
  have hrange : k.Contains n.toInt := by
    rw [← h]
    exact m.contains_toInt
  rw [convertChecked_of_inRange (inRange_int_iff.2 hrange), convertUnchecked_int_of_eq h]

theorem convertChecked_int_of_not_contains (h : ¬ k.Contains n.toInt) :
    convertChecked ⟨.int a, n⟩ (.int k) = .error (outOfRange ⟨.int a, n⟩ (.int k)) :=
  convertChecked_of_not_inRange (mt inRange_int_iff.1 h)

/-- With a check an integer is kept or refused, so that the same check finds the way back. -/
theorem convertChecked_int_back {x y : Scalar} (hx : x.kind = .int a)
    (hy : convertChecked x (.int k) = .ok y) : convertChecked y (.int a) = .ok x := by
  obtain ⟨_, n⟩ := x
  cases hx
  by_cases hrange : k.Contains n.toInt
  · have hsame : (⟨n.toInt, hrange⟩ : Num k).toInt = n.toInt := rfl
    rw [convertChecked_int_of_eq hsame] at hy
    cases hy
    exact convertChecked_int_of_eq hsame.symm
  · rw [convertChecked_int_of_not_contains hrange] at hy
    cases hy

/-- An integer is converted without a check to the one value of the target kind that is congruent to
it modulo `2 ^ bits`.  With a check it is converted to itself if it lies in the range of the target
kind, where both modes agree and the check finds it in range on the way back; elsewhere the error
names the integer and the target kind. -/
theorem integer_conversion_exact {a : IntKind} (n : Num a) (k : IntKind) :
    (∃ m : Num k, convertUnchecked ⟨.int a, n⟩ (.int k) = .ok ⟨.int k, m⟩ ∧
        ∀ m' : Num k, m'.toInt ≡ n.toInt [ZMOD 2 ^ k.bits] ↔ m' = m) ∧
      (∀ i, k.Contains i ↔
        (k.signed = true ∧ -(2 ^ (k.bits - 1)) ≤ i ∧ i < 2 ^ (k.bits - 1)) ∨
          (k.signed = false ∧ 0 ≤ i ∧ i < 2 ^ k.bits)) ∧
      (k.Contains n.toInt → ∃ m : Num k, m.toInt = n.toInt ∧
        convertChecked ⟨.int a, n⟩ (.int k) = .ok ⟨.int k, m⟩ ∧
        convertUnchecked ⟨.int a, n⟩ (.int k) = .ok ⟨.int k, m⟩ ∧
        convertChecked ⟨.int k, m⟩ (.int a) = .ok ⟨.int a, n⟩) ∧
      (¬ k.Contains n.toInt →
        convertChecked ⟨.int a, n⟩ (.int k) = .error (.overflow (toString n.toInt) k.name)) := by
  refine ⟨⟨Num.wrap k n.toInt, rfl, fun m' => Num.eq_wrap_iff.symm⟩,
    fun i => IntKind.contains_iff, ?_, convertChecked_int_of_not_contains⟩
  intro hrange
  have hsame : (⟨n.toInt, hrange⟩ : Num k).toInt = n.toInt := rfl
  exact ⟨⟨n.toInt, hrange⟩, hsame, convertChecked_int_of_eq hsame, convertUnchecked_int_of_eq hsame,
    convertChecked_int_of_eq hsame.symm⟩

end Scalar
end Recast
