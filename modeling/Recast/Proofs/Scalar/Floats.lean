import Recast.Proofs.Binary.Rational
import Recast.Proofs.Scalar.RangeTest

/-!
# Floats — conversion from floating-point formats

A finite value is a rational number (`Binary.toRat?`), and its conversions are said of that number:
into an integer kind of its integer part, and from the longer format into the shorter one of its
magnitude.

* `Scalar.convertChecked_of_contains`, `Scalar.convertChecked_of_not_contains`: the test in double
  precision finds what is in range;
* `Scalar.float_conversion_exact`: both modes and all values, the infinities and NaN included.
-/

namespace Recast

theorem Num.toInt_clamp (k : IntKind) (i : Int) :
    (Num.clamp k i).toInt = max k.minValue (min i k.maxValue) := by
  have hle := k.minValue_le_maxValue
  show (if i < k.minValue then k.minValue else if k.maxValue < i then k.maxValue else i) = _
  split
  · omega
  · split <;> omega

theorem Num.clamp_of_contains {k : IntKind} {i : Int} (h : k.Contains i) :
    Num.clamp k i = ⟨i, h⟩ :=
  Num.clamp_toInt_self ⟨i, h⟩

namespace Scalar

variable {f : FloatKind} {v : Binary f} {k : IntKind} {i : Int}

/-! ## Into an integer kind -/

theorem convertUnchecked_of_contains (h : v.trunc? = some i) (hrange : k.Contains i) :
    convertUnchecked ⟨.float f, v⟩ (.int k) = .ok ⟨.int k, ⟨i, hrange⟩⟩ := by
  have hsaturate : saturate k v = ⟨i, hrange⟩ :=
    (saturate_eq_clamp h).trans (Num.clamp_of_contains hrange)
  simp only [convertUnchecked, hsaturate]

theorem convertChecked_of_contains (h : v.trunc? = some i) (hrange : k.Contains i) :
    convertChecked ⟨.float f, v⟩ (.int k) = .ok ⟨.int k, ⟨i, hrange⟩⟩ := by
  have hpass : inRange ⟨.float f, v⟩ (.int k) = true :=
    IntKind.passesRangeTest_iff.2 ⟨i, h, hrange⟩
  rw [convertChecked_of_inRange hpass, convertUnchecked_of_contains h hrange]

theorem convertChecked_of_not_contains (h : ∀ i, v.trunc? = some i → ¬ k.Contains i) :
    convertChecked ⟨.float f, v⟩ (.int k) = .error (outOfRange ⟨.float f, v⟩ (.int k)) := by
  refine convertChecked_of_not_inRange ?_
  intro hpass
  rcases IntKind.passesRangeTest_iff.1 hpass with ⟨i, hi, hrange⟩
  exact h i hi hrange

/-! ## Into the shorter format -/

theorem not_overflows_of_precision_le {g : FloatKind} (h : f.precision ≤ g.precision)
    (v : Binary f) : (v.isFinite && (v.toFormat g).isInfinite) = false := by
  cases v with
  | finite negative m hm =>
      rw [Binary.toFormat_of_precision_le h]
      rfl
  | _ => rfl

/-- The check of the shorter format could be made for any two formats. -/
theorem inRange_float (v : Binary f) (g : FloatKind) :
    inRange ⟨.float f, v⟩ (.float g) = !(v.isFinite && (v.toFormat g).isInfinite) := by
  cases f with
  | single =>
      have hlonger : FloatKind.single.precision ≤ g.precision := by
        cases g <;> decide
      rw [not_overflows_of_precision_le hlonger]
      cases g <;> rfl
  | double =>
      cases g with
      | single => rfl
      | double =>
          rw [not_overflows_of_precision_le (le_refl _)]
          rfl

theorem convertChecked_float (v : Binary f) (g : FloatKind) :
    convertChecked ⟨.float f, v⟩ (.float g) =
      if v.isFinite && (v.toFormat g).isInfinite then
        .error (outOfRange ⟨.float f, v⟩ (.float g))
      else
        convertUnchecked ⟨.float f, v⟩ (.float g) := by
  rw [convertChecked, inRange_float]
  cases v.isFinite && (v.toFormat g).isInfinite <;> rfl

/-- What is finite and becomes infinite in a format is a rational number beyond its bound. -/
theorem overflows_iff {g : FloatKind} :
    (v.isFinite && (v.toFormat g).isInfinite) = true ↔
      ∃ q, v.toRat? = some q ∧ Binary.overflowBound g ≤ |q| := by
  cases hv : v.toRat? with
  | none =>
      have hinfinite : v.isFinite = false := by
        cases v with
        | finite negative m h => cases hv
        | _ => rfl
      simp [hinfinite]
  | some q =>
      have hfinite : v.isFinite = true := by
        rcases Binary.toRat?_eq_some_iff.1 hv with ⟨negative, m, h, rfl, -⟩
        rfl
      simp [hfinite, Binary.isInfinite_toFormat_iff hv]

/-- Conversions from a floating-point format depend on the rational number that a finite value is.

Into an integer kind, with a check: the integer part if it is in range, and an overflow for all other
values.  Without one: the integer part clamped to the range, an end of the range for an infinity, and
zero for NaN.  The check is made in double precision.

From the longer into the shorter format a check finds an overflow exactly from `2 ^ 128 - 2 ^ 103`
on, and changes nothing elsewhere; NaN and the infinities carry over. -/
theorem float_conversion_exact :
    (∀ (f : FloatKind) (v : Binary f) (k : IntKind),
      (∀ q, v.toRat? = some q → k.Contains (integerPart q) → ∃ m : Num k,
        m.toInt = integerPart q ∧ convertChecked ⟨.float f, v⟩ (.int k) = .ok ⟨.int k, m⟩) ∧
      ((∀ q, v.toRat? = some q → ¬ k.Contains (integerPart q)) →
        convertChecked ⟨.float f, v⟩ (.int k) = .error (outOfRange ⟨.float f, v⟩ (.int k))) ∧
      (∃ m : Num k, convertUnchecked ⟨.float f, v⟩ (.int k) = .ok ⟨.int k, m⟩ ∧
        (∀ q, v.toRat? = some q → m.toInt = max k.minValue (min (integerPart q) k.maxValue)) ∧
        (∀ negative, v = .infinite negative →
          m.toInt = if negative then k.minValue else k.maxValue) ∧
        (v.isNaN = true → m.toInt = 0)) ∧
      convertChecked ⟨.float f, v⟩ (.int k) =
        if k.passesRangeTest v then
          convertUnchecked ⟨.float f, v⟩ (.int k)
        else
          .error (outOfRange ⟨.float f, v⟩ (.int k))) ∧
    ∀ v : Binary .double,
      (convertChecked ⟨.f64, v⟩ .f32 = .error (outOfRange ⟨.f64, v⟩ .f32) ↔
        ∃ q, v.toRat? = some q ∧ 2 ^ 128 - 2 ^ 103 ≤ |q|) ∧
      ((∀ q, v.toRat? = some q → |q| < 2 ^ 128 - 2 ^ 103) →
        convertChecked ⟨.f64, v⟩ .f32 = convertUnchecked ⟨.f64, v⟩ .f32) ∧
      (v.isNaN = true → ∃ w : Binary .single, w.isNaN = true ∧
        convertChecked ⟨.f64, v⟩ .f32 = .ok ⟨.f32, w⟩) ∧
      ∀ negative, v = .infinite negative →
        convertChecked ⟨.f64, v⟩ .f32 = .ok ⟨.f32, .infinite negative⟩ := by
  constructor
  · intro f v k
    refine ⟨?_, ?_, ⟨saturate k v, rfl, ?_, ?_, ?_⟩, rfl⟩
    · intro q hq hrange
      exact ⟨⟨_, hrange⟩, rfl, convertChecked_of_contains (Binary.trunc?_of_toRat? hq) hrange⟩
    · intro hout
      refine convertChecked_of_not_contains ?_
      intro i hi
      rw [v.trunc?_eq, Option.map_eq_some_iff] at hi
      rcases hi with ⟨q, hq, rfl⟩
      exact hout q hq
    · intro q hq
      rw [saturate_eq_clamp (Binary.trunc?_of_toRat? hq), Num.toInt_clamp]
    · rintro negative rfl
      have hend : k.Contains (if negative then k.minValue else k.maxValue) := by
        have hle := k.minValue_le_maxValue
        cases negative
        · exact ⟨hle, le_rfl⟩
        · exact ⟨le_rfl, hle⟩
      exact congrArg Num.toInt (Num.clamp_of_contains hend)
    · intro hnan
      cases v with
      | nan negative n h => rfl
      | _ => cases hnan
  · intro v
    have hover := overflows_iff (v := v) (g := .single)
    rw [Binary.overflowBound_single] at hover
    refine ⟨?_, ?_, ?_, ?_⟩
    · rw [← hover, convertChecked_float]
      split
      · rename_i hinfinite
        exact iff_of_true rfl hinfinite
      · rename_i hfinite
        refine iff_of_false ?_ hfinite
        intro herror
        cases herror
    · intro hbelow
      rw [convertChecked_float, if_neg]
      rw [hover]
      rintro ⟨q, hq, hle⟩
      exact not_lt.2 hle (hbelow q hq)
    · intro hnan
      refine ⟨v.toFormat .single, by rw [Binary.isNaN_toFormat, hnan], ?_⟩
      cases v with
      | nan negative n h => rfl
      | _ => cases hnan
    · rintro negative rfl
      rfl

end Scalar
end Recast
