import Recast.Kind

/-!
# Rounding — magnitudes that a floating-point format holds

A finite magnitude is a natural number of *units* of `2 ^ -1074`, the least positive value of the
longest format, so that both formats count in the same unit and every value is exact.

* `FloatKind.Representable`: the magnitudes that a format holds.
* `FloatKind.nearest`: the multiple of the format's spacing nearest to a magnitude, a tie going to
  the even multiple.
* `FloatKind.nearest_eq_self` and `FloatKind.representable_nearest`: rounding leaves what the format
  holds alone, and yields such magnitudes only, as long as the result stays below the limit.
-/

namespace Recast

/-! ## Bit length -/

/-- Number of binary digits of a natural number; zero has none. -/
def bitLength (m : Nat) : Nat :=
  if m = 0 then 0 else m.log2 + 1

theorem bitLength_le_iff {m k : Nat} : bitLength m ≤ k ↔ m < 2 ^ k := by
  unfold bitLength
  by_cases hm : m = 0
  · rw [if_pos hm, hm]
    exact ⟨fun _ => Nat.two_pow_pos k, fun _ => Nat.zero_le _⟩
  · rw [if_neg hm, Nat.succ_le_iff, Nat.log2_lt hm]

theorem lt_two_pow_bitLength (m : Nat) : m < 2 ^ bitLength m :=
  bitLength_le_iff.1 (Nat.le_refl _)

/-! ## Rounding to a multiple -/

/-- The multiple of `s` nearest to `m`, the even multiple if `m` lies half-way. -/
def nearestMultiple (s m : Nat) : Nat :=
  if 2 * (m % s) < s ∨ (2 * (m % s) = s ∧ m / s % 2 = 0) then m / s * s else (m / s + 1) * s

theorem dvd_nearestMultiple (s m : Nat) : s ∣ nearestMultiple s m := by
  unfold nearestMultiple
  split
  · exact Nat.dvd_mul_left _ _
  · exact Nat.dvd_mul_left _ _

theorem nearestMultiple_le (s m : Nat) : nearestMultiple s m ≤ (m / s + 1) * s := by
  unfold nearestMultiple
  split
  · exact Nat.mul_le_mul_right _ (Nat.le_succ _)
  · exact Nat.le_refl _

theorem nearestMultiple_of_dvd {s m : Nat} (hs : 0 < s) (h : s ∣ m) : nearestMultiple s m = m := by
  have hmod : m % s = 0 := Nat.mod_eq_zero_of_dvd h
  have hlt : 2 * (m % s) < s := by
    rw [hmod]
    exact hs
  rw [nearestMultiple, if_pos (Or.inl hlt)]
  exact Nat.div_mul_cancel h

namespace FloatKind

/-! ## What a format holds -/

/-- The least positive value of a format is two to this power, in units. -/
def minExponent : FloatKind → Nat
  | .single => 925
  | .double => 0

/-- All finite values of a format lie below two to this power, in units. -/
def limitExponent : FloatKind → Nat
  | .single => 1202
  | .double => 2098

/-- Consecutive values of a format that are as long as `m` lie two to this power apart, in units. -/
def spacingExponent (f : FloatKind) (m : Nat) : Nat :=
  Nat.max (bitLength m - f.precision) f.minExponent

/-- The distance of consecutive values of a format that are as long as `m`, in units. -/
def spacing (f : FloatKind) (m : Nat) : Nat :=
  2 ^ f.spacingExponent m

/-- The magnitudes of the finite values of a format, in units. -/
def Representable (f : FloatKind) (m : Nat) : Prop :=
  f.spacing m ∣ m ∧ m < 2 ^ f.limitExponent

instance (f : FloatKind) (m : Nat) : Decidable (f.Representable m) :=
  inferInstanceAs (Decidable (_ ∧ _))

theorem spacing_pos (f : FloatKind) (m : Nat) : 0 < f.spacing m :=
  Nat.two_pow_pos _

theorem precision_pos (f : FloatKind) : 0 < f.precision := by
  cases f <;> decide

/-- A magnitude of at most `2 ^ precision` steps of a power of two that the format can tell apart
has the format's spacing. -/
theorem spacing_dvd_mul {f : FloatKind} {c e : Nat} (hc : c ≤ 2 ^ f.precision)
    (he : f.minExponent ≤ e) : f.spacing (c * 2 ^ e) ∣ c * 2 ^ e := by
  by_cases hlt : c < 2 ^ f.precision
  · have hlen : bitLength (c * 2 ^ e) ≤ f.precision + e := by
      rw [bitLength_le_iff, Nat.pow_add]
      exact Nat.mul_lt_mul_of_pos_right hlt (Nat.two_pow_pos e)
    have hexp : f.spacingExponent (c * 2 ^ e) ≤ e := by
      unfold spacingExponent
      exact Nat.max_le.2 ⟨by omega, he⟩
    exact Nat.dvd_trans (Nat.pow_dvd_pow 2 hexp) (Nat.dvd_mul_left _ _)
  -- A carry into the next power of two: the spacing doubles, and still divides.
  · have hc' : c = 2 ^ f.precision := by omega
    have hpos := f.precision_pos
    have hlen : bitLength (2 ^ (f.precision + e)) ≤ f.precision + e + 1 := by
      rw [bitLength_le_iff]
      exact Nat.pow_lt_pow_right (by decide) (Nat.lt_succ_self _)
    have hexp : f.spacingExponent (2 ^ (f.precision + e)) ≤ f.precision + e := by
      unfold spacingExponent
      exact Nat.max_le.2 ⟨by omega, by omega⟩
    rw [hc', ← Nat.pow_add]
    exact Nat.pow_dvd_pow 2 hexp

theorem representable_mul {f : FloatKind} {c e : Nat} (hc : c ≤ 2 ^ f.precision)
    (he : f.minExponent ≤ e) (hlimit : c * 2 ^ e < 2 ^ f.limitExponent) :
    f.Representable (c * 2 ^ e) :=
  ⟨spacing_dvd_mul hc he, hlimit⟩

/-! ## Rounding to nearest -/

/-- The multiple of a format's spacing nearest to a magnitude, a tie going to the even multiple. -/
def nearest (f : FloatKind) (m : Nat) : Nat :=
  nearestMultiple (f.spacing m) m

theorem nearest_eq_self {f : FloatKind} {m : Nat} (h : f.Representable m) : f.nearest m = m :=
  nearestMultiple_of_dvd (f.spacing_pos m) h.1

theorem spacing_dvd_nearest (f : FloatKind) (m : Nat) : f.spacing (f.nearest m) ∣ f.nearest m := by
  obtain ⟨c, hc⟩ := dvd_nearestMultiple (f.spacing m) m
  have hbound : c ≤ 2 ^ f.precision := by
    have hle := nearestMultiple_le (f.spacing m) m
    rw [hc, Nat.mul_comm] at hle
    have hstep : c ≤ m / f.spacing m + 1 := Nat.le_of_mul_le_mul_right hle (f.spacing_pos m)
    have hquot : m / f.spacing m < 2 ^ f.precision := by
      rw [Nat.div_lt_iff_lt_mul (f.spacing_pos m), spacing, ← Nat.pow_add, ← bitLength_le_iff]
      have : bitLength m - f.precision ≤ f.spacingExponent m := Nat.le_max_left _ _
      omega
    omega
  have heq : f.nearest m = c * 2 ^ f.spacingExponent m := by
    rw [nearest, hc, Nat.mul_comm, spacing]
  rw [heq]
  exact spacing_dvd_mul hbound (Nat.le_max_right _ _)

theorem representable_nearest {f : FloatKind} {m : Nat}
    (h : f.nearest m < 2 ^ f.limitExponent) : f.Representable (f.nearest m) :=
  ⟨f.spacing_dvd_nearest m, h⟩

end FloatKind
end Recast
