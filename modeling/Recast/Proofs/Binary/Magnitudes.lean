import Recast.Binary.Basic

/-!
# Magnitudes — what a format holds, and where it overflows

Rounding is monotone, although the spacing of a format grows with the magnitude: between two
magnitudes of different spacing lies a power of two, which the format holds.

* `FloatKind.nearest_mono`: rounding keeps the order of magnitudes;
* `FloatKind.nearest_lt_limit_iff`: hence it stays below the limit up to one point, half a step
  before the limit;
* `FloatKind.representable_of_precision_le`: a longer format holds what a shorter one holds;
* `FloatKind.representable_int`, `FloatKind.not_representable_succ`: a format holds every integer up
  to `2 ^ precision`, and the next one it does not hold;
* `FloatKind.representable_whole`: it holds the integer part of what it holds.
-/

namespace Recast

variable {s m n k : Nat}

/-! ## Rounding to a multiple -/

theorem le_nearestMultiple (s m : Nat) : m / s * s ≤ nearestMultiple s m := by
  unfold nearestMultiple
  split
  · exact Nat.le_refl _
  · exact Nat.mul_le_mul_right _ (Nat.le_succ _)

theorem nearestMultiple_mono (s : Nat) (h : m ≤ n) : nearestMultiple s m ≤ nearestMultiple s n := by
  have hquot : m / s ≤ n / s := Nat.div_le_div_right h
  by_cases hsame : m / s = n / s
  -- Between the same two multiples: if the greater one goes down, so does the smaller one.
  · have hrem : m % s ≤ n % s := by
      have hm := Nat.div_add_mod m s
      have hn := Nat.div_add_mod n s
      rw [hsame] at hm
      omega
    by_cases hdown : 2 * (n % s) < s ∨ (2 * (n % s) = s ∧ n / s % 2 = 0)
    · have hdown' : 2 * (m % s) < s ∨ (2 * (m % s) = s ∧ m / s % 2 = 0) := by
        rw [hsame]
        omega
      have heq : nearestMultiple s m = nearestMultiple s n := by
        rw [nearestMultiple, nearestMultiple, if_pos hdown, if_pos hdown', hsame]
      exact Nat.le_of_eq heq
    · calc
        nearestMultiple s m ≤ (m / s + 1) * s := nearestMultiple_le s m
        _ = nearestMultiple s n := by rw [nearestMultiple, if_neg hdown, hsame]
  · calc
      nearestMultiple s m ≤ (m / s + 1) * s := nearestMultiple_le s m
      _ ≤ n / s * s := Nat.mul_le_mul_right _ (by omega)
      _ ≤ nearestMultiple s n := le_nearestMultiple s n

/-! ## Sign and unit -/

namespace Binary

theorem signed_natAbs (i : Int) : signed (i < 0) i.natAbs = i := by
  unfold signed
  split
  · rename_i hneg
    have hlt := of_decide_eq_true hneg
    omega
  · rename_i hpos
    have hge : ¬ i < 0 := fun h => hpos (decide_eq_true h)
    omega

theorem signed_mul (negative : Bool) (m n : Nat) :
    signed negative (m * n) = signed negative m * n := by
  cases negative with
  | false => exact Int.natCast_mul m n
  | true =>
      simp only [signed, if_true]
      rw [Int.natCast_mul, Int.neg_mul]

/-- The number one is two to this power, in units. -/
def oneExponent : Nat := 1074

theorem one_eq : one = 2 ^ oneExponent := by
  rw [one, oneExponent]

theorem one_pos : 0 < one := by
  rw [one_eq]
  exact Nat.two_pow_pos _

end Binary

namespace FloatKind

variable {f g : FloatKind}

theorem spacingExponent_eq (f : FloatKind) (m : Nat) :
    f.spacingExponent m = max (bitLength m - f.precision) f.minExponent :=
  rfl

/-! ## Order -/

theorem two_pow_le_nearest (hdvd : f.spacing m ∣ 2 ^ k) (h : 2 ^ k ≤ m) : 2 ^ k ≤ f.nearest m := by
  calc
    2 ^ k = nearestMultiple (f.spacing m) (2 ^ k) :=
      (nearestMultiple_of_dvd (f.spacing_pos m) hdvd).symm
    _ ≤ f.nearest m := nearestMultiple_mono _ h

theorem nearest_le_two_pow (hdvd : f.spacing m ∣ 2 ^ k) (h : m ≤ 2 ^ k) : f.nearest m ≤ 2 ^ k := by
  calc
    f.nearest m ≤ nearestMultiple (f.spacing m) (2 ^ k) := nearestMultiple_mono _ h
    _ = 2 ^ k := nearestMultiple_of_dvd (f.spacing_pos m) hdvd

/-- Rounding keeps the order of magnitudes. -/
theorem nearest_mono (f : FloatKind) (h : m ≤ n) : f.nearest m ≤ f.nearest n := by
  by_cases hsame : f.spacingExponent m = f.spacingExponent n
  · unfold nearest spacing
    rw [hsame]
    exact nearestMultiple_mono _ h
  -- The greater one is longer, so that the power of two with which its length begins lies between.
  · have hlen : bitLength m ≤ bitLength n :=
      bitLength_le_iff.2 (Nat.lt_of_le_of_lt h (lt_two_pow_bitLength n))
    have hprecision := f.precision_pos
    obtain ⟨k, hk⟩ : ∃ k, bitLength n = k + 1 := by
      rw [spacingExponent_eq, spacingExponent_eq] at hsame
      exact ⟨bitLength n - 1, by omega⟩
    have hexponent : f.spacingExponent m ≤ k ∧ f.spacingExponent n ≤ k ∧ bitLength m ≤ k := by
      rw [spacingExponent_eq, spacingExponent_eq] at *
      omega
    have hbelow : m ≤ 2 ^ k := Nat.le_of_lt (bitLength_le_iff.1 hexponent.2.2)
    have habove : 2 ^ k ≤ n := by
      rw [← Nat.not_lt, ← bitLength_le_iff]
      omega
    calc
      f.nearest m ≤ 2 ^ k := nearest_le_two_pow (Nat.pow_dvd_pow 2 hexponent.1) hbelow
      _ ≤ f.nearest n := two_pow_le_nearest (Nat.pow_dvd_pow 2 hexponent.2.1) habove

/-! ## The limit -/

/-- From this magnitude on, half a step of the longest finite values below the limit, rounding leaves
the finite values. -/
def overflowThreshold (f : FloatKind) : Nat :=
  2 ^ f.limitExponent - 2 ^ (f.limitExponent - f.precision - 1)

theorem nearest_overflowThreshold (f : FloatKind) :
    f.nearest f.overflowThreshold = 2 ^ f.limitExponent := by
  cases f <;> decide +kernel

theorem nearest_pred_overflowThreshold (f : FloatKind) :
    f.nearest (f.overflowThreshold - 1) < 2 ^ f.limitExponent := by
  cases f <;> decide +kernel

theorem nearest_lt_limit_iff : f.nearest m < 2 ^ f.limitExponent ↔ m < f.overflowThreshold := by
  constructor
  · intro h
    rw [← Nat.not_le]
    intro hthreshold
    have hmono := f.nearest_mono hthreshold
    rw [nearest_overflowThreshold] at hmono
    omega
  · intro h
    have hpred : m ≤ f.overflowThreshold - 1 := by omega
    exact Nat.lt_of_le_of_lt (f.nearest_mono hpred) f.nearest_pred_overflowThreshold

/-! ## Two formats -/

theorem exponents_of_precision_le (h : f.precision ≤ g.precision) :
    g.minExponent ≤ f.minExponent ∧ f.limitExponent ≤ g.limitExponent := by
  revert h
  cases f <;> cases g <;> decide

theorem representable_of_precision_le (h : f.precision ≤ g.precision) (hm : f.Representable m) :
    g.Representable m := by
  rcases exponents_of_precision_le h with ⟨hmin, hlimit⟩
  have hexponent : g.spacingExponent m ≤ f.spacingExponent m := by
    rw [spacingExponent_eq, spacingExponent_eq]
    omega
  exact ⟨Nat.dvd_trans (Nat.pow_dvd_pow 2 hexponent) hm.1,
    Nat.lt_of_lt_of_le hm.2 (Nat.pow_le_pow_right (by decide) hlimit)⟩

/-! ## Integers -/

theorem minExponent_le_oneExponent (f : FloatKind) : f.minExponent ≤ Binary.oneExponent := by
  cases f <;> decide

theorem precision_add_oneExponent_lt (f : FloatKind) :
    f.precision + Binary.oneExponent < f.limitExponent := by
  cases f <;> decide

theorem representable_int {c : Nat} (hc : c ≤ 2 ^ f.precision) :
    f.Representable (c * Binary.one) := by
  rw [Binary.one_eq]
  refine representable_mul hc f.minExponent_le_oneExponent ?_
  calc
    c * 2 ^ Binary.oneExponent ≤ 2 ^ f.precision * 2 ^ Binary.oneExponent :=
      Nat.mul_le_mul_right _ hc
    _ = 2 ^ (f.precision + Binary.oneExponent) := (Nat.pow_add ..).symm
    _ < 2 ^ f.limitExponent :=
      Nat.pow_lt_pow_right (by decide) f.precision_add_oneExponent_lt

theorem overflowThreshold_single :
    overflowThreshold .single = (2 ^ (128 : Nat) - 2 ^ (103 : Nat)) * Binary.one := by
  decide +kernel

/-- An odd number of steps that is longer than the precision falls between two values. -/
theorem not_spacing_dvd {c e : Nat} (hodd : c % 2 = 1) (hc : 2 ^ f.precision < c) :
    ¬ f.spacing (c * 2 ^ e) ∣ c * 2 ^ e := by
  intro hdvd
  have hlen : f.precision + e < bitLength (c * 2 ^ e) := by
    rw [← Nat.not_le, bitLength_le_iff, Nat.pow_add, Nat.not_lt]
    exact Nat.mul_le_mul_right _ (Nat.le_of_lt hc)
  have hexponent : e + 1 ≤ f.spacingExponent (c * 2 ^ e) := by
    rw [spacingExponent_eq]
    omega
  have htwice : 2 ^ e * 2 ∣ 2 ^ e * c := by
    rw [Nat.mul_comm _ c]
    exact Nat.dvd_trans (Nat.pow_dvd_pow 2 hexponent) hdvd
  have heven : 2 ∣ c := Nat.dvd_of_mul_dvd_mul_left (Nat.two_pow_pos e) htwice
  omega

theorem not_representable_succ (f : FloatKind) :
    ¬ f.Representable ((2 ^ f.precision + 1) * Binary.one) := by
  intro h
  rw [Binary.one_eq] at h
  refine not_spacing_dvd ?_ (Nat.lt_succ_self _) h.1
  have heven : 2 ∣ 2 ^ f.precision := Nat.dvd_of_pow_dvd f.precision_pos (Nat.dvd_refl _)
  omega

/-- A format holds the integer part of every magnitude that it holds. -/
theorem representable_whole (hm : f.Representable m) :
    f.Representable (m / Binary.one * Binary.one) := by
  by_cases hwhole : Binary.oneExponent ≤ f.spacingExponent m
  -- The steps are whole numbers, and there is no fraction.
  · have hdvd : Binary.one ∣ m := by
      rw [Binary.one_eq]
      exact Nat.dvd_trans (Nat.pow_dvd_pow 2 hwhole) hm.1
    rw [Nat.div_mul_cancel hdvd]
    exact hm
  · have hlen : bitLength m ≤ f.precision + Binary.oneExponent := by
      rw [spacingExponent_eq] at hwhole
      omega
    have hquot : m / Binary.one < 2 ^ f.precision := by
      rw [Binary.one_eq, Nat.div_lt_iff_lt_mul (Nat.two_pow_pos _), ← Nat.pow_add]
      exact bitLength_le_iff.1 hlen
    exact representable_int (Nat.le_of_lt hquot)

end FloatKind

namespace Binary

variable {f g : FloatKind}

/-- A format holds the finite values of the formats that are no longer. -/
theorem toFormat_of_precision_le (h : f.precision ≤ g.precision) (negative : Bool)
    (hm : f.Representable m) : (finite negative m hm).toFormat g =
      finite negative m (FloatKind.representable_of_precision_le h hm) :=
  ofMagnitude_of_representable negative _

end Binary
end Recast
