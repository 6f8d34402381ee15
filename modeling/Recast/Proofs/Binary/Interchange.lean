import Recast.Binary.Interchange
import Recast.Proofs.Binary.Magnitudes

/-!
# Interchange — values and their stored bits

The values of a format are its stored words: every word is the stored form of one value, and every
value is read back from its word, the NaNs with sign and fraction.

* `FloatKind.Normalized`: the significands and exponents that are stored;
* `FloatKind.unpack_pack`, `FloatKind.pack_unpack`: magnitudes and what is stored of them;
* `Binary.toBits_ofBits`, `Binary.ofBits_toBits`: words and values.
-/

namespace Recast
namespace FloatKind

variable {f : FloatKind} {c e m body : Nat}

/-! ## Significands -/

/-- A significand of full length, or a shorter one with the least exponent. -/
structure Normalized (f : FloatKind) (c e : Nat) : Prop where
  lt : c < 2 ^ f.precision
  le : f.minExponent ≤ e
  full : 2 ^ f.fractionBits ≤ c ∨ e = f.minExponent

theorem two_pow_precision (f : FloatKind) :
    2 ^ f.precision = 2 ^ f.fractionBits + 2 ^ f.fractionBits := by
  cases f <;> decide

theorem precision_eq (f : FloatKind) : f.precision = f.fractionBits + 1 := by
  cases f <;> decide

/-- A significand of full length makes a magnitude of full length. -/
theorem bitLength_mul (hlow : 2 ^ f.fractionBits ≤ c) (hhigh : c < 2 ^ f.precision) :
    bitLength (c * 2 ^ e) = f.precision + e := by
  have hpos := Nat.two_pow_pos e
  have hle : bitLength (c * 2 ^ e) ≤ f.precision + e := by
    rw [bitLength_le_iff, Nat.pow_add]
    exact Nat.mul_lt_mul_of_pos_right hhigh hpos
  have hge : ¬ bitLength (c * 2 ^ e) ≤ f.fractionBits + e := by
    rw [bitLength_le_iff, Nat.pow_add, Nat.not_lt]
    exact Nat.mul_le_mul_right _ hlow
  have hbits := f.precision_eq
  omega

theorem Normalized.spacingExponent_eq (h : f.Normalized c e) :
    f.spacingExponent (c * 2 ^ e) = e := by
  rw [FloatKind.spacingExponent_eq]
  have hle := h.le
  rcases h.full with hfull | rfl
  · rw [bitLength_mul hfull h.lt]
    omega
  · have hlen : bitLength (c * 2 ^ f.minExponent) ≤ f.precision + f.minExponent := by
      rw [bitLength_le_iff, Nat.pow_add]
      exact Nat.mul_lt_mul_of_pos_right h.lt (Nat.two_pow_pos _)
    omega

/-- Every magnitude is that of a significand. -/
theorem Representable.exists_normalized (hm : f.Representable m) :
    ∃ c e, f.Normalized c e ∧ m = c * 2 ^ e := by
  refine ⟨m / f.spacing m, f.spacingExponent m, ⟨?_, Nat.le_max_right _ _, ?_⟩, ?_⟩
  · have hlen : bitLength m ≤ f.precision + f.spacingExponent m := by
      rw [FloatKind.spacingExponent_eq]
      omega
    rw [Nat.div_lt_iff_lt_mul (f.spacing_pos m), spacing, ← Nat.pow_add]
    exact bitLength_le_iff.1 hlen
  -- Above the least exponent the length of the magnitude determines the exponent.
  · by_cases hexponent : f.spacingExponent m = f.minExponent
    · exact Or.inr hexponent
    · refine Or.inl ?_
      rw [Nat.le_div_iff_mul_le (f.spacing_pos m), spacing, ← Nat.pow_add, ← Nat.not_lt,
        ← bitLength_le_iff]
      have hbits := f.precision_eq
      rw [FloatKind.spacingExponent_eq] at *
      omega
  · exact (Nat.div_mul_cancel hm.1).symm

/-! ## Exponent field and fraction -/

theorem Normalized.pack_eq (h : f.Normalized c e) :
    f.pack (c * 2 ^ e) = (e - f.minExponent) * 2 ^ f.fractionBits + c := by
  rw [pack, spacing, h.spacingExponent_eq, Nat.mul_div_cancel _ (Nat.two_pow_pos e)]

theorem Normalized.unpack_eq (h : f.Normalized c e) :
    f.unpack ((e - f.minExponent) * 2 ^ f.fractionBits + c) = c * 2 ^ e := by
  have hpos := Nat.two_pow_pos f.fractionBits
  -- A short significand leaves the field zero; the leading bit of any other steps it by one.
  by_cases hshort : c < 2 ^ f.fractionBits
  · have hexponent : e = f.minExponent := h.full.resolve_left (Nat.not_le.2 hshort)
    simp [unpack, hexponent, Nat.div_eq_of_lt hshort, Nat.mod_eq_of_lt hshort]
  · obtain ⟨fraction, rfl⟩ := Nat.exists_eq_add_of_le (Nat.not_lt.1 hshort)
    have hfraction : fraction < 2 ^ f.fractionBits := by
      have hlt := h.lt
      rw [two_pow_precision] at hlt
      omega
    have hbody : (e - f.minExponent) * 2 ^ f.fractionBits + (2 ^ f.fractionBits + fraction) =
        fraction + (e - f.minExponent + 1) * 2 ^ f.fractionBits := by
      rw [Nat.add_mul]
      omega
    have hfield : (fraction + (e - f.minExponent + 1) * 2 ^ f.fractionBits) / 2 ^ f.fractionBits =
        e - f.minExponent + 1 := by
      rw [Nat.add_mul_div_right _ _ hpos, Nat.div_eq_of_lt hfraction, Nat.zero_add]
    have hrest : (fraction + (e - f.minExponent + 1) * 2 ^ f.fractionBits) % 2 ^ f.fractionBits =
        fraction := by
      rw [Nat.add_mul_mod_self_right, Nat.mod_eq_of_lt hfraction]
    have hexponent : f.minExponent + (e - f.minExponent) = e := Nat.add_sub_cancel' h.le
    rw [hbody]
    simp only [unpack, hfield, hrest]
    rw [if_neg (Nat.succ_ne_zero _), Nat.add_sub_cancel, hexponent, Nat.add_comm]

/-- What is stored of a magnitude below the limit is below what is stored of the infinity. -/
theorem Normalized.body_lt (h : f.Normalized c e) (hlimit : c * 2 ^ e < 2 ^ f.limitExponent) :
    (e - f.minExponent) * 2 ^ f.fractionBits + c < f.infinityBits := by
  have hexponent : e - f.minExponent ≤ f.limitExponent - f.precision - f.minExponent := by
    rcases h.full with hfull | rfl
    · have hlen : f.precision + e ≤ f.limitExponent := by
        rw [← bitLength_mul hfull h.lt]
        exact bitLength_le_iff.2 hlimit
      omega
    · omega
  calc
    (e - f.minExponent) * 2 ^ f.fractionBits + c
        < (e - f.minExponent) * 2 ^ f.fractionBits + 2 ^ f.precision :=
      Nat.add_lt_add_left h.lt _
    _ = (e - f.minExponent + 2) * 2 ^ f.fractionBits := by
      rw [two_pow_precision, Nat.add_mul, Nat.two_mul]
    _ ≤ f.infinityBits := Nat.mul_le_mul_right _ (Nat.add_le_add_right hexponent 2)

theorem mul_lt_limit (hc : c < 2 ^ f.precision) (he : f.precision + e ≤ f.limitExponent) :
    c * 2 ^ e < 2 ^ f.limitExponent := by
  calc
    c * 2 ^ e < 2 ^ f.precision * 2 ^ e := Nat.mul_lt_mul_of_pos_right hc (Nat.two_pow_pos e)
    _ = 2 ^ (f.precision + e) := (Nat.pow_add ..).symm
    _ ≤ 2 ^ f.limitExponent := Nat.pow_le_pow_right (by decide) he

/-- What is stored below the infinity is stored of a magnitude below the limit. -/
theorem exists_normalized_of_lt (hbody : body < f.infinityBits) :
    ∃ c e, f.Normalized c e ∧ c * 2 ^ e < 2 ^ f.limitExponent ∧
      body = (e - f.minExponent) * 2 ^ f.fractionBits + c := by
  have hfraction : body % 2 ^ f.fractionBits < 2 ^ f.fractionBits :=
    Nat.mod_lt _ (Nat.two_pow_pos _)
  have hsplit := Nat.div_add_mod' body (2 ^ f.fractionBits)
  have hprecision := f.two_pow_precision
  have hrange : f.precision + f.minExponent < f.limitExponent := by
    cases f <;> decide
  -- With the field zero the significand is the fraction, and else it has the leading bit as well.
  by_cases hfield : body / 2 ^ f.fractionBits = 0
  · have hlt : body % 2 ^ f.fractionBits < 2 ^ f.precision := by omega
    refine ⟨body % 2 ^ f.fractionBits, f.minExponent, ⟨hlt, Nat.le_refl _, Or.inr rfl⟩,
      mul_lt_limit hlt (Nat.le_of_lt hrange), ?_⟩
    rw [hfield, Nat.zero_mul, Nat.zero_add] at hsplit
    rw [Nat.sub_self, Nat.zero_mul, Nat.zero_add, hsplit]
  · obtain ⟨steps, hsteps⟩ := Nat.exists_eq_succ_of_ne_zero hfield
    have hsmall : body / 2 ^ f.fractionBits <
        f.limitExponent - f.precision - f.minExponent + 2 := by
      rw [Nat.div_lt_iff_lt_mul (Nat.two_pow_pos _)]
      exact hbody
    have hlt : 2 ^ f.fractionBits + body % 2 ^ f.fractionBits < 2 ^ f.precision := by omega
    refine ⟨2 ^ f.fractionBits + body % 2 ^ f.fractionBits, f.minExponent + steps,
      ⟨hlt, Nat.le_add_right _ _, Or.inl (Nat.le_add_right _ _)⟩, mul_lt_limit hlt (by omega), ?_⟩
    rw [hsteps, Nat.succ_mul] at hsplit
    rw [Nat.add_sub_cancel_left]
    omega

theorem pack_lt (hm : f.Representable m) : f.pack m < f.infinityBits := by
  obtain ⟨c, e, hnormal, rfl⟩ := hm.exists_normalized
  rw [hnormal.pack_eq]
  exact hnormal.body_lt hm.2

theorem unpack_pack (hm : f.Representable m) : f.unpack (f.pack m) = m := by
  obtain ⟨c, e, hnormal, rfl⟩ := hm.exists_normalized
  rw [hnormal.pack_eq, hnormal.unpack_eq]

theorem pack_unpack (hbody : body < f.infinityBits) : f.pack (f.unpack body) = body := by
  obtain ⟨c, e, hnormal, -, rfl⟩ := exists_normalized_of_lt hbody
  rw [hnormal.unpack_eq, hnormal.pack_eq]

theorem representable_unpack (hbody : body < f.infinityBits) : f.Representable (f.unpack body) := by
  obtain ⟨c, e, hnormal, hlimit, rfl⟩ := exists_normalized_of_lt hbody
  rw [hnormal.unpack_eq]
  exact representable_mul (Nat.le_of_lt hnormal.lt) hnormal.le hlimit

/-! ## Words -/

theorem infinityBits_add (f : FloatKind) :
    f.infinityBits + 2 ^ f.fractionBits = 2 ^ (f.bits - 1) := by
  cases f <;> decide +kernel

/-- Sign bit and rest of a word are found again. -/
theorem signBit_div (f : FloatKind) (negative : Bool) (hbody : body < 2 ^ (f.bits - 1)) :
    ((f.signBit negative + body) / 2 ^ (f.bits - 1) % 2 == 1) = negative ∧
      (f.signBit negative + body) % 2 ^ (f.bits - 1) = body := by
  have hpos := Nat.two_pow_pos (f.bits - 1)
  cases negative with
  | false => simp [signBit, Nat.div_eq_of_lt hbody, Nat.mod_eq_of_lt hbody]
  | true =>
      rw [signBit, if_pos rfl, Nat.add_div_left _ hpos, Nat.add_mod_left, Nat.div_eq_of_lt hbody,
        Nat.mod_eq_of_lt hbody]
      exact ⟨rfl, rfl⟩

/-- A word is its sign bit and the rest. -/
theorem signBit_add_mod {bits : Nat} (hbits : bits < 2 ^ f.bits) :
    f.signBit (bits / 2 ^ (f.bits - 1) % 2 == 1) + bits % 2 ^ (f.bits - 1) = bits := by
  have hpos := Nat.two_pow_pos (f.bits - 1)
  have htwice : 2 ^ f.bits = 2 ^ (f.bits - 1) + 2 ^ (f.bits - 1) := by
    cases f <;> decide
  by_cases hsign : bits < 2 ^ (f.bits - 1)
  · simp [signBit, Nat.div_eq_of_lt hsign, Nat.mod_eq_of_lt hsign]
  · obtain ⟨body, rfl⟩ := Nat.exists_eq_add_of_le (Nat.not_lt.1 hsign)
    have hbody : body < 2 ^ (f.bits - 1) := by omega
    rw [Nat.add_div_left _ hpos, Nat.add_mod_left, Nat.div_eq_of_lt hbody, Nat.mod_eq_of_lt hbody]
    rfl

end FloatKind

namespace Binary

variable {f : FloatKind}

/-- Every value is read back from its word. -/
theorem ofBits_toBits (x : Binary f) : ofBits f x.toBits = x := by
  have hsum := f.infinityBits_add
  have hpos := Nat.two_pow_pos f.fractionBits
  cases x with
  | nan negative n h =>
      have hword : f.infinityBits + n < 2 ^ (f.bits - 1) := by
        have hlt := h.2
        omega
      obtain ⟨hsign, hbody⟩ := f.signBit_div negative hword
      have hnot : ¬ f.infinityBits + n < f.infinityBits := by omega
      simp only [ofBits, toBits, hsign, hbody, if_neg hnot, Nat.add_sub_cancel_left, dif_pos h]
  | infinite negative =>
      have hword : f.infinityBits < 2 ^ (f.bits - 1) := by omega
      obtain ⟨hsign, hbody⟩ := f.signBit_div negative hword
      have hzero : ¬ f.IsNaNFraction (f.infinityBits - f.infinityBits) := by
        rw [Nat.sub_self]
        exact fun h => Nat.lt_irrefl 0 h.1
      simp only [ofBits, toBits, hsign, hbody, if_neg (Nat.lt_irrefl _), dif_neg hzero]
  | finite negative m h =>
      have hpack := FloatKind.pack_lt h
      have hword : f.pack m < 2 ^ (f.bits - 1) := by omega
      obtain ⟨hsign, hbody⟩ := f.signBit_div negative hword
      simp only [ofBits, toBits, hsign, hbody, if_pos hpack, FloatKind.unpack_pack h,
        ofMagnitude_of_representable negative h]

/-- Every word of the width of a format is the stored form of the value read from it. -/
theorem toBits_ofBits {bits : Nat} (hbits : bits < 2 ^ f.bits) : (ofBits f bits).toBits = bits := by
  have hword := FloatKind.signBit_add_mod hbits
  have hsum := f.infinityBits_add
  have hbody : bits % 2 ^ (f.bits - 1) < 2 ^ (f.bits - 1) := Nat.mod_lt _ (Nat.two_pow_pos _)
  simp only [ofBits]
  split
  · rename_i hfinite
    have hheld := FloatKind.representable_unpack hfinite
    rw [ofMagnitude_of_representable _ hheld, toBits, FloatKind.pack_unpack hfinite, hword]
  · rename_i hbeyond
    split
    · rw [toBits, Nat.add_sub_cancel' (Nat.not_lt.1 hbeyond), hword]
    · rename_i hzero
      have hinfinite : bits % 2 ^ (f.bits - 1) = f.infinityBits := by
        refine Nat.le_antisymm (Nat.not_lt.1 fun hlt => hzero ?_) (Nat.not_lt.1 hbeyond)
        exact ⟨by omega, by omega⟩
      rw [toBits, ← hinfinite, hword]

theorem toBits_eq_iff {bits : Nat} (hbits : bits < 2 ^ f.bits) {x : Binary f} :
    x.toBits = bits ↔ x = ofBits f bits := by
  constructor
  · rintro rfl
    exact (ofBits_toBits x).symm
  · rintro rfl
    exact toBits_ofBits hbits

end Binary
end Recast
