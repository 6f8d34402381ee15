import Mathlib.Logic.Function.Basic
import Recast.TypeHash

/-!
# Wrapping — the hashes of wrappers

The hash of a wrapper is made from the hash of the wrapped type in three steps: a product with an
odd word, a rotation, and a mask.  Each of these can be undone, so that every hash is that of the
wrapper of one type, found by `TypeHash.unwrap`.

* `Digest.rotateLeft_rotateLeft`: a rotation by the remaining places leads back;
* `TypeHash.nullable_eq_iff`: what a hash wraps can be read off it;
* `TypeHash.nullable_injective`: no two types share the hash of their wrappers;
* `TypeHash.nullable_bijective`: and no hash is left out.
-/

namespace Recast
namespace Digest

variable {x r : UInt64}

/-! ## Rotations -/

theorem toNat_sixtyFour_sub (hlt : r.toNat < 64) : (64 - r).toNat = 64 - r.toNat :=
  UInt64.toNat_sub_of_le 64 r (Nat.le_of_lt hlt)

theorem toBitVec_rotateLeft (hpos : 0 < r.toNat) (hlt : r.toNat < 64) :
    (rotateLeft x r).toBitVec = x.toBitVec.rotateLeft r.toNat := by
  have hback := toNat_sixtyFour_sub hlt
  have hmod : r.toNat % 64 = r.toNat := Nat.mod_eq_of_lt hlt
  have hmod' : (64 - r.toNat) % 64 = 64 - r.toNat := Nat.mod_eq_of_lt (by omega)
  apply BitVec.eq_of_toNat_eq
  simp only [rotateLeft, BitVec.rotateLeft_def, hmod, UInt64.toNat_toBitVec, UInt64.toNat_or,
    UInt64.toNat_shiftLeft, UInt64.toNat_shiftRight, hback, hmod', BitVec.toNat_or,
    BitVec.toNat_shiftLeft, BitVec.toNat_ushiftRight]

/-- Every bit goes `r` places up and around, and the remaining `64 - r` places bring it home. -/
theorem rotateLeft_rotateLeft (hpos : 0 < r.toNat) (hlt : r.toNat < 64) :
    rotateLeft (rotateLeft x r) (64 - r) = x := by
  have hback := toNat_sixtyFour_sub hlt
  have hmod : r.toNat % 64 = r.toNat := Nat.mod_eq_of_lt hlt
  have hmod' : (64 - r.toNat) % 64 = 64 - r.toNat := Nat.mod_eq_of_lt (by omega)
  apply UInt64.toBitVec_inj.1
  rw [toBitVec_rotateLeft (by omega) (by omega), toBitVec_rotateLeft hpos hlt, hback]
  apply BitVec.eq_of_getLsbD_eq
  intro i hi
  simp only [BitVec.getLsbD_rotateLeft, hmod, hmod']
  by_cases hlow : i < 64 - r.toNat
  -- The bit comes from place `i + r`, where the first rotation has put it without going around.
  · have hplace : 64 - (64 - r.toNat) + i = i + r.toNat := by omega
    have hup : ¬ i + r.toNat < r.toNat := by omega
    have hin : i + r.toNat < 64 := by omega
    simp [hlow, hplace, hup, hin]
  · have haround : i - (64 - r.toNat) < r.toNat := by omega
    have hplace : 64 - r.toNat + (i - (64 - r.toNat)) = i := by omega
    simp [hlow, hi, haround, hplace]

end Digest

namespace TypeHash

variable {a b inner outer : TypeHash}

/-! ## Unwrapping -/

/-- The inverse of the separator, which is odd. -/
def separatorInverse : UInt64 := 0xd3f20f0a40208825

theorem separator_mul_inverse : separator * separatorInverse = 1 := by
  decide

/-- The hash whose wrapper has this hash. -/
def unwrap (outer : TypeHash) : TypeHash :=
  { value := Digest.rotateLeft (nullableDomain ^^^ outer.value) 47 * separatorInverse }

theorem mask_mask (word : UInt64) : nullableDomain ^^^ (nullableDomain ^^^ word) = word := by
  rw [← UInt64.xor_assoc, UInt64.xor_self, UInt64.zero_xor]

theorem unwrap_nullable (inner : TypeHash) : inner.nullable.unwrap = inner := by
  have hmask : nullableDomain ^^^ inner.nullable.value =
      Digest.rotateLeft (inner.value * separator) 17 := mask_mask _
  have hrotate : Digest.rotateLeft (Digest.rotateLeft (inner.value * separator) 17) 47 =
      inner.value * separator := Digest.rotateLeft_rotateLeft (by decide) (by decide)
  have hvalue : inner.nullable.unwrap.value = inner.value := by
    calc
      inner.nullable.unwrap.value = inner.value * separator * separatorInverse := by
        simp only [unwrap, hmask, hrotate]
      _ = inner.value := by rw [UInt64.mul_assoc, separator_mul_inverse, UInt64.mul_one]
  exact congrArg TypeHash.mk hvalue

theorem nullable_unwrap (outer : TypeHash) : outer.unwrap.nullable = outer := by
  have hproduct : outer.unwrap.value * separator =
      Digest.rotateLeft (nullableDomain ^^^ outer.value) 47 := by
    have hcomm : separatorInverse * separator = 1 :=
      (UInt64.mul_comm _ _).trans separator_mul_inverse
    rw [unwrap, UInt64.mul_assoc, hcomm, UInt64.mul_one]
  have hrotate : Digest.rotateLeft (Digest.rotateLeft (nullableDomain ^^^ outer.value) 47) 17 =
      nullableDomain ^^^ outer.value := Digest.rotateLeft_rotateLeft (by decide) (by decide)
  have hvalue : outer.unwrap.nullable.value = outer.value := by
    calc
      outer.unwrap.nullable.value = nullableDomain ^^^ (nullableDomain ^^^ outer.value) := by
        simp only [nullable, hproduct, hrotate]
      _ = outer.value := mask_mask outer.value
  exact congrArg TypeHash.mk hvalue

/-- What a hash wraps can be read off it. -/
theorem nullable_eq_iff : inner.nullable = outer ↔ inner = outer.unwrap := by
  constructor
  · rintro rfl
    exact (unwrap_nullable inner).symm
  · rintro rfl
    exact nullable_unwrap outer

/-- No two types share the hash of their wrappers. -/
theorem nullable_injective (h : a.nullable = b.nullable) : a = b :=
  (nullable_eq_iff.1 h).trans (unwrap_nullable b)

/-- Wrapping permutes the hashes: unlike types have unlike wrappers, and every hash is that of the
wrapper of exactly one. -/
theorem nullable_bijective :
    Function.Bijective nullable ∧ (∀ a b : TypeHash, a.nullable = b.nullable ↔ a = b) ∧
      ∀ outer, ∃! inner : TypeHash, inner.nullable = outer := by
  have hbijective : Function.Bijective nullable :=
    Function.bijective_iff_has_inverse.2 ⟨unwrap, unwrap_nullable, nullable_unwrap⟩
  refine ⟨hbijective, ?_, ?_⟩
  · intro a b
    exact ⟨nullable_injective, congrArg nullable⟩
  · intro outer
    refine ⟨outer.unwrap, nullable_unwrap outer, ?_⟩
    intro inner h
    exact nullable_eq_iff.1 h

end TypeHash
end Recast
