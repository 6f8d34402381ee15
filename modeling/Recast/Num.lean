import Recast.Kind

/-!
# Num — values of the integer kinds

`Num k` is the type of the integers in the range of the kind `k`.  An arbitrary integer enters it in
three ways, which agree on the integers in range:

* `Num.ofInt?` refuses what is out of range;
* `Num.wrap` takes the value congruent modulo `2 ^ bits`;
* `Num.clamp` takes the nearest value.
-/

namespace Recast

namespace IntKind

/-- Whether an integer lies in the range of a kind. -/
def Contains (k : IntKind) (n : Int) : Prop :=
  k.minValue ≤ n ∧ n ≤ k.maxValue

instance (k : IntKind) (n : Int) : Decidable (k.Contains n) :=
  inferInstanceAs (Decidable (_ ∧ _))

theorem minValue_le_maxValue (k : IntKind) : k.minValue ≤ k.maxValue := by
  obtain ⟨signed, width⟩ := k
  cases signed <;> cases width <;> decide

theorem contains_zero (k : IntKind) : k.Contains 0 := by
  obtain ⟨signed, width⟩ := k
  cases signed <;> cases width <;> decide

/-- The range of a kind has `2 ^ bits` members. -/
theorem maxValue_eq (k : IntKind) : k.maxValue = k.minValue + 2 ^ k.bits - 1 := by
  obtain ⟨signed, width⟩ := k
  cases signed <;> cases width <;> decide

end IntKind

/-- The values of an integer kind. -/
@[ext]
structure Num (k : IntKind) where
  toInt : Int
  contains_toInt : k.Contains toInt
  deriving DecidableEq

namespace Num

def zero (k : IntKind) : Num k :=
  ⟨0, k.contains_zero⟩

/-- An integer as a value of a kind, if it is in range. -/
def ofInt? (k : IntKind) (n : Int) : Option (Num k) :=
  if h : k.Contains n then some ⟨n, h⟩ else none

/-- The value of a kind congruent to an integer modulo `2 ^ bits`. -/
def wrap (k : IntKind) (n : Int) : Num k :=
  ⟨(n - k.minValue) % 2 ^ k.bits + k.minValue, by
    have hpos : (0 : Int) < 2 ^ k.bits := Int.pow_pos (by decide)
    -- The remainder lies in `[0, 2 ^ bits)`, and the range of the kind is that interval shifted.
    have hlow := Int.emod_nonneg (n - k.minValue) (Int.ne_of_gt hpos)
    have hhigh := Int.emod_lt_of_pos (n - k.minValue) hpos
    have hmax := k.maxValue_eq
    exact ⟨by omega, by omega⟩⟩

theorem wrap_toInt_self {k : IntKind} (v : Num k) : wrap k v.toInt = v := by
  apply Num.ext
  have hrange := v.contains_toInt
  have hmax := k.maxValue_eq
  have hsmall : (v.toInt - k.minValue) % 2 ^ k.bits = v.toInt - k.minValue :=
    Int.emod_eq_of_lt (by have := hrange.1; omega) (by have := hrange.2; omega)
  show (v.toInt - k.minValue) % 2 ^ k.bits + k.minValue = v.toInt
  rw [hsmall]
  omega

/-- The value of a kind nearest to an integer. -/
def clamp (k : IntKind) (n : Int) : Num k :=
  ⟨if n < k.minValue then k.minValue else if k.maxValue < n then k.maxValue else n, by
    have hle := k.minValue_le_maxValue
    unfold IntKind.Contains
    split
    · exact ⟨Int.le_refl _, hle⟩
    · split
      · exact ⟨hle, Int.le_refl _⟩
      · exact ⟨by omega, by omega⟩⟩

theorem clamp_toInt_self {k : IntKind} (v : Num k) : clamp k v.toInt = v := by
  apply Num.ext
  have hrange := v.contains_toInt
  show (if v.toInt < k.minValue then _ else if k.maxValue < v.toInt then _ else v.toInt) = v.toInt
  rw [if_neg (Int.not_lt.2 hrange.1), if_neg (Int.not_lt.2 hrange.2)]

end Num
end Recast
