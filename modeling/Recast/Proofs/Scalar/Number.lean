import Recast.Proofs.Scalar.Floats
import Recast.Proofs.Scalar.Integers

/-!
# Number — numeric values apart from their kinds

Scalars of different kinds can be the same number.  Numbers are the rational ones, the zero that
carries a negative sign, and the two infinities; NaN is no number, and neither is a `bool`.

* `Kind.holds_int_iff`, `Kind.holds_float_iff`: the numbers that a kind holds;
* `Scalar.convert_cases`: between numeric kinds only a check refuses anything, as out of range;
* `Scalar.convert_eq_of_number?`: if the target kind holds the number of a scalar, then either mode
  converts to that very scalar.
-/

namespace Recast

/-! ## Numbers -/

/-- What a numeric value can be.  The zero without a negative sign is `rational 0`, which is the zero
of the integers too. -/
inductive Number where
  | rational (value : ℚ)
  | negativeZero
  | infinite (negative : Bool)
  deriving DecidableEq

namespace Number

/-- The number with this sign and this magnitude in units. -/
def ofUnits (negative : Bool) (m : Nat) : Number :=
  if negative = true ∧ m = 0 then
    .negativeZero
  else
    .rational ((Binary.signed negative m : ℚ) / Binary.one)

/-- Sign and magnitude are parts of the number, of zero too. -/
theorem ofUnits_inj {a b : Bool} {m n : Nat} : ofUnits a m = ofUnits b n ↔ a = b ∧ m = n := by
  constructor
  · intro h
    unfold ofUnits at h
    split at h
    · rename_i hx
      split at h
      · rename_i hy
        exact ⟨hx.1.trans hy.1.symm, hx.2.trans hy.2.symm⟩
      · cases h
    · rename_i hx
      split at h
      · cases h
      · rename_i hy
        have hunits : Binary.signed a m = Binary.signed b n := by
          have hquot := Number.rational.inj h
          rw [div_left_inj' Binary.cast_one_pos.ne'] at hquot
          exact_mod_cast hquot
        -- Opposite signs could only meet at zero, which is not negative here.
        cases a <;> cases b <;> simp [Binary.signed] at hunits hx hy ⊢ <;> omega
  · rintro ⟨rfl, rfl⟩
    rfl

theorem ofUnits_ne_infinite (negative s : Bool) (m : Nat) : ofUnits negative m ≠ .infinite s := by
  intro heq
  unfold ofUnits at heq
  split at heq
  · cases heq
  · cases heq

/-- An integer in units. -/
theorem ofUnits_int (i : ℤ) : ofUnits (i < 0) (i.natAbs * Binary.one) = .rational i := by
  have hone := Binary.one_pos
  have hnonzero : ¬ (decide (i < 0) = true ∧ i.natAbs * Binary.one = 0) := by
    rintro ⟨hneg, hzero⟩
    have habs : i.natAbs = 0 := (Nat.mul_eq_zero.1 hzero).resolve_right hone.ne'
    have hlt := of_decide_eq_true hneg
    omega
  rw [ofUnits, if_neg hnonzero, Binary.signed_mul, Binary.signed_natAbs]
  push_cast
  rw [mul_div_cancel_right₀ _ Binary.cast_one_pos.ne']

end Number

/-! ## The number of a value -/

/-- The number that a floating-point value is, unless it is NaN. -/
def Binary.number? {f : FloatKind} : Binary f → Option Number
  | .nan _ _ _ => none
  | .infinite negative => some (.infinite negative)
  | .finite negative m _ => some (.ofUnits negative m)

namespace Scalar

/-- The number that a scalar is, unless it is NaN or a `bool`. -/
def number? : Scalar → Option Number
  | ⟨.bool, _⟩ => none
  | ⟨.int _, n⟩ => some (.rational n.toInt)
  | ⟨.float _, v⟩ => v.number?

/-- Whether a scalar is NaN, of either format. -/
def isNaN : Scalar → Bool
  | ⟨.float _, v⟩ => v.isNaN
  | _ => false

theorem exists_eq_nan {x : Scalar} (hnan : x.isNaN = true) :
    ∃ (f : FloatKind) (v : Binary f), x = ⟨.float f, v⟩ ∧ v.isNaN = true := by
  obtain ⟨kind, v⟩ := x
  cases kind with
  | float f => exact ⟨f, v, rfl, hnan⟩
  | _ => cases hnan

theorem exists_number? {x : Scalar} (hx : x.kind.isNumeric = true) (hnan : x.isNaN = false) :
    ∃ u, x.number? = some u := by
  obtain ⟨kind, v⟩ := x
  cases kind with
  | bool => cases hx
  | int k => exact ⟨_, rfl⟩
  | float f =>
      cases v with
      | nan => cases hnan
      | infinite negative => exact ⟨_, rfl⟩
      | finite negative m h => exact ⟨_, rfl⟩

end Scalar

/-! ## The numbers of a kind -/

namespace Kind

/-- Whether a number is a value of a kind. -/
def Holds (k : Kind) (u : Number) : Prop :=
  ∃ x : Scalar, x.kind = k ∧ x.number? = some u

variable {u : Number} {k : IntKind} {f : FloatKind}

theorem not_holds_bool : ¬ Kind.bool.Holds u := by
  rintro ⟨⟨_, v⟩, rfl, hu⟩
  cases hu

theorem holds_int_iff : (Kind.int k).Holds u ↔ ∃ i : ℤ, u = .rational i ∧ k.Contains i := by
  constructor
  · rintro ⟨⟨_, n⟩, rfl, hu⟩
    exact ⟨n.toInt, (Option.some.inj hu).symm, n.contains_toInt⟩
  · rintro ⟨i, rfl, hrange⟩
    exact ⟨⟨.int k, ⟨i, hrange⟩⟩, rfl, rfl⟩

theorem holds_float_iff :
    (Kind.float f).Holds u ↔
      (∃ negative, u = .infinite negative) ∨
        ∃ negative m, f.Representable m ∧ u = .ofUnits negative m := by
  constructor
  · rintro ⟨⟨_, v⟩, rfl, hu⟩
    cases v with
    | nan => cases hu
    | infinite negative => exact Or.inl ⟨negative, (Option.some.inj hu).symm⟩
    | finite negative m h => exact Or.inr ⟨negative, m, h, (Option.some.inj hu).symm⟩
  · rintro (⟨negative, rfl⟩ | ⟨negative, m, h, rfl⟩)
    · exact ⟨⟨.float f, .infinite negative⟩, rfl, rfl⟩
    · exact ⟨⟨.float f, .finite negative m h⟩, rfl, rfl⟩

theorem holds_int_rational_iff {i : ℤ} : (Kind.int k).Holds (.rational i) ↔ k.Contains i := by
  rw [holds_int_iff]
  constructor
  · rintro ⟨j, heq, hrange⟩
    rw [Int.cast_injective (Number.rational.inj heq)]
    exact hrange
  · intro hrange
    exact ⟨i, rfl, hrange⟩

theorem holds_float_rational_iff {i : ℤ} :
    (Kind.float f).Holds (.rational i) ↔ f.Representable (i.natAbs * Binary.one) := by
  rw [holds_float_iff, ← Number.ofUnits_int]
  constructor
  · rintro (⟨negative, heq⟩ | ⟨negative, m, h, heq⟩)
    · exact absurd heq (Number.ofUnits_ne_infinite _ _ _)
    · rw [(Number.ofUnits_inj.1 heq).2]
      exact h
  · intro h
    exact Or.inr ⟨_, _, h, rfl⟩

end Kind

/-! ## Answers of a conversion -/

namespace Scalar

variable {x y : Scalar} {c : Kind}

theorem exists_convertUnchecked (hx : x.kind.isNumeric = true) (hc : c.isNumeric = true) :
    ∃ y, convertUnchecked x c = .ok y := by
  obtain ⟨a, v⟩ := x
  cases a with
  | bool => cases hx
  | int a =>
      cases c with
      | bool => cases hc
      | _ => exact ⟨_, rfl⟩
  | float f =>
      cases c with
      | bool => cases hc
      | _ => exact ⟨_, rfl⟩

/-- A check changes nothing, or it finds the value out of range. -/
theorem convertChecked_eq_or_outOfRange (x : Scalar) (c : Kind) :
    convertChecked x c = convertUnchecked x c ∨ convertChecked x c = .error (outOfRange x c) := by
  by_cases hrange : inRange x c = true
  · exact Or.inl (convertChecked_of_inRange hrange)
  · exact Or.inr (convertChecked_of_not_inRange hrange)

/-- Between numeric kinds a conversion is refused by a check only, and only as out of range. -/
theorem convert_cases (hx : x.kind.isNumeric = true) (hc : c.isNumeric = true) (mode : Mode) :
    (∃ y, convert mode x c = .ok y) ∨
      (mode = .checked ∧ convert mode x c = .error (outOfRange x c)) := by
  obtain ⟨y, hy⟩ := exists_convertUnchecked hx hc
  cases mode with
  | unchecked => exact Or.inl ⟨y, hy⟩
  | checked =>
      rcases convertChecked_eq_or_outOfRange x c with hsame | hrange
      · exact Or.inl ⟨y, hsame.trans hy⟩
      · exact Or.inr ⟨rfl, hrange⟩
end Scalar

/-! ## Conversion of a number -/

namespace Binary

variable {f g : FloatKind} {u : Number}

/-- Values of two formats that are the same number agree in all their parts. -/
theorem parts_eq_of_number? {x : Binary f} {y : Binary g} (hx : x.number? = some u)
    (hy : y.number? = some u) :
    (∃ negative, x = .infinite negative ∧ y = .infinite negative) ∨
      ∃ negative m hxm hym, x = .finite negative m hxm ∧ y = .finite negative m hym := by
  have hsame : x.number? = y.number? := hx.trans hy.symm
  cases x with
  | nan => cases hx
  | infinite a =>
      cases y with
      | nan => cases hy
      | infinite b =>
          cases hsame
          exact Or.inl ⟨a, rfl, rfl⟩
      | finite b n _ => exact absurd (Option.some.inj hsame).symm (Number.ofUnits_ne_infinite b a n)
  | finite a m hm =>
      cases y with
      | nan => cases hy
      | infinite b => exact absurd (Option.some.inj hsame) (Number.ofUnits_ne_infinite a b m)
      | finite b n hn =>
          rcases Number.ofUnits_inj.1 (Option.some.inj hsame) with ⟨rfl, rfl⟩
          exact Or.inr ⟨a, m, hm, hn, rfl, rfl⟩

theorem toFormat_eq_of_number? {x : Binary f} {y : Binary g} (hx : x.number? = some u)
    (hy : y.number? = some u) : x.toFormat g = y := by
  rcases parts_eq_of_number? hx hy with ⟨negative, rfl, rfl⟩ | ⟨negative, m, _, hm, rfl, rfl⟩
  · rfl
  · exact ofMagnitude_of_representable negative hm

/-- A finite value that is a value of the other format does not overflow there. -/
theorem not_overflows_of_number? {x : Binary f} {y : Binary g} (hx : x.number? = some u)
    (hy : y.number? = some u) : ¬ (x.isFinite && (x.toFormat g).isInfinite) = true := by
  rw [toFormat_eq_of_number? hx hy]
  rcases parts_eq_of_number? hx hy with ⟨negative, rfl, rfl⟩ | ⟨negative, m, _, _, rfl, rfl⟩
  · exact Bool.false_ne_true
  · exact Bool.false_ne_true

/-- A value that is an integer has the sign and the magnitude of that integer. -/
theorem eq_finite_of_number? {x : Binary f} {i : ℤ} (hx : x.number? = some (.rational i)) :
    ∃ h, x = .finite (i < 0) (i.natAbs * one) h := by
  rw [← Number.ofUnits_int] at hx
  cases x with
  | nan => cases hx
  | infinite negative => exact absurd (Option.some.inj hx).symm (Number.ofUnits_ne_infinite _ _ _)
  | finite negative m h =>
      have hparts := Number.ofUnits_inj.1 (Option.some.inj hx)
      have hheld : f.Representable (i.natAbs * one) := by
        rw [← hparts.2]
        exact h
      exact ⟨hheld, by rw [finite.injEq]; exact hparts⟩

theorem ofInt_eq_of_number? {y : Binary f} {i : ℤ} (hy : y.number? = some (.rational i)) :
    ofInt f i = y := by
  rcases eq_finite_of_number? hy with ⟨h, rfl⟩
  exact ofMagnitude_of_representable _ h

theorem trunc?_of_number? {x : Binary f} {i : ℤ} (hx : x.number? = some (.rational i)) :
    x.trunc? = some i := by
  rcases eq_finite_of_number? hx with ⟨h, rfl⟩
  rw [trunc?, Nat.mul_div_cancel _ one_pos, signed_natAbs]

end Binary

namespace Scalar

variable {f g : FloatKind} {k : IntKind} {u : Number}

theorem convert_int_of_number? {n : Num k} {w : Binary g} (hw : w.number? = some (.rational n.toInt))
    (mode : Mode) : convert mode ⟨.int k, n⟩ (.float g) = .ok ⟨.float g, w⟩ := by
  rw [← Binary.ofInt_eq_of_number? hw]
  cases mode with
  | unchecked => rfl
  | checked => rfl

theorem convert_float_int_of_number? {v : Binary f} {m : Num k}
    (hv : v.number? = some (.rational m.toInt)) (mode : Mode) :
    convert mode ⟨.float f, v⟩ (.int k) = .ok ⟨.int k, m⟩ := by
  have htrunc := Binary.trunc?_of_number? hv
  cases mode with
  | unchecked => exact convertUnchecked_of_contains htrunc m.contains_toInt
  | checked => exact convertChecked_of_contains htrunc m.contains_toInt

theorem convert_float_of_number? {v : Binary f} {w : Binary g} (hv : v.number? = some u)
    (hw : w.number? = some u) (mode : Mode) :
    convert mode ⟨.float f, v⟩ (.float g) = .ok ⟨.float g, w⟩ := by
  have hunchecked : convertUnchecked ⟨.float f, v⟩ (.float g) = .ok ⟨.float g, w⟩ := by
    rw [← Binary.toFormat_eq_of_number? hv hw]
    rfl
  cases mode with
  | unchecked => exact hunchecked
  | checked =>
      calc
        convertChecked ⟨.float f, v⟩ (.float g) = convertUnchecked ⟨.float f, v⟩ (.float g) := by
          rw [convertChecked_float, if_neg (Binary.not_overflows_of_number? hv hw)]
        _ = .ok ⟨.float g, w⟩ := hunchecked

/-- If two scalars are the same number, then either mode converts the one to the other. -/
theorem convert_eq_of_number? {x y : Scalar} (hx : x.number? = some u) (hy : y.number? = some u)
    (mode : Mode) : convert mode x y.kind = .ok y := by
  obtain ⟨a, v⟩ := x
  obtain ⟨b, w⟩ := y
  cases a with
  | bool => cases hx
  | int a =>
      cases hx
      cases b with
      | bool => cases hy
      | int b =>
          have heq : w.toInt = v.toInt :=
            Int.cast_injective (Number.rational.inj (Option.some.inj hy))
          cases mode with
          | unchecked => exact convertUnchecked_int_of_eq heq
          | checked => exact convertChecked_int_of_eq heq
      | float g => exact convert_int_of_number? hy mode
  | float f =>
      cases b with
      | bool => cases hy
      | int b =>
          cases hy
          exact convert_float_int_of_number? hx mode
      | float g => exact convert_float_of_number? hx hy mode

end Scalar
end Recast
