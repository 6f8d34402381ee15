import Recast.Proofs.Scalar.Number

/-!
# Widening — kinds that hold the numbers of other kinds

`Kind.widensTo` compares bits.  What it decides is whether one kind holds every number of another:

* `Kind.holds_of_widensTo`: enough bits hold every number, the least value of a signed kind included,
  whose magnitude needs one bit more;
* `Kind.widensTo_of_holds`: where bits are missing, some number is lost, an end of a range, an
  infinity, or the first integer longer than a format;
* `Scalar.widening_lossless`: a widening conversion keeps the number in either mode, and can be taken
  back.
-/

namespace Recast

namespace IntKind

variable {a b : IntKind} {i : Int}

/-! ## Ranges of integers -/

theorem contains_mono_iff :
    (∀ i, a.Contains i → b.Contains i) ↔ b.minValue ≤ a.minValue ∧ a.maxValue ≤ b.maxValue := by
  have hends := a.minValue_le_maxValue
  constructor
  · intro h
    exact ⟨(h a.minValue ⟨Int.le_refl _, hends⟩).1, (h a.maxValue ⟨hends, Int.le_refl _⟩).2⟩
  · rintro ⟨hmin, hmax⟩ i ⟨hlow, hhigh⟩
    exact ⟨Int.le_trans hmin hlow, Int.le_trans hhigh hmax⟩

/-- Sign and magnitude bits order the ranges of the integer kinds. -/
theorem widensTo_iff_contains_mono :
    (Kind.int a).widensTo (.int b) = true ↔ ∀ i, a.Contains i → b.Contains i := by
  have hall : ∀ a ∈ all, ∀ b ∈ all, (Kind.int a).widensTo (.int b) = true ↔
      b.minValue ≤ a.minValue ∧ a.maxValue ≤ b.maxValue := by
    decide
  rw [contains_mono_iff]
  exact hall a (mem_all a) b (mem_all b)

/-- The least value of a signed kind is the one whose magnitude reaches the power of two. -/
theorem natAbs_le_of_contains (h : a.Contains i) : i.natAbs ≤ 2 ^ a.magnitudeBits := by
  have hpos : (0 : Int) < 2 ^ a.magnitudeBits := Int.pow_pos (by decide)
  have hmin : -(2 ^ a.magnitudeBits) ≤ a.minValue := by
    unfold minValue
    split
    · exact Int.le_refl _
    · omega
  have hmax : i ≤ 2 ^ a.magnitudeBits - 1 := h.2
  have habs : |i| ≤ 2 ^ a.magnitudeBits := abs_le.2 ⟨Int.le_trans hmin h.1, by omega⟩
  rw [Int.abs_eq_natAbs] at habs
  exact_mod_cast habs

theorem contains_of_lt_two_pow {n : Nat} (h : n < 2 ^ a.magnitudeBits) : a.Contains n := by
  have hzero := a.contains_zero.1
  have hmax : a.maxValue = 2 ^ a.magnitudeBits - 1 := rfl
  have hcast : (n : Int) < 2 ^ a.magnitudeBits := by exact_mod_cast h
  exact ⟨by omega, by omega⟩

end IntKind

namespace Kind

variable {a b : Kind} {f : FloatKind} {u : Number}

/-! ## Enough bits -/

theorem holds_of_widensTo (h : a.widensTo b = true) (hu : a.Holds u) : b.Holds u := by
  cases a with
  | bool => exact absurd hu not_holds_bool
  | int k =>
      rcases holds_int_iff.1 hu with ⟨i, rfl, hrange⟩
      cases b with
      | bool => cases h
      | int l =>
          exact holds_int_rational_iff.2 (IntKind.widensTo_iff_contains_mono.1 h i hrange)
      | float f =>
          have hbits : k.magnitudeBits ≤ f.precision := of_decide_eq_true h
          refine holds_float_rational_iff.2 (FloatKind.representable_int ?_)
          calc
            i.natAbs ≤ 2 ^ k.magnitudeBits := IntKind.natAbs_le_of_contains hrange
            _ ≤ 2 ^ f.precision := Nat.pow_le_pow_right (by decide) hbits
  | float f =>
      cases b with
      | bool => cases h
      | int l => cases h
      | float g =>
          have hlonger : f.precision ≤ g.precision := of_decide_eq_true h
          rcases holds_float_iff.1 hu with ⟨negative, rfl⟩ | ⟨negative, m, hm, rfl⟩
          · exact holds_float_iff.2 (Or.inl ⟨negative, rfl⟩)
          · have hheld := FloatKind.representable_of_precision_le hlonger hm
            exact holds_float_iff.2 (Or.inr ⟨negative, m, hheld, rfl⟩)

/-! ## Missing bits -/

theorem not_holds_int_infinite {k : IntKind} {negative : Bool} :
    ¬ (Kind.int k).Holds (.infinite negative) := by
  rw [holds_int_iff]
  rintro ⟨i, heq, -⟩
  cases heq

theorem holds_float_infinite (f : FloatKind) (negative : Bool) :
    (Kind.float f).Holds (.infinite negative) :=
  holds_float_iff.2 (Or.inl ⟨negative, rfl⟩)

theorem succ_lt_two_pow {n : Nat} (h : f.precision < n) : 2 ^ f.precision + 1 < 2 ^ n := by
  have htwo : 2 ^ 1 ≤ 2 ^ f.precision := Nat.pow_le_pow_right (by decide) f.precision_pos
  calc
    2 ^ f.precision + 1 < 2 ^ f.precision * 2 := by omega
    _ = 2 ^ (f.precision + 1) := (Nat.pow_succ ..).symm
    _ ≤ 2 ^ n := Nat.pow_le_pow_right (by decide) h

/-- The first integer that a format does not hold. -/
theorem not_holds_float_succ (f : FloatKind) :
    ¬ (Kind.float f).Holds (.rational ((2 ^ f.precision + 1 : ℕ) : ℤ)) := by
  rw [holds_float_rational_iff, Int.natAbs_natCast]
  exact f.not_representable_succ

theorem widensTo_of_holds (ha : a.isNumeric = true) (h : ∀ u, a.Holds u → b.Holds u) :
    a.widensTo b = true := by
  cases a with
  | bool => cases ha
  | int k =>
      have hrange : ∀ i : ℤ, k.Contains i → b.Holds (.rational i) := by
        intro i hi
        exact h _ (holds_int_rational_iff.2 hi)
      cases b with
      | bool => exact absurd (hrange 0 k.contains_zero) not_holds_bool
      | int l =>
          rw [IntKind.widensTo_iff_contains_mono]
          intro i hi
          exact holds_int_rational_iff.1 (hrange i hi)
      | float f =>
          refine decide_eq_true ?_
          by_contra hshort
          refine not_holds_float_succ f (hrange _ (IntKind.contains_of_lt_two_pow ?_))
          exact succ_lt_two_pow (Nat.lt_of_not_le hshort)
  | float f =>
      cases b with
      | bool => exact absurd (h _ (holds_float_infinite f true)) not_holds_bool
      | int l => exact absurd (h _ (holds_float_infinite f true)) not_holds_int_infinite
      | float g =>
          refine decide_eq_true ?_
          by_contra hshort
          refine not_holds_float_succ g (h _ (holds_float_rational_iff.2 ?_))
          rw [Int.natAbs_natCast]
          exact FloatKind.representable_int (Nat.le_of_lt (succ_lt_two_pow (Nat.lt_of_not_le hshort)))

/-- A numeric kind widens to the kinds that hold every number it holds. -/
theorem widensTo_iff_holds_mono (ha : a.isNumeric = true) :
    a.widensTo b = true ↔ ∀ u, a.Holds u → b.Holds u := by
  constructor
  · intro h u hu
    exact holds_of_widensTo h hu
  · exact widensTo_of_holds ha

end Kind

namespace Scalar

/-! ## Conversion to a wider kind -/

/-- A numeric kind widens to another kind if and only if the other holds every number that it holds.
Then every scalar of the narrower kind, NaN apart, is converted in either mode to the one scalar of
the wider kind that is the same number, and from there back to itself in either mode. -/
theorem widening_lossless {a b : Kind} (ha : a.isNumeric = true) :
    (a.widensTo b = true ↔ ∀ u, a.Holds u → b.Holds u) ∧
      (a.widensTo b = true → ∀ x : Scalar, x.kind = a → x.isNaN = false →
        ∃ u y, x.number? = some u ∧ y.kind = b ∧ y.number? = some u ∧
          (∀ y' : Scalar, y'.kind = b → y'.number? = some u → y' = y) ∧
          (∀ mode, convert mode x b = .ok y) ∧
          ∀ mode, convert mode y a = .ok x) := by
  refine ⟨Kind.widensTo_iff_holds_mono ha, ?_⟩
  rintro hwide x rfl hnan
  obtain ⟨u, hx⟩ := exists_number? ha hnan
  obtain ⟨y, rfl, hy⟩ := Kind.holds_of_widensTo hwide ⟨x, rfl, hx⟩
  refine ⟨u, y, hx, rfl, hy, ?_, convert_eq_of_number? hx hy, convert_eq_of_number? hy hx⟩
  -- Both are what `x` is converted to.
  intro y' hkind hy'
  have hconvert := convert_eq_of_number? hx hy' .checked
  rw [hkind, convert_eq_of_number? hx hy .checked] at hconvert
  exact (Except.ok.inj hconvert).symm

theorem widening_lossless_i32 :
    (∀ u, Kind.i32.Holds u → Kind.f64.Holds u) ∧ (¬ ∀ u, Kind.i64.Holds u → Kind.f64.Holds u) ∧
      ∃ y : Scalar, y.number? = some (.rational (-(2 ^ 31) : ℤ)) ∧
        (∀ mode, convert mode ⟨.i32, ⟨-(2 ^ 31), by decide⟩⟩ .f64 = .ok y) ∧
        ∀ mode, convert mode y .i32 = .ok ⟨.i32, ⟨-(2 ^ 31), by decide⟩⟩ := by
  have hwide : Kind.i32.widensTo .f64 = true := by decide
  have hnarrow : ¬ Kind.i64.widensTo .f64 = true := by decide
  have hlossless := widening_lossless (a := .i32) (b := .f64) rfl
  obtain ⟨u, y, hx, -, hy, -, hforth, hback⟩ :=
    hlossless.2 hwide ⟨.i32, ⟨-(2 ^ 31), by decide⟩⟩ rfl rfl
  refine ⟨hlossless.1.1 hwide, ?_, y, hy.trans hx.symm, hforth, hback⟩
  intro hholds
  exact hnarrow ((widening_lossless (a := .i64) (b := .f64) rfl).1.2 hholds)

end Scalar
end Recast
