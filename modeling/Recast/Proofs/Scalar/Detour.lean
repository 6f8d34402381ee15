import Recast.Proofs.Scalar.Widening

/-!
# Detour — conversion by way of a wider kind

A value can be converted to a wider kind first, and from there to where it is to go.  With a check
the detour does not show: the same values arrive, and the same ones are out of range.  Without a
check there is one case in which it shows.  An integer that comes by way of a floating-point format
is clamped to the range of the integer kind that it goes to, where the direct way wraps it around.

* `Scalar.Widened`: a scalar and what it is converted to in a wider kind;
* `Scalar.Widened.inRange_eq`: a check finds the two of them in range alike;
* `Scalar.Widened.map_convertChecked_eq_ok_iff`, `Scalar.Widened.map_convertUnchecked_eq`: what
  becomes of them afterwards, with `Scalar.mergeNaN` for what becomes of NaN;
* `Scalar.widening_detour`: hence when the detour does not show.
-/

namespace Recast

/-! ## Integers in a format -/

namespace FloatKind

/-- The integers of every kind lie far below the greatest value of either format. -/
theorem two_pow_mul_one_lt_overflowThreshold (f : FloatKind) :
    2 ^ (64 : Nat) * Binary.one < f.overflowThreshold := by
  cases f <;> decide +kernel

end FloatKind

theorem IntKind.magnitudeBits_le (k : IntKind) : k.magnitudeBits ≤ 64 := by
  obtain ⟨signed, width⟩ := k
  cases signed <;> cases width <;> decide

theorem Binary.isInfinite_ofInt (f : FloatKind) {k : IntKind} (n : Num k) :
    (Binary.ofInt f n.toInt).isInfinite = false := by
  have hbits : n.toInt.natAbs ≤ 2 ^ (64 : Nat) := by
    calc
      n.toInt.natAbs ≤ 2 ^ k.magnitudeBits := IntKind.natAbs_le_of_contains n.contains_toInt
      _ ≤ 2 ^ (64 : Nat) := Nat.pow_le_pow_right (by decide) k.magnitudeBits_le
  have hbelow : n.toInt.natAbs * Binary.one < f.overflowThreshold :=
    Nat.lt_of_le_of_lt (Nat.mul_le_mul_right _ hbits) f.two_pow_mul_one_lt_overflowThreshold
  rw [← Bool.not_eq_true]
  intro hinfinite
  exact Nat.not_le.2 hbelow (Binary.isInfinite_ofMagnitude_iff.1 hinfinite)

namespace Scalar

/-! ## The check -/

/-- The integer that a numeric value is without its fraction. -/
def wholePart? : Scalar → Option ℤ
  | ⟨.bool, _⟩ => none
  | ⟨.int _, n⟩ => some n.toInt
  | ⟨.float _, v⟩ => v.trunc?

variable {x w y : Scalar} {a b c : Kind} {k : IntKind} {i : ℤ} {u : Number}

theorem inRange_iff_wholePart? (hx : x.kind.isNumeric = true) :
    inRange x (.int k) = true ↔ ∃ i, x.wholePart? = some i ∧ k.Contains i := by
  obtain ⟨a, v⟩ := x
  cases a with
  | bool => cases hx
  | int a => exact inRange_int_iff.trans (by simp [wholePart?])
  | float f => exact IntKind.passesRangeTest_iff

theorem convertUnchecked_of_wholePart? (h : x.wholePart? = some i) (hrange : k.Contains i) :
    convertUnchecked x (.int k) = .ok ⟨.int k, ⟨i, hrange⟩⟩ := by
  obtain ⟨a, v⟩ := x
  cases a with
  | bool => cases h
  | int a => exact convertUnchecked_int_of_eq (Option.some.inj h).symm
  | float f => exact convertUnchecked_of_contains h hrange

theorem map_convertChecked_eq_ok_iff {f : Scalar → Scalar} :
    (convertChecked x c).map f = .ok y ↔
      inRange x c = true ∧ (convertUnchecked x c).map f = .ok y := by
  by_cases hrange : inRange x c = true
  · rw [convertChecked_of_inRange hrange, and_iff_right hrange]
  · rw [convertChecked_of_not_inRange hrange]
    exact iff_of_false nofun fun hboth => hrange hboth.1

/-- What a check does not convert is out of range. -/
theorem convertChecked_overflows_iff (hx : x.kind.isNumeric = true) (hc : c.isNumeric = true) :
    (∃ value target, convertChecked x c = .error (.overflow value target)) ↔
      ¬ inRange x c = true := by
  constructor
  · rintro ⟨value, target, herror⟩ hrange
    obtain ⟨y, hy⟩ := exists_convertUnchecked hx hc
    rw [convertChecked_of_inRange hrange, hy] at herror
    cases herror
  · intro hrange
    exact ⟨_, _, convertChecked_of_not_inRange hrange⟩

/-! ## A scalar in a wider kind -/

/-- A scalar with all NaNs of a format taken for one. -/
def mergeNaN : Scalar → Scalar
  | ⟨.float f, v⟩ => if v.isNaN = true then ⟨.float f, Binary.quietNaN f⟩ else ⟨.float f, v⟩
  | x => x

/-- A scalar, and the scalar of a wider kind that is the same number, or NaN as well. -/
inductive Widened : Scalar → Scalar → Prop where
  | int {k l : IntKind} (n : Num k) (m : Num l) :
      m.toInt = n.toInt → Widened ⟨.int k, n⟩ ⟨.int l, m⟩
  | intFloat {k : IntKind} {f : FloatKind} (n : Num k) (v : Binary f) :
      v.number? = some (.rational n.toInt) → Widened ⟨.int k, n⟩ ⟨.float f, v⟩
  | nan {f g : FloatKind} (s t : Bool) {m n : Nat} (hf : f.IsNaNFraction m)
      (hg : g.IsNaNFraction n) : Widened ⟨.float f, .nan s m hf⟩ ⟨.float g, .nan t n hg⟩
  | infinite {f g : FloatKind} (negative : Bool) :
      Widened ⟨.float f, .infinite negative⟩ ⟨.float g, .infinite negative⟩
  | finite {f g : FloatKind} (negative : Bool) (m : Nat) (hf : f.Representable m)
      (hg : g.Representable m) :
      Widened ⟨.float f, .finite negative m hf⟩ ⟨.float g, .finite negative m hg⟩

theorem widened_of_number? (hwide : x.kind.widensTo w.kind = true) (hx : x.number? = some u)
    (hw : w.number? = some u) : Widened x w := by
  obtain ⟨a, v⟩ := x
  obtain ⟨b, v'⟩ := w
  cases a with
  | bool => cases hx
  | int k =>
      cases b with
      | bool => cases hw
      | int l =>
          have hsame : (⟨.int l, v'⟩ : Scalar).number? = (⟨.int k, v⟩ : Scalar).number? :=
            hw.trans hx.symm
          exact .int v v' (Int.cast_injective (Number.rational.inj (Option.some.inj hsame)))
      | float f => exact .intFloat v v' (hw.trans hx.symm)
  | float f =>
      cases b with
      | bool => cases hw
      | int l => cases hwide
      | float g =>
          rcases Binary.parts_eq_of_number? hx hw with
            ⟨negative, rfl, rfl⟩ | ⟨negative, m, hf, hg, rfl, rfl⟩
          · exact .infinite negative
          · exact .finite negative m hf hg

theorem widened_of_isNaN {f g : FloatKind} {v : Binary f} (hnan : v.isNaN = true) :
    Widened ⟨.float f, v⟩ ⟨.float g, v.toFormat g⟩ := by
  cases v with
  | nan negative n h => exact .nan ..
  | _ => cases hnan

/-- NaN passes the check of a format. -/
theorem convert_of_isNaN {f g : FloatKind} {v : Binary f} (hnan : v.isNaN = true) (mode : Mode) :
    convert mode ⟨.float f, v⟩ (.float g) = .ok ⟨.float g, v.toFormat g⟩ := by
  cases v with
  | nan negative n h =>
      cases mode with
      | unchecked => rfl
      | checked => exact (convertChecked_float _ g).trans rfl
  | _ => cases hnan

/-- A widening conversion leads to such a scalar in either mode. -/
theorem exists_widened (ha : a.isNumeric = true) (hwide : a.widensTo b = true) (hx : x.kind = a) :
    ∃ w, w.kind = b ∧ Widened x w ∧ ∀ mode, convert mode x b = .ok w := by
  subst hx
  cases hnan : x.isNaN with
  | false =>
      obtain ⟨u, hu⟩ := exists_number? ha hnan
      obtain ⟨w, rfl, hw⟩ := Kind.holds_of_widensTo hwide ⟨x, rfl, hu⟩
      exact ⟨w, rfl, widened_of_number? hwide hu hw, convert_eq_of_number? hu hw⟩
  | true =>
      obtain ⟨f, v, rfl, hv⟩ := exists_eq_nan hnan
      cases b with
      | bool => cases hwide
      | int l => cases hwide
      | float g => exact ⟨_, rfl, widened_of_isNaN hv, convert_of_isNaN hv⟩

namespace Widened

theorem isNumeric (h : Widened x w) (hx : x.kind.isNumeric = true) : w.kind.isNumeric = true := by
  cases h <;> rfl

theorem wholePart?_eq (h : Widened x w) : w.wholePart? = x.wholePart? := by
  cases h with
  | int n m hsame => exact congrArg some hsame
  | intFloat n v hv => exact Binary.trunc?_of_number? hv
  | _ => rfl

/-- What an integer is rounded to is finite, so that the check of a format finds nothing. -/
theorem inRange_float_eq (h : Widened x w) (g : FloatKind) :
    inRange w (.float g) = inRange x (.float g) := by
  cases h with
  | intFloat n v hv =>
      obtain ⟨hheld, rfl⟩ := Binary.eq_finite_of_number? hv
      have hfinite : ((Binary.finite (n.toInt < 0) (n.toInt.natAbs * Binary.one) hheld).toFormat
          g).isInfinite = false := Binary.isInfinite_ofInt g n
      rw [inRange_float, hfinite, Bool.and_false]
      rfl
  | int n m hsame => rfl
  | _ =>
      rw [inRange_float, inRange_float]
      rfl

/-- A check finds the two in range alike. -/
theorem inRange_eq (h : Widened x w) (hx : x.kind.isNumeric = true) (hc : c.isNumeric = true) :
    inRange w c = inRange x c := by
  cases c with
  | bool => cases hc
  | int k =>
      rw [Bool.eq_iff_iff, inRange_iff_wholePart? hx, inRange_iff_wholePart? (h.isNumeric hx),
        h.wholePart?_eq]
  | float g => exact h.inRange_float_eq g

/-! ## Afterwards -/

theorem convertUnchecked_float (h : Widened x w) (hnan : x.isNaN = false) (g : FloatKind) :
    convertUnchecked w (.float g) = convertUnchecked x (.float g) := by
  cases h with
  | int n m hsame => simp only [convertUnchecked, hsame]
  | intFloat n v hv =>
      obtain ⟨hheld, rfl⟩ := Binary.eq_finite_of_number? hv
      rfl
  | nan s t hf hg => cases hnan
  | _ => rfl

/-- The two NaNs need not have the same fraction. -/
theorem map_mergeNaN_float (h : Widened x w) (g : FloatKind) :
    (convertUnchecked w (.float g)).map mergeNaN =
      (convertUnchecked x (.float g)).map mergeNaN := by
  cases hnan : x.isNaN with
  | false => rw [h.convertUnchecked_float hnan]
  | true =>
      cases h with
      | nan s t hf hg => rfl
      | _ => cases hnan

/-- Into an integer kind the way matters only to an integer that becomes a floating-point value. -/
theorem convertUnchecked_int (h : Widened x w)
    (hway : ¬ (x.kind.isInteger = true ∧ w.kind.isFloat = true)) (k : IntKind) :
    convertUnchecked w (.int k) = convertUnchecked x (.int k) := by
  cases h with
  | int n m hsame => simp only [convertUnchecked, hsame]
  | intFloat n v hv => exact absurd ⟨rfl, rfl⟩ hway
  | _ => rfl

/-- Into an integer kind the way does not matter to a value in range. -/
theorem convertUnchecked_int_of_inRange (h : Widened x w) (hx : x.kind.isNumeric = true)
    (hrange : inRange x (.int k) = true) :
    convertUnchecked w (.int k) = convertUnchecked x (.int k) := by
  rcases (inRange_iff_wholePart? hx).1 hrange with ⟨i, hi, hcontains⟩
  rw [convertUnchecked_of_wholePart? hi hcontains,
    convertUnchecked_of_wholePart? (h.wholePart?_eq.trans hi) hcontains]

/-- By way of a format an integer is clamped. -/
theorem convertUnchecked_eq_clamp {k l : IntKind} {n : Num k} (h : Widened ⟨.int k, n⟩ w)
    (hfloat : w.kind.isFloat = true) :
    convertUnchecked w (.int l) = .ok ⟨.int l, Num.clamp l n.toInt⟩ := by
  cases h with
  | int n m hsame => cases hfloat
  | intFloat n v hv =>
      simp only [convertUnchecked, saturate_eq_clamp (Binary.trunc?_of_number? hv)]

/-! ## In a mode -/

section Reading

-- Read through `f`, the two NaNs can be made the same.
variable (h : Widened x w) (hc : c.isNumeric = true) {f : Scalar → Scalar}
  (hfloat : ∀ g, (convertUnchecked w (.float g)).map f = (convertUnchecked x (.float g)).map f)
include h hc hfloat

theorem map_convertUnchecked_eq
    (hway : ¬ (x.kind.isInteger = true ∧ w.kind.isFloat = true ∧ c.isInteger = true)) :
    (convertUnchecked w c).map f = (convertUnchecked x c).map f := by
  cases c with
  | bool => cases hc
  | int k => rw [h.convertUnchecked_int fun hboth => hway ⟨hboth.1, hboth.2, rfl⟩]
  | float g => exact hfloat g

/-- With a check the way does not matter, as only values in range arrive. -/
theorem map_convertChecked_eq_ok_iff (hx : x.kind.isNumeric = true) :
    (convertChecked w c).map f = .ok y ↔ (convertChecked x c).map f = .ok y := by
  rw [Scalar.map_convertChecked_eq_ok_iff, Scalar.map_convertChecked_eq_ok_iff, h.inRange_eq hx hc]
  refine and_congr_right fun hrange => ?_
  cases c with
  | bool => cases hc
  | int k => rw [h.convertUnchecked_int_of_inRange hx hrange]
  | float g => rw [hfloat g]

end Reading

end Widened

/-! ## The detour -/

/-- From a numeric kind, a value can be converted to a wider one first, in either mode.  From there a
check converts it to the same values as before and finds it out of range as before.  Without a check
the outcome is the same as well, unless an integer comes to an integer kind by way of a format: then
it is clamped to the range of that kind, where the direct way wraps around.

What is NaN stays NaN, but the detour can make it a quiet one: it is only of other values that the
outcome is said to the bit. -/
theorem widening_detour (ha : a.isNumeric = true) (hc : c.isNumeric = true)
    (hwide : a.widensTo b = true) (hx : x.kind = a) :
    ∃ w, w.kind = b ∧ (∀ mode, convert mode x b = .ok w) ∧
      (∀ y, (convertChecked w c).map mergeNaN = .ok y ↔
        (convertChecked x c).map mergeNaN = .ok y) ∧
      ((∃ value target, convertChecked w c = .error (.overflow value target)) ↔
        ∃ value target, convertChecked x c = .error (.overflow value target)) ∧
      (¬ (a.isInteger = true ∧ b.isFloat = true ∧ c.isInteger = true) →
        (convertUnchecked w c).map mergeNaN = (convertUnchecked x c).map mergeNaN) ∧
      (x.isNaN = false →
        (∀ y, convertChecked w c = .ok y ↔ convertChecked x c = .ok y) ∧
        (¬ (a.isInteger = true ∧ b.isFloat = true ∧ c.isInteger = true) →
          convertUnchecked w c = convertUnchecked x c)) ∧
      ∀ (k l : IntKind) (n : Num k), x = ⟨.int k, n⟩ → b.isFloat = true → c = .int l →
        convertUnchecked x c = .ok ⟨.int l, Num.wrap l n.toInt⟩ ∧
          convertUnchecked w c = .ok ⟨.int l, Num.clamp l n.toInt⟩ := by
  obtain ⟨w, rfl, hw, hconvert⟩ := exists_widened ha hwide hx
  subst hx
  have hb : w.kind.isNumeric = true := hw.isNumeric ha
  refine ⟨w, rfl, hconvert, ?_, ?_, hw.map_convertUnchecked_eq hc hw.map_mergeNaN_float, ?_, ?_⟩
  · intro y
    exact hw.map_convertChecked_eq_ok_iff hc hw.map_mergeNaN_float ha
  · rw [convertChecked_overflows_iff hb hc, convertChecked_overflows_iff ha hc,
      hw.inRange_eq ha hc]
  -- Values other than NaN are the same as they stand.
  · intro hnan
    have hfloat : ∀ g, (convertUnchecked w (.float g)).map id =
        (convertUnchecked x (.float g)).map id := by
      intro g
      rw [hw.convertUnchecked_float hnan]
    have hunchecked := hw.map_convertUnchecked_eq hc hfloat
    have hchecked := fun y => hw.map_convertChecked_eq_ok_iff (y := y) hc hfloat ha
    simp only [Except.map_id, id_eq] at hunchecked hchecked
    exact ⟨hchecked, hunchecked⟩
  · rintro k l n rfl hfloat rfl
    exact ⟨rfl, hw.convertUnchecked_eq_clamp hfloat⟩

/-- 300 as an `i16`: by way of `f32` it reaches `u8` as 255 and not as 44, and a check finds it out of
range on either way.  By way of `i64` it reaches `f32` as it does directly. -/
theorem widening_detour_i16 :
    (∃ w, (∀ mode, convert mode ⟨.i16, Num.wrap _ 300⟩ .f32 = .ok w) ∧
        (∃ value target, convertChecked w .u8 = .error (.overflow value target)) ∧
        convertUnchecked ⟨.i16, Num.wrap _ 300⟩ .u8 = .ok ⟨.u8, Num.wrap _ 44⟩ ∧
        convertUnchecked w .u8 = .ok ⟨.u8, Num.wrap _ 255⟩) ∧
      ∃ w, (∀ mode, convert mode ⟨.i16, Num.wrap _ 300⟩ .i64 = .ok w) ∧
        convertUnchecked w .f32 = convertUnchecked ⟨.i16, Num.wrap _ 300⟩ .f32 := by
  refine ⟨?_, ?_⟩
  · obtain ⟨w, -, hconvert, -, hoverflow, -, -, hway⟩ :=
      widening_detour (x := ⟨.i16, Num.wrap _ 300⟩) (a := .i16) (b := .f32) (c := .u8) rfl rfl
        (by decide) rfl
    rcases hway _ _ (Num.wrap _ 300) rfl rfl rfl with ⟨hdirect, hclamp⟩
    exact ⟨w, hconvert, hoverflow.2 ⟨_, _, rfl⟩, hdirect.trans rfl, hclamp.trans rfl⟩
  · obtain ⟨w, -, hconvert, -, -, -, hexact, -⟩ :=
      widening_detour (x := ⟨.i16, Num.wrap _ 300⟩) (a := .i16) (b := .i64) (c := .f32) rfl rfl
        (by decide) rfl
    exact ⟨w, hconvert, (hexact rfl).2 (by decide)⟩

end Scalar
end Recast
