import Recast.Proofs.Conversion.Duality
import Recast.Proofs.Conversion.Rules
import Recast.Proofs.Registry.Description
import Recast.Proofs.Scalar.Widening

/-!
# Enumerations — casts by way of the underlying kind

A value of an enumeration carries a scalar, and casts from and to enumerations convert that scalar
from and to the underlying kind.  Whether the enumeration declares the value does not matter.

* `Registry.Reachable.isInteger_underlying`: the underlying kind is one of integers, so that a cast
  to an enumeration can be out of range, but nothing else can be wrong with a scalar of the source;
* `Registry.castBetween_of_widensTo`, `Registry.castBetween_of_checked`: which casts can be taken
  back;
* `Registry.enum_casts_factor`: all of it, for every pair of types that these rules apply to.
-/

namespace Recast
namespace Converter

variable {mode : Mode} {source underlying target : Kind} {enum : TypeHash} {targetName : String}
  {x y : Scalar} {e : EnumValue}

/-! ## One value -/

theorem numericToEnum_of_ok (hx : x.kind = source) (hy : x.convert mode underlying = .ok y) :
    numericToEnum mode source enum underlying targetName (.scalar x) =
      .ok (.enum { type := enum, raw := y }) := by
  simp only [numericToEnum, hx, if_true, hy]

theorem numericToEnum_of_outOfRange (hx : x.kind = source)
    (hrange : x.convert mode underlying = .error (Scalar.outOfRange x underlying)) :
    numericToEnum mode source enum underlying targetName (.scalar x) =
      .error (.overflow x.text targetName) := by
  simp only [numericToEnum, hx, if_true, hrange]
  rfl

theorem enumToNumeric_of_ok (htype : e.type = enum) (hraw : e.raw.kind = underlying)
    (hy : e.raw.convert mode target = .ok y) :
    enumToNumeric mode enum underlying target (.enum e) = .ok (.scalar y) := by
  rw [enumToNumeric, if_pos ⟨htype, hraw⟩, hy]
  rfl

end Converter

namespace Registry

variable {r : Registry} {source target source' target' enum : TypeHash} {kind underlying : Kind}
  {mode mode' : Mode}

/-! ## The kinds of a pair -/

/-- No other underlying kind would have passed the check of the declaration. -/
theorem Reachable.isInteger_underlying (hr : Reachable r)
    (htraits : r.traits enum = .enum underlying) : underlying.isInteger = true := by
  unfold traits at htraits
  split at htraits
  · cases htraits
  · split at htraits
    · rename_i e hget
      have hsome : (Traits.ofDecl e).enumUnderlying? = some underlying := by rw [htraits]; rfl
      rcases ((Traits.describes_ofDecl e).enumUnderlying?_iff underlying).1 hsome with ⟨d, rfl, rfl⟩
      exact hr.wellFormed.orderly.refersWell hget
    · cases htraits

theorem Reachable.kinds_of_numericToEnum (hr : Reachable r)
    (h : r.category source target = .numericToEnum kind enum underlying) :
    kind.isNumeric = true ∧ ∃ k, underlying = .int k := by
  rcases exists_carries (congrArg Category.isValid h) with ⟨run, hrule⟩
  rw [h] at hrule
  cases hrule with
  | numericToEnum hsource htarget =>
      refine ⟨(Traits.numericKind?_eq_some_iff.1 hsource).2, ?_⟩
      have hinteger := hr.isInteger_underlying htarget
      cases underlying with
      | int k => exact ⟨k, rfl⟩
      | _ => cases hinteger

/-! ## The converters of a pair -/

theorem converterBetween_of_numericToEnum
    (h : r.category source target = .numericToEnum kind enum underlying) (mode : Mode) :
    r.converterBetween source target mode =
      .ok (Converter.guardNull (r.traits target).isNullable (r.nameOf target)
        (Converter.numericToEnum mode kind enum underlying (r.nameOf target))) := by
  unfold converterBetween converter handler conversionBetween
  rw [h]
  rfl

theorem converterBetween_of_enumToNumeric
    (h : r.category source target = .enumToNumeric enum underlying kind) (mode : Mode) :
    r.converterBetween source target mode =
      .ok (Converter.guardNull (r.traits target).isNullable (r.nameOf target)
        (Converter.enumToNumeric mode enum underlying kind)) := by
  unfold converterBetween converter handler conversionBetween
  rw [h]
  rfl

theorem castBetween_of_numericToEnum
    (h : r.category source target = .numericToEnum kind enum underlying) (mode : Mode)
    (x : Scalar) :
    r.castBetween source target mode (.scalar x) =
      Converter.numericToEnum mode kind enum underlying (r.nameOf target) (.scalar x) :=
  castBetween_of_converterBetween (converterBetween_of_numericToEnum h mode) _

theorem castBetween_of_enumToNumeric
    (h : r.category source target = .enumToNumeric enum underlying kind) (mode : Mode)
    (e : EnumValue) :
    r.castBetween source target mode (.enum e) =
      Converter.enumToNumeric mode enum underlying kind (.enum e) :=
  castBetween_of_converterBetween (converterBetween_of_enumToNumeric h mode) _

/-! ## There and back -/

/-- A kind to which the underlying kind widens holds every value, and gives it back. -/
theorem castBetween_of_widensTo (hr : Reachable r)
    (hthere : r.category source target = .enumToNumeric enum underlying kind)
    (hback : r.category source' target' = .numericToEnum kind enum underlying)
    (hwide : underlying.widensTo kind = true) {e : EnumValue} (htype : e.type = enum)
    (hraw : e.raw.kind = underlying) (mode mode' : Mode) :
    (r.castBetween source target mode (.enum e)).bind (r.castBetween source' target' mode') =
      .ok (.enum e) := by
  obtain ⟨-, k, rfl⟩ := hr.kinds_of_numericToEnum hback
  obtain ⟨type, ⟨_, n⟩⟩ := e
  cases hraw
  cases htype
  -- An integer is a number, and the wider kind has a scalar that is the same one.
  have hnumber : (⟨.int k, n⟩ : Scalar).number? = some (.rational n.toInt) := rfl
  obtain ⟨y, rfl, hy⟩ := Kind.holds_of_widensTo hwide ⟨⟨.int k, n⟩, rfl, hnumber⟩
  -- Either mode converts between the two, so that the modes need not be the same.
  have hforth := Scalar.convert_eq_of_number? hnumber hy mode
  have hagain := Scalar.convert_eq_of_number? hy hnumber mode'
  rw [castBetween_of_enumToNumeric hthere, Converter.enumToNumeric_of_ok rfl rfl hforth]
  show r.castBetween source' target' mode' (.scalar y) = _
  rw [castBetween_of_numericToEnum hback, Converter.numericToEnum_of_ok rfl hagain]

/-- A checked cast of an integer keeps it, so that it can be taken back. -/
theorem castBetween_of_checked (hr : Reachable r) {k : IntKind}
    (hthere : r.category source target = .numericToEnum (.int k) enum underlying)
    (hback : r.category source' target' = .enumToNumeric enum underlying (.int k)) {x : Scalar}
    {v : Value} (hok : r.castBetween source target .checked (.scalar x) = .ok v) :
    r.castBetween source' target' .checked v = .ok (.scalar x) := by
  obtain ⟨-, l, rfl⟩ := hr.kinds_of_numericToEnum hthere
  rw [castBetween_of_numericToEnum hthere] at hok
  rcases Converter.numericToEnum_cases (.int k) enum (.int l) (r.nameOf target) (.scalar x) with
    ⟨_, ⟨⟩, hx, -⟩ | ⟨-, hrefused⟩
  · have hnumeric : x.kind.isNumeric = true := by rw [hx]; rfl
    rcases Scalar.convert_cases hnumeric (c := .int l) rfl .checked with ⟨y, hy⟩ | ⟨-, hrange⟩
    · cases hok.symm.trans (Converter.numericToEnum_of_ok hx hy)
      have hagain : y.convert .checked (.int k) = .ok x := Scalar.convertChecked_int_back hx hy
      exact (castBetween_of_enumToNumeric hback _ _).trans
        (Converter.enumToNumeric_of_ok rfl (Scalar.kind_of_convert hy) hagain)
    · cases hok.symm.trans (Converter.numericToEnum_of_outOfRange hx hrange)
  · cases hok.symm.trans (hrefused .checked)

/-- Casts to an enumeration convert to its underlying kind, and casts from one convert from there.
To an enumeration, a scalar of the source kind is converted or is out of range for the type cast to.
From an enumeration, exactly its values over the underlying kind are converted.  The two rules apply
to opposite pairs.  Where the underlying kind widens to the other kind, casts there and back change
no value of the enumeration in any mode; and a checked cast of an integer to an enumeration is taken
back by the checked cast from it. -/
theorem enum_casts_factor (hr : Reachable r) :
    (∀ source target kind enum underlying mode,
        r.category source target = .numericToEnum kind enum underlying →
        ∃ run, r.converterBetween source target mode = .ok run ∧
          ∀ x : Scalar, x.kind = kind →
            (∃ raw : Scalar, x.convert mode underlying = .ok raw ∧ raw.kind = underlying ∧
                run (.scalar x) = .ok (.enum { type := enum, raw := raw })) ∨
              (x.convert mode underlying = .error (Scalar.outOfRange x underlying) ∧
                run (.scalar x) = .error (.overflow x.text (r.nameOf target)))) ∧
      (∀ source target enum underlying kind mode,
        r.category source target = .enumToNumeric enum underlying kind →
        ∃ run, r.converterBetween source target mode = .ok run ∧
          ∀ e : EnumValue,
            (e.type = enum → e.raw.kind = underlying →
                run (.enum e) = (e.raw.convert mode kind).map .scalar) ∧
              (e.type ≠ enum ∨ e.raw.kind ≠ underlying →
                run (.enum e) = .error (.invalidCast (Value.enum e).describe kind.name))) ∧
      (∀ source target enum underlying kind,
        r.category source target = .enumToNumeric enum underlying kind ↔
          r.category target source = .numericToEnum kind enum underlying) ∧
      ∀ source target source' target' enum underlying kind,
        r.category source target = .enumToNumeric enum underlying kind →
        r.category source' target' = .numericToEnum kind enum underlying →
        (underlying.widensTo kind = true →
          ∀ (mode mode' : Mode) (e : EnumValue), e.type = enum → e.raw.kind = underlying →
            (r.castBetween source target mode (.enum e)).bind
              (r.castBetween source' target' mode') = .ok (.enum e)) ∧
        (kind.isInteger = true →
          ∀ (x : Scalar) (v : Value),
            r.castBetween source' target' .checked (.scalar x) = .ok v →
            r.castBetween source target .checked v = .ok (.scalar x)) := by
  refine ⟨?_, ?_, ?_, ?_⟩
  · intro source target kind enum underlying mode h
    refine ⟨_, converterBetween_of_numericToEnum h mode, ?_⟩
    rintro x rfl
    obtain ⟨hx, k, rfl⟩ := hr.kinds_of_numericToEnum h
    -- Both kinds are numeric, so that nothing but an overflow is refused.
    rcases Scalar.convert_cases hx (c := .int k) rfl mode with ⟨raw, hraw⟩ | ⟨-, hrange⟩
    · exact Or.inl ⟨raw, hraw, Scalar.kind_of_convert hraw, Converter.numericToEnum_of_ok rfl hraw⟩
    · exact Or.inr ⟨hrange, Converter.numericToEnum_of_outOfRange rfl hrange⟩
  · intro source target enum underlying kind mode h
    refine ⟨_, converterBetween_of_enumToNumeric h mode, ?_⟩
    intro e
    refine ⟨fun htype hraw => if_pos ⟨htype, hraw⟩, fun hother => if_neg ?_⟩
    rintro ⟨htype, hraw⟩
    exact hother.elim (absurd htype) (absurd hraw)
  · intro source target enum underlying kind
    exact hr.enumToNumeric_iff_swap
  · intro source target source' target' enum underlying kind hto hfrom
    refine ⟨?_, ?_⟩
    · intro hwide mode mode' e htype hraw
      exact castBetween_of_widensTo hr hto hfrom hwide htype hraw mode mode'
    · intro hinteger x v hok
      cases kind with
      | int k => exact castBetween_of_checked hr hfrom hto hok
      | _ => cases hinteger

/-- The primitives, and an enumeration over `u8` with two values. -/
def status : Registry :=
  (builtin.register (.declare (.enumType
    { name := "Status"
      hash := ⟨9⟩
      underlying := .u8
      values := [{ name := "Open", value := 0 }, { name := "Closed", value := 1 }] }))).2

/-- From `i32?`, 2000 is out of range for `Status`, and 7 is no declared value but comes back.  By
way of `f32` every value comes back. -/
theorem enum_casts_factor_status :
    Reachable status ∧
      (status.category Kind.i32.typeHash.nullable ⟨9⟩ = .numericToEnum .i32 ⟨9⟩ .u8 ∧
        ∃ run, status.converterBetween Kind.i32.typeHash.nullable ⟨9⟩ .checked = .ok run ∧
          run (.scalar ⟨.i32, Num.wrap _ 2000⟩) = .error (.overflow "2000" "Status")) ∧
      (status.castBetween Kind.i32.typeHash.nullable ⟨9⟩ .checked (.scalar ⟨.i32, Num.wrap _ 7⟩) =
          .ok (.enum { type := ⟨9⟩, raw := ⟨.u8, Num.wrap _ 7⟩ }) ∧
        status.castBetween ⟨9⟩ Kind.i32.typeHash .checked
            (.enum { type := ⟨9⟩, raw := ⟨.u8, Num.wrap _ 7⟩ }) =
          .ok (.scalar ⟨.i32, Num.wrap _ 7⟩)) ∧
      Kind.u8.widensTo .f32 = true ∧
        status.category ⟨9⟩ Kind.f32.typeHash = .enumToNumeric ⟨9⟩ .u8 .f32 ∧
        ∀ n : Num ⟨false, .w8⟩,
          (status.castBetween ⟨9⟩ Kind.f32.typeHash .unchecked
              (.enum { type := ⟨9⟩, raw := ⟨.u8, n⟩ })).bind
            (status.castBetween Kind.f32.typeHash ⟨9⟩ .checked) =
              .ok (.enum { type := ⟨9⟩, raw := ⟨.u8, n⟩ }) := by
  have hr : Reachable status := .step _ reachable_builtin
  have hfrom : status.category Kind.i32.typeHash.nullable ⟨9⟩ = .numericToEnum .i32 ⟨9⟩ .u8 := by
    decide
  have hto : status.category ⟨9⟩ Kind.i32.typeHash = .enumToNumeric ⟨9⟩ .u8 .i32 := by decide
  have hfloat : status.category ⟨9⟩ Kind.f32.typeHash = .enumToNumeric ⟨9⟩ .u8 .f32 := by decide
  have hwide : Kind.u8.widensTo .f32 = true := by decide
  obtain ⟨hscalar, -, hswap, hback⟩ := enum_casts_factor hr
  refine ⟨hr, ⟨hfrom, ?_⟩, ?_, hwide, hfloat, ?_⟩
  · obtain ⟨run, hrun, hanswer⟩ := hscalar _ _ _ _ _ .checked hfrom
    rcases hanswer ⟨.i32, Num.wrap _ 2000⟩ rfl with ⟨raw, hraw, -⟩ | ⟨-, hoverflow⟩
    · cases hraw
    · exact ⟨run, hrun, hoverflow⟩
  · have hforth : status.castBetween Kind.i32.typeHash.nullable ⟨9⟩ .checked
        (.scalar ⟨.i32, Num.wrap _ 7⟩) = .ok (.enum { type := ⟨9⟩, raw := ⟨.u8, Num.wrap _ 7⟩ }) :=
      rfl
    exact ⟨hforth, (hback _ _ _ _ _ _ _ hto hfrom).2 rfl _ _ hforth⟩
  · intro n
    exact (hback _ _ _ _ _ _ _ hfloat ((hswap _ _ _ _ _).1 hfloat)).1 hwide .unchecked .checked _
      rfl rfl

end Registry
end Recast
