import Recast.Proofs.Context.Memory
import Recast.Proofs.Conversion.Converters
import Recast.Proofs.HostType.RoundTrip
import Recast.Proofs.Registry.Growth

/-!
# SameType — casts from a type to itself

A cast from a type to itself hands a value on, once it has been recognised as an instance of the
type.  The value arrives without its optionals, and only the registry knows what the type is
without its wrapper.  A type whose wrapper the registry knows is lifted (`Registry.Lifts`).  An
optional that is not known is an opaque type, of which no value is an instance.

* `Registry.converterBetween_self`: the converter from a type to itself;
* `Context.cast_self`: the outcome of such a cast between host types, which is the value itself for
  every type that is lifted.
-/

namespace Recast
namespace Registry

variable {r : Registry} {t : HostType} {v : t.Carrier}

/-! ## Converters from a type to itself -/

theorem converterBetween_self (r : Registry) (h : TypeHash) (mode : Mode) :
    r.converterBetween h h mode =
      .ok (Converter.guardNull (r.traits h).isNullable (r.nameOf h)
        (r.instanceConverter (r.strip h) (r.nameOf h))) := by
  unfold converterBetween converter handler conversionBetween
  rw [category_self]
  rfl

/-! ## Host types -/

/-- A registry knows the wrapper of a host type under its identity; or the type is no optional, and
is not declared as a wrapper either. -/
def Lifts (r : Registry) (t : HostType) : Prop :=
  r.traits t.typeHash = .nullable t.core.typeHash ∨
    t.isOptional = false ∧ (r.traits t.typeHash).nullableInner? = none

theorem lifts_scalar (r : Registry) (k : Kind) : r.Lifts (.scalar k) := by
  refine Or.inr ⟨rfl, ?_⟩
  show (r.traits k.typeHash).nullableInner? = none
  rw [traits_typeHash]
  rfl

theorem Lifts.strip_eq (h : r.Lifts t) : r.strip t.typeHash = t.core.typeHash := by
  unfold strip
  rcases h with hwrapper | ⟨hoptional, hnone⟩
  · rw [hwrapper]
    rfl
  · rw [hnone, HostType.core_of_not_isOptional hoptional]
    rfl

theorem Lifts.isNullable (h : r.Lifts t) (habsent : t.isAbsent v = true) :
    (r.traits t.typeHash).isNullable = true := by
  rcases h with hwrapper | ⟨hoptional, -⟩
  · rw [hwrapper]
    rfl
  · cases (HostType.isOptional_of_isAbsent habsent).symm.trans hoptional

/-- What becomes of a value in a cast to its own type.  It is handed on if it is absent and the type
has absence, or if the type without its optionals is an instance of the type without its wrapper. -/
def selfOutcome (r : Registry) (t : HostType) (v : t.Carrier) : Except CastError t.Carrier :=
  if t.isAbsent v then
    if (r.traits t.typeHash).isNullable then
      .ok v
    else
      .error (.nullNotAllowed (r.nameOf t.typeHash))
  else
    if r.isSubtype t.core.typeHash (r.strip t.typeHash) then
      .ok v
    else
      .error (.invalidCast (r.nameOf t.core.typeHash) (r.nameOf t.typeHash))

theorem Lifts.selfOutcome_eq (h : r.Lifts t) (v : t.Carrier) : r.selfOutcome t v = .ok v := by
  unfold selfOutcome
  cases habsent : t.isAbsent v with
  | true => simp [h.isNullable habsent]
  | false => simp [h.strip_eq, r.isSubtype_refl]

theorem build_self_bind (hident : t.isIdentified = true) (hnested : t.isNestedNone v = false)
    (mode : Mode) :
    ((r.build t.typeHash t.typeHash mode).bind fun run => (run (t.erase v)).bind t.extract) =
      r.selfOutcome t v := by
  have hread := HostType.extract_erase hident hnested
  have htype := HostType.typeHash?_erase hident v
  unfold build selfOutcome
  rw [converterBetween_self]
  show (Converter.guardNull _ _ _ (t.erase v)).bind t.extract = _
  cases habsent : t.isAbsent v with
  | true =>
      have hnull := (HostType.erase_eq_null_iff hident).2 habsent
      rw [hnull] at hread ⊢
      cases hnullable : (r.traits t.typeHash).isNullable with
      | true => exact hread
      | false => rfl
  | false =>
      have hpresent : t.erase v ≠ .null := by
        intro hnull
        cases ((HostType.erase_eq_null_iff hident).1 hnull).symm.trans habsent
      rw [habsent] at htype
      rw [Converter.guardNull_of_ne_null hpresent, instanceConverter_eq]
      simp only [isInstance_iff_of_typeHash? htype, describe, htype]
      cases hinstance : r.isSubtype t.core.typeHash (r.strip t.typeHash) with
      | true => exact hread
      | false => rfl

end Registry

namespace Context

/-- Whatever a context was asked before, a cast of a host type to itself has the outcome that
follows from what the registry takes the type for.  If the registry lifts the type, as it does with
every primitive, this is the value itself, unless it was a nested absence. -/
theorem cast_self (r : Registry) (os : List Operation) {t : HostType} {v : t.Carrier}
    (hident : t.isIdentified = true) (hnested : t.isNestedNone v = false) (mode : Mode) :
    (((ofRegistry r).after os).cast t t v mode).1 = r.selfOutcome t v ∧
      (r.Lifts t → (((ofRegistry r).after os).cast t t v mode).1 = .ok v) ∧
      ∀ k, t = .scalar k → r.Lifts t := by
  have hfaithful := (faithful_ofRegistry r).after os
  have houtcome : (((ofRegistry r).after os).cast t t v mode).1 = r.selfOutcome t v :=
    (hfaithful.perform (.cast t t v mode)).1.trans (Registry.build_self_bind hident hnested mode)
  refine ⟨houtcome, ?_, ?_⟩
  · intro hlifts
    exact houtcome.trans (hlifts.selfOutcome_eq v)
  · rintro k rfl
    exact r.lifts_scalar k

/-- Three as an optional `i32`, over the built-in types. -/
theorem cast_self_optional :
    Registry.builtin.Lifts (.option (.scalar .i32)) ∧
      (builtin.cast (.option (.scalar .i32)) (.option (.scalar .i32)) (some (Num.wrap _ 3))
        .checked).1 = .ok (some (Num.wrap _ 3)) := by
  have hlifts : Registry.builtin.Lifts (.option (.scalar .i32)) := Or.inl (by decide)
  exact ⟨hlifts, (cast_self Registry.builtin [] rfl rfl .checked).2.1 hlifts⟩

/-- Three as an optional of an optional `i32` is no nested absence.  No wrapper is declared for such
a type, and a cast to itself refuses the value. -/
theorem cast_self_refuses_unknown_wrapper :
    Registry.Reachable Registry.builtin ∧
      (HostType.option (.option (.scalar .i32))).isIdentified = true ∧
      (HostType.option (.option (.scalar .i32))).isNestedNone (some (some (Num.wrap _ 3))) = false ∧
      (builtin.cast (.option (.option (.scalar .i32))) (.option (.option (.scalar .i32)))
          (some (some (Num.wrap _ 3))) .unchecked).1 =
        .error (.invalidCast "i32" "<unknown 0xb97edb246c7c487e>") :=
  ⟨Registry.reachable_builtin, rfl, rfl, rfl⟩

end Context
end Recast
