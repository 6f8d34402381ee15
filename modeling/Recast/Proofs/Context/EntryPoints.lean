import Recast.Proofs.Context.Absence
import Recast.Proofs.Conversion.Lifting
import Recast.Proofs.HostType.RoundTrip

/-!
# EntryPoints — three ways to the same cast

A value of a host type can be cast directly, through a caster that was bound to the two host types
before, or by its run-time type, with the answer read back.  The first two take their pair from the
host types, the third from the value.  These are the same pair, unless the source is an optional:
then the first two start from the wrapper and the third from the type without it, since no value
remembers that it was optional.

That wrappers are lifted makes up for this.  It does so where no conversion is registered for a
wrapper (`Registry.ConvertsPlain`); one that is would be found from the wrapper only.

* `Registry.converterBetween_congr_source`: what a converter depends on in its source;
* `Registry.outcome_cast_of_present`, `Registry.outcome_cast_of_absent`: a cast is that of the erased
  value, read back;
* `Registry.outcome_cast_option`, `Registry.outcome_cast_some_alike`: the same from a wrapper;
* `Context.entryPoints_agree`: all three ways, whatever a context was asked before.
-/

namespace Recast

namespace Registry

variable {r : Registry} {source source' target : TypeHash} {s t : HostType} {mode : Mode}

/-! ## Wrappers without registered conversions -/

/-- No conversion is registered from or to a wrapper. -/
def ConvertsPlain (r : Registry) : Prop :=
  ∀ key c, r.conversion? key = some c →
    (r.traits key.source).nullableInner? = none ∧ (r.traits key.target).nullableInner? = none

/-- Then the conversion between two types is that between the types without their wrappers. -/
theorem ConvertsPlain.category_eq (hplain : r.ConvertsPlain) (hr : r.WellFormed)
    (source target : TypeHash) :
    r.category source target = r.category (r.strip source) (r.strip target) := by
  cases hget : r.conversion? { source := source, target := target } with
  | none => exact category_lift hr (Or.inl hget)
  | some c =>
      rcases hplain _ c hget with ⟨hsource, htarget⟩
      rw [strip_of_nullableInner?_eq_none hsource, strip_of_nullableInner?_eq_none htarget]

theorem ConvertsPlain.category_congr (hplain : r.ConvertsPlain) (hr : r.WellFormed)
    (hstrip : r.strip source = r.strip source') (target : TypeHash) :
    r.category source target = r.category source' target := by
  rw [hplain.category_eq hr source, hplain.category_eq hr source', hstrip]

/-- Of its source, a converter knows no more than the category and the type without its wrapper. -/
theorem converterBetween_congr_source (hstrip : r.strip source = r.strip source')
    (hcategory : r.category source target = r.category source' target)
    (hvalid : r.isConvertible source target = true) (mode : Mode) :
    r.converterBetween source target mode = r.converterBetween source' target mode := by
  have hcategory' : (r.category source target).isValid = true := hvalid
  unfold converterBetween converter handler conversionBetween
  rw [hstrip, ← hcategory]
  cases hcat : r.category source target with
  | invalid =>
      rw [hcat] at hcategory'
      cases hcategory'
  | _ => rfl

theorem reason_noConversion (r : Registry) (source target : TypeHash) :
    (r.noConversion source target).reason = .invalidCast :=
  rfl

/-! ## Casts of erased values -/

theorem outcome_castValue_erase (hident : s.isIdentified = true) {v : s.Carrier}
    (hpresent : s.isAbsent v = false) :
    r.outcome (.castValue (s.erase v) target mode) =
      (r.build s.core.typeHash target mode).bind fun run => run (s.erase v) := by
  have htype : (s.erase v).typeHash? = some s.core.typeHash := by
    rw [HostType.typeHash?_erase hident, hpresent]
    rfl
  exact outcome_castValue_of_typeHash? htype target mode

/-- Where the type and the run-time type of a value have the same converter, a cast of the value is
that of what it erases to, read back. -/
theorem outcome_cast_of_present (hident : s.isIdentified = true) {v : s.Carrier}
    (hpresent : s.isAbsent v = false)
    (hbuild : r.build s.typeHash t.typeHash mode = r.build s.core.typeHash t.typeHash mode) :
    r.outcome (.cast s t v mode) =
      (r.outcome (.castValue (s.erase v) t.typeHash mode)).bind t.extract := by
  rw [outcome_castValue_erase hident hpresent, ← hbuild]
  exact outcome_cast_eq r s t v mode

/-- Absence has no run-time type, and the target alone decides. -/
theorem outcome_cast_of_absent (hident : s.isIdentified = true) {v : s.Carrier}
    (habsent : s.isAbsent v = true) (hvalid : r.isConvertible s.typeHash t.typeHash = true) :
    r.outcome (.cast s t v mode) =
      (r.outcome (.castValue (s.erase v) t.typeHash mode)).bind t.extract := by
  have hnull : s.erase v = .null := (HostType.erase_eq_null_iff hident).2 habsent
  rw [hnull, ← build_null hvalid, ← hnull]
  exact outcome_cast_eq r s t v mode

/-! ## Casts of optionals -/

theorem strip_option (hr : r.WellFormed)
    (hwrapper : r.traits (HostType.option s).typeHash = .nullable s.typeHash) :
    r.strip (HostType.option s).typeHash = r.strip s.typeHash := by
  have hinner : r.strip (HostType.option s).typeHash = s.typeHash := by
    unfold strip
    rw [hwrapper]
    rfl
  have hstripped := hr.strip_strip (HostType.option s).typeHash
  rw [hinner] at hstripped
  exact hinner.trans hstripped.symm

section Optional

variable (hr : r.WellFormed) (hplain : r.ConvertsPlain)
  (hwrapper : r.traits (HostType.option s).typeHash = .nullable s.typeHash)
include hr hplain hwrapper

theorem isConvertible_option :
    r.isConvertible (HostType.option s).typeHash target = r.isConvertible s.typeHash target :=
  congrArg Category.isValid (hplain.category_congr hr (strip_option hr hwrapper) target)

variable (hident : s.isIdentified = true) (hsingle : s.isOptional = false)
include hident hsingle

/-- An optional with a conversion is cast as what it erases to. -/
theorem outcome_cast_option
    (hvalid : r.isConvertible (HostType.option s).typeHash t.typeHash = true)
    (w : Option s.Carrier) :
    r.outcome (.cast (.option s) t w mode) =
      (r.outcome (.castValue ((HostType.option s).erase w) t.typeHash mode)).bind t.extract := by
  have hident' : (HostType.option s).isIdentified = true := hident
  cases habsent : (HostType.option s).isAbsent w with
  | true => exact outcome_cast_of_absent hident' habsent hvalid
  | false =>
      have hstrip := strip_option hr hwrapper
      have hconverter := converterBetween_congr_source hstrip
        (hplain.category_congr hr hstrip t.typeHash) hvalid mode
      have hcore : (HostType.option s).core = s := HostType.core_of_not_isOptional hsingle
      refine outcome_cast_of_present hident' habsent ?_
      rw [hcore]
      exact congrArg (Except.mapError BuildError.cause) hconverter

/-- A value that is present is cast alike as an optional and by its run-time type. -/
theorem outcome_cast_some_alike (v : s.Carrier) :
    Alike (r.outcome (.cast (.option s) t (some v) mode))
      ((r.outcome (.castValue (s.erase v) t.typeHash mode)).bind t.extract) := by
  cases hvalid : r.isConvertible (HostType.option s).typeHash t.typeHash with
  | true =>
      rw [outcome_cast_option hr hplain hwrapper hident hsingle hvalid (some v)]
      exact Alike.refl _
  | false =>
      have hinvalid : r.isConvertible s.typeHash t.typeHash = false := by
        rw [← isConvertible_option hr hplain hwrapper, hvalid]
      have hwrapped : r.outcome (.cast (.option s) t (some v) mode) = .error _ :=
        outcome_cast_of_not_isConvertible hvalid (some v) mode
      rw [hwrapped, outcome_castValue_of_not_isConvertible hinvalid
        (HostType.typeHash?_erase_of_not_isOptional hident hsingle v)]
      exact .refusal ((r.reason_noConversion _ _).trans (r.reason_noConversion _ _).symm)

end Optional

end Registry

namespace Context

/-- Where a bound caster is asked for and then used, only its converter matters. -/
theorem bind_cast_eq {source target : HostType}
    (answer : Except CastError (BoundCaster source target)) (v : source.Carrier) :
    (answer.bind fun bound => bound.cast v) =
      (answer.map fun bound => bound.caster.run).bind fun run =>
        (run (source.erase v)).bind target.extract := by
  cases answer <;> rfl

/-- A host type that is no optional has three ways to a cast, and they agree, whatever a context was
asked before either of them: the cast itself, the cast through a bound caster, and the cast of what
the value erases to, read back at the target.  Where the registry knows the wrapper of the type and
no conversion is registered for a wrapper, an optional is cast alike by the first and the last way.
If there is a conversion from the wrapper, they agree on absence as well, and to the text of a
refusal. -/
theorem entryPoints_agree (r : Registry) (os os' : List Operation) {source : HostType}
    (hident : source.isIdentified = true) (hsingle : source.isOptional = false)
    (target : HostType) (mode : Mode) :
    (∀ v, (((ofRegistry r).after os).cast source target v mode).1 =
        (((ofRegistry r).after os').bindCaster source target mode).1.bind
          fun bound => bound.cast v) ∧
      (∀ v, (((ofRegistry r).after os).cast source target v mode).1 =
        (((ofRegistry r).after os').castValue (source.erase v) target.typeHash mode).1.bind
          target.extract) ∧
      (Registry.Reachable r → r.ConvertsPlain →
        r.traits (HostType.option source).typeHash = .nullable source.typeHash →
        (∀ v, Alike (((ofRegistry r).after os).cast (.option source) target (some v) mode).1
          ((((ofRegistry r).after os').castValue (source.erase v) target.typeHash mode).1.bind
            target.extract)) ∧
        (r.isConvertible (HostType.option source).typeHash target.typeHash = true →
          ∀ w, (((ofRegistry r).after os).cast (.option source) target w mode).1 =
            (((ofRegistry r).after os').castValue ((HostType.option source).erase w)
              target.typeHash mode).1.bind target.extract)) := by
  have hc := (faithful_ofRegistry r).after os
  have hc' := (faithful_ofRegistry r).after os'
  have hcast : ∀ (s : HostType) (v : s.Carrier),
      (((ofRegistry r).after os).cast s target v mode).1 = r.outcome (.cast s target v mode) :=
    fun s v => (hc.perform (.cast s target v mode)).1
  have hvalue : ∀ v, (((ofRegistry r).after os').castValue v target.typeHash mode).1 =
      r.outcome (.castValue v target.typeHash mode) :=
    fun v => (hc'.perform (.castValue v target.typeHash mode)).1
  refine ⟨?_, ?_, ?_⟩
  · intro v
    have hbound := (hc'.perform (.bindCaster source target mode)).1
    refine (hcast source v).trans ((bind_cast_eq _ v).trans ?_).symm
    exact congrArg (fun answer => Except.bind answer _) hbound
  · intro v
    rw [hcast, hvalue]
    refine Registry.outcome_cast_of_present hident (HostType.isAbsent_of_not_isOptional hsingle) ?_
    rw [HostType.core_of_not_isOptional hsingle]
  · intro hr hplain hwrapper
    refine ⟨?_, ?_⟩
    · intro v
      have hwrapped : (((ofRegistry r).after os).cast (.option source) target (some v) mode).1 =
          r.outcome (.cast (.option source) target (some v) mode) := hcast _ _
      rw [hwrapped, hvalue]
      exact Registry.outcome_cast_some_alike hr.wellFormed hplain hwrapper hident hsingle v
    · intro hvalid w
      rw [hcast, hvalue]
      exact Registry.outcome_cast_option hr.wellFormed hplain hwrapper hident hsingle hvalid w

/-- Two thousand as an `i32` does not fit into a `u8`, by whatever way, and neither does it as an
optional.  The absent `i32` is refused both ways. -/
theorem entryPoints_agree_i32 :
    Registry.Reachable Registry.builtin ∧ Registry.builtin.ConvertsPlain ∧
      Registry.builtin.traits (HostType.option (.scalar .i32)).typeHash =
        .nullable (HostType.scalar .i32).typeHash ∧
      Registry.builtin.isConvertible (HostType.option (.scalar .i32)).typeHash
        (HostType.scalar .u8).typeHash = true ∧
      (builtin.cast (.scalar .i32) (.scalar .u8) (Num.wrap _ 2000) .checked).1 =
        .error (.overflow "2000" "u8") ∧
      Alike (builtin.cast (.option (.scalar .i32)) (.scalar .u8) (some (Num.wrap _ 2000))
          .checked).1
        ((builtin.castValue (.scalar ⟨.i32, Num.wrap _ 2000⟩) Kind.u8.typeHash .checked).1.bind
          (HostType.scalar .u8).extract) ∧
      (builtin.cast (.option (.scalar .i32)) (.scalar .u8) none .checked).1 =
        (builtin.castValue .null Kind.u8.typeHash .checked).1.bind
          (HostType.scalar .u8).extract := by
  have hplain : Registry.builtin.ConvertsPlain := by
    intro key c hget
    cases hget
  have hwrapper : Registry.builtin.traits (HostType.option (.scalar .i32)).typeHash =
      .nullable (HostType.scalar .i32).typeHash := by decide
  have hvalid : Registry.builtin.isConvertible (HostType.option (.scalar .i32)).typeHash
      (HostType.scalar .u8).typeHash = true := by decide
  have hident : (HostType.scalar .i32).isIdentified = true := rfl
  rcases entryPoints_agree Registry.builtin [] [] hident rfl (.scalar .u8) .checked with
    ⟨-, hvalue, hoptional⟩
  rcases hoptional Registry.reachable_builtin hplain hwrapper with ⟨hpresent, hall⟩
  refine ⟨Registry.reachable_builtin, hplain, hwrapper, hvalid, ?_, hpresent _, hall hvalid none⟩
  exact (hvalue _).trans rfl

end Context
end Recast
