import Recast.Proofs.Context.Memory
import Recast.Proofs.Conversion.Modes

/-!
# Validity — what is called convertible can be cast

Three places decide whether there is a conversion between two types: the question itself, the
building of a converter, and the request for a caster, which may be answered from what is kept
without asking either.  They decide alike.  A pair that has no conversion is refused on every path,
and each time with the same error.

* `Context.Faithful.exists_caster_iff`: a context has a caster where there is a conversion;
* `Context.isConvertible_decides`: the question, building and casting agree, whatever was asked
  before.
-/

namespace Recast

namespace Registry

variable {r : Registry} {source target : TypeHash} {s t : HostType}

/-! ## No conversion, no outcome -/

theorem build_of_not_isConvertible (h : r.isConvertible source target = false) (mode : Mode) :
    r.build source target mode = .error (r.noConversion source target) :=
  congrArg (Except.mapError BuildError.cause) (converterBetween_of_not_isConvertible h mode)

theorem outcome_cast_of_not_isConvertible (h : r.isConvertible s.typeHash t.typeHash = false)
    (v : s.Carrier) (mode : Mode) :
    r.outcome (.cast s t v mode) = .error (r.noConversion s.typeHash t.typeHash) := by
  show (r.build s.typeHash t.typeHash mode).bind _ = _
  rw [build_of_not_isConvertible h]
  rfl

theorem outcome_castValue_of_not_isConvertible (h : r.isConvertible source target = false)
    {v : Value} (hsource : v.typeHash? = some source) (mode : Mode) :
    r.outcome (.castValue v target mode) = .error (r.noConversion source target) := by
  simp only [outcome, hsource, build_of_not_isConvertible h]
  rfl

end Registry

namespace Context

variable {r : Registry} {c : Context} {source target : TypeHash} {mode : Mode}

/-! ## Casters -/

theorem Faithful.exists_caster_iff (hc : c.Faithful r) :
    (∃ kept, (c.caster source target mode).1 = .ok kept) ↔
      r.isConvertible source target = true := by
  rcases hc with ⟨rfl, hcasters, -, -⟩
  let q : CasterRequest := { key := { source := source, target := target }, mode := mode }
  exact (CasterCache.served hcasters q).exists_ok_iff hcasters

theorem Faithful.caster_of_not_isConvertible (hc : c.Faithful r)
    (h : r.isConvertible source target = false) :
    (c.caster source target mode).1 = .error (r.noConversion source target) := by
  have hanswer :=
    (hc.caster_eq source target mode).1.trans (Registry.build_of_not_isConvertible h mode)
  cases hcaster : (c.caster source target mode).1 with
  | ok kept =>
      rw [hcaster] at hanswer
      cases hanswer
  | error e =>
      rw [hcaster] at hanswer
      cases hanswer
      rfl

/-! ## Casts -/

/-- Whatever a context was asked before, a pair of types is convertible exactly if a converter can
be built for it, and exactly if the context has a caster for it.  If it is not, then building,
asking for the caster, casting between host types that have these identities and casting a value of
the source type are all refused with one error, which names the two types. -/
theorem isConvertible_decides (r : Registry) (os : List Operation) (source target : TypeHash)
    (mode : Mode) :
    ((ofRegistry r).after os).isConvertible source target = r.isConvertible source target ∧
      (r.isConvertible source target = true ↔
        ∃ run, r.converterBetween source target mode = .ok run) ∧
      (r.isConvertible source target = true ↔
        ∃ kept, (((ofRegistry r).after os).caster source target mode).1 = .ok kept) ∧
      (r.isConvertible source target = false →
        r.converterBetween source target mode = .error { cause := r.noConversion source target } ∧
          (((ofRegistry r).after os).caster source target mode).1 =
            .error (r.noConversion source target) ∧
          (∀ s t : HostType, s.typeHash = source → t.typeHash = target → ∀ v,
            (((ofRegistry r).after os).cast s t v mode).1 =
              .error (r.noConversion source target)) ∧
          ∀ v : Value, v.typeHash? = some source →
            (((ofRegistry r).after os).castValue v target mode).1 =
              .error (r.noConversion source target)) := by
  have hc := (faithful_ofRegistry r).after os
  refine ⟨?_, (Registry.exists_converterBetween_iff mode).symm, hc.exists_caster_iff.symm, ?_⟩
  · show ((ofRegistry r).after os).registry.isConvertible source target = _
    rw [hc.registry_eq]
  · intro hinvalid
    refine ⟨Registry.converterBetween_of_not_isConvertible hinvalid mode,
      hc.caster_of_not_isConvertible hinvalid, ?_, ?_⟩
    · rintro s t rfl rfl v
      exact (hc.perform (.cast s t v mode)).1.trans
        (Registry.outcome_cast_of_not_isConvertible hinvalid v mode)
    · intro v hsource
      exact (hc.perform (.castValue v target mode)).1.trans
        (Registry.outcome_castValue_of_not_isConvertible hinvalid hsource mode)

/-- From `bool` to `i32` there is no conversion, by whatever path. -/
theorem isConvertible_decides_bool :
    Registry.builtin.isConvertible Kind.bool.typeHash Kind.i32.typeHash = false ∧
      (builtin.caster Kind.bool.typeHash Kind.i32.typeHash .checked).1 =
        .error (.invalidCast "bool" "i32") ∧
      (builtin.cast (.scalar .bool) (.scalar .i32) true .checked).1 =
        .error (.invalidCast "bool" "i32") ∧
      (builtin.castValue (.scalar ⟨.bool, true⟩) Kind.i32.typeHash .checked).1 =
        .error (.invalidCast "bool" "i32") := by
  have hinvalid : Registry.builtin.isConvertible Kind.bool.typeHash Kind.i32.typeHash = false := by
    decide
  rcases isConvertible_decides Registry.builtin [] Kind.bool.typeHash Kind.i32.typeHash .checked
    with ⟨-, -, -, hrefused⟩
  rcases hrefused hinvalid with ⟨-, hcaster, hcast, hvalue⟩
  have hname : Registry.builtin.noConversion Kind.bool.typeHash Kind.i32.typeHash =
      .invalidCast "bool" "i32" := by decide
  rw [hname] at hcaster hcast hvalue
  exact ⟨hinvalid, hcaster, hcast (.scalar .bool) (.scalar .i32) rfl rfl true, hvalue _ rfl⟩

end Context
end Recast
