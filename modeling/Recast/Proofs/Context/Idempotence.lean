import Recast.Binary.Interchange
import Recast.Proofs.Context.Memory
import Recast.Proofs.Conversion.Handles
import Recast.Proofs.Conversion.Soundness
import Recast.Proofs.Registry.Wrappers

/-!
# Idempotence — casting again to the same type

A value that was cast to a type is there: casting it to that type once more hands it on.  The second
cast starts from the run-time type of the answer, so that it need not be the conversion of the first
one.  There are two ways to be there.  An answer that was handed on has the type that it came with,
and goes through the same conversion again.  An answer that was converted is of the very type cast
to, without its wrapper, and goes from there through the conversion of a type to itself.

* `Registry.Reachable.castBetween_settles`: one of the two, where no registration is consulted;
* `Context.castValue_castValue`: hence a cast changes nothing in what was cast before.
-/

namespace Recast

theorem Category.dependsOnMode_of_isReference {category : Category}
    (h : category.isReference = true) : category.dependsOnMode = false := by
  cases category with
  | identity => rfl
  | upcast target => rfl
  | downcast target => rfl
  | _ => cases h

namespace Registry

variable {r : Registry} {source target : TypeHash} {mode : Mode} {v w : Value}

/-! ## What a rule answers -/

section Rule

variable {category : Category} {run : Mode → Converter}
  (hrule : r.Carries source target category run)
include hrule

/-- The rules for references change nothing. -/
theorem Carries.eq_of_isReference (href : category.isReference = true)
    (hok : run mode v = .ok w) : w = v := by
  cases hrule with
  | identity _ => exact (instanceConverter_eq_ok hok).1.symm
  | upcast _ => exact (objectConverter_eq_ok hok).1.symm
  | downcast _ => exact (objectConverter_eq_ok hok).1.symm
  | _ => cases href

/-- The rules that convert answer with the very type cast to, without its wrapper. -/
theorem Carries.typeHash?_of_ok (hr : Reachable r) (hplace : r.PrimitivesInPlace)
    (hbuiltin : category.isBuiltin = true) (href : category.isReference = false)
    (hok : run mode v = .ok w) : w.typeHash? = some (r.strip target) := by
  cases hrule with
  | widening _ hb _ =>
      obtain ⟨y, rfl, hy⟩ := Converter.numeric_eq_ok hok
      exact typeHash?_scalar hr hplace hb hy
  | narrowing _ hb _ =>
      obtain ⟨y, rfl, hy⟩ := Converter.numeric_eq_ok hok
      exact typeHash?_scalar hr hplace hb hy
  | enumToNumeric _ hb =>
      obtain ⟨y, rfl, hy⟩ := Converter.enumToNumeric_eq_ok hok
      exact typeHash?_scalar hr hplace hb hy
  | numericToEnum _ _ =>
      obtain ⟨raw, rfl⟩ := Converter.numericToEnum_eq_ok hok
      rfl
  | custom _ => cases hbuiltin
  | _ => cases href

end Rule

/-! ## Casting again -/

/-- From a type without its wrapper to the type with it: the same type. -/
theorem WellFormed.category_strip (hr : r.WellFormed) (target : TypeHash) :
    r.category (r.strip target) target = .identity := by
  refine category_of_builtinCategory? ?_
  rw [hr.strip_strip, builtinCategory?, if_pos rfl]

theorem castBetween_of_isReference (href : (r.category source target).isReference = true)
    (hok : r.castBetween source target mode v = .ok w) (mode' : Mode) :
    r.castBetween source target mode' v = .ok w := by
  have hfree := Category.dependsOnMode_of_isReference href
  have hmode := converterBetween_of_not_dependsOnMode hfree mode' mode
  rw [castBetween, hmode]
  exact hok

/-- A value of the very type cast to is handed on. -/
theorem WellFormed.castBetween_strip (hr : r.WellFormed)
    (htype : v.typeHash? = some (r.strip target)) (mode : Mode) :
    r.castBetween (r.strip target) target mode v = .ok v := by
  have hpresent : v ≠ .null := by
    rintro rfl
    cases htype
  have hvalid : r.isConvertible (r.strip target) target = true :=
    congrArg Category.isValid (hr.category_strip target)
  rcases exists_converters hvalid with ⟨run, hrule, hrun⟩
  rw [castBetween_of_converterBetween (hrun mode), Converter.guardNull_of_ne_null hpresent]
  rw [hr.category_strip] at hrule
  cases hrule with
  | identity hsame =>
      have hinstance : r.IsInstance v (r.strip (r.strip target)) := by
        rw [hsame]
        exact isInstance_of_typeHash? htype
      exact (instanceConverter_eq r _ _ v).trans (if_pos hinstance)

theorem isConvertible_of_castBetween (hcast : r.castBetween source target mode v = .ok w) :
    r.isConvertible source target = true := by
  cases hvalid : r.isConvertible source target with
  | true => rfl
  | false =>
      rw [castBetween, converterBetween_of_not_isConvertible hvalid] at hcast
      cases hcast

/-- What a cast answers has settled: from its run-time type, a rule that changes nothing leads to
the type cast to, and accepts it in either mode. -/
theorem Reachable.castBetween_settles (hr : Reachable r) (hplace : r.PrimitivesInPlace)
    (hsource : v.typeHash? = some source)
    (hbuiltin : ∀ key checkedVariant, r.category source target ≠ .custom key checkedVariant)
    (hcast : r.castBetween source target mode v = .ok w) :
    ∃ actual, w.typeHash? = some actual ∧ (r.category actual target).isReference = true ∧
      ∀ mode', r.castBetween actual target mode' w = .ok w := by
  have hpresent : v ≠ .null := by
    rintro rfl
    cases hsource
  rcases exists_converters (isConvertible_of_castBetween hcast) with ⟨run, hrule, hrun⟩
  have hok : run mode v = .ok w := by
    have hanswer := castBetween_of_converterBetween (hrun mode) v
    rw [Converter.guardNull_of_ne_null hpresent] at hanswer
    exact hanswer.symm.trans hcast
  cases href : (r.category source target).isReference with
  | true =>
      cases hrule.eq_of_isReference href hok
      exact ⟨source, hsource, href, castBetween_of_isReference href hcast⟩
  | false =>
      have hplain : (r.category source target).isBuiltin = true := by
        cases hcategory : r.category source target with
        | custom key checkedVariant => exact absurd hcategory (hbuiltin key checkedVariant)
        | invalid =>
            have hvalid := isConvertible_of_castBetween hcast
            rw [isConvertible, conversionBetween, Conversion.isValid, hcategory] at hvalid
            cases hvalid
        | _ => rfl
      have htype := hrule.typeHash?_of_ok hr hplace hplain href hok
      refine ⟨r.strip target, htype, ?_, hr.wellFormed.castBetween_strip htype⟩
      rw [hr.wellFormed.category_strip]
      rfl

end Registry

namespace Context

variable {r : Registry}

/-- Whatever a context was asked before either cast: if a value was cast to a type, and no
registered conversion did it, then casting the answer to that type once more, in any mode, gives the
same answer.  The second cast goes through a rule that hands values on, unless the answer is `null`,
which has no run-time type. -/
theorem castValue_castValue (hr : Registry.Reachable r) (hplace : r.PrimitivesInPlace)
    (os os' : List Operation) {v w : Value} {target : TypeHash} {mode : Mode}
    (hbuiltin : ∀ source, v.typeHash? = some source →
      ∀ key checkedVariant, r.category source target ≠ .custom key checkedVariant)
    (hok : (((ofRegistry r).after os).castValue v target mode).1 = .ok w) (mode' : Mode) :
    (((ofRegistry r).after os').castValue w target mode').1 = .ok w ∧
      ∀ actual, w.typeHash? = some actual → (r.category actual target).isReference = true := by
  have hsecond := castValue_after_eq r os' w target mode'
  rw [castValue_after_eq] at hok
  cases hsource : v.typeHash? with
  | none =>
      cases Value.typeHash?_eq_none_iff.1 hsource
      have hanswer : (if (r.traits target).isNullable then .ok .null
          else .error (.nullNotAllowed (r.nameOf target)) : Except CastError Value) = .ok w := hok
      have hnull : w = .null := by
        split at hanswer
        · exact (Except.ok.inj hanswer).symm
        · cases hanswer
      -- What becomes of `null` depends on the target alone, so that the casts are the same.
      cases hnull
      refine ⟨hsecond.trans hok, ?_⟩
      intro actual htype
      cases htype
  | some source =>
      rw [Registry.outcome_castValue_of_typeHash? hsource] at hok
      obtain ⟨actual, htype, href, hagain⟩ :=
        hr.castBetween_settles hplace hsource (hbuiltin source hsource) hok
      refine ⟨?_, ?_⟩
      · rw [hsecond, Registry.outcome_castValue_of_typeHash? htype]
        exact hagain mode'
      · intro actual' htype'
        cases htype.symm.trans htype'
        exact href

/-- An `i64` cast to `u8?` is an `u8`, and stays one.  A NaN cast to `f32` stays the same NaN, and a
sprite cast to `Shape` that sprite. -/
theorem castValue_castValue_optional :
    Registry.Reachable Registry.builtin ∧ Registry.builtin.PrimitivesInPlace ∧
      Registry.builtin.category Kind.i64.typeHash Kind.u8.typeHash.nullable =
        .narrowing .i64 .u8 ∧
      (builtin.castValue (.scalar ⟨.i64, Num.wrap _ 200⟩) Kind.u8.typeHash.nullable .checked).1 =
        .ok (.scalar ⟨.u8, Num.wrap _ 200⟩) ∧
      (builtin.castValue (.scalar ⟨.u8, Num.wrap _ 200⟩) Kind.u8.typeHash.nullable .unchecked).1 =
        .ok (.scalar ⟨.u8, Num.wrap _ 200⟩) ∧
      Registry.builtin.category Kind.f64.typeHash Kind.f32.typeHash = .narrowing .f64 .f32 ∧
      (builtin.castValue (.scalar ⟨.f64, Binary.ofBits .double 0xfff0000020000001⟩)
        Kind.f32.typeHash .checked).1 =
        .ok (.scalar ⟨.f32, Binary.ofBits .single 0xffc00001⟩) ∧
      (builtin.castValue (.scalar ⟨.f32, Binary.ofBits .single 0xffc00001⟩)
        Kind.f32.typeHash .unchecked).1 =
        .ok (.scalar ⟨.f32, Binary.ofBits .single 0xffc00001⟩) ∧
      Registry.Reachable Registry.sketch ∧ Registry.sketch.PrimitivesInPlace ∧
      Registry.sketch.category ⟨5⟩ ⟨1⟩ = .upcast ⟨1⟩ ∧
      ((ofRegistry Registry.sketch).castValue
          (.object { id := 1, type := ⟨5⟩, payload := .int 0 }) ⟨1⟩ .unchecked).1 =
        .ok (.object { id := 1, type := ⟨5⟩, payload := .int 0 }) ∧
      (((ofRegistry Registry.sketch).after [.isNullable ⟨1⟩]).castValue
          (.object { id := 1, type := ⟨5⟩, payload := .int 0 }) ⟨1⟩ .checked).1 =
        .ok (.object { id := 1, type := ⟨5⟩, payload := .int 0 }) := by
  have hplace : Registry.builtin.PrimitivesInPlace :=
    Registry.primitivesInPlace_of_values (by decide)
  have hnarrow : Registry.builtin.category Kind.i64.typeHash Kind.u8.typeHash.nullable =
      .narrowing .i64 .u8 := by decide
  have hbyte : (builtin.castValue (.scalar ⟨.i64, Num.wrap _ 200⟩) Kind.u8.typeHash.nullable
      .checked).1 = .ok (.scalar ⟨.u8, Num.wrap _ 200⟩) := rfl
  have hfloats : Registry.builtin.category Kind.f64.typeHash Kind.f32.typeHash =
      .narrowing .f64 .f32 := by decide
  have hnan : (builtin.castValue (.scalar ⟨.f64, Binary.ofBits .double 0xfff0000020000001⟩)
      Kind.f32.typeHash .checked).1 =
        .ok (.scalar ⟨.f32, Binary.ofBits .single 0xffc00001⟩) := rfl
  have hplace' : Registry.sketch.PrimitivesInPlace :=
    Registry.primitivesInPlace_of_values (by decide)
  have hup : Registry.sketch.category ⟨5⟩ ⟨1⟩ = .upcast ⟨1⟩ := by decide
  have hshape : ((ofRegistry Registry.sketch).castValue
      (.object { id := 1, type := ⟨5⟩, payload := .int 0 }) ⟨1⟩ .unchecked).1 =
        .ok (.object { id := 1, type := ⟨5⟩, payload := .int 0 }) := rfl
  refine ⟨Registry.reachable_builtin, hplace, hnarrow, hbyte, ?_, hfloats, hnan, ?_,
    Registry.reachable_sketch, hplace', hup, hshape, ?_⟩
  · refine (castValue_castValue Registry.reachable_builtin hplace [] [] ?_ hbyte .unchecked).1
    rintro source ⟨⟩ key checkedVariant hcustom
    cases hnarrow.symm.trans hcustom
  · refine (castValue_castValue Registry.reachable_builtin hplace [] [] ?_ hnan .unchecked).1
    rintro source ⟨⟩ key checkedVariant hcustom
    cases hfloats.symm.trans hcustom
  · refine (castValue_castValue Registry.reachable_sketch hplace' [] [.isNullable ⟨1⟩] ?_ hshape
      .checked).1
    rintro source ⟨⟩ key checkedVariant hcustom
    cases hup.symm.trans hcustom

end Context
end Recast
