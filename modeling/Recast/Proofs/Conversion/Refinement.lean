import Recast.Proofs.Conversion.Rules
import Recast.Proofs.Registry.Growth
import Recast.Proofs.Scalar.Number

/-!
# Refinement — what a check changes

The checked answer of a cast refines the unchecked one (`Refines`): it is the same and no overflow,
or it is an overflow where the unchecked cast has a value.

* `Scalar.convertChecked_refines`: so it is between kinds;
* `Registry.Carries.refines`: hence under every rule of casting that needs no registration;
* `Registry.checked_refines_unchecked`: hence between any two types.
-/

namespace Recast

variable {α β : Type}

/-! ## Answers -/

def CastError.isOverflow : CastError → Bool
  | .overflow _ _ => true
  | _ => false

/-- A checked answer, and the unchecked one that it may stand beside. -/
inductive Refines : Except CastError α → Except CastError α → Prop where
  | value (y : α) : Refines (.ok y) (.ok y)
  | refusal {e : CastError} : e.isOverflow = false → Refines (.error e) (.error e)
  | overflow (value target : String) (y : α) : Refines (.error (.overflow value target)) (.ok y)

namespace Refines

variable {checked unchecked : Except CastError α} {y : α} {e : CastError}

theorem ok_of_ok (h : Refines checked unchecked) (hok : checked = .ok y) : unchecked = .ok y := by
  cases h with
  | value y => exact hok
  | refusal _ => cases hok
  | overflow _ _ _ => cases hok

theorem error_of_error (h : Refines checked unchecked) (herror : unchecked = .error e) :
    checked = .error e ∧ e.isOverflow = false := by
  cases h with
  | value y => cases herror
  | refusal hrefusal =>
      cases herror
      exact ⟨rfl, hrefusal⟩
  | overflow _ _ _ => cases herror

theorem isOverflow (h : Refines checked unchecked) (hok : unchecked = .ok y)
    (herror : checked = .error e) : e.isOverflow = true := by
  cases h with
  | value y => cases herror
  | refusal _ => cases hok
  | overflow _ _ _ =>
      cases herror
      rfl

/-- What may stand beside a checked answer may stand alone in both modes. -/
theorem unchecked_self (h : Refines checked unchecked) : Refines unchecked unchecked := by
  cases h with
  | value y => exact .value y
  | refusal hrefusal => exact .refusal hrefusal
  | overflow _ _ y => exact .value y

theorem map (f : α → β) (h : Refines checked unchecked) :
    Refines (checked.map f) (unchecked.map f) := by
  cases h with
  | value y => exact .value (f y)
  | refusal hrefusal => exact .refusal hrefusal
  | overflow value target y => exact .overflow value target (f y)

theorem retarget (targetName : String) (h : Refines checked unchecked) :
    Refines (checked.mapError (CastError.retarget targetName))
      (unchecked.mapError (CastError.retarget targetName)) := by
  cases h with
  | value y => exact .value y
  | overflow value target y => exact .overflow value targetName y
  | @refusal e hrefusal =>
      cases e with
      | overflow value target => cases hrefusal
      | invalidCast source target => exact .refusal rfl
      | nullNotAllowed target => exact .refusal rfl

end Refines

/-! ## Between numeric kinds -/

namespace Scalar

variable {x : Scalar} {target : Kind}

theorem convertChecked_refines_of_isNumeric (hx : x.kind.isNumeric = true)
    (htarget : target.isNumeric = true) :
    Refines (x.convertChecked target) (x.convertUnchecked target) := by
  rcases exists_convertUnchecked hx htarget with ⟨y, hy⟩
  rcases convertChecked_eq_or_outOfRange x target with hsame | hrange
  · rw [hsame, hy]
    exact .value y
  · rw [hrange, hy]
    exact .overflow _ _ y

/-- A check makes an overflow of what it finds out of range, and changes nothing else. -/
theorem convertChecked_refines (x : Scalar) (target : Kind) :
    Refines (x.convertChecked target) (x.convertUnchecked target) := by
  obtain ⟨source, val⟩ := x
  cases source with
  | bool => exact .refusal rfl
  | int a =>
      cases target with
      | bool => exact .refusal rfl
      | _ => exact convertChecked_refines_of_isNumeric rfl rfl
  | float f =>
      cases target with
      | bool => exact .refusal rfl
      | _ => exact convertChecked_refines_of_isNumeric rfl rfl

end Scalar

/-! ## Converters -/

namespace Converter

variable {source target underlying : Kind} {enum : TypeHash} {targetName : String} {v : Value}

theorem numeric_refines :
    Refines (numeric .checked source target v) (numeric .unchecked source target v) := by
  rcases numeric_cases source target v with ⟨x, -, -, hanswer⟩ | ⟨-, hrefused⟩
  · rw [hanswer .checked, hanswer .unchecked]
    exact (x.convertChecked_refines target).map _
  · rw [hrefused .checked, hrefused .unchecked]
    exact .refusal rfl

theorem enumToNumeric_refines :
    Refines (enumToNumeric .checked enum underlying target v)
      (enumToNumeric .unchecked enum underlying target v) := by
  rcases enumToNumeric_cases enum underlying target v with ⟨e, -, -, -, hanswer⟩ | ⟨-, hrefused⟩
  · rw [hanswer .checked, hanswer .unchecked]
    exact (e.raw.convertChecked_refines target).map _
  · rw [hrefused .checked, hrefused .unchecked]
    exact .refusal rfl

theorem numericToEnum_refines :
    Refines (numericToEnum .checked source enum underlying targetName v)
      (numericToEnum .unchecked source enum underlying targetName v) := by
  rcases numericToEnum_cases source enum underlying targetName v with
    ⟨x, -, -, hanswer⟩ | ⟨-, hrefused⟩
  · rw [hanswer .checked, hanswer .unchecked]
    exact ((x.convertChecked_refines underlying).map _).retarget targetName
  · rw [hrefused .checked, hrefused .unchecked]
    exact .refusal rfl

theorem guardNull_refines {targetNullable : Bool} {runs : Mode → Converter}
    (h : ∀ v, Refines (runs .checked v) (runs .unchecked v)) (v : Value) :
    Refines (guardNull targetNullable targetName (runs .checked) v)
      (guardNull targetNullable targetName (runs .unchecked) v) := by
  cases v with
  | null =>
      cases targetNullable with
      | true => exact .value _
      | false => exact .refusal rfl
  | _ => exact h _

end Converter

namespace Registry

variable {r : Registry} {source target type : TypeHash} {targetName : String} {v : Value}

theorem instanceConverter_refines :
    Refines (r.instanceConverter type targetName v) (r.instanceConverter type targetName v) := by
  rw [instanceConverter_eq]
  split
  · exact .value _
  · exact .refusal rfl

theorem objectConverter_refines :
    Refines (r.objectConverter type targetName v) (r.objectConverter type targetName v) := by
  rw [objectConverter_eq]
  split
  · exact .value _
  · exact .refusal rfl

/-! ## Rules -/

theorem Carries.refines {category : Category} {run : Mode → Converter}
    (hrule : r.Carries source target category run) (hbuiltin : category.isBuiltin = true)
    (v : Value) : Refines (run .checked v) (run .unchecked v) := by
  cases hrule with
  | identity _ => exact instanceConverter_refines
  -- Both modes share the unchecked converter.
  | widening _ _ _ => exact Converter.numeric_refines.unchecked_self
  | narrowing _ _ _ => exact Converter.numeric_refines
  | enumToNumeric _ _ => exact Converter.enumToNumeric_refines
  | numericToEnum _ _ => exact Converter.numericToEnum_refines
  | upcast _ => exact objectConverter_refines
  | downcast _ => exact objectConverter_refines
  | custom _ => cases hbuiltin

/-! ## Checked and unchecked casts -/

/-- Between two types with a conversion there are converters in both modes.  Where the mode does not
matter they answer alike.  Where no registration is needed, the checked answer is the unchecked one,
or an overflow in place of a value; and overflows come from checks alone, never from widening. -/
theorem checked_refines_unchecked (hvalid : r.isConvertible source target = true) :
    ∃ run : Mode → Converter,
      (∀ mode, r.converterBetween source target mode = .ok (run mode)) ∧
      ((r.conversionBetween source target).dependsOnMode = false →
        ∀ v, run .checked v = run .unchecked v) ∧
      ((r.conversionBetween source target).category.isBuiltin = true →
        (∀ v y, run .checked v = .ok y → run .unchecked v = .ok y) ∧
        (∀ v e, run .unchecked v = .error e → run .checked v = .error e) ∧
        (∀ v y e, run .unchecked v = .ok y → run .checked v = .error e → e.isOverflow = true) ∧
        ∀ v e, run .unchecked v = .error e → e.isOverflow = false) ∧
      ∀ a b, (r.conversionBetween source target).category = .widening a b →
        ∀ mode v e, run mode v = .error e → e.isOverflow = false := by
  rcases exists_converters hvalid with ⟨handlers, hrule, hrun⟩
  let run : Mode → Converter := fun mode =>
    Converter.guardNull (r.traits target).isNullable (r.nameOf target) (handlers mode)
  have hsame (hmode : (r.conversionBetween source target).dependsOnMode = false)
      (mode mode' : Mode) : run mode = run mode' := by
    have hboth := converterBetween_of_not_dependsOnMode hmode mode mode'
    rw [hrun mode, hrun mode'] at hboth
    exact Except.ok.inj hboth
  have hrefines (hbuiltin : (r.conversionBetween source target).category.isBuiltin = true)
      (v : Value) : Refines (run .checked v) (run .unchecked v) :=
    Converter.guardNull_refines (hrule.refines hbuiltin) v
  refine ⟨run, hrun, ?_, ?_, ?_⟩
  · intro hmode v
    exact congrFun (hsame hmode .checked .unchecked) v
  · intro hbuiltin
    refine ⟨?_, ?_, ?_, ?_⟩
    · intro v y hok
      exact (hrefines hbuiltin v).ok_of_ok hok
    · intro v e herror
      exact ((hrefines hbuiltin v).error_of_error herror).1
    · intro v y e hok herror
      exact (hrefines hbuiltin v).isOverflow hok herror
    · intro v e herror
      exact ((hrefines hbuiltin v).error_of_error herror).2
  · intro a b hwidening mode v e herror
    have hmode : (r.conversionBetween source target).dependsOnMode = false :=
      congrArg Category.dependsOnMode hwidening
    have hbuiltin : (r.conversionBetween source target).category.isBuiltin = true :=
      congrArg Category.isBuiltin hwidening
    rw [hsame hmode mode .unchecked] at herror
    exact ((hrefines hbuiltin v).error_of_error herror).2

/-- From `i32` to `u8`, 2000 wraps to 208 without a check, and overflows with one. -/
theorem checked_refines_unchecked_narrowing :
    builtin.isConvertible Kind.i32.typeHash Kind.u8.typeHash = true ∧
      ∃ run : Mode → Converter,
        (∀ mode, builtin.converterBetween Kind.i32.typeHash Kind.u8.typeHash mode =
          .ok (run mode)) ∧
        run .unchecked (.scalar ⟨.i32, Num.wrap _ 2000⟩) =
          .ok (.scalar ⟨.u8, Num.wrap _ 208⟩) ∧
        ∃ e, run .checked (.scalar ⟨.i32, Num.wrap _ 2000⟩) = .error e ∧ e.isOverflow = true := by
  have hvalid : builtin.isConvertible Kind.i32.typeHash Kind.u8.typeHash = true := by decide
  rcases checked_refines_unchecked hvalid with ⟨run, hrun, -, hbuiltin, -⟩
  rcases hbuiltin (by decide) with ⟨hok, -, hoverflow, -⟩
  have hunchecked : (builtin.converterBetween Kind.i32.typeHash Kind.u8.typeHash .unchecked).map
      (fun run => run (.scalar ⟨.i32, Num.wrap _ 2000⟩)) =
        .ok (.ok (.scalar ⟨.u8, Num.wrap _ 208⟩)) := rfl
  have hchecked : (builtin.converterBetween Kind.i32.typeHash Kind.u8.typeHash .checked).map
      (fun run => run (.scalar ⟨.i32, Num.wrap _ 2000⟩)) =
        .ok (.error (.overflow "2000" "u8")) := rfl
  rw [hrun] at hunchecked hchecked
  have hvalue := Except.ok.inj hunchecked
  have herror := Except.ok.inj hchecked
  exact ⟨hvalid, run, hrun, hvalue, _, herror, hoverflow _ _ _ hvalue herror⟩

end Registry
end Recast
