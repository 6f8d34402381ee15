import Recast.Proofs.Conversion.Existence
import Recast.Proofs.Conversion.Converters

/-!
# Lifting — conversions between types with wrappers

A conversion between two types is that between the types without their wrappers, on every value that
there is.  Only a conversion that is registered for the wrapped types themselves can make a
difference, and only where no built-in rule applies.

Two answers are `Alike` if they are the same value, or refusals for the same reason.  The texts of
two refusals may differ, since they name the types as they were asked for.

* `Registry.handler_alike`: converters of the same category from the same type answer alike;
* `Registry.category_lift`, `Registry.category_of_conversion?`: how categories are lifted;
* `Registry.conversion_lift`: both together.
-/

namespace Recast

/-! ## Answers -/

/-- Why a cast is refused, without the types and values it is about. -/
inductive RefusalReason where
  | invalidCast
  | overflow
  | nullNotAllowed
  deriving DecidableEq

def CastError.reason : CastError → RefusalReason
  | .invalidCast _ _ => .invalidCast
  | .overflow _ _ => .overflow
  | .nullNotAllowed _ => .nullNotAllowed

theorem CastError.reason_retarget (targetName : String) (e : CastError) :
    (e.retarget targetName).reason = e.reason := by
  cases e <;> rfl

/-- The same value, or refusals for the same reason. -/
inductive Alike {α : Type} : Except CastError α → Except CastError α → Prop where
  | value (y : α) : Alike (.ok y) (.ok y)
  | refusal {e e' : CastError} : e.reason = e'.reason → Alike (.error e) (.error e')

theorem Alike.refl {α : Type} (answer : Except CastError α) : Alike answer answer := by
  cases answer with
  | ok y => exact .value y
  | error e => exact .refusal rfl

/-! ## Converters that name another type -/

theorem Converter.numericToEnum_alike {mode : Mode} {source : Kind} {enum : TypeHash}
    {underlying : Kind} (targetName targetName' : String) (v : Value) :
    Alike (numericToEnum mode source enum underlying targetName v)
      (numericToEnum mode source enum underlying targetName' v) := by
  cases v with
  | scalar x =>
      by_cases hx : x.kind = source
      · simp only [numericToEnum, if_pos hx]
        cases x.convert mode underlying with
        | ok raw => exact .value _
        | error e =>
            apply Alike.refusal
            rw [e.reason_retarget targetName, e.reason_retarget targetName']
      · simp only [numericToEnum, if_neg hx]
        exact .refusal rfl
  | _ => exact .refusal rfl

namespace Registry

variable {r : Registry} {source target type : TypeHash} {c c' : Conversion} {mode : Mode}

theorem instanceConverter_alike (targetName targetName' : String) (v : Value) :
    Alike (r.instanceConverter type targetName v) (r.instanceConverter type targetName' v) := by
  rw [instanceConverter_eq, instanceConverter_eq]
  split
  · exact .value v
  · exact .refusal rfl

theorem objectConverter_alike (targetName targetName' : String) (v : Value) :
    Alike (r.objectConverter type targetName v) (r.objectConverter type targetName' v) := by
  rw [objectConverter_eq, objectConverter_eq]
  split
  · exact .value v
  · exact .refusal rfl

/-- Conversions of the same category from the same type without its wrapper are carried out
alike. -/
theorem handler_alike (hcategory : c.category = c'.category) (hstripped : c.stripped = c'.stripped)
    {run : Converter} (hrun : r.handler c mode = .ok run) :
    ∃ run', r.handler c' mode = .ok run' ∧ ∀ v, Alike (run v) (run' v) := by
  obtain ⟨source, target, stripped, category, nullable⟩ := c
  obtain ⟨source', target', stripped', category', nullable'⟩ := c'
  cases hcategory
  cases hstripped
  cases category with
  | identity =>
      cases hrun
      exact ⟨_, rfl, instanceConverter_alike _ _⟩
  | widening a b =>
      cases hrun
      exact ⟨_, rfl, fun v => .refl _⟩
  | narrowing a b =>
      cases hrun
      exact ⟨_, rfl, fun v => .refl _⟩
  | enumToNumeric enum underlying b =>
      cases hrun
      exact ⟨_, rfl, fun v => .refl _⟩
  | numericToEnum a enum underlying =>
      cases hrun
      exact ⟨_, rfl, Converter.numericToEnum_alike _ _⟩
  | upcast b =>
      cases hrun
      exact ⟨_, rfl, objectConverter_alike _ _⟩
  | downcast b =>
      cases hrun
      exact ⟨_, rfl, objectConverter_alike _ _⟩
  | custom key checkedVariant =>
      -- The registered function does not learn which types were asked for.
      exact ⟨run, hrun, fun v => .refl _⟩
  | invalid =>
      cases hrun

theorem converter_alike (hcategory : c.category = c'.category)
    (hstripped : c.stripped = c'.stripped) {run : Converter} (hrun : r.converter c mode = .ok run) :
    ∃ run', r.converter c' mode = .ok run' ∧ ∀ v, v ≠ .null → Alike (run v) (run' v) := by
  unfold converter at hrun ⊢
  cases hhandler : r.handler c mode with
  | error e =>
      rw [hhandler] at hrun
      cases hrun
  | ok inner =>
      rw [hhandler] at hrun
      cases hrun
      rcases handler_alike hcategory hstripped hhandler with ⟨inner', hhandler', halike⟩
      rw [hhandler']
      refine ⟨_, rfl, ?_⟩
      intro v hv
      rw [Converter.guardNull_of_ne_null hv, Converter.guardNull_of_ne_null hv]
      exact halike v

/-! ## Categories -/

/-- What is registered for the types as they are is the conversion between them, where no built-in
rule applies to the types without their wrappers. -/
theorem category_of_conversion? {registered : RegisteredConversion} (hr : r.WellFormed)
    (hget : r.conversion? { source := source, target := target } = some registered)
    (hplain : (r.category (r.strip source) (r.strip target)).isBuiltin = false) :
    r.category source target =
      .custom { source := source, target := target } registered.hasCheckedVariant := by
  have hnone : r.builtinCategory? (r.strip source) (r.strip target) = none := by
    rw [isBuiltin_category_eq_false_iff, hr.strip_strip, hr.strip_strip] at hplain
    exact hplain
  rw [category_eq, hnone]
  simp [customCategory?, hget]

/-- In all other cases it is the conversion between the types without their wrappers. -/
theorem category_lift (hr : r.WellFormed)
    (hlift : r.conversion? { source := source, target := target } = none ∨
      (r.category (r.strip source) (r.strip target)).isBuiltin = true) :
    r.category source target = r.category (r.strip source) (r.strip target) := by
  rw [isBuiltin_category_iff, hr.strip_strip, hr.strip_strip] at hlift
  rw [category_eq r source, category_eq r (r.strip source), hr.strip_strip, hr.strip_strip]
  cases hbuiltin : r.builtinCategory? (r.strip source) (r.strip target) with
  | some found => rfl
  | none =>
      rcases hlift with hfree | hsome
      · have hexact : r.customCategory? { source := source, target := target } = none := by
          simp [customCategory?, hfree]
        rw [hexact]
        cases r.customCategory? { source := r.strip source, target := r.strip target } <;> rfl
      · rw [hbuiltin] at hsome
        cases hsome

/-- Types without their wrappers have none left.  The conversion between two types starts from the
source without its wrapper.  Its category is that between the types without their wrappers, unless
this one needs a registration and there is one for the types as they are: then it is that one.
Conversions of the same category answer alike on all values but `null`. -/
theorem conversion_lift (hr : Reachable r) (source target : TypeHash) :
    ((r.traits (r.strip source)).nullableInner? = none ∧
        (r.traits (r.strip target)).nullableInner? = none) ∧
      (r.conversionBetween source target).stripped = r.strip source ∧
      (∀ registered, r.conversion? { source := source, target := target } = some registered →
        (r.category (r.strip source) (r.strip target)).isBuiltin = false →
        r.category source target =
          .custom { source := source, target := target } registered.hasCheckedVariant) ∧
      (r.conversion? { source := source, target := target } = none ∨
          (r.category (r.strip source) (r.strip target)).isBuiltin = true →
        r.category source target = r.category (r.strip source) (r.strip target)) ∧
      (r.category source target = r.category (r.strip source) (r.strip target) →
        r.isConvertible source target = true →
        ∀ mode, ∃ run run', r.converterBetween source target mode = .ok run ∧
          r.converterBetween (r.strip source) (r.strip target) mode = .ok run' ∧
          ∀ v, v ≠ .null → Alike (run v) (run' v)) := by
  have hwell := hr.wellFormed
  refine ⟨⟨hwell.nullableInner?_traits_strip source, hwell.nullableInner?_traits_strip target⟩,
    rfl, ?_, category_lift hwell, ?_⟩
  · intro registered hget hplain
    exact category_of_conversion? hwell hget hplain
  · intro hcategory hvalid mode
    rcases (exists_converterBetween_iff mode).2 hvalid with ⟨run, hrun⟩
    have hstripped : (r.conversionBetween source target).stripped =
        (r.conversionBetween (r.strip source) (r.strip target)).stripped :=
      (hwell.strip_strip source).symm
    rcases converter_alike hcategory hstripped hrun with ⟨run', hrun', halike⟩
    exact ⟨run, run', hrun, hrun', halike⟩

/-- The primitives, and a conversion registered for `bool?` to `i32`. -/
def wrapperConversion : Registry :=
  builtin.withConversion ⟨Kind.bool.typeHash.nullable, Kind.i32.typeHash⟩ .ok none

/-- From `i32?` to `u8?` as from `i32` to `u8`; from `bool?` to `i32` by registration, although there
is no conversion from `bool` to `i32`. -/
theorem conversion_lift_optional :
    Reachable wrapperConversion ∧
      (wrapperConversion.strip Kind.i32.typeHash.nullable = Kind.i32.typeHash ∧
        wrapperConversion.strip Kind.u8.typeHash.nullable = Kind.u8.typeHash ∧
        ∃ run run', wrapperConversion.converterBetween Kind.i32.typeHash.nullable
            Kind.u8.typeHash.nullable .checked = .ok run ∧
          wrapperConversion.converterBetween Kind.i32.typeHash Kind.u8.typeHash .checked =
            .ok run' ∧
          Alike (run (.scalar ⟨.i32, Num.wrap _ 2000⟩)) (run' (.scalar ⟨.i32, Num.wrap _ 2000⟩))) ∧
      wrapperConversion.category Kind.bool.typeHash Kind.i32.typeHash = .invalid ∧
      wrapperConversion.category Kind.bool.typeHash.nullable Kind.i32.typeHash =
        .custom ⟨Kind.bool.typeHash.nullable, Kind.i32.typeHash⟩ false := by
  have hr : Reachable wrapperConversion := reachable_builtin.of_leads
    (Leads.refl.withConversion .ok none (by decide) (by decide) rfl)
  have hsource : wrapperConversion.strip Kind.i32.typeHash.nullable = Kind.i32.typeHash := by decide
  have htarget : wrapperConversion.strip Kind.u8.typeHash.nullable = Kind.u8.typeHash := by decide
  refine ⟨hr, ⟨hsource, htarget, ?_⟩, by decide, ?_⟩
  · rcases conversion_lift hr Kind.i32.typeHash.nullable Kind.u8.typeHash.nullable with
      ⟨-, -, -, hcategory, hruns⟩
    rcases hruns (hcategory (Or.inl rfl)) (by decide) .checked with ⟨run, run', hrun, hrun', halike⟩
    rw [hsource, htarget] at hrun'
    exact ⟨run, run', hrun, hrun', halike _ (by simp)⟩
  · rcases conversion_lift hr Kind.bool.typeHash.nullable Kind.i32.typeHash with ⟨-, -, hexact, -⟩
    exact hexact _ rfl (by decide)

end Registry
end Recast
