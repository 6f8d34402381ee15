import Recast.Proofs.Context.Validity
import Recast.Proofs.Conversion.Existence
import Recast.Proofs.Conversion.Rules

/-!
# Registered — when a registered conversion is consulted

Registrations come last: where a built-in rule applies to two types without their wrappers, no
registration makes a difference.  Elsewhere the conversion registered for the types as they are is
carried out, or else the one for the types without their wrappers.

* `Registry.Related`: where a built-in rule applies;
* `Registry.build_of_related`: there, registrations are not looked at;
* `Registry.registered?`: the registration that is consulted elsewhere;
* `Context.consults_registered`: what this means for a context, whatever it was asked before.
-/

namespace Recast
namespace Registry

variable {r : Registry} {a b source target : TypeHash} {c : RegisteredConversion} {mode : Mode}

/-! ## Where a built-in rule applies -/

/-- Two types are the same, both numeric, an enumeration and a numeric one, or one derives from the
other. -/
def Related (r : Registry) (a b : TypeHash) : Prop :=
  a = b ∨
    ((r.traits a).isNumeric = true ∧ (r.traits b).isNumeric = true) ∨
    ((r.traits a).isEnum = true ∧ (r.traits b).isNumeric = true) ∨
    ((r.traits a).isNumeric = true ∧ (r.traits b).isEnum = true) ∨
    r.isStrictSubtype a b = true ∨ r.isStrictSubtype b a = true

instance (r : Registry) (a b : TypeHash) : Decidable (r.Related a b) :=
  inferInstanceAs (Decidable (_ ∨ _))

theorem isSome_numericCategory?_iff :
    (r.numericCategory? a b).isSome = true ↔
      ((r.traits a).isNumeric = true ∧ (r.traits b).isNumeric = true) ∨
        ((r.traits a).isEnum = true ∧ (r.traits b).isNumeric = true) ∨
        ((r.traits a).isNumeric = true ∧ (r.traits b).isEnum = true) := by
  unfold numericCategory?
  cases ha : r.traits a with
  | primitive x =>
      cases hb : r.traits b <;> cases hx : x.isNumeric <;>
        simp [Traits.isNumeric, Traits.isEnum, Traits.numericKind?, Traits.enumUnderlying?, hx]
  | enum underlying =>
      cases hb : r.traits b <;>
        simp [Traits.isNumeric, Traits.isEnum, Traits.numericKind?, Traits.enumUnderlying?]
  | _ => simp [Traits.isNumeric, Traits.isEnum, Traits.numericKind?, Traits.enumUnderlying?]

/-- The built-in rules apply to the types that are related, and to no others. -/
theorem isSome_builtinCategory?_iff_related :
    (r.builtinCategory? a b).isSome = true ↔ r.Related a b := by
  rw [isSome_builtinCategory?_iff, isSome_numericCategory?_iff]
  simp only [Related, or_assoc]

theorem builtinCategory?_of_not_related (h : ¬ r.Related a b) : r.builtinCategory? a b = none := by
  rw [← isSome_builtinCategory?_iff_related] at h
  simpa using h

/-! ## Other registrations -/

/-- Only the rule for registered conversions looks at what is registered. -/
theorem converter_withConversions (conversions : Table TypePair RegisteredConversion)
    {conversion : Conversion} (hbuiltin : conversion.category.isBuiltin = true) (mode : Mode) :
    { r with conversions := conversions }.converter conversion mode =
      r.converter conversion mode := by
  obtain ⟨source, target, stripped, category, nullable⟩ := conversion
  cases category with
  | custom key checkedVariant => cases hbuiltin
  | _ => rfl

theorem category_withConversions (conversions : Table TypePair RegisteredConversion)
    (h : r.Related (r.strip source) (r.strip target)) :
    { r with conversions := conversions }.category source target = r.category source target := by
  rcases Option.isSome_iff_exists.1 (isSome_builtinCategory?_iff_related.2 h) with ⟨found, hfound⟩
  rw [category_of_builtinCategory? hfound]
  exact category_of_builtinCategory? (r := { r with conversions := conversions }) hfound

/-- Between related types, converters do not depend on what is registered. -/
theorem build_of_related (conversions : Table TypePair RegisteredConversion)
    (h : r.Related (r.strip source) (r.strip target)) (mode : Mode) :
    { r with conversions := conversions }.build source target mode =
      r.build source target mode := by
  have hconversion : { r with conversions := conversions }.conversionBetween source target =
      r.conversionBetween source target :=
    congrArg (fun category => { r.conversionBetween source target with category := category })
      (category_withConversions conversions h)
  have hbuiltin : (r.conversionBetween source target).category.isBuiltin = true :=
    isBuiltin_category_iff.2 (isSome_builtinCategory?_iff_related.2 h)
  unfold build converterBetween
  rw [hconversion, converter_withConversions conversions hbuiltin]

/-! ## The registration that is consulted -/

/-- The conversion registered for two types as they are, or else for them without their wrappers. -/
def registered? (r : Registry) (source target : TypeHash) : Option RegisteredConversion :=
  r.conversion? { source := source, target := target }
    <|> r.conversion? { source := r.strip source, target := r.strip target }

theorem category_of_registered? (h : ¬ r.Related (r.strip source) (r.strip target))
    (hc : r.registered? source target = some c) :
    ∃ key, r.conversion? key = some c ∧
      r.category source target = .custom key c.hasCheckedVariant := by
  unfold registered? at hc
  rw [category_eq, builtinCategory?_of_not_related h]
  -- A registration for the pair as it is shadows the one without wrappers, here as in the rules.
  cases hexact : r.conversion? { source := source, target := target } with
  | some found =>
      rw [hexact] at hc
      cases hc
      exact ⟨_, hexact, by simp [customCategory?, hexact]⟩
  | none =>
      rw [hexact] at hc
      have hlifted : r.conversion? { source := r.strip source, target := r.strip target } =
        some c := hc
      exact ⟨_, hlifted, by simp [customCategory?, hexact, hlifted]⟩

theorem category_of_registered?_eq_none (h : ¬ r.Related (r.strip source) (r.strip target))
    (hnone : r.registered? source target = none) : r.category source target = .invalid := by
  unfold registered? at hnone
  rw [category_eq, builtinCategory?_of_not_related h]
  cases hexact : r.conversion? { source := source, target := target } with
  | some found =>
      rw [hexact] at hnone
      cases hnone
  | none =>
      rw [hexact] at hnone
      have hlifted : r.conversion? { source := r.strip source, target := r.strip target } =
        none := hnone
      simp [customCategory?, hexact, hlifted]

/-- The function registered for the mode is carried out, behind the answer to `null`. -/
theorem converterBetween_of_registered? (h : ¬ r.Related (r.strip source) (r.strip target))
    (hc : r.registered? source target = some c) (mode : Mode) :
    r.converterBetween source target mode =
      .ok (Converter.guardNull (r.traits target).isNullable (r.nameOf target)
        (c.casterFor mode).run) := by
  rcases category_of_registered? h hc with ⟨key, hget, hcategory⟩
  unfold converterBetween converter handler conversionBetween
  simp only [hcategory, hget]
  rfl

theorem dependsOnMode_of_registered? (h : ¬ r.Related (r.strip source) (r.strip target))
    (hc : r.registered? source target = some c) :
    r.dependsOnMode { source := source, target := target } = c.checked.isSome := by
  rcases category_of_registered? h hc with ⟨key, -, hcategory⟩
  exact congrArg Category.dependsOnMode hcategory

/-- The modes of a pair share an entry if there is one function for both. -/
theorem shares_modes_iff (h : ¬ r.Related (r.strip source) (r.strip target))
    (hc : r.registered? source target = some c) {mode mode' : Mode} (hmode : mode ≠ mode') :
    r.Shares { key := { source := source, target := target }, mode := mode }
        { key := { source := source, target := target }, mode := mode' } ↔
      c.checked = none := by
  simp [Shares, hmode, dependsOnMode_of_registered? h hc]

end Registry

namespace Context

variable {r : Registry} {c : Context} {source target : TypeHash}
  {registered : RegisteredConversion}

/-! ## Casters of registered conversions -/

theorem Faithful.exists_caster_of_registered? (hc : c.Faithful r)
    (h : ¬ r.Related (r.strip source) (r.strip target))
    (hregistered : r.registered? source target = some registered) (mode : Mode) :
    ∃ kept, (c.caster source target mode).1 = .ok kept ∧
      ∀ v, v ≠ .null → kept.run v = (registered.casterFor mode).run v := by
  have hbuilt := Registry.converterBetween_of_registered? h hregistered mode
  have hvalid := (Registry.exists_converterBetween_iff mode).1 ⟨_, hbuilt⟩
  rcases hc.exists_caster_iff.2 hvalid with ⟨kept, hkept⟩
  refine ⟨kept, hkept, ?_⟩
  intro v hv
  have hrun := (hc.converterBetween_eq hkept).symm.trans hbuilt
  rw [Except.ok.inj hrun]
  exact Converter.guardNull_of_ne_null hv

/-- Where there is an entry for one mode, that for the other mode is the same if there is one
function for both, and a different one or none otherwise. -/
theorem Faithful.get?_modes_iff (hc : c.Faithful r)
    (h : ¬ r.Related (r.strip source) (r.strip target))
    (hregistered : r.registered? source target = some registered) {mode : Mode} {kept : Caster}
    (hkept : c.cache.get? { source := source, target := target } mode = some kept) :
    c.cache.get? { source := source, target := target } .unchecked =
        c.cache.get? { source := source, target := target } .checked ↔
      registered.checked = none := by
  let q : Mode → CasterRequest := fun mode =>
    { key := { source := source, target := target }, mode := mode }
  have hfound : c.cache.find? (q mode) = some kept := hkept
  have hentry : ∀ mode', mode ≠ mode' →
      (c.cache.find? (q mode) = c.cache.find? (q mode') ↔ registered.checked = none) := by
    intro mode' hmode
    exact (hc.casters.find?_eq_iff hfound).trans (Registry.shares_modes_iff h hregistered hmode)
  -- The entry that is there may be that of either mode.
  cases mode with
  | unchecked => exact hentry .checked (by decide)
  | checked => exact eq_comm.trans (hentry .unchecked (by decide))

theorem exists_get?_after_caster (r : Registry) (os os' : List Operation)
    {source target : TypeHash} (hvalid : r.isConvertible source target = true) (mode : Mode) :
    ∃ kept, ((ofRegistry r).after (os ++ .caster source target mode :: os')).cache.get?
      { source := source, target := target } mode = some kept := by
  have hbefore := (faithful_ofRegistry r).after os
  rcases hbefore.exists_caster_iff.2 hvalid with ⟨kept, hkept⟩
  refine ⟨kept, ?_⟩
  have hsplit : (ofRegistry r).after (os ++ .caster source target mode :: os') =
      (((ofRegistry r).after os).caster source target mode).2.after os' := List.foldl_append
  rw [hsplit]
  -- The request itself made the entry, and nothing asked afterwards removes it.
  exact (hbefore.caster_eq source target mode).2.find?_after (hbefore.find?_caster_self hkept) os'

/-- Where a built-in rule applies to two types without their wrappers, the caster between them does
not depend on what is registered.  Elsewhere the conversion registered for the types as they are is
consulted, or else the one for the types without their wrappers.  On every value but `null` the
caster answers what the function registered for its mode answers; and once it was asked for, both
modes have one entry exactly if no function is registered for checked casts alone.  Where none is
registered, there is no conversion. -/
theorem consults_registered (r : Registry) (source target : TypeHash) :
    (r.Related (r.strip source) (r.strip target) →
        ∀ conversions os os' mode,
          (((ofRegistry { r with conversions := conversions }).after os').caster source target
              mode).1.map Caster.run =
            (((ofRegistry r).after os).caster source target mode).1.map Caster.run) ∧
      (¬ r.Related (r.strip source) (r.strip target) →
        ∀ registered, r.registered? source target = some registered →
          (∀ os mode, ∃ kept, (((ofRegistry r).after os).caster source target mode).1 = .ok kept ∧
            ∀ v, v ≠ .null →
              kept.run v =
                if mode = .checked then (registered.checked.getD registered.unchecked).run v
                else registered.unchecked.run v) ∧
          ∀ os os' mode,
            (∃ kept, ((ofRegistry r).after (os ++ .caster source target mode :: os')).cache.get?
                { source := source, target := target } mode = some kept) ∧
              (((ofRegistry r).after (os ++ .caster source target mode :: os')).cache.get?
                    { source := source, target := target } .unchecked =
                  ((ofRegistry r).after (os ++ .caster source target mode :: os')).cache.get?
                    { source := source, target := target } .checked ↔
                registered.checked = none)) ∧
      (¬ r.Related (r.strip source) (r.strip target) → r.registered? source target = none →
        r.category source target = .invalid ∧
          ∀ os mode, (((ofRegistry r).after os).caster source target mode).1 =
            .error (r.noConversion source target)) := by
  refine ⟨?_, ?_, ?_⟩
  · intro hrelated conversions os os' mode
    have hother := (faithful_ofRegistry { r with conversions := conversions }).after os'
    have hown := (faithful_ofRegistry r).after os
    calc
      _ = { r with conversions := conversions }.build source target mode :=
        (hother.caster_eq source target mode).1
      _ = r.build source target mode := Registry.build_of_related conversions hrelated mode
      _ = _ := (hown.caster_eq source target mode).1.symm
  · intro hunrelated registered hregistered
    refine ⟨?_, ?_⟩
    · intro os mode
      rcases ((faithful_ofRegistry r).after os).exists_caster_of_registered? hunrelated hregistered
        mode with ⟨kept, hkept, hrun⟩
      refine ⟨kept, hkept, ?_⟩
      intro v hv
      rw [hrun v hv]
      cases mode with
      | unchecked => rfl
      | checked => rfl
    · intro os os' mode
      have hbuilt := Registry.converterBetween_of_registered? hunrelated hregistered mode
      have hvalid := (Registry.exists_converterBetween_iff mode).1 ⟨_, hbuilt⟩
      rcases exists_get?_after_caster r os os' hvalid mode with ⟨kept, hkept⟩
      exact ⟨⟨kept, hkept⟩,
        ((faithful_ofRegistry r).after _).get?_modes_iff hunrelated hregistered hkept⟩
  · intro hunrelated hnone
    have hinvalid := Registry.category_of_registered?_eq_none hunrelated hnone
    refine ⟨hinvalid, ?_⟩
    intro os mode
    exact ((faithful_ofRegistry r).after os).caster_of_not_isConvertible
      (congrArg Category.isValid hinvalid)

/-- The primitives, with two functions for `bool` to `i32`, and one for `bool?` to `i32`. -/
def boolConversions : Registry :=
  (Registry.builtin.withConversion ⟨Kind.bool.typeHash, Kind.i32.typeHash⟩
      (fun _ => .ok (.scalar ⟨.i32, Num.wrap _ 1⟩))
      (some fun _ => .ok (.scalar ⟨.i32, Num.wrap _ 2⟩))).withConversion
    ⟨Kind.bool.typeHash.nullable, Kind.i32.typeHash⟩
    (fun _ => .ok (.scalar ⟨.i32, Num.wrap _ 3⟩)) none

/-- From `i32` to `u8` nothing has changed.  From `bool` to `i32?` as from `bool` to `i32`, in two
modes; from `bool?` to `i32` by its own registration, in one.  From `bool` to `f64` there is no
conversion. -/
theorem consults_registered_bool :
    (boolConversions.Related (boolConversions.strip Kind.i32.typeHash)
          (boolConversions.strip Kind.u8.typeHash) ∧
        ((ofRegistry { boolConversions with conversions := Table.empty }).caster
            Kind.i32.typeHash Kind.u8.typeHash .checked).1.map Caster.run =
          ((ofRegistry boolConversions).caster Kind.i32.typeHash Kind.u8.typeHash .checked).1.map
            Caster.run) ∧
      (∃ kept, ((ofRegistry boolConversions).caster Kind.bool.typeHash
            Kind.i32.typeHash.nullable .checked).1 = .ok kept ∧
          kept.run (.scalar ⟨.bool, true⟩) = .ok (.scalar ⟨.i32, Num.wrap _ 2⟩)) ∧
      (∃ kept, ((ofRegistry boolConversions).caster Kind.bool.typeHash.nullable
            Kind.i32.typeHash .checked).1 = .ok kept ∧
          kept.run (.scalar ⟨.bool, true⟩) = .ok (.scalar ⟨.i32, Num.wrap _ 3⟩)) ∧
      ((ofRegistry boolConversions).after
          [.caster Kind.bool.typeHash.nullable Kind.i32.typeHash .checked]).cache.get?
            ⟨Kind.bool.typeHash.nullable, Kind.i32.typeHash⟩ .unchecked =
        ((ofRegistry boolConversions).after
          [.caster Kind.bool.typeHash.nullable Kind.i32.typeHash .checked]).cache.get?
            ⟨Kind.bool.typeHash.nullable, Kind.i32.typeHash⟩ .checked ∧
      boolConversions.category Kind.bool.typeHash Kind.f64.typeHash = .invalid := by
  have hrelated : boolConversions.Related (boolConversions.strip Kind.i32.typeHash)
      (boolConversions.strip Kind.u8.typeHash) := by decide
  refine ⟨⟨hrelated, ?_⟩, ?_, ?_, ?_, ?_⟩
  · exact (consults_registered boolConversions Kind.i32.typeHash Kind.u8.typeHash).1 hrelated
      Table.empty [] [] .checked
  · have hcustom := (consults_registered boolConversions Kind.bool.typeHash
      Kind.i32.typeHash.nullable).2.1 (by decide) _ rfl
    rcases hcustom.1 [] .checked with ⟨kept, hkept, hrun⟩
    exact ⟨kept, hkept, (hrun _ (by simp)).trans rfl⟩
  · have hcustom := (consults_registered boolConversions Kind.bool.typeHash.nullable
      Kind.i32.typeHash).2.1 (by decide) _ rfl
    rcases hcustom.1 [] .checked with ⟨kept, hkept, hrun⟩
    exact ⟨kept, hkept, (hrun _ (by simp)).trans rfl⟩
  · have hcustom := (consults_registered boolConversions Kind.bool.typeHash.nullable
      Kind.i32.typeHash).2.1 (by decide) _ rfl
    exact (hcustom.2 [] [] .checked).2.2 rfl
  · exact ((consults_registered boolConversions Kind.bool.typeHash Kind.f64.typeHash).2.2
      (by decide) rfl).1

end Context
end Recast
