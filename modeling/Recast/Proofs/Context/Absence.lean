import Recast.Proofs.Context.Validity
import Recast.Proofs.Conversion.Conservation
import Recast.Proofs.Conversion.Rules
import Recast.Proofs.Registry.Description

/-!
# Absence — what becomes of `null`

Two paths answer `null`.  A caster has the answer built in, from what was known of the target when
it was made.  A cast of a value by its run-time type asks whether the target has absence, since
`null` has no run-time type.  They answer alike, and neither asks the function that is registered
for the pair: registries whose functions differ on `null` only (`Registry.AgreeOffNull`) cannot be
told apart.

* `Registry.admitsNull_iff`: which types have absence;
* `Registry.build_null`: the answer of a caster is that of the cast of a value;
* `Registry.AgreeOffNull.outcome_eq`: what registered functions do to `null` changes no answer;
* `Context.null_policy`: all of this, whatever a context was asked before.
-/

namespace Recast

namespace Registry

variable {r : Registry} {source target h : TypeHash}

/-! ## Types with absence -/

/-- A type has absence if its hash is not that of a kind, and if it is not declared, or else
declared as a class held by reference, an interface or a wrapper. -/
def AdmitsNull (r : Registry) (h : TypeHash) : Prop :=
  (∀ k : Kind, h ≠ k.typeHash) ∧
    (r.get? h = none ∨ ∃ e, r.get? h = some e ∧
      ((e.isClass = true ∧ e.semantics = .reference) ∨ e.isInterface = true ∨ e.isNullable = true))

theorem admitsNull_iff : r.AdmitsNull h ↔ (r.traits h).isNullable = true := by
  unfold AdmitsNull
  cases hkind : Kind.ofHash? h with
  | some k =>
      cases Kind.ofHash?_eq_some_iff.1 hkind
      rw [traits_typeHash]
      refine iff_of_false ?_ Bool.false_ne_true
      rintro ⟨hplain, -⟩
      exact hplain k rfl
  | none =>
      have hplain : ∀ k : Kind, h ≠ k.typeHash := by
        rintro k rfl
        cases hkind.symm.trans (Kind.ofHash?_typeHash k)
      cases hget : r.get? h with
      | none =>
          rw [traits_of_get?_eq_none hkind hget]
          exact iff_of_true ⟨hplain, Or.inl rfl⟩ rfl
      | some e =>
          rw [traits_of_get?_eq_some hkind hget, (Traits.describes_ofDecl e).isNullable_iff]
          simp [hplain]

/-! ## One answer on both paths -/

theorem build_null (hvalid : r.isConvertible source target = true) (mode : Mode) :
    ((r.build source target mode).bind fun run => run .null) =
      r.outcome (.castValue .null target mode) := by
  rcases exists_converters hvalid with ⟨run, -, hrun⟩
  unfold build
  rw [hrun mode]
  rfl

end Registry

/-! ## Functions that differ on `null` only -/

/-- Registered conversions of which both or neither has a variant for checked casts, and whose
functions agree on all values but `null`. -/
structure RegisteredConversion.AgreeOffNull (c c' : RegisteredConversion) : Prop where
  hasCheckedVariant_eq : c'.hasCheckedVariant = c.hasCheckedVariant
  run_eq : ∀ mode v, v ≠ .null → (c'.casterFor mode).run v = (c.casterFor mode).run v

namespace Registry

variable {r r' : Registry}

/-- Registries with the same types and supertypes, which differ in nothing but what the registered
functions answer to `null`. -/
structure AgreeOffNull (r r' : Registry) : Prop where
  types_eq : r'.types = r.types
  inheritance_eq : r'.inheritance = r.inheritance
  conversions : ∀ key,
    Option.Rel RegisteredConversion.AgreeOffNull (r.conversion? key) (r'.conversion? key)

namespace AgreeOffNull

theorem nameOf_eq (hr : r.AgreeOffNull r') (h : TypeHash) : r'.nameOf h = r.nameOf h := by
  simp only [nameOf, get?, hr.types_eq]

theorem traits_eq (hr : r.AgreeOffNull r') (h : TypeHash) : r'.traits h = r.traits h := by
  simp only [traits, get?, hr.types_eq]

theorem conversion?_cases (hr : r.AgreeOffNull r') (key : TypePair) :
    (r.conversion? key = none ∧ r'.conversion? key = none) ∨
      ∃ c c', r.conversion? key = some c ∧ r'.conversion? key = some c' ∧ c.AgreeOffNull c' := by
  have hkey := hr.conversions key
  revert hkey
  generalize r.conversion? key = found
  generalize r'.conversion? key = found'
  rintro (⟨hagree⟩ | -)
  · exact Or.inr ⟨_, _, rfl, rfl, hagree⟩
  · exact Or.inl ⟨rfl, rfl⟩

theorem customCategory?_eq (hr : r.AgreeOffNull r') (key : TypePair) :
    r'.customCategory? key = r.customCategory? key := by
  unfold customCategory?
  rcases hr.conversion?_cases key with ⟨hget, hget'⟩ | ⟨c, c', hget, hget', hagree⟩
  · rw [hget, hget']
  · simp [hget, hget', hagree.hasCheckedVariant_eq]

theorem conversionBetween_eq (hr : r.AgreeOffNull r') (source target : TypeHash) :
    r'.conversionBetween source target = r.conversionBetween source target := by
  refine conversionBetween_congr hr.traits_eq ?_ hr.customCategory?_eq source target
  intro d a
  simp only [isStrictSubtype, hr.inheritance_eq]

/-- A conversion has the same converter: its rule is the same, and asks a registered function about
other values than `null` only. -/
theorem converter_eq (hr : r.AgreeOffNull r') (c : Conversion) (mode : Mode) :
    r'.converter c mode = r.converter c mode := by
  obtain ⟨types, inheritance, conversions⟩ := r
  obtain ⟨types', inheritance', conversions'⟩ := r'
  cases hr.types_eq
  cases hr.inheritance_eq
  obtain ⟨source, target, stripped, category, targetNullable⟩ := c
  -- Only the rule for registered conversions looks at what now differs.
  cases category with
  | custom key checkedVariant =>
      unfold converter handler
      rcases hr.conversion?_cases key with ⟨hget, hget'⟩ | ⟨c, c', hget, hget', hagree⟩
      · simp only [hget, hget']
        rfl
      · simp only [hget, hget']
        exact congrArg Except.ok (Converter.guardNull_congr (hagree.run_eq mode) _ _)
  | _ => rfl

theorem build_eq (hr : r.AgreeOffNull r') (source target : TypeHash) (mode : Mode) :
    r'.build source target mode = r.build source target mode := by
  unfold build converterBetween
  rw [hr.conversionBetween_eq, hr.converter_eq]

/-- No answer depends on what a registered function does to `null`. -/
theorem outcome_eq (hr : r.AgreeOffNull r') (o : Operation) : r'.outcome o = r.outcome o := by
  cases o with
  | traits h => exact hr.traits_eq h
  | isNullable h => exact congrArg Traits.isNullable (hr.traits_eq h)
  | caster source target mode => exact hr.build_eq source target mode
  | bindCaster source target mode => exact hr.build_eq source.typeHash target.typeHash mode
  | cast source target v mode =>
      exact congrArg (fun answer => Except.bind answer fun run => (run (source.erase v)).bind
        target.extract) (hr.build_eq source.typeHash target.typeHash mode)
  | castValue v target mode =>
      simp only [outcome, hr.build_eq, hr.traits_eq, hr.nameOf_eq]

end AgreeOffNull

/-- Conversions registered in the same place with functions that agree on all values but `null`. -/
theorem agreeOffNull_withConversion {key : TypePair} {f f' : Converter}
    (hfree : r.conversion? key = none) (hf : ∀ v, v ≠ .null → f' v = f v) :
    (r.withConversion key f none).AgreeOffNull (r.withConversion key f' none) := by
  refine ⟨rfl, rfl, ?_⟩
  intro key'
  rw [conversion?_withConversion hfree, conversion?_withConversion hfree]
  split
  · refine .some ⟨rfl, ?_⟩
    rintro (_ | _) v hv
    · exact hf v hv
    · exact hf v hv
  · cases r.conversion? key' with
    | none => exact .none
    | some c => exact .some ⟨rfl, fun _ _ _ => rfl⟩

end Registry

namespace Context

/-- For every pair of types with a conversion, of whatever category, the caster of the pair and the
cast of a value give one answer to `null`, whatever a context was asked before either: `null` itself
if the target has absence, and else the refusal that names the target.  No answer of a context, of
its casters or through them depends on what a registered function does to `null`. -/
theorem null_policy (r : Registry) (os os' : List Operation) {source target : TypeHash}
    (hvalid : r.isConvertible source target = true) (mode : Mode) :
    (∃ kept, (((ofRegistry r).after os).caster source target mode).1 = .ok kept ∧
        kept.run .null = (((ofRegistry r).after os').castValue .null target mode).1) ∧
      ((((ofRegistry r).after os').castValue .null target mode).1 = .ok .null ↔
        r.AdmitsNull target) ∧
      (¬ r.AdmitsNull target →
        (((ofRegistry r).after os').castValue .null target mode).1 =
          .error (.nullNotAllowed (r.nameOf target))) ∧
      ∀ r', r.AgreeOffNull r' → ∀ o,
        (((ofRegistry r').after os').perform o).1 = (((ofRegistry r).after os).perform o).1 := by
  have hc := (faithful_ofRegistry r).after os
  have hc' := (faithful_ofRegistry r).after os'
  have hvalue : (((ofRegistry r).after os').castValue .null target mode).1 =
      if (r.traits target).isNullable then .ok .null
      else .error (.nullNotAllowed (r.nameOf target)) :=
    (hc'.perform (.castValue .null target mode)).1
  refine ⟨?_, ?_, ?_, ?_⟩
  · rcases hc.exists_caster_iff.2 hvalid with ⟨kept, hkept⟩
    have hbuild : r.build source target mode = .ok kept.run := by
      rw [← (hc.caster_eq source target mode).1, hkept]
      rfl
    have hnull := Registry.build_null hvalid mode
    rw [hbuild] at hnull
    exact ⟨kept, hkept, hnull.trans hvalue.symm⟩
  · rw [hvalue, Registry.admitsNull_iff]
    split <;> simp [*]
  · intro hrefused
    rw [Registry.admitsNull_iff] at hrefused
    rw [hvalue, if_neg hrefused]
  · intro r' hr' o
    have hother := (faithful_ofRegistry r').after os'
    calc
      (((ofRegistry r').after os').perform o).1 = r'.outcome o := (hother.perform o).1
      _ = r.outcome o := hr'.outcome_eq o
      _ = (((ofRegistry r).after os).perform o).1 := (hc.perform o).1.symm

/-- A conversion of `bool` to `i32` that hands every value on, and one that refuses `null` itself.
The casts over both registries refuse `null`, and are the same. -/
theorem null_policy_bool :
    ∃ r r', Registry.Reachable r ∧
      r.conversion? ⟨Kind.bool.typeHash, Kind.i32.typeHash⟩ =
        some (.ofConverters ⟨Kind.bool.typeHash, Kind.i32.typeHash⟩ .ok none) ∧
      r.isConvertible Kind.bool.typeHash Kind.i32.typeHash = true ∧
      ¬ r.AdmitsNull Kind.i32.typeHash ∧ r.AgreeOffNull r' ∧
      ((ofRegistry r).castValue .null Kind.i32.typeHash .checked).1 =
        .error (.nullNotAllowed "i32") ∧
      ((ofRegistry r').perform (.caster Kind.bool.typeHash Kind.i32.typeHash .checked)).1 =
        ((ofRegistry r).perform (.caster Kind.bool.typeHash Kind.i32.typeHash .checked)).1 := by
  let key : TypePair := ⟨Kind.bool.typeHash, Kind.i32.typeHash⟩
  let r := Registry.builtin.withConversion key .ok none
  let r' := Registry.builtin.withConversion key (Converter.guardNull false "i32" .ok) none
  have hr : Registry.Reachable r := Registry.reachable_builtin.of_leads
    (Registry.Leads.refl.withConversion .ok none (by decide) (by decide) rfl)
  have hagree : r.AgreeOffNull r' :=
    Registry.agreeOffNull_withConversion rfl fun v hv => Converter.guardNull_of_ne_null hv
  have hvalid : r.isConvertible Kind.bool.typeHash Kind.i32.typeHash = true := by decide
  have hrefused : ¬ r.AdmitsNull Kind.i32.typeHash := fun hadmits => hadmits.1 .i32 rfl
  rcases null_policy r [] [] hvalid .checked with ⟨-, -, hvalue, hsame⟩
  have hname : r.nameOf Kind.i32.typeHash = "i32" := by decide
  refine ⟨r, r', hr, rfl, hvalid, hrefused, hagree, ?_, hsame r' hagree _⟩
  exact (hvalue hrefused).trans (by rw [hname])

end Context
end Recast
