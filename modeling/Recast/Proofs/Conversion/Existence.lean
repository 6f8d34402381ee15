import Recast.Proofs.Conversion.Modes
import Recast.Proofs.Registry.Extension

/-!
# Existence — between which types there is a conversion

A conversion exists where one of the built-in rules applies, or where one is registered.  Each of
these says something about both types, so that a type that is not known converts to itself only.

* `Registry.isConvertible_iff`: what makes a conversion exist;
* `Registry.Reachable.eq_or_isKnown_of_isConvertible`: what is then known of its two ends.
-/

namespace Recast
namespace Registry

variable {r : Registry} {source target : TypeHash}

/-! ## What makes a conversion exist -/

theorem isSome_referenceCategory?_iff :
    (r.referenceCategory? source target).isSome = true ↔
      r.isStrictSubtype source target = true ∨ r.isStrictSubtype target source = true := by
  unfold referenceCategory?
  cases r.isStrictSubtype source target <;> cases r.isStrictSubtype target source <;> simp

theorem isSome_builtinCategory?_iff :
    (r.builtinCategory? source target).isSome = true ↔
      source = target ∨ (r.numericCategory? source target).isSome = true ∨
        r.isStrictSubtype source target = true ∨ r.isStrictSubtype target source = true := by
  rw [← isSome_referenceCategory?_iff]
  unfold builtinCategory?
  by_cases hsame : source = target
  · simp [hsame]
  · cases r.numericCategory? source target <;> simp [hsame]

theorem isSome_customCategory?_iff {key : TypePair} :
    (r.customCategory? key).isSome = true ↔ ∃ c, r.conversion? key = some c := by
  simp [customCategory?, Option.isSome_iff_exists]

/-- A conversion exists exactly if a rule applies to the types without their wrappers, or one is
registered for the types as they are or without their wrappers. -/
theorem isConvertible_iff :
    r.isConvertible source target = true ↔
      (r.builtinCategory? (r.strip source) (r.strip target)).isSome = true ∨
        (∃ c, r.conversion? { source := source, target := target } = some c) ∨
          ∃ c, r.conversion? { source := r.strip source, target := r.strip target } = some c := by
  rw [← isSome_customCategory?_iff, ← isSome_customCategory?_iff]
  show (r.category source target).isValid = true ↔ _
  rw [category_eq]
  cases hbuiltin : r.builtinCategory? (r.strip source) (r.strip target) with
  | some found =>
      simp [Category.isValid_of_isBuiltin (isBuiltin_of_builtinCategory? hbuiltin)]
  | none =>
      cases hexact : r.customCategory? { source := source, target := target } with
      | some found =>
          rcases customCategory?_eq_some hexact with ⟨c, -, rfl⟩
          simp [Category.isValid]
      | none =>
          cases hlifted : r.customCategory?
              { source := r.strip source, target := r.strip target } with
          | some found =>
              rcases customCategory?_eq_some hlifted with ⟨c, -, rfl⟩
              simp [Category.isValid]
          | none => simp [Category.isValid]

/-- What needs no registration is decided by a built-in rule. -/
theorem isBuiltin_category_iff :
    (r.category source target).isBuiltin = true ↔
      (r.builtinCategory? (r.strip source) (r.strip target)).isSome = true := by
  constructor
  · intro hcategory
    rcases r.category_cases source target with hbuiltin | ⟨key, c, -, hcustom⟩ | hinvalid
    · simp [hbuiltin]
    · rw [hcustom] at hcategory
      cases hcategory
    · rw [hinvalid] at hcategory
      cases hcategory
  · intro hsome
    rcases Option.isSome_iff_exists.1 hsome with ⟨found, hfound⟩
    rw [category_eq, hfound]
    exact isBuiltin_of_builtinCategory? hfound

theorem isBuiltin_category_eq_false_iff :
    (r.category source target).isBuiltin = false ↔
      r.builtinCategory? (r.strip source) (r.strip target) = none := by
  rw [← Bool.not_eq_true, isBuiltin_category_iff]
  simp

/-! ## Known ends -/

theorem isKnown_of_numericCategory? (h : (r.numericCategory? source target).isSome = true) :
    r.isKnown source = true ∧ r.isKnown target = true := by
  rw [← isKnown_traits, ← isKnown_traits]
  unfold numericCategory? at h
  split at h
  · rename_i a b ha hb
    rw [ha, hb]
    exact ⟨rfl, rfl⟩
  · rename_i underlying b ha hb
    rw [ha, hb]
    exact ⟨rfl, rfl⟩
  · rename_i a underlying ha hb
    rw [ha, hb]
    exact ⟨rfl, rfl⟩
  · cases h

theorem Reachable.isKnown_of_isStrictSubtype (hr : Reachable r)
    (hsub : r.isStrictSubtype source target = true) :
    r.isKnown source = true ∧ r.isKnown target = true := by
  rcases hr.declares_of_isStrictSubtype hsub with ⟨hsource, htarget⟩
  exact ⟨isKnown_of_declares hsource, isKnown_of_declares htarget⟩

/-- A type converts to itself, and any other conversion is between known types. -/
theorem Reachable.eq_or_isKnown_of_isConvertible (hr : Reachable r)
    (hvalid : r.isConvertible source target = true) :
    source = target ∨ (r.isKnown source = true ∧ r.isKnown target = true) := by
  have hwell := hr.wellFormed
  have hlift : r.isKnown (r.strip source) = true ∧ r.isKnown (r.strip target) = true →
      r.isKnown source = true ∧ r.isKnown target = true := by
    rw [hwell.isKnown_strip, hwell.isKnown_strip]
    exact id
  rcases isConvertible_iff.1 hvalid with hbuiltin | ⟨c, hget⟩ | ⟨c, hget⟩
  · rcases isSome_builtinCategory?_iff.1 hbuiltin with hsame | hnumeric | hup | hdown
    · -- Without their wrappers the types are the same, so that both are known or neither is.
      have hboth : r.isKnown source = r.isKnown target := by
        rw [← hwell.isKnown_strip source, hsame, hwell.isKnown_strip]
      cases hknown : r.isKnown source with
      | true => exact Or.inr ⟨rfl, hboth.symm.trans hknown⟩
      | false =>
          refine Or.inl ?_
          calc
            source = r.strip source := (strip_of_not_isKnown hknown).symm
            _ = r.strip target := hsame
            _ = target := strip_of_not_isKnown (hboth.symm.trans hknown)
    · exact Or.inr (hlift (isKnown_of_numericCategory? hnumeric))
    · exact Or.inr (hlift (hr.isKnown_of_isStrictSubtype hup))
    · exact Or.inr (hlift (hr.isKnown_of_isStrictSubtype hdown).symm)
  · exact Or.inr (hwell.isKnown_ends hget)
  · exact Or.inr (hlift (hwell.isKnown_ends hget))

end Registry
end Recast
