import Recast.Conversion.Converter

/-!
# Modes — when the mode of a cast matters

A conversion whose category does not depend on the mode is carried out in the same way in both
modes, and a conversion can be carried out in either mode exactly when it is valid.

* `Registry.category_cases`: which rule decides on a conversion;
* `Registry.converterBetween_of_not_dependsOnMode`: where the mode does not matter;
* `Registry.exists_converterBetween_iff`: which conversions can be carried out.
-/

namespace Recast

/-- Whether a conversion exists that needs no registration. -/
def Category.isBuiltin : Category → Bool
  | .custom _ _ => false
  | .invalid => false
  | _ => true

theorem Category.isValid_of_isBuiltin {category : Category} (h : category.isBuiltin = true) :
    category.isValid = true := by
  cases category with
  | invalid => cases h
  | _ => rfl

theorem Category.isBuiltin_eq_false_iff {category : Category} :
    category.isBuiltin = false ↔
      category = .invalid ∨ ∃ key checkedVariant, category = .custom key checkedVariant := by
  cases category <;> simp [isBuiltin]

namespace Registry

variable {r : Registry} {source target : TypeHash}

/-! ## Which rule decides -/

theorem customCategory?_eq_some {key : TypePair} {category : Category}
    (h : r.customCategory? key = some category) :
    ∃ c, r.conversion? key = some c ∧ category = .custom key c.hasCheckedVariant := by
  rcases Option.map_eq_some_iff.1 h with ⟨c, hget, heq⟩
  exact ⟨c, hget, heq.symm⟩

theorem isBuiltin_of_numericCategory? {category : Category}
    (h : r.numericCategory? source target = some category) : category.isBuiltin = true := by
  unfold numericCategory? at h
  split at h
  · split at h
    · cases h
      split <;> rfl
    · cases h
  · split at h
    · cases h
      rfl
    · cases h
  · split at h
    · cases h
      rfl
    · cases h
  · cases h

theorem isBuiltin_of_referenceCategory? {category : Category}
    (h : r.referenceCategory? source target = some category) : category.isBuiltin = true := by
  unfold referenceCategory? at h
  split at h
  · cases h
    rfl
  · split at h
    · cases h
      rfl
    · cases h

theorem isBuiltin_of_builtinCategory? {category : Category}
    (h : r.builtinCategory? source target = some category) : category.isBuiltin = true := by
  unfold builtinCategory? at h
  split at h
  · cases h
    rfl
  · cases hnumeric : r.numericCategory? source target with
    | some found =>
        rw [hnumeric] at h
        cases h
        exact isBuiltin_of_numericCategory? hnumeric
    | none =>
        rw [hnumeric] at h
        exact isBuiltin_of_referenceCategory? h

theorem category_eq (r : Registry) (source target : TypeHash) :
    r.category source target =
      (r.builtinCategory? (r.strip source) (r.strip target)
        <|> r.customCategory? { source := source, target := target }
        <|> r.customCategory? { source := r.strip source, target := r.strip target }).getD .invalid :=
  rfl

theorem category_of_builtinCategory? {category : Category}
    (h : r.builtinCategory? (r.strip source) (r.strip target) = some category) :
    r.category source target = category := by
  rw [category_eq, h]
  rfl

/-- A built-in rule applies, or a conversion is registered for the pair as requested or for the pair
without wrappers, or there is no conversion. -/
theorem category_cases (r : Registry) (source target : TypeHash) :
    r.builtinCategory? (r.strip source) (r.strip target) = some (r.category source target) ∨
      (∃ key c, r.conversion? key = some c ∧
        r.category source target = .custom key c.hasCheckedVariant) ∨
      r.category source target = .invalid := by
  rw [category_eq]
  cases hbuiltin : r.builtinCategory? (r.strip source) (r.strip target) with
  | some found =>
      exact Or.inl (by simp)
  | none =>
      refine Or.inr ?_
      cases hexact : r.customCategory? { source := source, target := target } with
      | some found =>
          rcases customCategory?_eq_some hexact with ⟨c, hget, rfl⟩
          exact Or.inl ⟨_, c, hget, by simp⟩
      | none =>
          cases hlifted : r.customCategory?
              { source := r.strip source, target := r.strip target } with
          | some found =>
              rcases customCategory?_eq_some hlifted with ⟨c, hget, rfl⟩
              exact Or.inl ⟨_, c, hget, by simp⟩
          | none =>
              exact Or.inr (by simp)

/-- The key of a custom category is that of a registered conversion. -/
theorem conversion?_of_category_eq_custom {key : TypePair} {checkedVariant : Bool}
    (h : r.category source target = .custom key checkedVariant) :
    ∃ c, r.conversion? key = some c ∧ c.hasCheckedVariant = checkedVariant := by
  rcases r.category_cases source target with hbuiltin | ⟨key', c, hget, hcustom⟩ | hinvalid
  · rw [h] at hbuiltin
    cases isBuiltin_of_builtinCategory? hbuiltin
  · rw [h] at hcustom
    cases hcustom
    exact ⟨c, hget, rfl⟩
  · rw [h] at hinvalid
    cases hinvalid

/-! ## Where the mode does not matter -/

theorem handler_of_not_dependsOnMode
    (h : (r.conversionBetween source target).dependsOnMode = false) (mode mode' : Mode) :
    r.handler (r.conversionBetween source target) mode =
      r.handler (r.conversionBetween source target) mode' := by
  have hcategory : (r.category source target).dependsOnMode = false := h
  unfold handler conversionBetween
  cases hcat : r.category source target with
  | custom key checkedVariant =>
      rcases conversion?_of_category_eq_custom hcat with ⟨c, hget, hvariant⟩
      rw [hcat] at hcategory
      have hsame := RegisteredConversion.casterFor_of_not_hasCheckedVariant
        (hvariant.trans hcategory)
      simp only [hget, hsame]
  | narrowing a b => simp [hcat, Category.dependsOnMode] at hcategory
  | enumToNumeric e a b => simp [hcat, Category.dependsOnMode] at hcategory
  | numericToEnum a e b => simp [hcat, Category.dependsOnMode] at hcategory
  | identity => rfl
  | widening a b => rfl
  | upcast b => rfl
  | downcast b => rfl
  | invalid => rfl

/-- Where the modes cannot differ, both have the same converter. -/
theorem converterBetween_of_not_dependsOnMode
    (h : (r.conversionBetween source target).dependsOnMode = false) (mode mode' : Mode) :
    r.converterBetween source target mode = r.converterBetween source target mode' := by
  unfold converterBetween converter
  rw [handler_of_not_dependsOnMode h mode mode']

/-! ## Which conversions can be carried out -/

theorem exists_handler_iff (mode : Mode) :
    (∃ run, r.handler (r.conversionBetween source target) mode = .ok run) ↔
      r.isConvertible source target = true := by
  unfold isConvertible Conversion.isValid handler conversionBetween
  cases hcat : r.category source target with
  | custom key checkedVariant =>
      rcases conversion?_of_category_eq_custom hcat with ⟨c, hget, -⟩
      simp [hget, Category.isValid]
  | _ => simp [Category.isValid]

theorem exists_converterBetween_iff (mode : Mode) :
    (∃ run, r.converterBetween source target mode = .ok run) ↔
      r.isConvertible source target = true := by
  rw [← exists_handler_iff mode]
  unfold converterBetween converter
  cases r.handler (r.conversionBetween source target) mode <;> simp [Except.map]

/-- The refusal of a cast between types without a conversion. -/
def noConversion (r : Registry) (source target : TypeHash) : CastError :=
  .invalidCast (r.nameOf source) (r.nameOf target)

theorem converterBetween_of_not_isConvertible (h : r.isConvertible source target = false)
    (mode : Mode) :
    r.converterBetween source target mode = .error { cause := r.noConversion source target } := by
  have hinvalid : r.category source target = .invalid := by
    have hcategory : (r.category source target).isValid = false := h
    cases hcat : r.category source target with
    | invalid => rfl
    | _ =>
        rw [hcat] at hcategory
        cases hcategory
  unfold converterBetween converter handler conversionBetween
  rw [hinvalid]
  rfl

end Registry
end Recast
