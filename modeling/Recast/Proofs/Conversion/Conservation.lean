import Recast.Proofs.Conversion.Existence

/-!
# Conservation — conversions under registration

Registrations only add conversions.  A declaration leaves all conversions between other types as
they are, whatever it declares.  A conversion that is registered fills a place that no built-in rule
takes, for its own pair and for the pairs that come to it without their wrappers.

* `Registry.Extends.isConvertible`: what can be cast stays castable;
* `Registry.conversionBetween_insert`: what a declaration leaves alone;
* `Registry.category_withConversion_cases`: what a registered conversion changes;
* `Registry.registration_conserves`: these together, for every registration.
-/

namespace Recast
namespace Registry

variable {r r' grown : Registry} {e : TypeDecl} {source target h : TypeHash}

/-! ## What a category depends on -/

theorem numericCategory?_congr (hsource : r'.traits source = r.traits source)
    (htarget : r'.traits target = r.traits target) :
    r'.numericCategory? source target = r.numericCategory? source target := by
  unfold numericCategory?
  rw [hsource, htarget]

theorem builtinCategory?_congr (hsource : r'.traits source = r.traits source)
    (htarget : r'.traits target = r.traits target)
    (hup : r'.isStrictSubtype source target = r.isStrictSubtype source target)
    (hdown : r'.isStrictSubtype target source = r.isStrictSubtype target source) :
    r'.builtinCategory? source target = r.builtinCategory? source target := by
  unfold builtinCategory? referenceCategory?
  rw [numericCategory?_congr hsource htarget, hup, hdown]

/-- A conversion depends on the traits and supertypes of types, and on which pairs have a registered
conversion with how many variants. -/
theorem conversionBetween_congr (htraits : ∀ h, r'.traits h = r.traits h)
    (hsub : ∀ d a, r'.isStrictSubtype d a = r.isStrictSubtype d a)
    (hcustom : ∀ key, r'.customCategory? key = r.customCategory? key) (source target : TypeHash) :
    r'.conversionBetween source target = r.conversionBetween source target := by
  have hstrip : ∀ h, r'.strip h = r.strip h := by
    intro h
    simp only [strip, htraits]
  have hbuiltin : r'.builtinCategory? (r.strip source) (r.strip target) =
      r.builtinCategory? (r.strip source) (r.strip target) :=
    builtinCategory?_congr (htraits _) (htraits _) (hsub _ _) (hsub _ _)
  have hcategory : r'.category source target = r.category source target := by
    rw [category_eq, category_eq, hstrip, hstrip, hbuiltin, hcustom, hcustom]
  simp only [conversionBetween, hcategory, hstrip, htraits]

/-! ## Conversions stay -/

/-- What can be cast stays castable as a registry grows. -/
theorem Extends.isConvertible (hle : r.Extends grown) (hr : Reachable r)
    (hvalid : r.isConvertible source target = true) :
    grown.isConvertible source target = true := by
  have hwell := hr.wellFormed
  rcases hr.eq_or_isKnown_of_isConvertible hvalid with rfl | ⟨hsource, htarget⟩
  · show (grown.category source source).isValid = true
    rw [category_self]
    rfl
  · have hsource' : r.isKnown (r.strip source) = true := (hwell.isKnown_strip source).trans hsource
    have htarget' : r.isKnown (r.strip target) = true := (hwell.isKnown_strip target).trans htarget
    rw [isConvertible_iff, hle.strip_eq hsource, hle.strip_eq htarget]
    rcases isConvertible_iff.1 hvalid with hbuiltin | ⟨c, hget⟩ | ⟨c, hget⟩
    · refine Or.inl (isSome_builtinCategory?_iff.2 ?_)
      rw [numericCategory?_congr (hle.traits_eq hsource') (hle.traits_eq htarget')]
      rcases isSome_builtinCategory?_iff.1 hbuiltin with hsame | hnumeric | hup | hdown
      · exact Or.inl hsame
      · exact Or.inr (Or.inl hnumeric)
      · exact Or.inr (Or.inr (Or.inl (hle.isStrictSubtype hup)))
      · exact Or.inr (Or.inr (Or.inr (hle.isStrictSubtype hdown)))
    · exact Or.inr (Or.inl ⟨c, hle.conversion?_of_eq_some hget⟩)
    · exact Or.inr (Or.inr ⟨c, hle.conversion?_of_eq_some hget⟩)

/-! ## One more declaration -/

/-- A type that is declared in the later registry only. -/
def Introduces (r grown : Registry) (h : TypeHash) : Prop :=
  r.get? h = none ∧ grown.get? h ≠ none

theorem introduces_insert (hfree : r.get? e.hash = none) (hnew : r.Introduces (r.insert e) h) :
    h = e.hash ∨ (e.isWrappable = true ∧ h = e.hash.nullable) := by
  rcases hnew with ⟨hnone, hsome⟩
  rcases Option.ne_none_iff_exists'.1 hsome with ⟨d, hget⟩
  rcases get?_insert_cases hfree hget with hold | ⟨hself, -⟩ | ⟨hwrap, hwrapper, -⟩
  · cases hnone.symm.trans hold
  · exact Or.inl hself
  · exact Or.inr ⟨hwrap, hwrapper⟩

theorem get?_of_not_introduces (hold : ¬ r.Introduces (r.insert e) h) :
    (r.insert e).get? h = r.get? h := by
  cases hget : r.get? h with
  | some d => exact get?_insert_of_eq_some hget
  | none =>
      cases hgrown : (r.insert e).get? h with
      | none => rfl
      | some d => exact absurd ⟨hget, by simp [hgrown]⟩ hold

/-- What a type that is not new is without its wrapper is not new either. -/
theorem not_introduces_strip (hr : r.WellFormed) (hold : ¬ r.Introduces (r.insert e) h) :
    ¬ r.Introduces (r.insert e) (r.strip h) := by
  rcases hr.strip_cases h with ⟨hstrip, -⟩ | ⟨d, hget, -⟩
  · rw [hstrip]
    exact hold
  · rintro ⟨hnone, -⟩
    cases hnone.symm.trans hget

/-- A declaration leaves the conversions between all other types as they are. -/
theorem conversionBetween_insert (hr : Reachable r) (hfree : r.get? e.hash = none)
    (hcheck : r.checkReferences e = .ok ()) (hsource : ¬ r.Introduces (r.insert e) source)
    (htarget : ¬ r.Introduces (r.insert e) target) :
    (r.insert e).conversionBetween source target = r.conversionBetween source target := by
  have hwell := hr.wellFormed
  have htraits : ∀ {x}, ¬ r.Introduces (r.insert e) x → (r.insert e).traits x = r.traits x :=
    fun hold => traits_congr (get?_of_not_introduces hold)
  have hstrip : ∀ {x}, ¬ r.Introduces (r.insert e) x → (r.insert e).strip x = r.strip x := by
    intro x hold
    simp only [strip, htraits hold]
  -- The new type is none of those between which supertypes are asked for.
  have hne : ∀ {x}, ¬ r.Introduces (r.insert e) x → x ≠ e.hash := by
    rintro x hold rfl
    exact hold ⟨hfree, by simp [get?_insert_self hfree]⟩
  have hsource' := not_introduces_strip hwell hsource
  have htarget' := not_introduces_strip hwell htarget
  have hbuiltin : (r.insert e).builtinCategory? (r.strip source) (r.strip target) =
      r.builtinCategory? (r.strip source) (r.strip target) :=
    builtinCategory?_congr (htraits hsource') (htraits htarget')
      (isStrictSubtype_insert hr hfree hcheck (hne hsource'))
      (isStrictSubtype_insert hr hfree hcheck (hne htarget'))
  have hcategory : (r.insert e).category source target = r.category source target := by
    rw [category_eq, category_eq, hstrip hsource, hstrip htarget, hbuiltin]
    rfl
  unfold conversionBetween
  rw [hcategory, hstrip hsource, htraits htarget]

/-! ## One more registered conversion -/

section Registered

variable {key : TypePair} {unchecked : Converter} {checked : Option Converter}

theorem customCategory?_withConversion (hfree : r.conversion? key = none) (key' : TypePair) :
    (r.withConversion key unchecked checked).customCategory? key' =
      if key' = key then some (.custom key checked.isSome) else r.customCategory? key' := by
  unfold customCategory?
  rw [conversion?_withConversion hfree]
  by_cases hkey : key' = key
  · simp [hkey, RegisteredConversion.ofConverters, RegisteredConversion.hasCheckedVariant]
  · simp [hkey]

/-- A registered conversion changes nothing, or it is registered for the pair as it is or without
its wrappers, no built-in rule applied to the pair before, and now this conversion does. -/
theorem category_withConversion_cases (hfree : r.conversion? key = none)
    (source target : TypeHash) (unchecked : Converter) (checked : Option Converter) :
    (r.withConversion key unchecked checked).category source target = r.category source target ∨
      ((key = { source := source, target := target } ∨
          key = { source := r.strip source, target := r.strip target }) ∧
        (r.category source target).isBuiltin = false ∧
        (r.withConversion key unchecked checked).category source target =
          .custom key checked.isSome) := by
  have hgrown : (r.withConversion key unchecked checked).category source target =
      (r.builtinCategory? (r.strip source) (r.strip target)
        <|> (if { source := source, target := target } = key then
              some (.custom key checked.isSome)
            else r.customCategory? { source := source, target := target })
        <|> (if { source := r.strip source, target := r.strip target } = key then
              some (.custom key checked.isSome)
            else r.customCategory? { source := r.strip source, target := r.strip target })).getD
          .invalid := by
    rw [category_eq, ← customCategory?_withConversion hfree, ← customCategory?_withConversion hfree]
    rfl
  cases hbuiltin : r.builtinCategory? (r.strip source) (r.strip target) with
  | some found =>
      rw [hgrown, category_eq, hbuiltin]
      exact Or.inl rfl
  | none =>
      have hplain : (r.category source target).isBuiltin = false :=
        isBuiltin_category_eq_false_iff.2 hbuiltin
      rw [hgrown, hbuiltin]
      by_cases hexact : { source := source, target := target } = key
      · exact Or.inr ⟨Or.inl hexact.symm, hplain, by simp [hexact]⟩
      · cases hkept : r.customCategory? { source := source, target := target } with
        -- What is registered for the pair as it is goes before the pair without its wrappers.
        | some found =>
            rw [category_eq, hbuiltin, hkept]
            exact Or.inl (by simp [hexact])
        | none =>
            by_cases hlifted : { source := r.strip source, target := r.strip target } = key
            · exact Or.inr ⟨Or.inr hlifted.symm, hplain, by simp [hexact, hlifted]⟩
            · rw [category_eq, hbuiltin, hkept]
              exact Or.inl (by simp [hexact, hlifted])

end Registered

/-! ## All registrations -/

/-- A registration that is taken in takes no conversion away.  A declaration introduces its type and
at most the wrapper of it, and leaves all conversions between other types as they are.  A registered
conversion changes those of its pair only, as it is or without wrappers, and only where no built-in
rule applies. -/
theorem registration_conserves (hr : Reachable r) {g : Registration}
    (hok : r.attempt g = .ok grown) :
    (∀ source target, r.isConvertible source target = true →
        grown.isConvertible source target = true) ∧
      (∀ e, g = .declare e →
        (∀ h, r.Introduces grown h → h = e.hash ∨ (e.isWrappable = true ∧ h = e.hash.nullable)) ∧
        ∀ source target, ¬ r.Introduces grown source → ¬ r.Introduces grown target →
          grown.conversionBetween source target = r.conversionBetween source target) ∧
      ∀ key unchecked checked, g = .addConversion key unchecked checked →
        ∀ source target,
          grown.conversionBetween source target ≠ r.conversionBetween source target →
          (key = { source := source, target := target } ∨
              key = { source := r.strip source, target := r.strip target }) ∧
            (r.category source target = .invalid ∨
              ∃ key' checkedVariant, r.category source target = .custom key' checkedVariant) := by
  refine ⟨?_, ?_, ?_⟩
  · intro source target hvalid
    have hle : r.Extends grown := Leads.extends (.step g .refl hok) hr
    exact hle.isConvertible hr hvalid
  · rintro e rfl
    rcases declare_eq_ok_iff.1 hok with ⟨hfree, hcheck, rfl⟩
    refine ⟨?_, ?_⟩
    · intro h hnew
      exact introduces_insert hfree hnew
    · intro source target hsource htarget
      exact conversionBetween_insert hr hfree hcheck hsource htarget
  · rintro key unchecked checked rfl source target hchanged
    rcases addConversion_eq_ok_iff.1 hok with ⟨-, -, hfree, rfl⟩
    rcases category_withConversion_cases hfree source target unchecked checked with
      hsame | ⟨hkey, hplain, -⟩
    · have hsame' : (r.withConversion key unchecked checked).conversionBetween source target =
          r.conversionBetween source target := by
        unfold conversionBetween
        rw [hsame]
        rfl
      exact absurd hsame' hchanged
    · exact ⟨hkey, Category.isBuiltin_eq_false_iff.1 hplain⟩

/-- With `Point` declared, `i32` converts to `u8?` as before.  With a conversion of `bool` to `i32`
registered, one of `bool` to `i32?` is there that was not before. -/
theorem registration_conserves_builtin :
    Reachable builtin ∧
      (builtin.attempt (.declare point) = .ok (builtin.insert point) ∧
        (builtin.insert point).conversionBetween Kind.i32.typeHash Kind.u8.typeHash.nullable =
          builtin.conversionBetween Kind.i32.typeHash Kind.u8.typeHash.nullable ∧
        (builtin.insert point).isConvertible Kind.i32.typeHash Kind.u8.typeHash.nullable = true) ∧
      ∃ grown,
        builtin.attempt (.addConversion ⟨Kind.bool.typeHash, Kind.i32.typeHash⟩ .ok none) =
          .ok grown ∧
        grown.conversionBetween Kind.bool.typeHash Kind.i32.typeHash.nullable ≠
          builtin.conversionBetween Kind.bool.typeHash Kind.i32.typeHash.nullable ∧
        (builtin.category Kind.bool.typeHash Kind.i32.typeHash.nullable = .invalid ∨
          ∃ key checkedVariant, builtin.category Kind.bool.typeHash Kind.i32.typeHash.nullable =
            .custom key checkedVariant) := by
  refine ⟨reachable_builtin, ?_, ?_⟩
  · have hok : builtin.attempt (.declare point) = .ok (builtin.insert point) :=
      declare_eq_ok (by decide) rfl
    rcases registration_conserves reachable_builtin hok with ⟨hvalid, hdeclare, -⟩
    refine ⟨hok, (hdeclare point rfl).2 _ _ ?_ ?_, hvalid _ _ (by decide)⟩
    · exact fun hnew => absurd hnew.1 (by decide)
    · exact fun hnew => absurd hnew.1 (by decide)
  · have hok : builtin.attempt (.addConversion ⟨Kind.bool.typeHash, Kind.i32.typeHash⟩ .ok none) =
        .ok (builtin.withConversion ⟨Kind.bool.typeHash, Kind.i32.typeHash⟩ .ok none) :=
      addConversion_eq_ok_iff.2 ⟨by decide, by decide, rfl, rfl⟩
    have hchanged : (builtin.withConversion ⟨Kind.bool.typeHash, Kind.i32.typeHash⟩ .ok
          none).conversionBetween Kind.bool.typeHash Kind.i32.typeHash.nullable ≠
        builtin.conversionBetween Kind.bool.typeHash Kind.i32.typeHash.nullable := by decide
    rcases registration_conserves reachable_builtin hok with ⟨-, -, hregistered⟩
    exact ⟨_, hok, hchanged, (hregistered _ _ _ rfl _ _ hchanged).2⟩

end Registry
end Recast
