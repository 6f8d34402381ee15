import Recast.Proofs.Conversion.Converters
import Recast.Proofs.Conversion.Modes

/-!
# Rules — how a conversion is carried out, and what is then known of its types

`Registry.Carries` lists the rules of casting.  For each it gives the converter of either mode, and
what the rule has found out about the two types without their wrappers.

* `Registry.exists_carries`: one of these rules carries out every valid conversion;
* `Registry.exists_converters`: the converters between two types are those of the rule, behind the
  answer to `null`;
* `Registry.castBetween`: one cast of one value, from finding the conversion to its answer.
-/

namespace Recast

namespace Traits

theorem numericKind?_eq_some_iff {t : Traits} {k : Kind} :
    t.numericKind? = some k ↔ t = .primitive k ∧ k.isNumeric = true := by
  cases t with
  | primitive a =>
      simp only [numericKind?, Option.ite_none_right_eq_some, Option.some.injEq, primitive.injEq]
      constructor
      · rintro ⟨hnumeric, rfl⟩
        exact ⟨rfl, hnumeric⟩
      · rintro ⟨rfl, hnumeric⟩
        exact ⟨hnumeric, rfl⟩
  | _ => simp [numericKind?]

end Traits

namespace Registry

variable {r : Registry} {source target : TypeHash}

/-! ## The rules -/

/-- The rule of a category: its converter in either mode for all values but `null`, where it
applies. -/
inductive Carries (r : Registry) (source target : TypeHash) :
    Category → (Mode → Converter) → Prop where
  | identity :
      r.strip source = r.strip target →
      Carries r source target .identity
        fun _ => r.instanceConverter (r.strip source) (r.nameOf target)
  | widening {a b : Kind} :
      (r.traits (r.strip source)).numericKind? = some a →
      (r.traits (r.strip target)).numericKind? = some b →
      a.widensTo b = true →
      Carries r source target (.widening a b)
        fun _ => Converter.numeric .unchecked a b
  | narrowing {a b : Kind} :
      (r.traits (r.strip source)).numericKind? = some a →
      (r.traits (r.strip target)).numericKind? = some b →
      a.widensTo b = false →
      Carries r source target (.narrowing a b)
        fun mode => Converter.numeric mode a b
  | enumToNumeric {underlying b : Kind} :
      r.traits (r.strip source) = .enum underlying →
      (r.traits (r.strip target)).numericKind? = some b →
      Carries r source target (.enumToNumeric (r.strip source) underlying b)
        fun mode => Converter.enumToNumeric mode (r.strip source) underlying b
  | numericToEnum {a underlying : Kind} :
      (r.traits (r.strip source)).numericKind? = some a →
      r.traits (r.strip target) = .enum underlying →
      Carries r source target (.numericToEnum a (r.strip target) underlying)
        fun mode => Converter.numericToEnum mode a (r.strip target) underlying (r.nameOf target)
  | upcast :
      r.isStrictSubtype (r.strip source) (r.strip target) = true →
      Carries r source target (.upcast (r.strip target))
        fun _ => r.objectConverter (r.strip source) (r.nameOf target)
  | downcast :
      r.isStrictSubtype (r.strip target) (r.strip source) = true →
      Carries r source target (.downcast (r.strip target))
        fun _ => r.objectConverter (r.strip target) (r.nameOf target)
  | custom {key : TypePair} {c : RegisteredConversion} :
      r.conversion? key = some c →
      Carries r source target (.custom key c.hasCheckedVariant)
        fun mode => (c.casterFor mode).run

/-! ## One of them applies -/

theorem exists_carries_of_numericCategory? {category : Category}
    (h : r.numericCategory? (r.strip source) (r.strip target) = some category) :
    ∃ run, r.Carries source target category run := by
  have hnumeric : ∀ {t : TypeHash} {k : Kind}, r.traits t = .primitive k → k.isNumeric = true →
      (r.traits t).numericKind? = some k := by
    intro t k htraits hk
    exact Traits.numericKind?_eq_some_iff.2 ⟨htraits, hk⟩
  unfold numericCategory? at h
  split at h
  · rename_i a b ha hb
    split at h
    · rename_i hboth
      rw [Bool.and_eq_true] at hboth
      cases hwide : a.widensTo b with
      | true =>
          cases Option.some.inj (by simpa [hwide] using h)
          exact ⟨_, .widening (hnumeric ha hboth.1) (hnumeric hb hboth.2) hwide⟩
      | false =>
          cases Option.some.inj (by simpa [hwide] using h)
          exact ⟨_, .narrowing (hnumeric ha hboth.1) (hnumeric hb hboth.2) hwide⟩
    · cases h
  · rename_i underlying b ha hb
    split at h
    · rename_i hk
      cases h
      exact ⟨_, .enumToNumeric ha (hnumeric hb hk)⟩
    · cases h
  · rename_i a underlying ha hb
    split at h
    · rename_i hk
      cases h
      exact ⟨_, .numericToEnum (hnumeric ha hk) hb⟩
    · cases h
  · cases h

theorem exists_carries_of_referenceCategory? {category : Category}
    (h : r.referenceCategory? (r.strip source) (r.strip target) = some category) :
    ∃ run, r.Carries source target category run := by
  unfold referenceCategory? at h
  split at h
  · rename_i hup
    cases h
    exact ⟨_, .upcast hup⟩
  · split at h
    · rename_i hdown
      cases h
      exact ⟨_, .downcast hdown⟩
    · cases h

theorem exists_carries_of_builtinCategory? {category : Category}
    (h : r.builtinCategory? (r.strip source) (r.strip target) = some category) :
    ∃ run, r.Carries source target category run := by
  unfold builtinCategory? at h
  split at h
  · rename_i hsame
    cases h
    exact ⟨_, .identity hsame⟩
  · cases hnumeric : r.numericCategory? (r.strip source) (r.strip target) with
    | some found =>
        rw [hnumeric] at h
        cases h
        exact exists_carries_of_numericCategory? hnumeric
    | none =>
        rw [hnumeric] at h
        exact exists_carries_of_referenceCategory? h

/-- A valid conversion is carried out by one of the rules. -/
theorem exists_carries (hvalid : r.isConvertible source target = true) :
    ∃ run, r.Carries source target (r.category source target) run := by
  rcases r.category_cases source target with hbuiltin | ⟨key, c, hget, hcustom⟩ | hinvalid
  · exact exists_carries_of_builtinCategory? hbuiltin
  · rw [hcustom]
    exact ⟨_, .custom hget⟩
  · have hcategory : (r.category source target).isValid = true := hvalid
    rw [hinvalid] at hcategory
    cases hcategory

/-! ## What is built -/

theorem Carries.handler_eq {run : Mode → Converter}
    (h : r.Carries source target (r.category source target) run) (mode : Mode) :
    r.handler (r.conversionBetween source target) mode = .ok (run mode) := by
  unfold handler conversionBetween
  generalize r.category source target = category at h
  cases h with
  | custom hget => simp only [hget]
  | _ => rfl

/-- The converters between two types are those of a rule, behind the answer to `null`. -/
theorem exists_converters (hvalid : r.isConvertible source target = true) :
    ∃ run, r.Carries source target (r.category source target) run ∧
      ∀ mode, r.converterBetween source target mode =
        .ok (Converter.guardNull (r.traits target).isNullable (r.nameOf target) (run mode)) := by
  rcases exists_carries hvalid with ⟨run, hrule⟩
  refine ⟨run, hrule, ?_⟩
  intro mode
  unfold converterBetween converter
  rw [hrule.handler_eq mode]
  rfl

/-! ## Casts -/

/-- Cast a value from one type to another. -/
def castBetween (r : Registry) (source target : TypeHash) (mode : Mode) (v : Value) :
    Except CastError Value :=
  ((r.converterBetween source target mode).mapError BuildError.cause).bind fun run => run v

theorem castBetween_of_converterBetween {mode : Mode} {run : Converter}
    (hrun : r.converterBetween source target mode = .ok run) (v : Value) :
    r.castBetween source target mode v = run v := by
  rw [castBetween, hrun]
  rfl

end Registry
end Recast
