import Recast.Proofs.Conversion.Soundness

/-!
# Refusals — what becomes of foreign values

A value is foreign to a conversion if it is no instance of the type cast from.  Rules that need no
registration refuse it.  A registered conversion is handed every value but `null` as it is, so that
it is up to the registered function what becomes of foreign ones.

A refusal names the type cast to, with its wrapper, unless that type is numeric: then it gives the
name of the kind, and a wrapper does not show.

* `Registry.Carries.refusalName_eq`: where the two names are the same;
* `Registry.foreign_refused_or_registered`: the outcome for foreign values in all cases.
-/

namespace Recast
namespace Registry

variable {r : Registry} {source target : TypeHash}

/-- Without a wrapper, and if kinds go by their own names, a refusal names the type cast to. -/
theorem Carries.refusalName_eq {category : Category} {run : Mode → Converter}
    (hrule : r.Carries source target category run) (hr : Reachable r) (hplace : r.PrimitivesInPlace)
    (hwrapper : r.strip target = target) (hnamed : ∀ k : Kind, r.nameOf k.typeHash = k.name) :
    r.refusalName target category = r.nameOf target := by
  have hkind : ∀ {b : Kind}, (r.traits (r.strip target)).numericKind? = some b →
      b.name = r.nameOf target := by
    intro b hb
    have htraits := (Traits.numericKind?_eq_some_iff.1 hb).1
    calc
      b.name = r.nameOf b.typeHash := (hnamed b).symm
      _ = r.nameOf (r.strip target) := by rw [eq_typeHash_of_traits hr hplace htraits]
      _ = r.nameOf target := by rw [hwrapper]
  cases hrule with
  | widening _ hb _ => exact hkind hb
  | narrowing _ hb _ => exact hkind hb
  | enumToNumeric _ hb => exact hkind hb
  | _ => rfl

/-- Between two types with a conversion there is a converter in either mode, and a value other than
`null` that is no instance of the type cast from comes to one of two ends.  Where no registration is
needed, it is refused, with the name that such refusals give.  Where the conversion is registered,
the registered function decides. -/
theorem foreign_refused_or_registered (hr : Reachable r) (hplace : r.PrimitivesInPlace)
    (hvalid : r.isConvertible source target = true) (mode : Mode) :
    ∃ run, r.converterBetween source target mode = .ok run ∧
      ∀ v, v ≠ .null → ¬ r.IsInstance v (r.conversionBetween source target).stripped →
        ((r.conversionBetween source target).category.isBuiltin = true →
          (∃ text, run v = .error (.invalidCast text
            (r.refusalName target (r.conversionBetween source target).category))) ∧
          (r.strip target = target → (∀ k : Kind, r.nameOf k.typeHash = k.name) →
            ∃ text, run v = .error (.invalidCast text (r.nameOf target)))) ∧
        ∀ key checkedVariant,
          (r.conversionBetween source target).category = .custom key checkedVariant →
          ∃ c, r.conversion? key = some c ∧ run v = (c.casterFor mode).run v := by
  rcases exists_converters hvalid with ⟨handlers, hrule, hrun⟩
  refine ⟨_, hrun mode, ?_⟩
  intro v hv hforeign
  rw [Converter.guardNull_of_ne_null hv]
  refine ⟨?_, ?_⟩
  · intro hbuiltin
    rcases hrule.refuses hr hplace hbuiltin hforeign mode with ⟨text, herror⟩
    refine ⟨⟨text, herror⟩, ?_⟩
    intro hwrapper hnamed
    refine ⟨text, ?_⟩
    rw [herror]
    exact congrArg (fun name => Except.error (CastError.invalidCast text name))
      (hrule.refusalName_eq hr hplace hwrapper hnamed)
  · intro key checkedVariant hcustom
    have hcategory : r.category source target = .custom key checkedVariant := hcustom
    rw [hcategory] at hrule
    cases hrule with
    | custom hget => exact ⟨_, hget, rfl⟩

/-! ## Foreign values that are not refused, or not by the name of the target -/

/-- The primitives, and a conversion from `bool` to `i32` whose function looks at no value. -/
def constantConversion : Registry :=
  (builtin.register
    (.addConversion { source := Kind.bool.typeHash, target := Kind.i32.typeHash }
      (fun _ => .ok (.scalar ⟨.i32, Num.wrap _ 1⟩)) none)).2

/-- Seven as a `u8` is foreign to the casts of `i32` to `i64` and of `bool` to `i32`.  The first
refuses it, the second is registered. -/
theorem foreign_refused_or_registered_constant :
    Reachable constantConversion ∧ constantConversion.PrimitivesInPlace ∧
      (constantConversion.isConvertible Kind.i32.typeHash Kind.i64.typeHash = true ∧
        ∃ run text,
          constantConversion.converterBetween Kind.i32.typeHash Kind.i64.typeHash .checked =
            .ok run ∧
          run (.scalar ⟨.u8, Num.wrap _ 7⟩) = .error (.invalidCast text "i64")) ∧
      constantConversion.isConvertible Kind.bool.typeHash Kind.i32.typeHash = true ∧
        ∃ (run : Converter) (c : RegisteredConversion),
          constantConversion.converterBetween Kind.bool.typeHash Kind.i32.typeHash .checked =
            .ok run ∧
          constantConversion.conversion?
            { source := Kind.bool.typeHash, target := Kind.i32.typeHash } = some c ∧
          run (.scalar ⟨.u8, Num.wrap _ 7⟩) =
            (c.casterFor .checked).run (.scalar ⟨.u8, Num.wrap _ 7⟩) := by
  have hr : Reachable constantConversion := .step _ reachable_builtin
  have hplace : constantConversion.PrimitivesInPlace := primitivesInPlace_of_values (by decide)
  have hnumeric : constantConversion.isConvertible Kind.i32.typeHash Kind.i64.typeHash = true := by
    decide
  have hcustom : constantConversion.isConvertible Kind.bool.typeHash Kind.i32.typeHash = true := by
    decide
  refine ⟨hr, hplace, ⟨hnumeric, ?_⟩, hcustom, ?_⟩
  · rcases foreign_refused_or_registered hr hplace hnumeric .checked with ⟨run, hrun, hforeign⟩
    rcases hforeign (.scalar ⟨.u8, Num.wrap _ 7⟩) (by simp) (by decide) with ⟨hbuiltin, -⟩
    rcases (hbuiltin (by decide)).1 with ⟨text, herror⟩
    exact ⟨run, text, hrun, herror⟩
  · rcases foreign_refused_or_registered hr hplace hcustom .checked with ⟨run, hrun, hforeign⟩
    rcases hforeign (.scalar ⟨.u8, Num.wrap _ 7⟩) (by simp) (by decide) with ⟨-, hregistered⟩
    rcases hregistered _ _ rfl with ⟨c, hget, hanswer⟩
    exact ⟨run, c, hrun, hget, hanswer⟩

/-- The primitives, and a second `i32` under a hash that is not its own. -/
def misplacedPrimitive : Registry :=
  (builtin.register (.declare (.primitive { kind := .i32, hash := ⟨77⟩ }))).2

/-- The cast of `bool` to `i32` answers a `u8`.  The cast of `f64` to `i32?` refuses a `bool` with the
name `i32`, which is not that of the type cast to.  And the cast of a misplaced `i32` to `f64` widens
every `i32`, none of which is an instance of the type cast from. -/
theorem foreign_not_refused_by_target_name :
    Reachable constantConversion ∧ constantConversion.PrimitivesInPlace ∧
      (¬ constantConversion.IsInstance (.scalar ⟨.u8, Num.wrap _ 7⟩)
          (constantConversion.conversionBetween Kind.bool.typeHash Kind.i32.typeHash).stripped ∧
        (constantConversion.converterBetween Kind.bool.typeHash Kind.i32.typeHash .unchecked).map
            (fun run => run (.scalar ⟨.u8, Num.wrap _ 7⟩)) =
          .ok (.ok (.scalar ⟨.i32, Num.wrap _ 1⟩))) ∧
      (¬ constantConversion.IsInstance (.scalar ⟨.bool, true⟩)
          (constantConversion.conversionBetween Kind.f64.typeHash
            Kind.i32.typeHash.nullable).stripped ∧
        (constantConversion.converterBetween Kind.f64.typeHash Kind.i32.typeHash.nullable
            .unchecked).map (fun run => run (.scalar ⟨.bool, true⟩)) =
          .ok (.error (.invalidCast "bool" "i32")) ∧
        constantConversion.nameOf Kind.i32.typeHash.nullable = "i32?") ∧
      Reachable misplacedPrimitive ∧ ¬ misplacedPrimitive.PrimitivesInPlace ∧
        (misplacedPrimitive.conversionBetween ⟨77⟩ Kind.f64.typeHash).category =
          .widening .i32 .f64 ∧
        ¬ misplacedPrimitive.IsInstance (.scalar ⟨.i32, Num.wrap _ 7⟩)
          (misplacedPrimitive.conversionBetween ⟨77⟩ Kind.f64.typeHash).stripped ∧
        (misplacedPrimitive.converterBetween ⟨77⟩ Kind.f64.typeHash .unchecked).map
            (fun run => run (.scalar ⟨.i32, Num.wrap _ 7⟩)) =
          .ok (.ok (.scalar ⟨.f64, Binary.ofInt .double 7⟩)) := by
  refine ⟨.step _ reachable_builtin, primitivesInPlace_of_values (by decide), ⟨by decide, rfl⟩,
    ⟨by decide, rfl, by decide⟩, .step _ reachable_builtin, ?_, by decide, by decide, rfl⟩
  intro hplace
  have hget : misplacedPrimitive.get? ⟨77⟩ = some (.primitive { kind := .i32, hash := ⟨77⟩ }) := by
    decide
  exact absurd (hplace hget) (by decide)

end Registry
end Recast
