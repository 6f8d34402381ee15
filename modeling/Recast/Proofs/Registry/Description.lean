import Recast.Proofs.Registry.Growth
import Recast.Traits

/-!
# Description — traits and declarations

Two sources say what a type is: the table of kinds, and the declaration under its hash.  The kinds
are asked first.  `Traits.Describes` says that traits tell of a declaration what it is.

* `Registry.traits_describes_iff`: the traits of a type describe its declaration, unless it is
  another one under the hash of a kind;
* `Registry.traits_describe_declaration`: where the primitives were declared first, there is no such
  exception.
-/

namespace Recast
namespace Traits

variable {e : TypeDecl} {k : Kind}

/-- Traits tell of a declaration what it is. -/
structure Describes (t : Traits) (e : TypeDecl) : Prop where
  isValueType_iff : t.isValueType = true ↔ e.semantics = .value
  primitiveKind?_iff : ∀ k, t.primitiveKind? = some k ↔ ∃ p, e = .primitive p ∧ p.kind = k
  enumUnderlying?_iff : ∀ k, t.enumUnderlying? = some k ↔ ∃ d, e = .enumType d ∧ d.underlying = k
  nullableInner?_iff : ∀ h, t.nullableInner? = some h ↔ ∃ w, e = .nullable w ∧ w.inner = h
  /-- Reference classes, interfaces and wrappers have absence. -/
  isNullable_iff : t.isNullable = true ↔
    (e.isClass = true ∧ e.semantics = .reference) ∨ e.isInterface = true ∨ e.isNullable = true

theorem describes_ofDecl (e : TypeDecl) : (ofDecl e).Describes e := by
  cases e with
  | classType c =>
      cases hsem : c.semantics with
      | value => constructor <;> simp [ofDecl, hsem, isValueType, primitiveKind?, enumUnderlying?,
          nullableInner?, isNullable, TypeDecl.semantics, TypeDecl.isClass, TypeDecl.isInterface,
          TypeDecl.isNullable]
      | reference => constructor <;> simp [ofDecl, hsem, isValueType, primitiveKind?,
          enumUnderlying?, nullableInner?, isNullable, TypeDecl.semantics, TypeDecl.isClass]
  | _ => constructor <;> simp [ofDecl, isValueType, primitiveKind?, enumUnderlying?, nullableInner?,
      isNullable, TypeDecl.semantics, TypeDecl.isClass, TypeDecl.isInterface, TypeDecl.isNullable]

/-- The traits of a kind describe no declaration but that of the kind. -/
theorem describes_primitive_iff :
    (primitive k).Describes e ↔ ∃ p, e = .primitive p ∧ p.kind = k := by
  constructor
  · intro h
    exact (h.primitiveKind?_iff k).1 rfl
  · rintro ⟨p, rfl, rfl⟩
    exact describes_ofDecl (.primitive p)

end Traits

namespace Registry

variable {r : Registry} {h : TypeHash} {e : TypeDecl}

theorem traits_describes_iff (hget : r.get? h = some e) :
    (r.traits h).Describes e ↔ ∀ k : Kind, h = k.typeHash → ∃ p, e = .primitive p ∧ p.kind = k := by
  cases hkind : Kind.ofHash? h with
  | some k =>
      have hhash := Kind.ofHash?_eq_some_iff.1 hkind
      rw [hhash, traits_typeHash, Traits.describes_primitive_iff]
      constructor
      · intro hown k' hk'
        rw [← Kind.typeHash_injective hk']
        exact hown
      · intro hall
        exact hall k rfl
  | none =>
      rw [traits_of_get?_eq_some hkind hget]
      refine iff_of_true (Traits.describes_ofDecl e) ?_
      rintro k rfl
      cases hkind.symm.trans (Kind.ofHash?_typeHash k)

theorem get?_builtin_typeHash (k : Kind) :
    builtin.get? k.typeHash = some (.primitive (.ofKind k)) := by
  have hall : ∀ k ∈ Kind.all, builtin.get? k.typeHash = some (.primitive (.ofKind k)) := by decide
  exact hall k (Kind.mem_all k)

/-- The traits of a type describe its declaration, if its hash is not that of a kind.  The hash of a
kind has the traits of the kind, whatever is declared there, so that they describe a primitive of
that kind only.  No other declaration gets there once the primitives are declared. -/
theorem traits_describe_declaration (hget : r.get? h = some e) :
    ((∀ k : Kind, h ≠ k.typeHash) → (r.traits h).Describes e) ∧
      (∀ k : Kind, h = k.typeHash → r.traits h = .primitive k ∧
        ((r.traits h).Describes e ↔ ∃ p, e = .primitive p ∧ p.kind = k)) ∧
      (builtin.Leads r → (r.traits h).Describes e) := by
  refine ⟨?_, ?_, ?_⟩
  · intro hplain
    exact (traits_describes_iff hget).2 fun k hk => absurd hk (hplain k)
  · rintro k rfl
    rw [traits_typeHash]
    exact ⟨rfl, Traits.describes_primitive_iff⟩
  · intro hleads
    refine (traits_describes_iff hget).2 ?_
    rintro k rfl
    have hown := hleads.get?_of_eq_some (get?_builtin_typeHash k)
    cases hget.symm.trans hown
    exact ⟨_, rfl, rfl⟩

/-- An interface, and the primitives with the wrapper of `u8`. -/
theorem traits_describe_declaration_interface :
    (∃ e, sketch.get? ⟨2⟩ = some e ∧ (∀ k : Kind, ⟨2⟩ ≠ k.typeHash) ∧
        (sketch.traits ⟨2⟩).Describes e) ∧
      builtin.Leads builtin ∧ ∃ e, builtin.get? Kind.u8.typeHash.nullable = some e ∧
        (builtin.traits Kind.u8.typeHash.nullable).Describes e := by
  refine ⟨?_, .refl, ?_⟩
  · cases hget : sketch.get? ⟨2⟩ with
    | none => cases hget
    | some e =>
        have hplain : ∀ k : Kind, ⟨2⟩ ≠ k.typeHash := by
          intro k hk
          have hnone : Kind.ofHash? ⟨2⟩ = none := by decide
          cases hnone.symm.trans (Kind.ofHash?_eq_some_iff.2 hk)
        exact ⟨e, rfl, hplain, (traits_describe_declaration hget).1 hplain⟩
  · cases hget : builtin.get? Kind.u8.typeHash.nullable with
    | none => cases hget
    | some e => exact ⟨e, rfl, (traits_describe_declaration hget).2.2 .refl⟩

/-- A reference class under the hash of `i32`. -/
def i32Class : TypeDecl :=
  .classType
    { name := "i32"
      hash := Kind.i32.typeHash
      semantics := .reference
      base := none
      interfaces := [] }

/-- Where the primitives are not declared, a class can be declared under the hash of a kind.  Its
traits are those of the kind. -/
theorem traits_of_class_under_kind :
    Reachable (empty.insert i32Class) ∧
      (empty.insert i32Class).get? Kind.i32.typeHash = some i32Class ∧
      i32Class.semantics = .reference ∧
      (empty.insert i32Class).traits Kind.i32.typeHash = .primitive .i32 ∧
      ¬ ((empty.insert i32Class).traits Kind.i32.typeHash).Describes i32Class := by
  refine ⟨Reachable.start.insert (by decide) rfl, by decide, rfl, traits_typeHash _ _, ?_⟩
  rw [traits_typeHash]
  intro hdescribes
  rcases Traits.describes_primitive_iff.1 hdescribes with ⟨p, heq, -⟩
  cases heq

end Registry
end Recast
