import Recast.Proofs.Registry.References

/-!
# WellFormed — the invariant of a registry

`Registry.WellFormed` says that every declaration stands under its own hash, that the declared types
are `TypeTable.Orderly`, and that conversions lead between known types.

* `Registry.Reachable.wellFormed`: registrations keep a registry well formed, whatever is asked;
* `Registry.wellFormed_and_accepts_exactly`: and they refuse nothing that would keep it so.
-/

namespace Recast
namespace Registry

variable {r : Registry}

/-- Hashes, references and conversions are in order. -/
structure WellFormed (r : Registry) : Prop where
  /-- A declaration stands under its own hash. -/
  hash_eq : ∀ {h e}, r.get? h = some e → e.hash = h
  orderly : r.typeTable.Orderly
  /-- A conversion leads between known types. -/
  isKnown_ends : ∀ {key c}, r.conversion? key = some c →
    r.isKnown key.source = true ∧ r.isKnown key.target = true

theorem isKnown_iff {h : TypeHash} :
    r.isKnown h = true ↔ (∃ e, r.get? h = some e) ∨ ∃ k, Kind.ofHash? h = some k := by
  have hcontains : r.contains h = (r.get? h).isSome := rfl
  simp only [isKnown, hcontains, Bool.or_eq_true, Option.isSome_iff_exists]

theorem isKnown_insert {e : TypeDecl} {h : TypeHash} (hknown : r.isKnown h = true) :
    (r.insert e).isKnown h = true := by
  rcases isKnown_iff.1 hknown with ⟨d, hget⟩ | hkind
  · exact isKnown_iff.2 (Or.inl ⟨d, get?_insert_of_eq_some hget⟩)
  · exact isKnown_iff.2 (Or.inr hkind)

/-! ## Every registration keeps the invariant -/

theorem wellFormed_empty : WellFormed empty := by
  refine ⟨?_, ⟨?_, ?_⟩, ?_⟩
  · intro h e hget
    cases hget
  · intro h e hget
    cases hget
  · intro h hcycle
    rcases hcycle with hlast | ⟨-, hlast⟩
    all_goals
      rcases hlast with ⟨e, hget, -⟩
      cases hget
  · intro key c hget
    cases hget

theorem WellFormed.insert {e : TypeDecl} (hr : r.WellFormed) (hfree : r.get? e.hash = none)
    (hcheck : r.checkReferences e = .ok ()) : (r.insert e).WellFormed := by
  rcases checkReferences_eq_ok_iff.1 hcheck with ⟨hrefers, hself⟩
  refine ⟨?_, hr.orderly.extendTypes hfree hrefers hself, ?_⟩
  · intro h d hget
    rcases get?_insert_cases hfree hget with hold | ⟨rfl, rfl⟩ | ⟨-, rfl, rfl⟩
    · exact hr.hash_eq hold
    · rfl
    · rfl
  · intro key c hget
    have hends : r.isKnown key.source = true ∧ r.isKnown key.target = true :=
      hr.isKnown_ends hget
    exact ⟨isKnown_insert hends.1, isKnown_insert hends.2⟩

theorem conversion?_withConversion {key : TypePair} {unchecked : Converter}
    {checked : Option Converter} (hfree : r.conversion? key = none) (key' : TypePair) :
    (r.withConversion key unchecked checked).conversion? key' =
      if key' = key then
        some (.ofConverters key unchecked checked)
      else
        r.conversion? key' :=
  Table.get?_insertNew_of_eq_none hfree key' _

theorem WellFormed.withConversion {key : TypePair} (hr : r.WellFormed) (unchecked : Converter)
    (checked : Option Converter) (hsource : r.isKnown key.source = true)
    (htarget : r.isKnown key.target = true) (hfree : r.conversion? key = none) :
    (r.withConversion key unchecked checked).WellFormed := by
  refine ⟨hr.hash_eq, hr.orderly, ?_⟩
  intro key' c hget
  have hgrown := (conversion?_withConversion hfree key').symm.trans hget
  split at hgrown
  · rename_i heq
    subst heq
    exact ⟨hsource, htarget⟩
  · exact hr.isKnown_ends hgrown

theorem Reachable.wellFormed (hr : Reachable r) : r.WellFormed := by
  refine hr.induction_on_insert (motive := WellFormed) wellFormed_empty ?_ ?_
  · intro r e ih hfree hcheck
    exact ih.insert hfree hcheck
  · intro r key unchecked checked ih hsource htarget hfree
    exact ih.withConversion unchecked checked hsource htarget hfree

/-! ## Exact acceptance -/

theorem exists_declare_eq_ok_iff (hr : r.WellFormed) {e : TypeDecl} :
    (∃ grown, r.declare e = .ok grown) ↔
      r.get? e.hash = none ∧ (r.typeTable.add e).Orderly := by
  constructor
  · rintro ⟨grown, h⟩
    rcases declare_eq_ok_iff.1 h with ⟨hfree, hcheck, -⟩
    exact ⟨hfree,
      (TypeTable.orderly_add_iff hfree hr.orderly).2 (checkReferences_eq_ok_iff.1 hcheck)⟩
  · rintro ⟨hfree, hgrown⟩
    have hcheck := checkReferences_eq_ok_iff.2
      ((TypeTable.orderly_add_iff hfree hr.orderly).1 hgrown)
    exact ⟨r.insert e, declare_eq_ok_iff.2 ⟨hfree, hcheck, rfl⟩⟩

theorem exists_addConversion_eq_ok_iff {key : TypePair} {unchecked : Converter}
    {checked : Option Converter} :
    (∃ grown, r.addConversion key unchecked checked = .ok grown) ↔
      r.isKnown key.source = true ∧ r.isKnown key.target = true ∧ r.conversion? key = none := by
  constructor
  · rintro ⟨grown, h⟩
    rcases addConversion_eq_ok_iff.1 h with ⟨hsource, htarget, hfree, -⟩
    exact ⟨hsource, htarget, hfree⟩
  · rintro ⟨hsource, htarget, hfree⟩
    exact ⟨_, addConversion_eq_ok_iff.2 ⟨hsource, htarget, hfree, rfl⟩⟩

theorem register_of_refused {g : Registration} {refusal : RegistrationError}
    (h : (r.register g).1 = some refusal) : r.register g = (some refusal, r) := by
  cases hattempt : r.attempt g with
  | ok grown =>
      cases (congrArg Prod.fst (register_of_ok hattempt)).symm.trans h
  | error refusal' =>
      have hregister := register_of_error hattempt
      cases (congrArg Prod.fst hregister).symm.trans h
      exact hregister

/-- A reachable registry is well formed.  It takes in exactly the declarations under a free hash
that leave its types in order, and exactly the conversions of a free pair of known types.  What it
takes in stands under its key afterwards, and a refusal changes nothing. -/
theorem wellFormed_and_accepts_exactly (hr : Reachable r) :
    r.WellFormed ∧
      (∀ e, ((∃ grown, r.declare e = .ok grown) ↔
          r.get? e.hash = none ∧ (r.typeTable.add e).Orderly) ∧
        ∀ grown, r.declare e = .ok grown → grown.get? e.hash = some e) ∧
      (∀ key unchecked checked, ((∃ grown, r.addConversion key unchecked checked = .ok grown) ↔
          r.isKnown key.source = true ∧ r.isKnown key.target = true ∧ r.conversion? key = none) ∧
        ∀ grown, r.addConversion key unchecked checked = .ok grown →
          grown.conversion? key = some (.ofConverters key unchecked checked)) ∧
      ∀ g refusal, (r.register g).1 = some refusal → (r.register g).2 = r := by
  have hwell := hr.wellFormed
  refine ⟨hwell, ?_, ?_, ?_⟩
  · intro e
    refine ⟨exists_declare_eq_ok_iff hwell, ?_⟩
    intro grown h
    rcases declare_eq_ok_iff.1 h with ⟨hfree, -, rfl⟩
    exact get?_insert_self hfree
  · intro key unchecked checked
    refine ⟨exists_addConversion_eq_ok_iff, ?_⟩
    intro grown h
    rcases addConversion_eq_ok_iff.1 h with ⟨-, -, hfree, rfl⟩
    simpa using conversion?_withConversion hfree key
  · intro g refusal h
    exact congrArg Prod.snd (register_of_refused h)

theorem wellFormed_sketch :
    Reachable sketch ∧ sketch.WellFormed ∧ (sketch.get? ⟨5⟩).isSome = true ∧
      ∀ e, (∃ grown, sketch.declare e = .ok grown) ↔
        sketch.get? e.hash = none ∧ (sketch.typeTable.add e).Orderly := by
  have h := wellFormed_and_accepts_exactly reachable_sketch
  exact ⟨reachable_sketch, h.1, by decide, fun e => (h.2.1 e).1⟩

end Registry
end Recast
