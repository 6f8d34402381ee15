import Mathlib.Logic.Relation
import Recast.Proofs.Registry.Hierarchy
import Recast.Proofs.Registry.Wrappers

/-!
# Extension — what stays as a registry grows

A registry `Registry.Extends` another one if it keeps all declarations, supertypes and conversions.
What it has to add concerns new types only, since nothing refers to a type before it is declared.

* `Registry.Leads.extends`: registrations extend a registry;
* `Registry.Extends.traits_eq`: a known type keeps its traits;
* `Registry.isStrictSubtype_insert`: a declaration changes the supertypes of its own type only.
-/

namespace Recast
namespace Registry

variable {r mid grown : Registry} {e : TypeDecl} {a d h : TypeHash}

/-! ## Ends of the relations between types -/

/-- Supertypes lead from classes and interfaces to classes and interfaces. -/
theorem Reachable.declares_of_isStrictSubtype (hr : Reachable r)
    (hsub : r.isStrictSubtype d a = true) :
    r.typeTable.Declares (fun e => e.isClass || e.isInterface) d ∧
      r.typeTable.Declares (fun e => e.isClass || e.isInterface) a := by
  have hpath := hr.isStrictSubtype_iff.1 hsub
  refine ⟨?_, ?_⟩
  · rcases Relation.TransGen.head'_iff.1 hpath with ⟨s, ⟨e, hget, hs⟩, -⟩
    refine ⟨e, hget, ?_⟩
    cases hsort : e.isClass || e.isInterface with
    | true => exact hsort
    | false =>
        rw [supertypes_eq_nil hsort] at hs
        cases hs
  · rcases Relation.TransGen.tail'_iff.1 hpath with ⟨s, -, ⟨e, hget, ha⟩⟩
    exact (hr.wellFormed.orderly.refersWell hget).get?_of_mem_supertypes ha

theorem isKnown_of_declares {p : TypeDecl → Bool} (hdecl : r.typeTable.Declares p h) :
    r.isKnown h = true := by
  rcases hdecl with ⟨e, hget, -⟩
  exact isKnown_iff.2 (Or.inl ⟨e, hget⟩)

/-- What is not known has no wrapper. -/
theorem strip_of_not_isKnown (hunknown : r.isKnown h = false) : r.strip h = h := by
  apply strip_of_nullableInner?_eq_none
  rw [traits_eq_unknown_iff.2 hunknown]
  rfl

/-- A type is known exactly if it is without its wrapper. -/
theorem WellFormed.isKnown_strip (hr : r.WellFormed) (h : TypeHash) :
    r.isKnown (r.strip h) = r.isKnown h := by
  rcases hr.strip_cases h with ⟨hstrip, -⟩ | hdecl
  · rw [hstrip]
  · have hknown := isKnown_of_declares hdecl
    rw [hknown]
    cases hunknown : r.isKnown h with
    | true => rfl
    | false =>
        rw [strip_of_not_isKnown hunknown] at hknown
        exact hknown.symm.trans hunknown

/-! ## One more declaration -/

theorem supertype_insert_iff (hfree : r.get? e.hash = none) {s : TypeHash} :
    (r.insert e).typeTable.Supertype d s ↔ (r.typeTable.add e).Supertype d s := by
  have hempty : r.declaredSupertypes e.hash = [] := by simp [declaredSupertypes, hfree]
  rw [TypeTable.supertype_add_iff (t := r.typeTable) hfree, supertype_iff_mem_declaredSupertypes,
    supertype_iff_mem_declaredSupertypes, declaredSupertypes_insert hfree]
  by_cases hself : d = e.hash
  · simp [hself, hempty]
  · simp [hself]

/-- A declaration changes the supertypes of its own type only. -/
theorem isStrictSubtype_insert (hr : Reachable r) (hfree : r.get? e.hash = none)
    (hcheck : r.checkReferences e = .ok ()) (hne : d ≠ e.hash) :
    (r.insert e).isStrictSubtype d a = r.isStrictSubtype d a := by
  have hgrown := hr.insert hfree hcheck
  have htarget : ∀ {d s}, (r.typeTable.add e).Supertype d s → s ≠ e.hash :=
    hr.wellFormed.orderly.ne_hash_of_supertype_add hfree (checkReferences_eq_ok_iff.1 hcheck).2
  rw [Bool.eq_iff_iff, hgrown.isStrictSubtype_iff, hr.isStrictSubtype_iff]
  constructor
  · intro hpath
    have hadd : Relation.TransGen (r.typeTable.add e).Supertype d a :=
      Relation.TransGen.mono (fun _ _ => (supertype_insert_iff hfree).1) d a hpath
    exact TypeTable.transGen_of_add hfree htarget hne hadd
  · intro hpath
    refine Relation.TransGen.mono (fun _ _ hstep => ?_) d a hpath
    exact (supertype_insert_iff hfree).2 ((TypeTable.supertype_add_iff hfree).2 (Or.inr hstep))

/-! ## Extensions -/

/-- All that one registry declares or has registered, another one has as well. -/
structure Extends (r grown : Registry) : Prop where
  get?_of_eq_some : ∀ {h d}, r.get? h = some d → grown.get? h = some d
  isStrictSubtype : ∀ {d a}, r.isStrictSubtype d a = true → grown.isStrictSubtype d a = true
  conversion?_of_eq_some : ∀ {key c}, r.conversion? key = some c → grown.conversion? key = some c

theorem Extends.refl (r : Registry) : r.Extends r :=
  ⟨id, id, id⟩

theorem Extends.trans (hlower : r.Extends mid) (hupper : mid.Extends grown) : r.Extends grown :=
  ⟨fun h => hupper.get?_of_eq_some (hlower.get?_of_eq_some h),
    fun h => hupper.isStrictSubtype (hlower.isStrictSubtype h),
    fun h => hupper.conversion?_of_eq_some (hlower.conversion?_of_eq_some h)⟩

theorem Reachable.extends_insert (hr : Reachable r) (hfree : r.get? e.hash = none)
    (hcheck : r.checkReferences e = .ok ()) : r.Extends (r.insert e) := by
  refine ⟨get?_insert_of_eq_some, ?_, id⟩
  intro d a hsub
  rw [isStrictSubtype_insert hr hfree hcheck]
  · exact hsub
  · rintro rfl
    rcases (hr.declares_of_isStrictSubtype hsub).1 with ⟨d, hget, -⟩
    cases hfree.symm.trans hget

theorem extends_withConversion {key : TypePair} {unchecked : Converter} {checked : Option Converter}
    (hfree : r.conversion? key = none) : r.Extends (r.withConversion key unchecked checked) := by
  refine ⟨id, id, ?_⟩
  intro key' c hget
  rw [conversion?_withConversion hfree]
  split
  · rename_i heq
    rw [heq] at hget
    cases hfree.symm.trans hget
  · exact hget

theorem Leads.extends (hleads : r.Leads grown) (hr : Reachable r) : r.Extends grown := by
  refine hleads.induction_on_insert (motive := r.Extends) (.refl r) ?_ ?_
  · intro mid e hmid ih hfree hcheck
    exact ih.trans ((hr.of_leads hmid).extends_insert hfree hcheck)
  · intro mid key unchecked checked _ ih _ _ hfree
    exact ih.trans (extends_withConversion hfree)

theorem traits_eq_of_isKnown (hkeeps : ∀ {d}, r.get? h = some d → grown.get? h = some d)
    (hknown : r.isKnown h = true) : grown.traits h = r.traits h := by
  rcases isKnown_iff.1 hknown with ⟨d, hget⟩ | ⟨k, hkind⟩
  · exact traits_congr ((hkeeps hget).trans hget.symm)
  · rw [Kind.ofHash?_eq_some_iff.1 hkind, traits_typeHash, traits_typeHash]

/-- A known type keeps its traits. -/
theorem Extends.traits_eq (hle : r.Extends grown) (hknown : r.isKnown h = true) :
    grown.traits h = r.traits h :=
  traits_eq_of_isKnown hle.get?_of_eq_some hknown

/-- A known type keeps its traits, whichever registry the registrations start from. -/
theorem Leads.traits_eq (hleads : r.Leads grown) (hknown : r.isKnown h = true) :
    grown.traits h = r.traits h :=
  traits_eq_of_isKnown hleads.get?_of_eq_some hknown

theorem Extends.strip_eq (hle : r.Extends grown) (hknown : r.isKnown h = true) :
    grown.strip h = r.strip h := by
  simp only [strip, hle.traits_eq hknown]

end Registry
end Recast
