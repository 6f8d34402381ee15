import Mathlib.Order.Defs.Unbundled
import Recast.Proofs.Inheritance.Linking
import Recast.Proofs.Registry.WellFormed

/-!
# Hierarchy — the inheritance graph and the declarations

The inheritance graph of a registry is kept beside the declarations.  `Registry.Mirrors` says that
it shows what is declared: no node is missing, and no edge was refused.

* `Registry.Reachable.mirrors`: registrations keep it so;
* `Registry.inheritance_mirrors_declarations`: hence to be a subtype is to be declared so, in one
  step or more, and this is an order.
-/

namespace Recast
namespace Registry

variable {r : Registry} {e : TypeDecl} {d s a b h : TypeHash}

/-- The supertypes that are declared for a type, in order. -/
def declaredSupertypes (r : Registry) (h : TypeHash) : List TypeHash :=
  ((r.get? h).map TypeDecl.supertypes).getD []

theorem supertype_iff_mem_declaredSupertypes :
    r.typeTable.Supertype d s ↔ s ∈ r.declaredSupertypes d := by
  rw [TypeTable.Supertype, get?_typeTable, declaredSupertypes]
  cases hget : r.get? d <;> simp

/-- The graph shows the declarations. -/
structure Mirrors (r : Registry) : Prop where
  nodes_nodup : r.inheritance.nodes.Nodup
  /-- The nodes are the classes and interfaces. -/
  mem_nodes_iff : ∀ {h}, h ∈ r.inheritance.nodes ↔
    ∃ e, r.get? h = some e ∧ (e.isClass || e.isInterface) = true
  /-- The edges are the declared supertypes, each at its first place, the last one first. -/
  supertypes_eq : ∀ h, r.inheritance.supertypes h = (r.declaredSupertypes h).eraseDups.reverse

theorem Mirrors.mem_supertypes_iff (hr : r.Mirrors) :
    s ∈ r.inheritance.supertypes d ↔ r.typeTable.Supertype d s := by
  rw [hr.supertypes_eq, supertype_iff_mem_declaredSupertypes, List.mem_reverse, List.mem_eraseDups]

/-! ## One more declaration -/

theorem supertypes_eq_nil (hsort : (e.isClass || e.isInterface) = false) : e.supertypes = [] := by
  cases e with
  | classType e => cases hsort
  | interface e => cases hsort
  | primitive e => rfl
  | enumType e => rfl
  | nullable e => rfl

theorem declaredSupertypes_insert (hfree : r.get? e.hash = none) (h : TypeHash) :
    (r.insert e).declaredSupertypes h =
      if h = e.hash then e.supertypes else r.declaredSupertypes h := by
  unfold declaredSupertypes
  by_cases hself : h = e.hash
  · simp [hself, get?_insert_self hfree]
  · simp only [get?_insert hfree, if_neg hself]
    split
    -- A wrapper that is added has no supertypes, as before.
    · cases r.get? h <;> rfl
    · rfl

theorem declares_insert_iff (hfree : r.get? e.hash = none) {p : TypeDecl → Bool}
    (hwrapper : ∀ w, p (.nullable w) = false) :
    (r.insert e).typeTable.Declares p h ↔ r.typeTable.Declares p h ∨ (h = e.hash ∧ p e = true) := by
  constructor
  · rintro ⟨d, hget, hd⟩
    rcases get?_insert_cases hfree hget with hold | ⟨rfl, rfl⟩ | ⟨-, -, rfl⟩
    · exact Or.inl ⟨d, hold, hd⟩
    · exact Or.inr ⟨rfl, hd⟩
    · cases (hwrapper _).symm.trans hd
  · rintro (⟨d, hold, hd⟩ | ⟨rfl, hd⟩)
    · exact ⟨d, get?_insert_of_eq_some hold, hd⟩
    · exact ⟨e, get?_insert_self hfree, hd⟩

theorem inheritance_insert_of_sort (hsort : (e.isClass || e.isInterface) = true) :
    (r.insert e).inheritance =
      e.supertypes.foldl (fun g s => g.link e.hash s) (r.inheritance.addNode e.hash) := by
  simp [Registry.insert, extendInheritance, hsort]

theorem inheritance_insert_of_not_sort (hsort : (e.isClass || e.isInterface) = false) :
    (r.insert e).inheritance = r.inheritance := by
  simp [Registry.insert, extendInheritance, hsort]

section Insertion

variable (hwell : r.WellFormed) (hr : r.Mirrors) (hfree : r.get? e.hash = none)
  (hcheck : r.checkReferences e = .ok ())
include hwell hr hfree hcheck

/-- What is about to be declared is nobody's supertype, and its own supertypes are there. -/
theorem Mirrors.lowest_addNode :
    (r.inheritance.addNode e.hash).Lowest e.hash ∧
      ∀ s ∈ e.supertypes, s ∈ (r.inheritance.addNode e.hash).nodes ∧ s ≠ e.hash := by
  rcases checkReferences_eq_ok_iff.1 hcheck with ⟨hrefers, hself⟩
  refine ⟨?_, ?_⟩
  -- An edge would be declared, and every declared supertype is declared itself.
  · intro t hmem
    have hmem' : e.hash ∈ r.inheritance.supertypes t := by
      simpa [Inheritance.supertypes] using hmem
    exact hwell.orderly.not_supertype_of_free hfree (hr.mem_supertypes_iff.1 hmem')
  · intro s hs
    have hnode : s ∈ r.inheritance.nodes :=
      hr.mem_nodes_iff.2 (hrefers.get?_of_mem_supertypes hs)
    refine ⟨Inheritance.mem_nodes_addNode_iff.2 (Or.inl hnode), ?_⟩
    rintro rfl
    exact hself hs

theorem Mirrors.nodes_insert :
    (r.insert e).inheritance.nodes =
      if (e.isClass || e.isInterface) = true then
        (r.inheritance.addNode e.hash).nodes
      else
        r.inheritance.nodes := by
  cases hsort : e.isClass || e.isInterface with
  | false =>
      simp [inheritance_insert_of_not_sort hsort]
  | true =>
      rcases hr.lowest_addNode hwell hfree hcheck with ⟨hlow, hss⟩
      have hlinked := hlow.foldl_link (Inheritance.mem_nodes_addNode_iff.2 (Or.inr rfl)) hss
      simpa [inheritance_insert_of_sort hsort] using hlinked.2.1

theorem Mirrors.supertypes_insert (h : TypeHash) :
    (r.insert e).inheritance.supertypes h =
      if h = e.hash then e.supertypes.eraseDups.reverse else r.inheritance.supertypes h := by
  have hown : r.inheritance.supertypes e.hash = [] := by
    simpa [declaredSupertypes, hfree] using hr.supertypes_eq e.hash
  cases hsort : e.isClass || e.isInterface with
  | false =>
      by_cases hself : h = e.hash
      · simp [inheritance_insert_of_not_sort hsort, hself, hown, supertypes_eq_nil hsort]
      · simp [inheritance_insert_of_not_sort hsort, hself]
  | true =>
      rcases hr.lowest_addNode hwell hfree hcheck with ⟨hlow, hss⟩
      have hlinked := hlow.foldl_link (Inheritance.mem_nodes_addNode_iff.2 (Or.inr rfl)) hss
      have hadd : ∀ t,
          (r.inheritance.addNode e.hash).supertypes t = r.inheritance.supertypes t := by
        simp [Inheritance.supertypes]
      by_cases hself : h = e.hash
      · calc
          (r.insert e).inheritance.supertypes h
              = e.supertypes.foldl (fun kept s => kept.insert s)
                  ((r.inheritance.addNode e.hash).supertypes e.hash) := by
                simpa [inheritance_insert_of_sort hsort, hself] using hlinked.2.2.1
          _ = e.supertypes.foldl (fun kept s => kept.insert s) [] := by simp [hadd, hown]
          _ = e.supertypes.eraseDups.reverse := foldl_insert e.supertypes
          _ = if h = e.hash then e.supertypes.eraseDups.reverse
                else r.inheritance.supertypes h := by simp [hself]
      · simpa [inheritance_insert_of_sort hsort, hself, hadd] using hlinked.2.2.2 h hself

theorem Mirrors.insert : (r.insert e).Mirrors := by
  refine ⟨?_, ?_, ?_⟩
  · rw [hr.nodes_insert hwell hfree hcheck]
    split
    · exact Inheritance.nodup_nodes_addNode hr.nodes_nodup
    · exact hr.nodes_nodup
  · intro h
    refine Iff.trans ?_ (declares_insert_iff hfree fun _ => rfl).symm
    rw [hr.nodes_insert hwell hfree hcheck]
    split
    · rename_i hsort
      simp [Inheritance.mem_nodes_addNode_iff, hr.mem_nodes_iff, TypeTable.Declares, get?_typeTable,
        hsort]
    · rename_i hsort
      simp [hr.mem_nodes_iff, TypeTable.Declares, get?_typeTable, hsort]
  · intro h
    rw [hr.supertypes_insert hwell hfree hcheck, declaredSupertypes_insert hfree]
    split
    · rfl
    · exact hr.supertypes_eq h

end Insertion

theorem mirrors_empty : Mirrors empty := by
  refine ⟨List.nodup_nil, ?_, ?_⟩
  · intro h
    constructor
    · intro hmem
      cases hmem
    · rintro ⟨e, hget, -⟩
      cases hget
  · intro h
    rfl

theorem Reachable.mirrors (hr : Reachable r) : r.Mirrors := by
  -- That no link is refused rests on the references, which are in order at every step.
  have hboth : r.WellFormed ∧ r.Mirrors := by
    refine hr.induction_on_insert (motive := fun r => r.WellFormed ∧ r.Mirrors)
      ⟨wellFormed_empty, mirrors_empty⟩ ?_ ?_
    · rintro r e ⟨hwell, hr⟩ hfree hcheck
      exact ⟨hwell.insert hfree hcheck, hr.insert hwell hfree hcheck⟩
    · rintro r key unchecked checked ⟨hwell, hr⟩ hsource htarget hfree
      exact ⟨hwell.withConversion unchecked checked hsource htarget hfree,
        ⟨hr.nodes_nodup, hr.mem_nodes_iff, hr.supertypes_eq⟩⟩
  exact hboth.2

/-! ## Subtypes -/

theorem Mirrors.links_eq (hr : r.Mirrors) :
    Inheritance.Links r.inheritance.edges = r.typeTable.Supertype := by
  funext d s
  exact propext (Inheritance.mem_supertypes_iff.symm.trans hr.mem_supertypes_iff)

theorem Mirrors.reaches_iff (hr : r.Mirrors) :
    r.inheritance.Reaches d a ↔ d = a ∨ Relation.TransGen r.typeTable.Supertype d a := by
  rw [← hr.links_eq]
  exact Inheritance.reaches_iff

/-- To be a strict subtype is to be declared so, in one step or more. -/
theorem Reachable.isStrictSubtype_iff (hr : Reachable r) :
    r.isStrictSubtype d a = true ↔ Relation.TransGen r.typeTable.Supertype d a := by
  have hacyclic := hr.wellFormed.orderly.acyclic
  refine Inheritance.isStrictSupertype_iff.trans ?_
  rw [hr.mirrors.reaches_iff]
  constructor
  · rintro ⟨hne, heq | hpath⟩
    · exact absurd heq.symm hne
    · exact hpath
  · intro hpath
    refine ⟨?_, Or.inr hpath⟩
    rintro rfl
    exact hacyclic _ hpath

theorem isStrictOrder_isStrictSubtype (hr : Reachable r) :
    IsStrictOrder TypeHash (fun d a => r.isStrictSubtype d a = true) := by
  have hacyclic := hr.wellFormed.orderly.acyclic
  have hirrefl : ∀ d, ¬ r.isStrictSubtype d d = true := by
    intro d hstrict
    exact hacyclic d (hr.isStrictSubtype_iff.1 hstrict)
  have htrans : ∀ d s a, r.isStrictSubtype d s = true → r.isStrictSubtype s a = true →
      r.isStrictSubtype d a = true := by
    intro d s a hds hsa
    have hpath := (hr.isStrictSubtype_iff.1 hds).trans (hr.isStrictSubtype_iff.1 hsa)
    exact hr.isStrictSubtype_iff.2 hpath
  exact { irrefl := hirrefl, trans := htrans }

theorem isPartialOrder_isSubtype (hr : Reachable r) :
    IsPartialOrder TypeHash (fun d a => r.isSubtype d a = true) := by
  have hantisymm : ∀ d a, r.isSubtype d a = true → r.isSubtype a d = true → d = a := by
    intro d a hda had
    rcases hr.mirrors.reaches_iff.1 (isSubtype_iff.1 hda) with heq | hup
    · exact heq
    · rcases hr.mirrors.reaches_iff.1 (isSubtype_iff.1 had) with heq | hdown
      · exact heq.symm
      · exact absurd (hup.trans hdown) (hr.wellFormed.orderly.acyclic d)
  exact
    { refl := r.isSubtype_refl
      trans := fun d s a hds hsa => isSubtype_trans hds hsa
      antisymm := hantisymm }

/-- The graph of a reachable registry has the classes and interfaces as its nodes and their
declared supertypes as its edges, and when a declaration is taken in, none of its links is refused.
Subtyping is the closure of the declared supertypes, and an order. -/
theorem inheritance_mirrors_declarations (hr : Reachable r) :
    (r.inheritance.nodes.Nodup ∧ ∀ h, h ∈ r.inheritance.nodes ↔
        ∃ e, r.get? h = some e ∧ (e.isClass || e.isInterface) = true) ∧
      (∀ h, r.inheritance.supertypes h = (r.declaredSupertypes h).eraseDups.reverse) ∧
      (∀ e, (∃ grown, r.declare e = .ok grown) → ∀ done s rest, e.supertypes = done ++ s :: rest →
        (done.foldl (fun g s => g.link e.hash s) (r.inheritance.addNode e.hash)).link? e.hash s
          ≠ none) ∧
      (∀ d a, r.isStrictSubtype d a = true ↔ Relation.TransGen r.typeTable.Supertype d a) ∧
      IsStrictOrder TypeHash (fun d a => r.isStrictSubtype d a = true) ∧
      IsPartialOrder TypeHash (fun d a => r.isSubtype d a = true) := by
  have hmirrors := hr.mirrors
  refine ⟨⟨hmirrors.nodes_nodup, fun h => hmirrors.mem_nodes_iff⟩, hmirrors.supertypes_eq, ?_,
    fun d a => hr.isStrictSubtype_iff, isStrictOrder_isStrictSubtype hr,
    isPartialOrder_isSubtype hr⟩
  rintro e ⟨grown, hok⟩ done s rest heq
  rcases declare_eq_ok_iff.1 hok with ⟨hfree, hcheck, -⟩
  rcases hmirrors.lowest_addNode hr.wellFormed hfree hcheck with ⟨hlow, hss⟩
  refine hlow.link?_foldl_link_ne_none (Inheritance.mem_nodes_addNode_iff.2 (Or.inr rfl)) ?_ ?_
  · intro s' hs'
    exact hss s' (by simp [heq, hs'])
  · exact (hss s (by simp [heq])).2

theorem inheritance_mirrors_sketch :
    Reachable sketch ∧ sketch.declaredSupertypes ⟨5⟩ = [⟨4⟩, ⟨2⟩, ⟨3⟩, ⟨2⟩] ∧
      sketch.inheritance.supertypes ⟨5⟩ = [⟨3⟩, ⟨2⟩, ⟨4⟩] ∧
      Relation.TransGen sketch.typeTable.Supertype ⟨5⟩ ⟨1⟩ := by
  have h := inheritance_mirrors_declarations reachable_sketch
  have hdeclared : sketch.declaredSupertypes ⟨5⟩ = [⟨4⟩, ⟨2⟩, ⟨3⟩, ⟨2⟩] := by decide
  refine ⟨reachable_sketch, hdeclared, ?_, (h.2.2.2.1 ⟨5⟩ ⟨1⟩).1 (by decide)⟩
  rw [h.2.1, hdeclared]
  decide

end Registry
end Recast
