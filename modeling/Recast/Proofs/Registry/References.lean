import Recast.Proofs.Registry.Growth

/-!
# References — what declarations refer to

Declarations refer to each other by hash.  `TypeTable.Orderly` says that every reference leads to a
declaration of the right sort and that no type is a supertype of itself, however many steps apart.

* `TypeTable.orderly_add_iff`: a table stays orderly with one more declaration exactly when the
  references of that declaration are in order and it does not name itself;
* `Registry.checkReferences_eq_ok_iff`: this is what the check of a declaration decides.
-/

namespace Recast

/-- The declared types by hash. -/
abbrev TypeTable : Type := Table TypeHash TypeDecl

namespace TypeTable

/-! ## References -/

/-- A declaration with some property stands under a hash. -/
def Declares (t : TypeTable) (p : TypeDecl → Bool) (h : TypeHash) : Prop :=
  ∃ e, t.get? h = some e ∧ p e = true

/-- What a declaration refers to is declared and of the right sort. -/
def RefersWell (t : TypeTable) : TypeDecl → Prop
  | .primitive _ => True
  | .classType e =>
      (∀ base, e.base = some base → t.Declares TypeDecl.isClass base) ∧
        ∀ i ∈ e.interfaces, t.Declares TypeDecl.isInterface i
  | .enumType e => e.underlying.isInteger = true
  | .interface e => ∀ base ∈ e.bases, t.Declares TypeDecl.isInterface base
  | .nullable e => t.Declares TypeDecl.isWrappable e.inner

/-- The first type names the second one as a direct supertype. -/
def Supertype (t : TypeTable) (d s : TypeHash) : Prop :=
  ∃ e, t.get? d = some e ∧ s ∈ e.supertypes

/-- Every reference is in order, and no type reaches itself through supertypes. -/
structure Orderly (t : TypeTable) : Prop where
  refersWell : ∀ {h e}, t.get? h = some e → t.RefersWell e
  acyclic : ∀ h, ¬ Relation.TransGen t.Supertype h h

section Growth

variable {t t' : TypeTable} {e : TypeDecl} {h : TypeHash} {p : TypeDecl → Bool}

theorem Declares.mono (hle : ∀ {h e}, t.get? h = some e → t'.get? h = some e)
    (hp : t.Declares p h) : t'.Declares p h := by
  rcases hp with ⟨d, hget, hd⟩
  exact ⟨d, hle hget, hd⟩

theorem RefersWell.mono (hle : ∀ {h e}, t.get? h = some e → t'.get? h = some e)
    (he : t.RefersWell e) : t'.RefersWell e := by
  cases e with
  | primitive e =>
      trivial
  | classType e =>
      exact ⟨fun base hbase => (he.1 base hbase).mono hle, fun i hi => (he.2 i hi).mono hle⟩
  | enumType e =>
      exact he
  | interface e =>
      exact fun base hbase => (he base hbase).mono hle
  | nullable e =>
      exact Declares.mono hle he

/-- The supertypes of a declaration whose references are in order are declared. -/
theorem RefersWell.get?_of_mem_supertypes (he : t.RefersWell e) {s : TypeHash}
    (hs : s ∈ e.supertypes) : ∃ d, t.get? s = some d ∧ (d.isClass || d.isInterface) = true := by
  cases e with
  | primitive e =>
      cases hs
  | classType e =>
      rcases List.mem_append.1 hs with hbase | hi
      · rcases he.1 s (by simpa using hbase) with ⟨d, hget, hd⟩
        exact ⟨d, hget, by simp [hd]⟩
      · rcases he.2 s hi with ⟨d, hget, hd⟩
        exact ⟨d, hget, by simp [hd]⟩
  | enumType e =>
      cases hs
  | interface e =>
      rcases he s hs with ⟨d, hget, hd⟩
      exact ⟨d, hget, by simp [hd]⟩
  | nullable e =>
      cases hs

end Growth

/-- What is not declared is nobody's supertype. -/
theorem Orderly.not_supertype_of_free {t : TypeTable} (ht : t.Orderly) {d s : TypeHash}
    (hfree : t.get? s = none) : ¬ t.Supertype d s := by
  rintro ⟨e, hget, hs⟩
  rcases (ht.refersWell hget).get?_of_mem_supertypes hs with ⟨d', hget', -⟩
  cases hfree.symm.trans hget'

/-! ## One more declaration -/

/-- The table with one more declaration under its own hash.  Nothing is added with it, no wrapper in
particular. -/
def add (t : TypeTable) (e : TypeDecl) : TypeTable :=
  t.insertNew e.hash e

section Addition

variable {t : TypeTable} {e : TypeDecl}

theorem get?_add_of_ne {h : TypeHash} (hne : h ≠ e.hash) : (t.add e).get? h = t.get? h :=
  (Table.get?_insertNew t e.hash h e).trans (if_neg hne)

theorem get?_add_of_eq_some {h : TypeHash} {d : TypeDecl} (hget : t.get? h = some d) :
    (t.add e).get? h = some d :=
  Table.get?_insertNew_of_eq_some hget

theorem Declares.of_add {p : TypeDecl → Bool} {h : TypeHash} (hp : (t.add e).Declares p h)
    (hne : h ≠ e.hash) : t.Declares p h := by
  rcases hp with ⟨d, hget, hd⟩
  exact ⟨d, (get?_add_of_ne hne).symm.trans hget, hd⟩

variable (hfree : t.get? e.hash = none)
include hfree

theorem get?_add_self : (t.add e).get? e.hash = some e :=
  (Table.get?_insertNew_of_eq_none hfree e.hash e).trans (if_pos rfl)

theorem RefersWell.of_add (hself : e.hash ∉ e.supertypes)
    (he : (t.add e).RefersWell e) : t.RefersWell e := by
  have hfound := get?_add_self hfree
  -- A reference to anything but the new type was in order before.
  cases e with
  | primitive e =>
      trivial
  | classType e =>
      refine ⟨?_, ?_⟩
      · intro base hbase
        refine (he.1 base hbase).of_add ?_
        rintro rfl
        exact hself (List.mem_append_left _ (by simp [hbase]))
      · intro i hi
        refine (he.2 i hi).of_add ?_
        rintro rfl
        exact hself (List.mem_append_right _ hi)
  | enumType e =>
      exact he
  | interface e =>
      intro base hbase
      refine (he base hbase).of_add ?_
      rintro rfl
      exact hself hbase
  | nullable e =>
      refine Declares.of_add he ?_
      -- A wrapper of itself would wrap a wrapper.
      intro heq
      rcases he with ⟨d, hget, hd⟩
      have hsame : some (TypeDecl.nullable e) = some d := by simpa [heq, hfound] using hget
      cases hsame
      cases hd

theorem supertype_add_iff {d s : TypeHash} :
    (t.add e).Supertype d s ↔
      (d = e.hash ∧ s ∈ e.supertypes) ∨ t.Supertype d s := by
  constructor
  · rintro ⟨d', hget, hs⟩
    by_cases heq : d = e.hash
    · have hsame : some e = some d' := by simpa [heq, get?_add_self hfree] using hget
      cases hsame
      exact Or.inl ⟨heq, hs⟩
    · exact Or.inr ⟨d', (get?_add_of_ne heq).symm.trans hget, hs⟩
  · rintro (⟨rfl, hs⟩ | ⟨d', hget, hs⟩)
    · exact ⟨e, get?_add_self hfree, hs⟩
    · exact ⟨d', get?_add_of_eq_some hget, hs⟩

/-- Nothing leads to the new type, so that a path on which it occurs starts there. -/
theorem transGen_of_add
    (htarget : ∀ {d s}, (t.add e).Supertype d s → s ≠ e.hash) {d a : TypeHash}
    (hd : d ≠ e.hash) (h : Relation.TransGen (t.add e).Supertype d a) :
    Relation.TransGen t.Supertype d a := by
  have hold : ∀ {d s}, d ≠ e.hash → (t.add e).Supertype d s → t.Supertype d s := by
    intro d s hne hstep
    rcases (supertype_add_iff hfree).1 hstep with ⟨heq, -⟩ | hstep
    · exact absurd heq hne
    · exact hstep
  -- By induction from the lower end: the last step starts where an earlier one led to.
  induction h with
  | single hstep =>
      exact .single (hold hd hstep)
  | tail hpath hstep ih =>
      refine .tail ih (hold ?_ hstep)
      cases hpath with
      | single hlast => exact htarget hlast
      | tail _ hlast => exact htarget hlast

/-- No type names the new one, which was not declared before, nor does it name itself. -/
theorem Orderly.ne_hash_of_supertype_add (ht : t.Orderly) (hself : e.hash ∉ e.supertypes)
    {d s : TypeHash} (hstep : (t.add e).Supertype d s) : s ≠ e.hash := by
  rcases (supertype_add_iff hfree).1 hstep with ⟨-, hs⟩ | hold
  · rintro rfl
    exact hself hs
  · rintro rfl
    exact ht.not_supertype_of_free hfree hold

theorem Orderly.add (ht : t.Orderly) (he : t.RefersWell e) (hself : e.hash ∉ e.supertypes) :
    (t.add e).Orderly := by
  have hle : ∀ {h d}, t.get? h = some d → (t.add e).get? h = some d := get?_add_of_eq_some
  have htarget : ∀ {d s}, (t.add e).Supertype d s → s ≠ e.hash :=
    ht.ne_hash_of_supertype_add hfree hself
  refine ⟨?_, ?_⟩
  · intro h d hget
    by_cases heq : h = e.hash
    · have hsame : some e = some d := by simpa [heq, get?_add_self hfree] using hget
      cases hsame
      exact he.mono hle
    · exact (ht.refersWell ((get?_add_of_ne heq).symm.trans hget)).mono hle
  · intro h hcycle
    -- A cycle leads to where it starts, hence not through the new type.
    have hne : h ≠ e.hash := by
      cases hcycle with
      | single hlast => exact htarget hlast
      | tail _ hlast => exact htarget hlast
    exact ht.acyclic h (transGen_of_add hfree htarget hne hcycle)

theorem orderly_add_iff (ht : t.Orderly) :
    (t.add e).Orderly ↔ t.RefersWell e ∧ e.hash ∉ e.supertypes := by
  constructor
  · intro hgrown
    have hfound := get?_add_self hfree
    have hself : e.hash ∉ e.supertypes :=
      fun hs => hgrown.acyclic e.hash (.single ⟨e, hfound, hs⟩)
    exact ⟨RefersWell.of_add hfree hself (hgrown.refersWell hfound), hself⟩
  · rintro ⟨he, hself⟩
    exact ht.add hfree he hself

theorem Orderly.extendTypes (ht : t.Orderly) (he : t.RefersWell e) (hself : e.hash ∉ e.supertypes) :
    TypeTable.Orderly (Registry.extendTypes t e) := by
  have hadd : (t.add e).Orderly := ht.add hfree he hself
  unfold Registry.extendTypes
  split
  · rename_i hwrap
    let wrapper : TypeDecl := .nullable (.wrapping e.hash e.name)
    show ((t.add e).add wrapper).Orderly
    -- The wrapper is one more declaration, unless its hash is taken.
    cases htaken : (t.add e).get? wrapper.hash with
    | none =>
        have hrefers : (t.add e).RefersWell wrapper := ⟨e, get?_add_self hfree, hwrap⟩
        exact hadd.add htaken hrefers List.not_mem_nil
    | some d =>
        have hsame : (t.add e).add wrapper = t.add e := Table.insertNew_of_eq_some htaken
        simpa [hsame] using hadd
  · exact hadd

end Addition

end TypeTable

namespace Registry

/-- The declared types of a registry. -/
def typeTable (r : Registry) : TypeTable :=
  r.types

variable {r : Registry}

theorem get?_typeTable (h : TypeHash) : r.typeTable.get? h = r.get? h :=
  rfl

/-! ## The check of a declaration -/

theorem checkSupertype_eq_ok_iff {name : String} {own base : TypeHash} {accepts : TypeDecl → Bool}
    {fault : BaseFault} :
    r.checkSupertype name own accepts fault base = .ok () ↔
      base ≠ own ∧ r.typeTable.Declares accepts base := by
  unfold checkSupertype require
  by_cases hself : base = own
  · simp [hself]
  · cases hget : r.get? base with
    | none =>
        simp [hself, TypeTable.Declares, get?_typeTable, hget, Except.bind]
    | some d =>
        cases haccepts : accepts d <;>
          simp [hself, TypeTable.Declares, get?_typeTable, hget, Except.bind, haccepts]

theorem checkSupertypes_eq_ok_iff {name : String} {own : TypeHash} {accepts : TypeDecl → Bool}
    {fault : BaseFault} {bases : List TypeHash} :
    r.checkSupertypes name own accepts fault bases = .ok () ↔
      ∀ base ∈ bases, base ≠ own ∧ r.typeTable.Declares accepts base := by
  induction bases with
  | nil =>
      simp [checkSupertypes]
  | cons base bases ih =>
      rw [checkSupertypes, List.forall_mem_cons, ← ih,
        ← @checkSupertype_eq_ok_iff r name own base accepts fault]
      cases r.checkSupertype name own accepts fault base <;> simp [Except.bind]

/-- A declaration passes the check exactly when its references are in order and it does not name
itself as a supertype. -/
theorem checkReferences_eq_ok_iff {e : TypeDecl} :
    r.checkReferences e = .ok () ↔ r.typeTable.RefersWell e ∧ e.hash ∉ e.supertypes := by
  cases e with
  | primitive e =>
      simp [checkReferences, TypeTable.RefersWell, TypeDecl.supertypes]
  | classType e =>
      have hboth : r.checkReferences (.classType e) = .ok () ↔
          r.checkSupertypes e.name e.hash TypeDecl.isClass .notClass e.base.toList = .ok () ∧
            r.checkSupertypes e.name e.hash TypeDecl.isInterface .notInterface e.interfaces =
              .ok () := by
        rw [checkReferences]
        cases r.checkSupertypes e.name e.hash TypeDecl.isClass .notClass e.base.toList <;>
          simp [Except.bind]
      rw [hboth, checkSupertypes_eq_ok_iff, checkSupertypes_eq_ok_iff]
      simp only [TypeTable.RefersWell, TypeDecl.supertypes, TypeDecl.hash, ClassDecl.supertypes,
        List.mem_append, Option.mem_toList, not_or]
      constructor
      · rintro ⟨hbase, hi⟩
        exact ⟨⟨fun b hb => (hbase b hb).2, fun i h => (hi i h).2⟩,
          fun h => (hbase _ h).1 rfl, fun h => (hi _ h).1 rfl⟩
      · rintro ⟨⟨hbase, hi⟩, hne, hne'⟩
        exact ⟨fun b hb => ⟨fun heq => hne (heq ▸ hb), hbase b hb⟩,
          fun i h => ⟨fun heq => hne' (heq ▸ h), hi i h⟩⟩
  | enumType e =>
      simp only [checkReferences, TypeTable.RefersWell, TypeDecl.supertypes]
      split <;> simp_all
  | interface e =>
      simp only [checkReferences, checkSupertypes_eq_ok_iff, TypeTable.RefersWell,
        TypeDecl.supertypes, TypeDecl.hash]
      constructor
      · intro h
        exact ⟨fun b hb => (h b hb).2, fun hself => (h _ hself).1 rfl⟩
      · rintro ⟨h, hself⟩ b hb
        exact ⟨fun heq => hself (heq ▸ hb), h b hb⟩
  | nullable e =>
      simp only [checkReferences, TypeTable.RefersWell, TypeDecl.supertypes, List.not_mem_nil,
        not_false_eq_true, and_true, require]
      cases hget : r.get? e.inner with
      | none =>
          simp [TypeTable.Declares, get?_typeTable, hget, Except.bind]
      | some d =>
          cases hwrap : d.isWrappable <;>
            simp [TypeTable.Declares, get?_typeTable, hget, Except.bind, hwrap]

end Registry
end Recast
