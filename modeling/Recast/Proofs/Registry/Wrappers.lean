import Recast.Proofs.Registry.WellFormed
import Recast.Traits

/-!
# Wrappers — value types and the wrappers that add absence to them

A wrapper wraps a declared value type that is no wrapper itself, so that a type without its wrapper
has none left (`Registry.WellFormed.strip_strip`).

The other way round, a value type brings its wrapper along when it is declared.  There is one
exception: a declaration that holds the hash of the wrapper by then keeps it, and the type goes
without a wrapper from then on.

* `Registry.DeclaredAt`: the moment at which a declaration was taken in;
* `Registry.wrapper_or_earlier_holder`: what stands under the hash of a wrapper is decided at that
  moment.
-/

namespace Recast

/-- Whether a declaration is that of a wrapper of a type. -/
def TypeDecl.IsWrapperOf (d : TypeDecl) (h : TypeHash) : Prop :=
  ∃ w, d = .nullable w ∧ w.inner = h

theorem TypeDecl.isNullable_of_isWrappable {e : TypeDecl} (hwrap : e.isWrappable = true) :
    e.isNullable = false := by
  unfold isWrappable at hwrap
  rw [Bool.and_eq_true] at hwrap
  simpa using hwrap.2

namespace Registry

variable {r before : Registry} {e d : TypeDecl} {h inner : TypeHash}

/-! ## What a wrapper wraps -/

theorem WellFormed.declares_inner (hr : r.WellFormed) (htraits : r.traits h = .nullable inner) :
    r.typeTable.Declares TypeDecl.isWrappable inner := by
  rcases traits_eq_nullable_iff.1 htraits with ⟨-, w, hget, rfl⟩
  exact hr.orderly.refersWell hget

theorem nullableInner?_traits_of_declares (hdecl : r.typeTable.Declares TypeDecl.isWrappable h) :
    (r.traits h).nullableInner? = none := by
  rcases hdecl with ⟨d, hget, hwrap⟩
  cases hinner : (r.traits h).nullableInner? with
  | none => rfl
  | some inner =>
      have htraits := Traits.nullableInner?_eq_some_iff.1 hinner
      rcases traits_eq_nullable_iff.1 htraits with ⟨-, w, hget', -⟩
      cases hget.symm.trans hget'
      cases TypeDecl.isNullable_of_isWrappable hwrap

/-- Without its wrapper a type is itself, or a declared value type. -/
theorem WellFormed.strip_cases (hr : r.WellFormed) (h : TypeHash) :
    (r.strip h = h ∧ (r.traits h).nullableInner? = none) ∨
      r.typeTable.Declares TypeDecl.isWrappable (r.strip h) := by
  cases hinner : (r.traits h).nullableInner? with
  | none =>
      exact Or.inl ⟨strip_of_nullableInner?_eq_none hinner, rfl⟩
  | some inner =>
      have htraits := Traits.nullableInner?_eq_some_iff.1 hinner
      have hstrip : r.strip h = inner := by simp [strip, hinner]
      rw [hstrip]
      exact Or.inr (hr.declares_inner htraits)

/-- Without its wrapper a type is no wrapper. -/
theorem WellFormed.nullableInner?_traits_strip (hr : r.WellFormed) (h : TypeHash) :
    (r.traits (r.strip h)).nullableInner? = none := by
  rcases hr.strip_cases h with ⟨hstrip, hnone⟩ | hdecl
  · rw [hstrip]
    exact hnone
  · exact nullableInner?_traits_of_declares hdecl

theorem WellFormed.strip_strip (hr : r.WellFormed) (h : TypeHash) :
    r.strip (r.strip h) = r.strip h :=
  strip_of_nullableInner?_eq_none (hr.nullableInner?_traits_strip h)

/-! ## When a declaration was taken in -/

/-- A registry took in a declaration, and registrations led from there to another registry. -/
structure DeclaredAt (before : Registry) (e : TypeDecl) (r : Registry) : Prop where
  reachable : Reachable before
  declare_eq_ok : before.declare e = .ok (before.insert e)
  leads : (before.insert e).Leads r

/-- Every declaration was taken in at some time, wrappers apart. -/
theorem Reachable.exists_declaredAt (hr : Reachable r) (hget : r.get? h = some e)
    (hplain : e.isNullable = false) : ∃ before, DeclaredAt before e r := by
  have hall : ∀ {h e}, r.get? h = some e → e.isNullable = false →
      ∃ before, DeclaredAt before e r := by
    refine hr.leads.induction_on_insert (motive := fun r => ∀ {h e}, r.get? h = some e →
      e.isNullable = false → ∃ before, DeclaredAt before e r) ?_ ?_ ?_
    · intro h e hget
      cases hget
    · intro r e hleads ih hfree hcheck h d hget hplain
      rcases get?_insert_cases hfree hget with hold | ⟨-, rfl⟩ | ⟨-, -, rfl⟩
      · rcases ih hold hplain with ⟨before, hreach, hok, hlater⟩
        exact ⟨before, hreach, hok, hlater.insert hfree hcheck⟩
      · exact ⟨r, Reachable.start.of_leads hleads, declare_eq_ok hfree hcheck, .refl⟩
      · cases hplain
    · intro r key unchecked checked _ ih hsource htarget hfree h e hget hplain
      rcases ih hget hplain with ⟨before, hreach, hok, hlater⟩
      exact ⟨before, hreach, hok,
        hlater.withConversion unchecked checked hsource htarget hfree⟩
  exact hall hget hplain

/-! ## The wrapper of a value type -/

theorem get?_nullable_insert (before : Registry) (hwrap : e.isWrappable = true) :
    (before.insert e).get? e.hash.nullable =
      some (((before.typeTable.add e).get? e.hash.nullable).getD
        (.nullable (.wrapping e.hash e.name))) := by
  show (extendTypes before.types e).get? e.hash.nullable = _
  unfold extendTypes
  rw [if_pos hwrap]
  exact (Table.get?_insertNew _ _ _ _).trans (if_pos rfl)

/-- A type that is not declared has no wrapper. -/
theorem WellFormed.not_isWrapperOf (hr : before.WellFormed) (hfree : before.get? e.hash = none)
    (hwrap : e.isWrappable = true) {x : TypeHash} (hget : (before.typeTable.add e).get? x = some d) :
    ¬ d.IsWrapperOf e.hash := by
  rintro ⟨w, rfl, hinner⟩
  by_cases hself : x = e.hash
  · have hown : (before.typeTable.add e).get? e.hash = some e := TypeTable.get?_add_self hfree
    rw [hself] at hget
    cases hown.symm.trans hget
    cases TypeDecl.isNullable_of_isWrappable hwrap
  · have hold : before.get? x = some (.nullable w) :=
      (TypeTable.get?_add_of_ne hself).symm.trans hget
    rcases hr.orderly.refersWell hold with ⟨d, hget', -⟩
    rw [hinner] at hget'
    cases hfree.symm.trans hget'

/-- A value type was declared at some time, and whenever that was, it was then that the declaration
under the hash of its wrapper was decided for good.  Where the hash was free, it is that of the
wrapper, and the traits of this hash lead back to the type, unless it is the hash of a kind.  Where
the hash was taken, by an earlier declaration or by the type itself, it is the one that held it, and
no wrapper of the type. -/
theorem wrapper_or_earlier_holder (hr : Reachable r) (hget : r.get? h = some e)
    (hwrap : e.isWrappable = true) :
    (∃ before, DeclaredAt before e r) ∧
      ∀ before, DeclaredAt before e r →
        ((before.typeTable.add e).get? h.nullable = none →
          r.get? h.nullable = some (.nullable (.wrapping h e.name)) ∧
            (Kind.ofHash? h.nullable = none →
              (r.traits h.nullable).nullableInner? = some h)) ∧
        ∀ d, (before.typeTable.add e).get? h.nullable = some d →
          r.get? h.nullable = some d ∧ ¬ d.IsWrapperOf h := by
  refine ⟨hr.exists_declaredAt hget (TypeDecl.isNullable_of_isWrappable hwrap), ?_⟩
  intro before hat
  have hhash : e.hash = h := hr.wellFormed.hash_eq hget
  subst hhash
  rcases declare_eq_ok_iff.1 hat.declare_eq_ok with ⟨hfree, -, -⟩
  have hdecided := get?_nullable_insert before hwrap
  refine ⟨?_, ?_⟩
  · intro hnone
    rw [hnone] at hdecided
    have hwrapper := hat.leads.get?_of_eq_some hdecided
    refine ⟨hwrapper, ?_⟩
    intro hkind
    exact Traits.nullableInner?_eq_some_iff.2
      (traits_eq_nullable_iff.2 ⟨hkind, _, hwrapper, rfl⟩)
  · intro d htaken
    rw [htaken] at hdecided
    exact ⟨hat.leads.get?_of_eq_some hdecided,
      hat.reachable.wellFormed.not_isWrapperOf hfree hwrap htaken⟩

/-- A value class `Point`. -/
def point : TypeDecl :=
  .classType
    { name := "Point", hash := ⟨7⟩, semantics := .value, base := none, interfaces := [] }

/-- A reference class under the hash of the wrapper of `Point`. -/
def pointHolder : TypeDecl :=
  .classType
    { name := "Point?"
      hash := TypeHash.nullable ⟨7⟩
      semantics := .reference
      base := none
      interfaces := [] }

/-- The primitives and `Point`, which has its wrapper. -/
theorem wrapper_or_earlier_holder_point :
    Reachable (builtin.insert point) ∧ (builtin.insert point).get? ⟨7⟩ = some point ∧
      point.isWrappable = true ∧
      (builtin.insert point).get? (TypeHash.nullable ⟨7⟩) =
        some (.nullable (.wrapping ⟨7⟩ "Point")) ∧
      ((builtin.insert point).traits (TypeHash.nullable ⟨7⟩)).nullableInner? = some ⟨7⟩ := by
  have hok : builtin.declare point = .ok (builtin.insert point) := declare_eq_ok (by decide) rfl
  have hr : Reachable (builtin.insert point) := reachable_builtin.insert (by decide) rfl
  have hget : (builtin.insert point).get? ⟨7⟩ = some point := get?_insert_self (by decide)
  have hat : DeclaredAt builtin point (builtin.insert point) := ⟨reachable_builtin, hok, .refl⟩
  rcases (wrapper_or_earlier_holder hr hget rfl).2 builtin hat with ⟨hfree, -⟩
  rcases hfree (by decide) with ⟨hwrapper, htraits⟩
  exact ⟨hr, hget, rfl, hwrapper, htraits (by decide)⟩

/-- A type that was declared under the hash of the wrapper of `Point` before `Point` was: then
`Point` has no wrapper. -/
theorem wrapper_missing_after_earlier_holder :
    Reachable ((empty.insert pointHolder).insert point) ∧
      ((empty.insert pointHolder).insert point).get? ⟨7⟩ = some point ∧
      point.isWrappable = true ∧
      ((empty.insert pointHolder).insert point).get? (TypeHash.nullable ⟨7⟩) = some pointHolder ∧
      ¬ pointHolder.IsWrapperOf ⟨7⟩ ∧
      Kind.ofHash? (TypeHash.nullable ⟨7⟩) = none ∧
      (((empty.insert pointHolder).insert point).traits (TypeHash.nullable ⟨7⟩)).nullableInner? =
        none := by
  have hholder : Reachable (empty.insert pointHolder) := Reachable.start.insert (by decide) rfl
  have hr : Reachable ((empty.insert pointHolder).insert point) := hholder.insert (by decide) rfl
  refine ⟨hr, by decide, by decide, by decide, ?_, by decide, by decide⟩
  rintro ⟨w, heq, -⟩
  cases heq

end Registry
end Recast
