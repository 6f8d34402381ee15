import Recast.Proofs.Conversion.Conservation
import Recast.Proofs.TypeHash.Wrapping

/-!
# Orders — the same registrations in another order

A registration can be refused in one order and taken in in another.  Where all of them are taken in,
the order in which they came leaves no trace.  What stands under a hash afterwards was there before,
or one of the registrations brought it: as its declaration, or as the wrapper of it.  Wrappers make
this less than obvious, since a wrapper is left out where its hash is taken.  But what takes the hash
is a declaration, which would be refused in any other order; and no two types have wrappers under
one hash.

The primitives are declared one by one here.  All at once they leave out what is there already
instead of being refused, and then the order can matter.

* `Registry.get?_attempt_cases`, `Registry.get?_attemptAll_cases`: what stands under a hash
  afterwards, and where it comes from;
* `Registry.get?_attemptAll_perm`, `Registry.conversion?_attemptAll_perm`: another order brings the
  same;
* `Registry.isStrictSubtype_congr`: supertypes follow from the declarations;
* `Registry.attemptAll_perm`: hence registries that took in the same registrations agree.
-/

namespace Recast
namespace Registry

variable {start r grown a b : Registry} {g : Registration} {gs gs' : List Registration}
  {e d : TypeDecl} {h : TypeHash}

/-! ## Registrations one after the other -/

/-- The registry after some registrations, or the first refusal. -/
def attemptAll (r : Registry) : List Registration → Except RegistrationError Registry
  | [] => .ok r
  | g :: gs => (r.attempt g).bind fun grown => grown.attemptAll gs

theorem attemptAll_cons_eq_ok (hok : r.attemptAll (g :: gs) = .ok grown) :
    ∃ mid, r.attempt g = .ok mid ∧ mid.attemptAll gs = .ok grown := by
  cases hstep : r.attempt g with
  | error refusal =>
      simp [attemptAll, hstep, Except.bind] at hok
  | ok mid =>
      exact ⟨mid, rfl, by simpa [attemptAll, hstep, Except.bind] using hok⟩

theorem Leads.attemptAll (hleads : start.Leads r) (hok : r.attemptAll gs = .ok grown) :
    start.Leads grown := by
  induction gs generalizing r with
  | nil =>
      cases hok
      exact hleads
  | cons g gs ih =>
      rcases attemptAll_cons_eq_ok hok with ⟨mid, hstep, hrest⟩
      exact ih (hleads.step g hstep) hrest

/-! ## What stands under a hash -/

/-- A declaration stands under a hash already, or is one of those that are to come. -/
def Announces (r : Registry) (gs : List Registration) (h : TypeHash) (d : TypeDecl) : Prop :=
  r.get? h = some d ∨ (.declare d ∈ gs ∧ h = d.hash)

theorem Announces.perm (hann : r.Announces gs h d) (hperm : gs.Perm gs') : r.Announces gs' h d :=
  hann.imp_right fun hcomes => ⟨hperm.mem_iff.1 hcomes.1, hcomes.2⟩

theorem get?_attemptAll_of_mem (hok : r.attemptAll gs = .ok grown) (hmem : .declare e ∈ gs) :
    grown.get? e.hash = some e ∧
      (e.isWrappable = true → ∃ d, grown.get? e.hash.nullable = some d) := by
  induction gs generalizing r with
  | nil =>
      cases hmem
  | cons g gs ih =>
      rcases attemptAll_cons_eq_ok hok with ⟨mid, hstep, hrest⟩
      rcases List.mem_cons.1 hmem with rfl | hmem
      · rcases declare_eq_ok_iff.1 hstep with ⟨hfree, -, rfl⟩
        have hleads : (r.insert e).Leads grown := Leads.refl.attemptAll hrest
        refine ⟨hleads.get?_of_eq_some (get?_insert_self hfree), ?_⟩
        intro hwrap
        exact ⟨_, hleads.get?_of_eq_some (get?_nullable_insert r hwrap)⟩
      · exact ih hrest hmem

theorem Announces.get?_eq (hann : r.Announces gs h d) (hok : r.attemptAll gs = .ok grown) :
    grown.get? h = some d := by
  rcases hann with hold | ⟨hmem, rfl⟩
  · exact (Leads.refl.attemptAll hok).get?_of_eq_some hold
  · exact (get?_attemptAll_of_mem hok hmem).1

/-- What is found after one registration was there before, or is what it declares or the wrapper of
that. -/
theorem get?_attempt_cases (hok : r.attempt g = .ok grown) (hsingle : g ≠ .declarePrimitives)
    (hget : grown.get? h = some d) :
    r.get? h = some d ∨ (g = .declare d ∧ h = d.hash) ∨
      ∃ e, g = .declare e ∧ e.isWrappable = true ∧ h = e.hash.nullable ∧
        d = .nullable (.wrapping e.hash e.name) := by
  cases g with
  | declare e =>
      rcases declare_eq_ok_iff.1 hok with ⟨hfree, -, rfl⟩
      rcases get?_insert_cases hfree hget with hold | ⟨hhash, rfl⟩ | hwrapper
      · exact Or.inl hold
      · exact Or.inr (Or.inl ⟨rfl, hhash⟩)
      · exact Or.inr (Or.inr ⟨e, rfl, hwrapper⟩)
  | declarePrimitives =>
      exact absurd rfl hsingle
  | addConversion key unchecked checked =>
      rcases addConversion_eq_ok_iff.1 hok with ⟨-, -, -, rfl⟩
      exact Or.inl hget

/-- What is found afterwards was announced, or is the wrapper of a type that was declared. -/
theorem get?_attemptAll_cases (hok : r.attemptAll gs = .ok grown)
    (hsingle : .declarePrimitives ∉ gs) (hget : grown.get? h = some d) :
    r.Announces gs h d ∨ ∃ e, .declare e ∈ gs ∧ e.isWrappable = true ∧ h = e.hash.nullable ∧
      d = .nullable (.wrapping e.hash e.name) := by
  induction gs generalizing r with
  | nil =>
      cases hok
      exact Or.inl (Or.inl hget)
  | cons g gs ih =>
      rcases attemptAll_cons_eq_ok hok with ⟨mid, hstep, hrest⟩
      rcases ih hrest (List.not_mem_of_not_mem_cons hsingle) with
        (hmid | ⟨hmem, hhash⟩) | ⟨e, hmem, hwrapper⟩
      · rcases get?_attempt_cases hstep (List.ne_of_not_mem_cons hsingle).symm hmid with
          hold | ⟨rfl, hhash⟩ | ⟨e, rfl, hwrapper⟩
        · exact Or.inl (Or.inl hold)
        · exact Or.inl (Or.inr ⟨List.mem_cons_self, hhash⟩)
        · exact Or.inr ⟨e, List.mem_cons_self, hwrapper⟩
      · exact Or.inl (Or.inr ⟨List.mem_cons_of_mem g hmem, hhash⟩)
      · exact Or.inr ⟨e, List.mem_cons_of_mem g hmem, hwrapper⟩

/-- What one order brings, the other one brings as well. -/
theorem get?_attemptAll_perm (ha : r.attemptAll gs = .ok a) (hb : r.attemptAll gs' = .ok b)
    (hperm : gs.Perm gs') (hsingle : .declarePrimitives ∉ gs) (hget : a.get? h = some d) :
    b.get? h = some d := by
  have hsingle' : .declarePrimitives ∉ gs' := fun hmem => hsingle (hperm.mem_iff.2 hmem)
  rcases get?_attemptAll_cases ha hsingle hget with hann | ⟨e, hmem, hwrap, rfl, rfl⟩
  · exact (hann.perm hperm).get?_eq hb
  -- A wrapper: the other order has something in its place, and this turns out to be the same.
  · rcases (get?_attemptAll_of_mem hb (hperm.mem_iff.1 hmem)).2 hwrap with ⟨d, hget'⟩
    rcases get?_attemptAll_cases hb hsingle' hget' with hann | ⟨e', hmem', -, hhash, rfl⟩
    · have hholder := (hann.perm hperm.symm).get?_eq ha
      cases hget.symm.trans hholder
      exact hget'
    · have hdeclared := (get?_attemptAll_of_mem ha hmem).1
      have hdeclared' := (get?_attemptAll_of_mem ha (hperm.mem_iff.2 hmem')).1
      rw [← TypeHash.nullable_injective hhash] at hdeclared'
      cases hdeclared.symm.trans hdeclared'
      exact hget'

/-! ## Which conversions are registered -/

section Conversions

variable {key : TypePair} {unchecked : Converter} {checked : Option Converter}
  {c : RegisteredConversion}

theorem conversion?_attemptAll_of_mem (hr : Reachable r) (hok : r.attemptAll gs = .ok grown)
    (hmem : .addConversion key unchecked checked ∈ gs) :
    grown.conversion? key = some (.ofConverters key unchecked checked) := by
  induction gs generalizing r with
  | nil =>
      cases hmem
  | cons g gs ih =>
      rcases attemptAll_cons_eq_ok hok with ⟨mid, hstep, hrest⟩
      have hmid : Reachable mid := hr.of_attempt hstep
      rcases List.mem_cons.1 hmem with rfl | hmem
      · rcases addConversion_eq_ok_iff.1 hstep with ⟨-, -, hfree, rfl⟩
        apply ((Leads.refl.attemptAll hrest).extends hmid).conversion?_of_eq_some
        simpa using conversion?_withConversion hfree key
      · exact ih hmid hrest hmem

theorem conversion?_attempt_cases (hok : r.attempt g = .ok grown)
    (hsingle : g ≠ .declarePrimitives) (hget : grown.conversion? key = some c) :
    r.conversion? key = some c ∨ ∃ unchecked checked,
      g = .addConversion key unchecked checked ∧ c = .ofConverters key unchecked checked := by
  cases g with
  | declare e =>
      rcases declare_eq_ok_iff.1 hok with ⟨-, -, rfl⟩
      exact Or.inl hget
  | declarePrimitives =>
      exact absurd rfl hsingle
  | addConversion key' unchecked checked =>
      rcases addConversion_eq_ok_iff.1 hok with ⟨-, -, hfree, rfl⟩
      have hgrown := (conversion?_withConversion hfree key).symm.trans hget
      split at hgrown
      · rename_i hkey
        subst hkey
        exact Or.inr ⟨unchecked, checked, rfl, (Option.some.inj hgrown).symm⟩
      · exact Or.inl hgrown

theorem conversion?_attemptAll_cases (hok : r.attemptAll gs = .ok grown)
    (hsingle : .declarePrimitives ∉ gs) (hget : grown.conversion? key = some c) :
    r.conversion? key = some c ∨ ∃ unchecked checked,
      .addConversion key unchecked checked ∈ gs ∧ c = .ofConverters key unchecked checked := by
  induction gs generalizing r with
  | nil =>
      cases hok
      exact Or.inl hget
  | cons g gs ih =>
      rcases attemptAll_cons_eq_ok hok with ⟨mid, hstep, hrest⟩
      rcases ih hrest (List.not_mem_of_not_mem_cons hsingle) with
        hmid | ⟨unchecked, checked, hmem, heq⟩
      · rcases conversion?_attempt_cases hstep (List.ne_of_not_mem_cons hsingle).symm hmid with
          hold | ⟨unchecked, checked, rfl, heq⟩
        · exact Or.inl hold
        · exact Or.inr ⟨unchecked, checked, List.mem_cons_self, heq⟩
      · exact Or.inr ⟨unchecked, checked, List.mem_cons_of_mem g hmem, heq⟩

theorem conversion?_attemptAll_perm (hr : Reachable r) (ha : r.attemptAll gs = .ok a)
    (hb : r.attemptAll gs' = .ok b) (hperm : gs.Perm gs') (hsingle : .declarePrimitives ∉ gs)
    (hget : a.conversion? key = some c) : b.conversion? key = some c := by
  rcases conversion?_attemptAll_cases ha hsingle hget with hold | ⟨unchecked, checked, hmem, rfl⟩
  · exact ((Leads.refl.attemptAll hb).extends hr).conversion?_of_eq_some hold
  · exact conversion?_attemptAll_of_mem hr hb (hperm.mem_iff.1 hmem)

end Conversions

/-! ## What follows from the declarations -/

section Congruence

variable (ha : Reachable a) (hb : Reachable b) (hget : ∀ h, a.get? h = b.get? h)
include ha hb hget

theorem supertypes_congr (h : TypeHash) : a.inheritance.supertypes h = b.inheritance.supertypes h := by
  simp only [ha.mirrors.supertypes_eq, hb.mirrors.supertypes_eq, declaredSupertypes, hget]

theorem isStrictSubtype_congr (d s : TypeHash) : a.isStrictSubtype d s = b.isStrictSubtype d s := by
  have hsame : a.typeTable.Supertype = b.typeTable.Supertype := by
    funext d s
    simp only [supertype_iff_mem_declaredSupertypes, declaredSupertypes, hget]
  rw [Bool.eq_iff_iff, ha.isStrictSubtype_iff, hb.isStrictSubtype_iff, hsame]

end Congruence

/-- Two registries that took in the same registrations, each in an order in which none was refused,
agree: on what stands under every hash, on supertypes and their order, on the registered conversions,
and hence on the conversion between any two types. -/
theorem attemptAll_perm (hr : Reachable r) (hperm : gs.Perm gs')
    (hsingle : .declarePrimitives ∉ gs) (ha : r.attemptAll gs = .ok a)
    (hb : r.attemptAll gs' = .ok b) :
    (∀ h, a.get? h = b.get? h) ∧
      (∀ h, a.inheritance.supertypes h = b.inheritance.supertypes h) ∧
      (∀ d s, a.isStrictSubtype d s = b.isStrictSubtype d s) ∧
      (∀ key, a.conversion? key = b.conversion? key) ∧
      ∀ source target, a.conversionBetween source target = b.conversionBetween source target := by
  have hsingle' : .declarePrimitives ∉ gs' := fun hmem => hsingle (hperm.mem_iff.2 hmem)
  have hreach : Reachable a := hr.of_leads (Leads.refl.attemptAll ha)
  have hreach' : Reachable b := hr.of_leads (Leads.refl.attemptAll hb)
  have hget : ∀ h, a.get? h = b.get? h := by
    intro h
    apply Option.ext
    intro d
    exact ⟨get?_attemptAll_perm ha hb hperm hsingle,
      get?_attemptAll_perm hb ha hperm.symm hsingle'⟩
  have hconversion : ∀ key, a.conversion? key = b.conversion? key := by
    intro key
    apply Option.ext
    intro c
    exact ⟨conversion?_attemptAll_perm hr ha hb hperm hsingle,
      conversion?_attemptAll_perm hr hb ha hperm.symm hsingle'⟩
  have hsub := isStrictSubtype_congr hreach hreach' hget
  refine ⟨hget, supertypes_congr hreach hreach' hget, hsub, hconversion, ?_⟩
  intro source target
  refine conversionBetween_congr (fun h => traits_congr (hget h)) hsub ?_ source target
  intro key
  simp only [customCategory?, hconversion]

/-- A value class `Circle` that implements the interface `Shape`. -/
def circle : TypeDecl :=
  .classType
    { name := "Circle"
      hash := ⟨2⟩
      semantics := .value
      base := none
      interfaces := [⟨1⟩] }

/-- `Shape`, `Circle` and a conversion of `Circle` to `f64`, with `Point` declared after all of these
or before them. -/
theorem attemptAll_perm_circle :
    ∃ a b, Reachable builtin ∧
      builtin.attemptAll
          [.declare (.interface { name := "Shape", hash := ⟨1⟩, bases := [] }), .declare circle,
            .addConversion ⟨⟨2⟩, Kind.f64.typeHash⟩ .ok none, .declare point] = .ok a ∧
      builtin.attemptAll
          [.declare point, .declare (.interface { name := "Shape", hash := ⟨1⟩, bases := [] }),
            .declare circle, .addConversion ⟨⟨2⟩, Kind.f64.typeHash⟩ .ok none] = .ok b ∧
      a.get? (TypeHash.nullable ⟨2⟩) = b.get? (TypeHash.nullable ⟨2⟩) ∧
      a.conversionBetween (TypeHash.nullable ⟨2⟩) Kind.f64.typeHash =
        b.conversionBetween (TypeHash.nullable ⟨2⟩) Kind.f64.typeHash := by
  let shapes : List Registration :=
    [.declare (.interface { name := "Shape", hash := ⟨1⟩, bases := [] }), .declare circle,
      .addConversion ⟨⟨2⟩, Kind.f64.typeHash⟩ .ok none]
  have hperm : List.Perm (shapes ++ [.declare point]) (.declare point :: shapes) :=
    List.perm_append_singleton _ _
  have hsingle : .declarePrimitives ∉ shapes ++ [.declare point] := by simp [shapes]
  have hagree := attemptAll_perm reachable_builtin hperm hsingle rfl rfl
  exact ⟨_, _, reachable_builtin, rfl, rfl, hagree.1 _, hagree.2.2.2.2 _ _⟩

-- The hash of the wrapper of this class is that of `i32`: whoever comes first has it.
example :
    let e : TypeDecl := .classType
      { name := "Pebble"
        hash := ⟨0x3a11795c70bd9b45⟩
        semantics := .value
        base := none
        interfaces := [] }
    ((empty.attemptAll [.declare e, .declarePrimitives]).toOption.bind fun r =>
        r.get? Kind.i32.typeHash) = some (.nullable (.wrapping e.hash "Pebble")) ∧
      ((empty.attemptAll [.declarePrimitives, .declare e]).toOption.bind fun r =>
        r.get? Kind.i32.typeHash) = some (.primitive (.ofKind .i32)) := by
  decide

end Registry
end Recast
