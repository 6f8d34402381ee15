import Recast.Registry

/-!
# Growth — registries under registration

A `Registration` is one thing that a registry is asked to take in.  It is taken in or refused, and a
refusal leaves the registry as it was.  A registry is `Registry.Reachable` if registrations lead to
it from the empty one.

* `Registry.get?_insert`: what is declared after one more declaration;
* `Registry.declare_eq_ok_iff`, `Registry.addConversion_eq_ok_iff`: what a registration that is
  taken in has passed, and where it leads;
* `Registry.Leads`: registrations that are taken in lead from one registry to a later one;
* `Registry.Leads.induction_on_insert`, `Registry.Reachable.induction_on_insert`: all later, or all
  reachable, registries have a property, if the first one has it and every single insertion keeps
  it.
-/

namespace Recast

/-! ## Registrations -/

/-- What a registry can be asked to take in. -/
inductive Registration where
  | declare (e : TypeDecl)
  | declarePrimitives
  | addConversion (key : TypePair) (unchecked : Converter) (checked : Option Converter)

namespace Registry

/-- The registry that a registration leads to, or why it is refused. -/
def attempt (r : Registry) : Registration → Except RegistrationError Registry
  | .declare e => r.declare e
  | .declarePrimitives => .ok r.declarePrimitives
  | .addConversion key unchecked checked => r.addConversion key unchecked checked

/-- Ask a registry to take something in: the refusal, if there is one, and the registry after it. -/
def register (r : Registry) (g : Registration) : Option RegistrationError × Registry :=
  match r.attempt g with
  | .ok grown => (none, grown)
  | .error refusal => (some refusal, r)

/-- The registries that registrations lead to, refused ones among them. -/
inductive Reachable : Registry → Prop where
  | start : Reachable empty
  | step {r : Registry} (g : Registration) : Reachable r → Reachable (r.register g).2

theorem register_of_ok {r grown : Registry} {g : Registration} (h : r.attempt g = .ok grown) :
    r.register g = (none, grown) := by
  simp only [register, h]

theorem register_of_error {r : Registry} {g : Registration} {refusal : RegistrationError}
    (h : r.attempt g = .error refusal) : r.register g = (some refusal, r) := by
  simp only [register, h]

theorem Reachable.of_attempt {r grown : Registry} {g : Registration} (hr : Reachable r)
    (h : r.attempt g = .ok grown) : Reachable grown := by
  have hstep := Reachable.step g hr
  rw [register_of_ok h] at hstep
  exact hstep

theorem reachable_builtin : Reachable builtin := by
  unfold builtin
  exact Reachable.start.of_attempt (g := .declarePrimitives) rfl

/-! ## What is declared after an insertion -/

/-- A declaration stays where it is. -/
theorem get?_insert_of_eq_some {r : Registry} {e d : TypeDecl} {h : TypeHash}
    (hget : r.get? h = some d) : (r.insert e).get? h = some d := by
  have hgrown : (r.types.insertNew e.hash e).get? h = some d :=
    Table.get?_insertNew_of_eq_some hget
  show (extendTypes r.types e).get? h = some d
  unfold extendTypes
  -- The wrapper, if there is one, takes a free hash only.
  split
  · exact Table.get?_insertNew_of_eq_some hgrown
  · exact hgrown

theorem get?_insert_self {r : Registry} {e : TypeDecl} (hfree : r.get? e.hash = none) :
    (r.insert e).get? e.hash = some e := by
  have hgrown : (r.types.insertNew e.hash e).get? e.hash = some e := by
    simpa using Table.get?_insertNew_of_eq_none hfree e.hash e
  show (extendTypes r.types e).get? e.hash = some e
  unfold extendTypes
  split
  · exact Table.get?_insertNew_of_eq_some hgrown
  · exact hgrown

theorem get?_insert {r : Registry} {e : TypeDecl} (hfree : r.get? e.hash = none) (h : TypeHash) :
    (r.insert e).get? h =
      if h = e.hash then
        some e
      else if e.isWrappable = true ∧ h = e.hash.nullable then
        some ((r.get? h).getD (.nullable (.wrapping e.hash e.name)))
      else
        r.get? h := by
  by_cases hself : h = e.hash
  · simpa [hself] using get?_insert_self hfree
  · have hgrown : (r.types.insertNew e.hash e).get? h = r.get? h :=
      (Table.get?_insertNew_of_eq_none hfree h e).trans (if_neg hself)
    show (extendTypes r.types e).get? h = _
    unfold extendTypes
    cases hwrap : e.isWrappable with
    | false =>
        simpa [hself] using hgrown
    | true =>
        by_cases hwrapper : h = e.hash.nullable
        · rw [hwrapper] at hgrown hself ⊢
          simp [NullableDecl.wrapping, Table.get?_insertNew, hself, hgrown]
        · simpa [NullableDecl.wrapping, Table.get?_insertNew, hself, hwrapper] using hgrown

/-- Where a declaration comes from that is found after an insertion. -/
theorem get?_insert_cases {r : Registry} {e d : TypeDecl} {h : TypeHash}
    (hfree : r.get? e.hash = none) (hget : (r.insert e).get? h = some d) :
    r.get? h = some d ∨ (h = e.hash ∧ d = e) ∨
      (e.isWrappable = true ∧ h = e.hash.nullable ∧ d = .nullable (.wrapping e.hash e.name)) := by
  have hgrown := (get?_insert hfree h).symm.trans hget
  split at hgrown
  · rename_i hself
    exact Or.inr (Or.inl ⟨hself, (Option.some.inj hgrown).symm⟩)
  · split at hgrown
    · rename_i hwrapper
      cases hold : r.get? h with
      | none =>
          have hd : TypeDecl.nullable (.wrapping e.hash e.name) = d := by simpa [hold] using hgrown
          exact Or.inr (Or.inr ⟨hwrapper.1, hwrapper.2, hd.symm⟩)
      | some d' =>
          exact Or.inl (by simpa [hold] using hgrown)
    · exact Or.inl hgrown

/-! ## What is taken in -/

theorem contains_eq_false_iff {r : Registry} {h : TypeHash} :
    r.contains h = false ↔ r.get? h = none :=
  Table.contains_eq_false_iff

theorem declare_eq_ok_iff {r grown : Registry} {e : TypeDecl} :
    r.declare e = .ok grown ↔
      r.get? e.hash = none ∧ r.checkReferences e = .ok () ∧ grown = r.insert e := by
  unfold declare
  split
  · rename_i htaken
    constructor
    · intro h
      cases h
    · intro h
      cases (contains_eq_false_iff.2 h.1).symm.trans htaken
  · rename_i hfree
    have hfree' : r.get? e.hash = none := contains_eq_false_iff.1 (by simpa using hfree)
    cases hcheck : r.checkReferences e with
    | error refusal =>
        simp [Except.map]
    | ok u =>
        simp [Except.map, hfree', eq_comm]

theorem declare_eq_ok {r : Registry} {e : TypeDecl} (hfree : r.get? e.hash = none)
    (hcheck : r.checkReferences e = .ok ()) : r.declare e = .ok (r.insert e) :=
  declare_eq_ok_iff.2 ⟨hfree, hcheck, rfl⟩

/-- The registry with one more conversion. -/
def withConversion (r : Registry) (key : TypePair) (unchecked : Converter)
    (checked : Option Converter) : Registry :=
  { r with
    conversions :=
      r.conversions.insertNew key (RegisteredConversion.ofConverters key unchecked checked) }

theorem addConversion_eq_ok_iff {r grown : Registry} {key : TypePair} {unchecked : Converter}
    {checked : Option Converter} :
    r.addConversion key unchecked checked = .ok grown ↔
      r.isKnown key.source = true ∧ r.isKnown key.target = true ∧ r.conversion? key = none ∧
        grown = r.withConversion key unchecked checked := by
  have hfree : r.conversion? key = none ↔ r.conversions.contains key = false :=
    Table.contains_eq_false_iff.symm
  rw [hfree]
  unfold addConversion
  cases r.isKnown key.source <;> cases r.isKnown key.target <;>
    cases r.conversions.contains key <;> simp [withConversion, eq_comm]

/-! ## From one registry to a later one -/

/-- Registrations that are taken in lead from one registry to another. -/
inductive Leads (r : Registry) : Registry → Prop where
  | refl : Leads r r
  | step {mid grown : Registry} (g : Registration) :
      Leads r mid → mid.attempt g = .ok grown → Leads r grown

theorem Reachable.of_leads {r grown : Registry} (hr : Reachable r) (h : r.Leads grown) :
    Reachable grown := by
  induction h with
  | refl =>
      exact hr
  | step _ _ hok ih =>
      exact ih.of_attempt hok

theorem Leads.insert {start r : Registry} {e : TypeDecl} (hleads : start.Leads r)
    (hfree : r.get? e.hash = none) (hcheck : r.checkReferences e = .ok ()) :
    start.Leads (r.insert e) :=
  hleads.step (.declare e) (declare_eq_ok hfree hcheck)

theorem Leads.withConversion {start r : Registry} {key : TypePair} (hleads : start.Leads r)
    (unchecked : Converter) (checked : Option Converter) (hsource : r.isKnown key.source = true)
    (htarget : r.isKnown key.target = true) (hfree : r.conversion? key = none) :
    start.Leads (r.withConversion key unchecked checked) :=
  hleads.step (.addConversion key unchecked checked)
    (addConversion_eq_ok_iff.2 ⟨hsource, htarget, hfree, rfl⟩)

theorem Reachable.insert {r : Registry} {e : TypeDecl} (hr : Reachable r)
    (hfree : r.get? e.hash = none) (hcheck : r.checkReferences e = .ok ()) :
    Reachable (r.insert e) :=
  hr.of_leads (Leads.refl.insert hfree hcheck)

theorem Leads.register {start r : Registry} (hleads : start.Leads r) (g : Registration) :
    start.Leads (r.register g).2 := by
  cases hgrown : r.attempt g with
  -- A refusal leaves the registry as it was.
  | error refusal =>
      rw [register_of_error hgrown]
      exact hleads
  | ok grown =>
      rw [register_of_ok hgrown]
      exact hleads.step g hgrown

theorem Reachable.leads {r : Registry} (hr : Reachable r) : empty.Leads r := by
  induction hr with
  | start =>
      exact .refl
  | step g _ ih =>
      exact ih.register g

/-! ## Induction over registrations -/

section Induction

variable {start : Registry} {motive : Registry → Prop}

theorem declarePrimitives_of_insert {r : Registry} (hr : motive r)
    (insert : ∀ {r : Registry} {e : TypeDecl}, motive r → r.get? e.hash = none →
      r.checkReferences e = .ok () → motive (r.insert e)) : motive r.declarePrimitives := by
  unfold declarePrimitives
  -- The kinds are added one by one, so that the order in which they are listed does not matter.
  generalize Kind.all = kinds
  induction kinds generalizing r with
  | nil =>
      exact hr
  | cons k kinds ih =>
      rw [List.foldl_cons]
      apply ih
      split
      · exact hr
      · rename_i hfree
        have hfree' : r.get? k.typeHash = none := contains_eq_false_iff.1 (by simpa using hfree)
        exact insert hr hfree' rfl

/-- What one registry has and every insertion on the way to a later one keeps, the later one has. -/
theorem Leads.induction_on_insert {r : Registry} (h : start.Leads r) (refl : motive start)
    (insert : ∀ {r : Registry} {e : TypeDecl}, start.Leads r → motive r → r.get? e.hash = none →
      r.checkReferences e = .ok () → motive (r.insert e))
    (convert : ∀ {r : Registry} {key : TypePair} (unchecked : Converter)
      (checked : Option Converter), start.Leads r → motive r → r.isKnown key.source = true →
      r.isKnown key.target = true → r.conversion? key = none →
      motive (r.withConversion key unchecked checked)) : motive r := by
  induction h with
  | refl =>
      exact refl
  | @step mid grown g hmid hok ih =>
      cases g with
      | declare e =>
          rcases declare_eq_ok_iff.1 hok with ⟨hfree, hcheck, rfl⟩
          exact insert hmid ih hfree hcheck
      | declarePrimitives =>
          have hgrown : mid.declarePrimitives = grown := Except.ok.inj hok
          rw [← hgrown]
          -- The primitives that are added on the way are declarations like any other.
          have hboth : start.Leads mid.declarePrimitives ∧ motive mid.declarePrimitives := by
            refine declarePrimitives_of_insert (motive := fun r => start.Leads r ∧ motive r)
              ⟨hmid, ih⟩ ?_
            rintro r e ⟨hleads, hr⟩ hfree hcheck
            exact ⟨hleads.insert hfree hcheck, insert hleads hr hfree hcheck⟩
          exact hboth.2
      | addConversion key unchecked checked =>
          rcases addConversion_eq_ok_iff.1 hok with ⟨hsource, htarget, hfree, rfl⟩
          exact convert unchecked checked hmid ih hsource htarget hfree

theorem Reachable.induction_on_insert {r : Registry} (h : Reachable r)
    (empty : motive Registry.empty)
    (insert : ∀ {r : Registry} {e : TypeDecl}, motive r → r.get? e.hash = none →
      r.checkReferences e = .ok () → motive (r.insert e))
    (convert : ∀ {r : Registry} {key : TypePair} (unchecked : Converter)
      (checked : Option Converter), motive r → r.isKnown key.source = true →
      r.isKnown key.target = true → r.conversion? key = none →
      motive (r.withConversion key unchecked checked)) : motive r :=
  h.leads.induction_on_insert empty (fun _ => insert)
    (fun unchecked checked _ => convert unchecked checked)

end Induction

/-- Declarations stay. -/
theorem Leads.get?_of_eq_some {r grown : Registry} {h : TypeHash} {d : TypeDecl}
    (hleads : r.Leads grown) (hget : r.get? h = some d) : grown.get? h = some d := by
  refine hleads.induction_on_insert (motive := fun grown => grown.get? h = some d) hget ?_ ?_
  · intro mid e _ ih _ _
    exact get?_insert_of_eq_some ih
  · intro mid key unchecked checked _ ih _ _ _
    exact ih

/-! ## A small registry -/

/-- A class `Sprite` that reaches the interface `Shape` on two ways, and names one of its interfaces
twice. -/
def sketch : Registry :=
  let shape : TypeDecl := .interface { name := "Shape", hash := ⟨1⟩, bases := [] }
  let drawable : TypeDecl := .interface { name := "Drawable", hash := ⟨2⟩, bases := [⟨1⟩] }
  let solid : TypeDecl := .interface { name := "Solid", hash := ⟨3⟩, bases := [⟨1⟩] }
  let entity : TypeDecl :=
    .classType
      { name := "Entity", hash := ⟨4⟩, semantics := .reference, base := none, interfaces := [] }
  let sprite : TypeDecl :=
    .classType
      { name := "Sprite"
        hash := ⟨5⟩
        semantics := .reference
        base := some ⟨4⟩
        interfaces := [⟨2⟩, ⟨3⟩, ⟨2⟩] }
  [shape, drawable, solid, entity, sprite].foldl (fun r e => (r.register (.declare e)).2) empty

theorem reachable_sketch : Reachable sketch :=
  .step _ (.step _ (.step _ (.step _ (.step _ .start))))

end Registry
end Recast
