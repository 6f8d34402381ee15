import Recast.Proofs.Cache.Casters
import Recast.Proofs.Conversion.Rules
import Recast.Proofs.Registry.Growth

/-!
# Handles — objects under reference casts

A reference cast hands on the handle that it is given, or refuses it.  An upcast looks at the type
cast from only, and a downcast at the type cast to.  Since instances of a type are instances of its
supertypes, either way the class of the object must be an instance of both.

* `Registry.castBetween_object`: one reference cast of an object;
* `Registry.castAlong_object`: any number of them, one after the other, of which the first one that
  does not accept the class decides;
* `Registry.reference_casts_keep_handles`: hence no cast can tell which ones came before it.
-/

namespace Recast

/-- Whether a conversion is one between a type and itself, a supertype or a type derived from it. -/
def Category.isReference : Category → Bool
  | .identity => true
  | .upcast _ => true
  | .downcast _ => true
  | _ => false

theorem Category.isValid_of_isReference {category : Category} (h : category.isReference = true) :
    category.isValid = true := by
  cases category with
  | invalid => cases h
  | _ => rfl

namespace Registry

variable {r : Registry} {source target type : TypeHash} {qs : List CasterRequest}

/-! ## Accepted classes -/

/-- Whether the objects of a class are instances of both types without their wrappers. -/
def accepts (r : Registry) (key : TypePair) (type : TypeHash) : Bool :=
  r.isSubtype type (r.strip key.source) && r.isSubtype type (r.strip key.target)

theorem accepts_iff (r : Registry) (key : TypePair) (type : TypeHash) :
    r.accepts key type = true ↔
      r.isSubtype type (r.strip key.source) = true ∧
        r.isSubtype type (r.strip key.target) = true := by
  simp [accepts]

/-- Upward, an instance of the source is an instance of the target. -/
theorem accepts_eq_isSubtype_source
    (hup : r.isSubtype (r.strip source) (r.strip target) = true) :
    r.accepts { source := source, target := target } type = r.isSubtype type (r.strip source) := by
  rw [Bool.eq_iff_iff, accepts_iff, and_iff_left_iff_imp]
  intro hsource
  exact isSubtype_trans hsource hup

/-- Downward, an instance of the target is an instance of the source. -/
theorem accepts_eq_isSubtype_target
    (hdown : r.isSubtype (r.strip target) (r.strip source) = true) :
    r.accepts { source := source, target := target } type = r.isSubtype type (r.strip target) := by
  rw [Bool.eq_iff_iff, accepts_iff, and_iff_right_iff_imp]
  intro htarget
  exact isSubtype_trans htarget hdown

/-! ## One cast -/

/-- The rules for references hand on the objects of the accepted classes. -/
theorem Carries.run_object {category : Category} {run : Mode → Converter}
    (hrule : r.Carries source target category run) (href : category.isReference = true)
    (mode : Mode) (o : ObjectRef) :
    run mode (.object o) =
      if r.accepts { source := source, target := target } o.type then
        .ok (.object o)
      else
        .error (.invalidCast (r.nameOf o.type) (r.nameOf target)) := by
  -- Each rule checks one end of the pair, and what it knows of the two types settles the other.
  cases hrule with
  | identity hsame =>
      have hboth : r.isSubtype (r.strip source) (r.strip target) = true := by
        rw [hsame]
        exact r.isSubtype_refl _
      rw [accepts_eq_isSubtype_source hboth]
      rfl
  | upcast hup =>
      rw [accepts_eq_isSubtype_source (isSubtype_of_isStrictSubtype hup)]
      rfl
  | downcast hdown =>
      rw [accepts_eq_isSubtype_target (isSubtype_of_isStrictSubtype hdown)]
      rfl
  | _ => cases href

theorem exists_converter_object (href : (r.category source target).isReference = true)
    (mode : Mode) :
    ∃ run, r.converterBetween source target mode = .ok run ∧
      ∀ o, run (.object o) =
        if r.accepts { source := source, target := target } o.type then
          .ok (.object o)
        else
          .error (.invalidCast (r.nameOf o.type) (r.nameOf target)) := by
  rcases exists_converters (Category.isValid_of_isReference href) with ⟨run, hrule, hrun⟩
  exact ⟨_, hrun mode, hrule.run_object href mode⟩

theorem castBetween_object (href : (r.category source target).isReference = true) (mode : Mode)
    (o : ObjectRef) :
    r.castBetween source target mode (.object o) =
      if r.accepts { source := source, target := target } o.type then
        .ok (.object o)
      else
        .error (.invalidCast (r.nameOf o.type) (r.nameOf target)) := by
  rcases exists_converter_object href mode with ⟨run, hrun, hanswer⟩
  exact (castBetween_of_converterBetween hrun _).trans (hanswer o)

theorem exists_castBetween_object_iff (href : (r.category source target).isReference = true)
    (mode : Mode) (o : ObjectRef) :
    (∃ v, r.castBetween source target mode (.object o) = .ok v) ↔
      r.accepts { source := source, target := target } o.type = true := by
  rw [castBetween_object href]
  cases r.accepts { source := source, target := target } o.type <;> simp

/-! ## Any number of casts -/

/-- Cast a value along pairs of types, one after the other, up to the first refusal. -/
def castAlong (r : Registry) : List CasterRequest → Value → Except CastError Value
  | [], v => .ok v
  | q :: qs, v => (r.castBetween q.key.source q.key.target q.mode v).bind (r.castAlong qs)

/-- The first pair that does not accept the class refuses the object; if there is none, the handle
arrives as it was. -/
theorem castAlong_object
    (href : ∀ q ∈ qs, (r.category q.key.source q.key.target).isReference = true)
    (o : ObjectRef) :
    r.castAlong qs (.object o) =
      (qs.find? fun q => !r.accepts q.key o.type).elim (.ok (.object o)) fun q =>
        .error (.invalidCast (r.nameOf o.type) (r.nameOf q.key.target)) := by
  induction qs with
  | nil => rfl
  | cons q qs ih =>
      have hrest := ih fun q' hmem => href q' (List.mem_cons_of_mem q hmem)
      rw [castAlong, castBetween_object (href q List.mem_cons_self), List.find?_cons]
      -- What is handed on is the handle itself, so that the rest starts from the same object.
      cases haccepts : r.accepts q.key o.type with
      | true => exact hrest
      | false => rfl

theorem castAlong_object_eq_ok_iff
    (href : ∀ q ∈ qs, (r.category q.key.source q.key.target).isReference = true)
    {o : ObjectRef} {v : Value} :
    r.castAlong qs (.object o) = .ok v ↔
      v = .object o ∧ ∀ q ∈ qs, r.accepts q.key o.type = true := by
  rw [castAlong_object href]
  cases hfind : qs.find? fun q => !r.accepts q.key o.type with
  | none =>
      have hall : ∀ q ∈ qs, r.accepts q.key o.type = true := by
        simpa using List.find?_eq_none.1 hfind
      rw [Option.elim_none, Except.ok.injEq, and_iff_left hall]
      exact eq_comm
  | some q =>
      have hrefused : r.accepts q.key o.type = false := by
        simpa using List.find?_some hfind
      refine iff_of_false (by simp) ?_
      rintro ⟨-, hall⟩
      cases hrefused.symm.trans (hall q (List.mem_of_find?_eq_some hfind))

/-- A reference cast exists in either mode.  It hands on the very handle of an object whose class is
an instance of both types without their wrappers, and refuses any other object by the names of its
class and of the type cast to.  Casts along any number of pairs end with the handle that they
started from, exactly if every pair accepts its class; and whether one more reference cast succeeds
follows from that class and the two types alone. -/
theorem reference_casts_keep_handles (r : Registry) :
    (∀ source target, (r.category source target).isReference = true →
        ∀ mode, ∃ run, r.converterBetween source target mode = .ok run ∧
          ∀ o : ObjectRef,
            (∀ v, run (.object o) = .ok v ↔
              v = .object o ∧ r.isSubtype o.type (r.strip source) = true ∧
                r.isSubtype o.type (r.strip target) = true) ∧
            (¬ (r.isSubtype o.type (r.strip source) = true ∧
                r.isSubtype o.type (r.strip target) = true) →
              run (.object o) = .error (.invalidCast (r.nameOf o.type) (r.nameOf target)))) ∧
      ∀ qs : List CasterRequest,
        (∀ q ∈ qs, (r.category q.key.source q.key.target).isReference = true) →
        ∀ (o : ObjectRef) (v : Value),
          (r.castAlong qs (.object o) = .ok v ↔
            v = .object o ∧ ∀ q ∈ qs, r.isSubtype o.type (r.strip q.key.source) = true ∧
              r.isSubtype o.type (r.strip q.key.target) = true) ∧
          (r.castAlong qs (.object o) = .ok v →
            ∀ source target mode, (r.category source target).isReference = true →
              ((∃ w, r.castBetween source target mode v = .ok w) ↔
                r.isSubtype o.type (r.strip source) = true ∧
                  r.isSubtype o.type (r.strip target) = true)) := by
  refine ⟨?_, ?_⟩
  · intro source target href mode
    rcases exists_converter_object href mode with ⟨run, hrun, hanswer⟩
    refine ⟨run, hrun, ?_⟩
    intro o
    rw [← accepts_iff r { source := source, target := target }, hanswer o]
    cases r.accepts { source := source, target := target } o.type <;> simp [eq_comm]
  · intro qs href o v
    have hpairs := castAlong_object_eq_ok_iff href (o := o) (v := v)
    simp only [accepts_iff] at hpairs
    refine ⟨hpairs, ?_⟩
    intro hok source target mode href'
    rw [(hpairs.1 hok).1, exists_castBetween_object_iff href', accepts_iff]

/-- Up from `Sprite` to `Shape`, down again, and up to `Entity`. -/
def upAndDown : List CasterRequest :=
  [{ key := { source := ⟨5⟩, target := ⟨1⟩ }, mode := .checked },
    { key := { source := ⟨1⟩, target := ⟨5⟩ }, mode := .unchecked },
    { key := { source := ⟨5⟩, target := ⟨4⟩ }, mode := .checked }]

/-- A sprite arrives at `Entity` as the same sprite, and can be cast down once more.  A plain
`Entity` cannot. -/
theorem reference_casts_keep_handles_sketch :
    (∀ q ∈ upAndDown, (sketch.category q.key.source q.key.target).isReference = true) ∧
      sketch.castAlong upAndDown (.object { id := 1, type := ⟨5⟩, payload := .int 0 }) =
        .ok (.object { id := 1, type := ⟨5⟩, payload := .int 0 }) ∧
      sketch.category ⟨4⟩ ⟨5⟩ = .downcast ⟨5⟩ ∧
      (∃ w, sketch.castBetween ⟨4⟩ ⟨5⟩ .checked
        (.object { id := 1, type := ⟨5⟩, payload := .int 0 }) = .ok w) ∧
      ∃ run, sketch.converterBetween ⟨4⟩ ⟨5⟩ .unchecked = .ok run ∧
        run (.object { id := 2, type := ⟨4⟩, payload := .int 0 }) =
          .error (.invalidCast "Entity" "Sprite") := by
  have href : ∀ q ∈ upAndDown, (sketch.category q.key.source q.key.target).isReference = true := by
    decide
  have hdown : sketch.category ⟨4⟩ ⟨5⟩ = .downcast ⟨5⟩ := by decide
  have hdownref : (sketch.category ⟨4⟩ ⟨5⟩).isReference = true := by rw [hdown]; rfl
  rcases reference_casts_keep_handles sketch with ⟨hcast, hchain⟩
  have hsprite := hchain _ href { id := 1, type := ⟨5⟩, payload := .int 0 }
    (.object { id := 1, type := ⟨5⟩, payload := .int 0 })
  have hok := hsprite.1.2 ⟨rfl, by decide⟩
  have hmore := (hsprite.2 hok ⟨4⟩ ⟨5⟩ .checked hdownref).2 ⟨by decide, by decide⟩
  rcases hcast ⟨4⟩ ⟨5⟩ hdownref .unchecked with ⟨run, hrun, hanswer⟩
  have hrefused := (hanswer { id := 2, type := ⟨4⟩, payload := .int 0 }).2 (by decide)
  exact ⟨href, hok, hdown, hmore, run, hrun, hrefused⟩

end Registry
end Recast
