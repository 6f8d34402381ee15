import Recast.Context
import Recast.Proofs.Cache.Casters
import Recast.Proofs.Conversion.Rules

/-!
# Memory — a context answers as if it kept nothing

An `Operation` is one thing that a context can be asked.  `Registry.outcome` is the answer that
follows from the registry alone.  `Context.Faithful` says that everything a context keeps is such an
answer.

* `Context.Faithful.perform`: a faithful context answers from the registry and stays faithful;
* `Context.Faithful.find?_after`: a caster that is kept stays, whatever is asked afterwards;
* `Context.perform_after_eq_fresh`: hence no operation can tell which ones came before it.
-/

namespace Recast

/-! ## Operations and their outcomes -/

/-- What a context can be asked. -/
inductive Operation where
  | traits (h : TypeHash)
  | isNullable (h : TypeHash)
  | caster (source target : TypeHash) (mode : Mode)
  | bindCaster (source target : HostType) (mode : Mode)
  | cast (source target : HostType) (v : source.Carrier) (mode : Mode)
  | castValue (v : Value) (target : TypeHash) (mode : Mode)

/-- What can be seen of an answer.  A caster is seen by what it does to every value. -/
def Operation.Outcome : Operation → Type
  | .traits _ => Traits
  | .isNullable _ => Bool
  | .caster _ _ _ => Except CastError Converter
  | .bindCaster _ _ _ => Except CastError Converter
  | .cast _ target _ _ => Except CastError target.Carrier
  | .castValue _ _ _ => Except CastError Value

/-- Ask a context. -/
def Context.perform (c : Context) : (o : Operation) → o.Outcome × Context
  | .traits h => c.traits h
  | .isNullable h => c.isNullable h
  | .caster source target mode =>
      let (answer, next) := c.caster source target mode
      (answer.map Caster.run, next)
  | .bindCaster source target mode =>
      let (answer, next) := c.bindCaster source target mode
      (answer.map fun bound => bound.caster.run, next)
  | .cast source target v mode => c.cast source target v mode
  | .castValue v target mode => c.castValue v target mode

/-- The context after operations, one after the other. -/
def Context.after (c : Context) (os : List Operation) : Context :=
  os.foldl (fun c o => (c.perform o).2) c

namespace Registry

/-- The converter between two types, made anew, or why there is none. -/
def build (r : Registry) (source target : TypeHash) (mode : Mode) : Except CastError Converter :=
  (r.converterBetween source target mode).mapError BuildError.cause

/-- The answer to an operation where nothing is kept. -/
def outcome (r : Registry) : (o : Operation) → o.Outcome
  | .traits h => r.traits h
  | .isNullable h => (r.traits h).isNullable
  | .caster source target mode => r.build source target mode
  | .bindCaster source target mode => r.build source.typeHash target.typeHash mode
  | .cast source target v mode =>
      (r.build source.typeHash target.typeHash mode).bind fun run =>
        (run (source.erase v)).bind target.extract
  | .castValue v target mode =>
      match v.typeHash? with
      | none =>
          if (r.traits target).isNullable then
            .ok .null
          else
            .error (.nullNotAllowed (r.nameOf target))
      | some source => (r.build source target mode).bind fun run => run v

/-- A cast between host types is one of the erased value, read back. -/
theorem outcome_cast_eq (r : Registry) (s t : HostType) (v : s.Carrier) (mode : Mode) :
    r.outcome (.cast s t v mode) =
      (r.castBetween s.typeHash t.typeHash mode (s.erase v)).bind t.extract :=
  (bind_assoc (r.build s.typeHash t.typeHash mode) _ _).symm

/-- A cast of a value is one from its run-time type. -/
theorem outcome_castValue_of_typeHash? {r : Registry} {v : Value} {source : TypeHash}
    (hsource : v.typeHash? = some source) (target : TypeHash) (mode : Mode) :
    r.outcome (.castValue v target mode) = r.castBetween source target mode v := by
  simp only [outcome, hsource]
  rfl

end Registry

/-! ## Kept answers -/

namespace Table

variable {α β : Type} [DecidableEq α] {t : Table α β} {f : α → β}

/-- A table keeps nothing but values of a function. -/
def Agrees (t : Table α β) (f : α → β) : Prop :=
  ∀ key kept, t.get? key = some kept → kept = f key

theorem agrees_empty : (empty : Table α β).Agrees f := by
  intro key kept hkept
  cases hkept

theorem Agrees.memo (ht : t.Agrees f) (key : α) (compute : Unit → β)
    (hcompute : compute () = f key) :
    (t.memo key compute).1 = f key ∧ (t.memo key compute).2.Agrees f := by
  have hanswer : (t.memo key compute).1 = f key := by
    rw [memo_answer]
    cases hget : t.get? key with
    | some kept => exact ht key kept hget
    | none => exact hcompute
  refine ⟨hanswer, ?_⟩
  intro key' kept hkept
  rw [get?_memo, hanswer] at hkept
  split at hkept
  · rename_i heq
    rw [heq]
    exact (Option.some.inj hkept).symm
  · exact ht key' kept hkept

end Table

namespace Context

variable {r : Registry} {c : Context}

/-- A context over a registry keeps nothing but what the registry answers. -/
structure Faithful (r : Registry) (c : Context) : Prop where
  registry_eq : c.registry = r
  casters : c.cache.Canonical r
  nullability : c.cache.nullability.Agrees fun h => (r.traits h).isNullable
  traits : c.traitTable.Agrees r.traits

theorem faithful_ofRegistry (r : Registry) : (ofRegistry r).Faithful r := by
  refine ⟨rfl, CasterCache.canonical_emptyFrom 0, ?_, ?_⟩
  · exact Table.agrees_empty
  · exact Table.agrees_empty

/-! ## One operation -/

theorem Faithful.traits_eq (hc : c.Faithful r) (h : TypeHash) :
    (c.traits h).1 = r.traits h ∧ (c.traits h).2.Faithful r := by
  have hcompute : c.registry.traits h = r.traits h := by rw [hc.registry_eq]
  have hmemo := hc.traits.memo h (fun _ => c.registry.traits h) hcompute
  exact ⟨hmemo.1, hc.registry_eq, hc.casters, hc.nullability, hmemo.2⟩

theorem Faithful.isNullable_eq (hc : c.Faithful r) (h : TypeHash) :
    (c.isNullable h).1 = (r.traits h).isNullable ∧ (c.isNullable h).2.Faithful r := by
  unfold isNullable
  cases hget : c.cache.nullability.get? h with
  | some kept =>
      exact ⟨hc.nullability h kept hget, hc⟩
  | none =>
      rcases hc.traits_eq h with ⟨htraits, hasked⟩
      have hcompute : (c.traits h).1.isNullable = (r.traits h).isNullable := by rw [htraits]
      have hmemo := hasked.nullability.memo h (fun _ => (c.traits h).1.isNullable) hcompute
      exact ⟨hmemo.1, hasked.registry_eq, hasked.casters.withNullability _, hmemo.2,
        hasked.traits⟩

theorem Faithful.caster_eq (hc : c.Faithful r) (source target : TypeHash) (mode : Mode) :
    (c.caster source target mode).1.map Caster.run = r.build source target mode ∧
      (c.caster source target mode).2.Faithful r := by
  rcases hc with ⟨rfl, hcasters, hnullability, htraits⟩
  let q : CasterRequest := { key := { source := source, target := target }, mode := mode }
  have hs := CasterCache.served hcasters q
  have hkept : (c.cache.serve c.registry q).2.nullability.Agrees fun h =>
      (c.registry.traits h).isNullable := by
    simpa [hs.nullability_eq] using hnullability
  exact ⟨hs.map_run_eq hcasters, rfl, hs.canonical hcasters, hkept, htraits⟩

theorem Faithful.converterBetween_eq (hc : c.Faithful r) {source target : TypeHash} {mode : Mode}
    {kept : Caster} (hok : (c.caster source target mode).1 = .ok kept) :
    r.converterBetween source target mode = .ok kept.run := by
  rcases hc with ⟨rfl, hcasters, -, -⟩
  let q : CasterRequest := { key := { source := source, target := target }, mode := mode }
  have hs := CasterCache.served hcasters q
  have hanswer : (c.cache.serve c.registry q).1 = .ok kept := hok
  rw [hanswer] at hs
  exact hs.converterFor_eq hcasters

/-- Where a caster is asked for and then used, only its converter matters. -/
theorem bind_run_eq {α : Type} {answer : Except CastError Caster}
    (use : Converter → Except CastError α) :
    (answer.bind fun caster => use caster.run) = (answer.map Caster.run).bind use := by
  cases answer <;> rfl

theorem Faithful.castValue_eq (hc : c.Faithful r) (v : Value) (target : TypeHash) (mode : Mode) :
    (c.castValue v target mode).1 = r.outcome (.castValue v target mode) ∧
      (c.castValue v target mode).2.Faithful r := by
  unfold castValue
  cases hsource : v.typeHash? with
  | none =>
      rcases hc.isNullable_eq target with ⟨hanswer, hnext⟩
      simp only [hanswer, hc.registry_eq, Registry.outcome, hsource]
      cases (r.traits target).isNullable with
      | true => exact ⟨rfl, hnext⟩
      | false => exact ⟨rfl, hnext⟩
  | some source =>
      rcases hc.caster_eq source target mode with ⟨hanswer, hnext⟩
      simp only [Registry.outcome, hsource, ← hanswer]
      exact ⟨bind_run_eq fun run => run v, hnext⟩

/-- A faithful context answers from the registry and stays faithful. -/
theorem Faithful.perform (hc : c.Faithful r) (o : Operation) :
    (c.perform o).1 = r.outcome o ∧ (c.perform o).2.Faithful r := by
  cases o with
  | traits h =>
      exact hc.traits_eq h
  | isNullable h =>
      exact hc.isNullable_eq h
  | caster source target mode =>
      exact hc.caster_eq source target mode
  | bindCaster source target mode =>
      rcases hc.caster_eq source.typeHash target.typeHash mode with ⟨hanswer, hnext⟩
      refine ⟨Eq.trans ?_ hanswer, hnext⟩
      show ((c.caster source.typeHash target.typeHash mode).1.map _).map _ = _
      cases (c.caster source.typeHash target.typeHash mode).1 with
      | ok kept => rfl
      | error e => rfl
  | cast source target v mode =>
      rcases hc.caster_eq source.typeHash target.typeHash mode with ⟨hanswer, hnext⟩
      let use : Converter → Except CastError target.Carrier := fun run =>
        (run (source.erase v)).bind target.extract
      have hused := congrArg (fun answer => Except.bind answer use) hanswer
      exact ⟨(bind_run_eq use).trans hused, hnext⟩
  | castValue v target mode =>
      exact hc.castValue_eq v target mode

/-! ## What an operation keeps -/

theorem Faithful.find?_caster (hc : c.Faithful r) {q : CasterRequest} {kept : Caster}
    (hkept : c.cache.find? q = some kept) (source target : TypeHash) (mode : Mode) :
    (c.caster source target mode).2.cache.find? q = some kept := by
  rcases hc with ⟨rfl, hcasters, -, -⟩
  let q' : CasterRequest := { key := { source := source, target := target }, mode := mode }
  exact (CasterCache.served hcasters q').find?_of_eq_some hcasters hkept

/-- The caster that is answered is kept from then on. -/
theorem Faithful.find?_caster_self (hc : c.Faithful r) {source target : TypeHash} {mode : Mode}
    {kept : Caster} (hok : (c.caster source target mode).1 = .ok kept) :
    (c.caster source target mode).2.cache.find?
      { key := { source := source, target := target }, mode := mode } = some kept := by
  rcases hc with ⟨rfl, hcasters, -, -⟩
  let q : CasterRequest := { key := { source := source, target := target }, mode := mode }
  have hs := CasterCache.served hcasters q
  have hanswer : (c.cache.serve c.registry q).1 = .ok kept := hok
  rw [hanswer] at hs
  exact hs.find?_self

theorem find?_isNullable (c : Context) (h : TypeHash) (q : CasterRequest) :
    (c.isNullable h).2.cache.find? q = c.cache.find? q := by
  obtain ⟨key, mode⟩ := q
  unfold isNullable
  cases c.cache.nullability.get? h with
  | some kept => rfl
  | none => cases mode <;> rfl

/-- No operation gives up a caster that is kept. -/
theorem Faithful.find?_perform (hc : c.Faithful r) {q : CasterRequest} {kept : Caster}
    (hkept : c.cache.find? q = some kept) (o : Operation) :
    (c.perform o).2.cache.find? q = some kept := by
  cases o with
  | traits h =>
      exact hkept
  | isNullable h =>
      exact (find?_isNullable c h q).trans hkept
  | caster source target mode =>
      exact hc.find?_caster hkept source target mode
  | bindCaster source target mode =>
      exact hc.find?_caster hkept source.typeHash target.typeHash mode
  | cast source target v mode =>
      exact hc.find?_caster hkept source.typeHash target.typeHash mode
  | castValue v target mode =>
      show (c.castValue v target mode).2.cache.find? q = some kept
      unfold castValue
      cases v.typeHash? with
      | none =>
          -- For `null` only absence is looked up, which concerns another table.
          have hnext := (find?_isNullable c target q).trans hkept
          cases hanswer : (c.isNullable target).1 <;> simpa [hanswer] using hnext
      | some source => exact hc.find?_caster hkept source target mode

/-! ## Any number of operations -/

theorem Faithful.after (hc : c.Faithful r) (os : List Operation) : (c.after os).Faithful r := by
  induction os generalizing c with
  | nil =>
      exact hc
  | cons o os ih =>
      exact ih (hc.perform o).2

theorem Faithful.find?_after (hc : c.Faithful r) {q : CasterRequest} {kept : Caster}
    (hkept : c.cache.find? q = some kept) (os : List Operation) :
    (c.after os).cache.find? q = some kept := by
  induction os generalizing c with
  | nil =>
      exact hkept
  | cons o os ih =>
      exact ih (hc.perform o).2 (hc.find?_perform hkept o)

theorem cast_after_eq (r : Registry) (os : List Operation) (s t : HostType) (v : s.Carrier)
    (mode : Mode) :
    (((ofRegistry r).after os).cast s t v mode).1 = r.outcome (.cast s t v mode) :=
  (((faithful_ofRegistry r).after os).perform (.cast s t v mode)).1

theorem castValue_after_eq (r : Registry) (os : List Operation) (v : Value) (target : TypeHash)
    (mode : Mode) :
    (((ofRegistry r).after os).castValue v target mode).1 = r.outcome (.castValue v target mode) :=
  (((faithful_ofRegistry r).after os).perform (.castValue v target mode)).1

/-- Whatever a context was asked before, an operation has the outcome that it has on a fresh context
over the same registry, which is the one that follows from the registry alone; and a caster that is
answered is the converter of the registry for that pair and mode. -/
theorem perform_after_eq_fresh (r : Registry) (os : List Operation) (o : Operation) :
    (((ofRegistry r).after os).perform o).1 = ((ofRegistry r).perform o).1 ∧
      (((ofRegistry r).after os).perform o).1 = r.outcome o ∧
      ∀ source target mode kept,
        (((ofRegistry r).after os).caster source target mode).1 = .ok kept →
        r.converterBetween source target mode = .ok kept.run := by
  have hstart := faithful_ofRegistry r
  have hend := hstart.after os
  refine ⟨?_, (hend.perform o).1, ?_⟩
  · exact (hend.perform o).1.trans (hstart.perform o).1.symm
  · intro source target mode kept hok
    exact hend.converterBetween_eq hok

end Context
end Recast
