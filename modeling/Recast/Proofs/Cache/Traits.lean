import Mathlib.Data.Finset.Card
import Recast.Cache
import Recast.Proofs.Registry.Extension

/-!
# Traits — kept traits of a registry that grows

A table of traits may stand beside a registry that still grows.  A `TraitSession` is such a pair,
and a `TraitEvent` is one thing that happens to it: a registration, taken in or refused, or a
question for the traits of a type.  Nothing that is kept is looked up again, so that the first
question for a type decides every answer.

* `TraitSession.answer_run`: the answer is what the registry said when the type was asked for first;
* `TraitSession.contains_run_iff`: the table keeps the types that were asked for;
* `TraitSession.stale_only_if_unknown`: hence an answer goes out of date only for a type that was
  unknown when it was asked for first and has become known since.
-/

namespace Recast

/-- What can happen to a registry and the table of traits beside it. -/
inductive TraitEvent where
  | register (g : Registration)
  | ask (h : TypeHash)

/-- The type that is asked for. -/
def TraitEvent.asked? : TraitEvent → Option TypeHash
  | .register _ => none
  | .ask h => some h

theorem TraitEvent.asked?_eq_some_iff {e : TraitEvent} {h : TypeHash} :
    e.asked? = some h ↔ e = .ask h := by
  cases e <;> simp [asked?]

/-- A table has as many entries as there are keys with a value. -/
theorem Table.size_eq_card {α β : Type} [DecidableEq α] {t : Table α β} {keys : List α}
    (hkeys : ∀ key, t.contains key = true ↔ key ∈ keys) : t.size = keys.toFinset.card := by
  have hsame : (t.entries.map Prod.fst).toFinset = keys.toFinset := by
    ext key
    have hcontains : t.contains key = false ↔ key ∉ t.entries.map Prod.fst :=
      contains_eq_false_iff.trans get?_eq_none_iff
    rw [List.mem_toFinset, List.mem_toFinset, ← hkeys, ← not_iff_not, ← hcontains,
      Bool.not_eq_true]
  rw [← hsame, List.toFinset_card_of_nodup t.keys_nodup, List.length_map]
  rfl

/-- A registry and the table of traits that is kept beside it. -/
structure TraitSession where
  registry : Registry
  table : TraitTable

namespace TraitSession

variable {r : Registry} {s : TraitSession} {e : TraitEvent} {es : List TraitEvent}
  {h h' : TypeHash} {kept : Traits}

/-- A session in which nothing was asked yet. -/
def start (r : Registry) : TraitSession :=
  { registry := r
    table := Table.empty }

/-- The answer to a question for the traits of a type, asked now. -/
def answer (s : TraitSession) (h : TypeHash) : Traits :=
  (s.table.traits s.registry h).1

def step (s : TraitSession) : TraitEvent → TraitSession
  | .register g => { s with registry := (s.registry.register g).2 }
  | .ask h => { s with table := (s.table.traits s.registry h).2 }

/-- The session after events, one after the other. -/
def run (s : TraitSession) (es : List TraitEvent) : TraitSession :=
  es.foldl step s

/-- The types that are asked for in a list of events, in order. -/
def asked (es : List TraitEvent) : List TypeHash :=
  es.filterMap TraitEvent.asked?

/-- The registry as it is when a type is asked for first: in a list of events, or after all of them
where none asks for it. -/
def registryAtFirst (s : TraitSession) (es : List TraitEvent) (h : TypeHash) : Registry :=
  (s.run (es.takeWhile fun e => e.asked? ≠ some h)).registry

theorem run_append (s : TraitSession) (es rest : List TraitEvent) :
    s.run (es ++ rest) = (s.run es).run rest :=
  List.foldl_append

/-! ## The registry grows -/

theorem leads_step (hleads : r.Leads s.registry) (e : TraitEvent) :
    r.Leads (s.step e).registry := by
  cases e with
  | register g => exact hleads.register g
  | ask h => exact hleads

theorem leads_run (hleads : r.Leads s.registry) (es : List TraitEvent) :
    r.Leads (s.run es).registry := by
  induction es generalizing s with
  | nil =>
      exact hleads
  | cons e es ih =>
      exact ih (leads_step hleads e)

theorem registryAtFirst_leads (s : TraitSession) (es : List TraitEvent) (h : TypeHash) :
    (s.registryAtFirst es h).Leads (s.run es).registry := by
  have hlater := leads_run (s := s.run (es.takeWhile fun e => e.asked? ≠ some h)) .refl
    (es.dropWhile fun e => e.asked? ≠ some h)
  rwa [← run_append, List.takeWhile_append_dropWhile] at hlater

/-! ## One event -/

theorem answer_eq (s : TraitSession) (h : TypeHash) :
    s.answer h = (s.table.get? h).getD (s.registry.traits h) :=
  Table.memo_answer _ _ _

theorem get?_step_ask (s : TraitSession) (h h' : TypeHash) :
    (s.step (.ask h)).table.get? h' = if h' = h then some (s.answer h) else s.table.get? h' :=
  Table.get?_memo _ _ _ _

/-- What is kept stays. -/
theorem get?_step_of_eq_some (hkept : s.table.get? h = some kept) (e : TraitEvent) :
    (s.step e).table.get? h = some kept := by
  cases e with
  | register g => exact hkept
  | ask h' =>
      rw [get?_step_ask, answer_eq]
      split
      · rename_i heq
        simp [← heq, hkept]
      · exact hkept

/-- Only a question for a type makes the table keep its traits. -/
theorem get?_step_of_ne (hne : e.asked? ≠ some h) :
    (s.step e).table.get? h = s.table.get? h := by
  cases e with
  | register g => rfl
  | ask h' =>
      have hother : h ≠ h' := by
        rintro rfl
        exact hne rfl
      rw [get?_step_ask, if_neg hother]

theorem contains_step_iff :
    (s.step e).table.contains h = true ↔ e.asked? = some h ∨ s.table.contains h = true := by
  by_cases hask : e.asked? = some h
  · rw [TraitEvent.asked?_eq_some_iff] at hask
    simp [hask, Table.contains, get?_step_ask, TraitEvent.asked?]
  · simp [hask, Table.contains, get?_step_of_ne hask]

/-! ## Any number of events -/

theorem get?_run_of_eq_some (hkept : s.table.get? h = some kept) (es : List TraitEvent) :
    (s.run es).table.get? h = some kept := by
  induction es generalizing s with
  | nil =>
      exact hkept
  | cons e es ih =>
      exact ih (get?_step_of_eq_some hkept e)

theorem contains_run_iff :
    (s.run es).table.contains h = true ↔ h ∈ asked es ∨ s.table.contains h = true := by
  induction es generalizing s with
  | nil =>
      simp [run, asked]
  | cons e es ih =>
      have hasked : h ∈ asked (e :: es) ↔ e.asked? = some h ∨ h ∈ asked es := by
        simp [asked]
      rw [hasked, or_assoc, or_left_comm, ← contains_step_iff]
      exact ih

/-- The answer is what the registry says of the type when it is asked for first. -/
theorem answer_run (hfree : s.table.get? h = none) (es : List TraitEvent) :
    (s.run es).answer h = (s.registryAtFirst es h).traits h := by
  -- Up to the first question nothing is kept; from then on its answer is.
  induction es generalizing s with
  | nil =>
      show s.answer h = s.registry.traits h
      rw [answer_eq, hfree]
      rfl
  | cons e es ih =>
      by_cases hask : e.asked? = some h
      · have hfirst : s.registryAtFirst (e :: es) h = s.registry := by
          simp [registryAtFirst, hask, run]
        have hanswer : s.answer h = s.registry.traits h := by
          rw [answer_eq, hfree]
          rfl
        have hkept : (s.step e).table.get? h = some (s.registry.traits h) := by
          rw [TraitEvent.asked?_eq_some_iff.1 hask, get?_step_ask, if_pos rfl, hanswer]
        have hstays : (s.run (e :: es)).table.get? h = some (s.registry.traits h) :=
          get?_run_of_eq_some hkept es
        rw [answer_eq, hstays, hfirst]
        rfl
      · have hfirst : s.registryAtFirst (e :: es) h = (s.step e).registryAtFirst es h := by
          simp [registryAtFirst, hask, run]
        rw [hfirst]
        exact ih ((get?_step_of_ne hask).trans hfree)

/-! ## Answers that go out of date -/

/-- However registrations and questions to an empty table follow each other: a type has the traits
that it had when it was asked for first.  If it was known then, these are its traits in every later
registry.  If it was not, it counts as unknown from then on.  So an answer is out of date exactly if
the type was unknown when it was asked for first and is known now.  The table keeps one entry for
each type that was asked for. -/
theorem stale_only_if_unknown (r : Registry) (es : List TraitEvent) :
    (∀ h, ((start r).run es).answer h = ((start r).registryAtFirst es h).traits h) ∧
      (∀ h, ((start r).registryAtFirst es h).isKnown h = true → ∀ rest,
        ((start r).run es).answer h = ((start r).run (es ++ rest)).registry.traits h) ∧
      (∀ h, ((start r).registryAtFirst es h).isKnown h = false →
        ((start r).run es).answer h = .unknown) ∧
      (∀ h, ((start r).run es).answer h ≠ ((start r).run es).registry.traits h ↔
        ((start r).registryAtFirst es h).isKnown h = false ∧
          ((start r).run es).registry.isKnown h = true) ∧
      ((start r).run es).table.size = (asked es).toFinset.card := by
  have hanswer : ∀ h, ((start r).run es).answer h =
      ((start r).registryAtFirst es h).traits h := fun h => answer_run (Table.get?_empty h) es
  have hknown : ∀ h, ((start r).registryAtFirst es h).isKnown h = true → ∀ rest,
      ((start r).run es).answer h = ((start r).run (es ++ rest)).registry.traits h := by
    intro h hknown rest
    have hleads := leads_run (registryAtFirst_leads (start r) es h) rest
    rw [run_append, hleads.traits_eq hknown]
    exact hanswer h
  have hunknown : ∀ h, ((start r).registryAtFirst es h).isKnown h = false →
      ((start r).run es).answer h = .unknown := by
    intro h hunknown
    exact (hanswer h).trans (Registry.traits_eq_unknown_iff.2 hunknown)
  refine ⟨hanswer, hknown, hunknown, ?_, ?_⟩
  · intro h
    cases hfirst : ((start r).registryAtFirst es h).isKnown h with
    | true =>
        have hcurrent := hknown h hfirst []
        rw [List.append_nil] at hcurrent
        simp [hcurrent]
    | false =>
        rw [hunknown h hfirst, ne_comm, ne_eq, Registry.traits_eq_unknown_iff]
        simp
  · apply Table.size_eq_card
    intro h
    have hempty : (start r).table.contains h = false := rfl
    simp [contains_run_iff, hempty]

/-- Two types are asked for before a value class is declared under the hash of the first one.  Its
wrapper is asked for afterwards. -/
def early : List TraitEvent :=
  [.ask ⟨7⟩, .ask ⟨8⟩,
    .register (.declare (.classType
      { name := "Point", hash := ⟨7⟩, semantics := .value, base := none, interfaces := [] })),
    .ask (TypeHash.nullable ⟨7⟩), .ask ⟨7⟩]

/-- The class is out of date; its wrapper and the type that is still unknown are not. -/
theorem stale_only_if_unknown_early :
    ((start .empty).registryAtFirst early ⟨7⟩).isKnown ⟨7⟩ = false ∧
      ((start .empty).run early).answer ⟨7⟩ = .unknown ∧
      ((start .empty).run early).registry.traits ⟨7⟩ = .valueClass ∧
      ((start .empty).run early).answer ⟨8⟩ = ((start .empty).run early).registry.traits ⟨8⟩ ∧
      ((start .empty).registryAtFirst early (TypeHash.nullable ⟨7⟩)).isKnown
        (TypeHash.nullable ⟨7⟩) = true ∧
      (∀ rest, ((start .empty).run early).answer (TypeHash.nullable ⟨7⟩) =
        ((start .empty).run (early ++ rest)).registry.traits (TypeHash.nullable ⟨7⟩)) ∧
      ((start .empty).run early).table.size = 3 := by
  obtain ⟨-, hknown, hunknown, hstale, hsize⟩ := stale_only_if_unknown .empty early
  have hclass : ((start .empty).registryAtFirst early ⟨7⟩).isKnown ⟨7⟩ = false := by decide
  have hwrapper : ((start .empty).registryAtFirst early (TypeHash.nullable ⟨7⟩)).isKnown
      (TypeHash.nullable ⟨7⟩) = true := by decide
  refine ⟨hclass, hunknown _ hclass, by decide, ?_, hwrapper, hknown _ hwrapper, ?_⟩
  · by_contra hne
    have hlate := ((hstale ⟨8⟩).1 hne).2
    revert hlate
    decide
  · rw [hsize]
    decide

end TraitSession
end Recast
