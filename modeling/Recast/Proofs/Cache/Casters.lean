import Recast.Cache
import Recast.Proofs.Conversion.Modes

/-!
# Casters — what a cache keeps of the requests it served

A `CasterRequest` asks a cache for the caster of a pair and a mode.  `Registry.Shares` says which
requests are one to the cache: those that differ in nothing but a mode that does not matter.
`CasterCache.Canonical` says that a cache keeps one caster for all of these, made for them and
different from all others.

* `CasterCache.served`: the three ways in which a request can be served;
* `CasterCache.Canonical.after`: serving requests keeps a cache canonical;
* `CasterCache.canonical_entries`: what a cache holds after any requests, and which of them were
  answered by the same caster.
-/

namespace Recast

/-! ## Requests -/

/-- A request for the caster of a pair and a mode. -/
structure CasterRequest where
  key : TypePair
  mode : Mode

namespace Registry

variable {r : Registry} {q q' q'' : CasterRequest}

/-- The converter that is asked for. -/
def converterFor (r : Registry) (q : CasterRequest) : Except BuildError Converter :=
  r.converterBetween q.key.source q.key.target q.mode

/-- Whether the modes of a pair are told apart. -/
def dependsOnMode (r : Registry) (key : TypePair) : Bool :=
  (r.conversionBetween key.source key.target).dependsOnMode

/-- Two requests are for the same pair, and for the same mode where it matters. -/
def Shares (r : Registry) (q q' : CasterRequest) : Prop :=
  q.key = q'.key ∧ (q.mode = q'.mode ∨ r.dependsOnMode q.key = false)

instance : Decidable (r.Shares q q') :=
  inferInstanceAs (Decidable (_ ∧ _))

theorem Shares.refl (q : CasterRequest) : r.Shares q q :=
  ⟨rfl, Or.inl rfl⟩

theorem Shares.symm (h : r.Shares q q') : r.Shares q' q := by
  rcases h with ⟨hkey, hmode⟩
  refine ⟨hkey.symm, ?_⟩
  rw [← hkey]
  exact hmode.imp_left Eq.symm

theorem Shares.trans (h : r.Shares q q') (h' : r.Shares q' q'') : r.Shares q q'' := by
  rcases h with ⟨hkey, hmode⟩
  rcases h' with ⟨hkey', hmode'⟩
  refine ⟨hkey.trans hkey', ?_⟩
  rw [← hkey] at hmode'
  rcases hmode with hmode | hfree
  · rw [hmode]
    exact hmode'
  · exact Or.inr hfree

theorem Shares.converterFor_eq (h : r.Shares q q') : r.converterFor q = r.converterFor q' := by
  rcases h with ⟨hkey, hmode⟩
  unfold converterFor
  rw [← hkey]
  rcases hmode with hmode | hfree
  · rw [hmode]
  · exact converterBetween_of_not_dependsOnMode hfree q.mode q'.mode

end Registry

namespace CasterCache

variable {r : Registry} {c : CasterCache} {q q' : CasterRequest} {kept kept' : Caster}

/-- The caster that is kept for a request. -/
def find? (c : CasterCache) (q : CasterRequest) : Option Caster :=
  c.get? q.key q.mode

/-- Serve a request. -/
def serve (c : CasterCache) (r : Registry) (q : CasterRequest) :
    Except CastError Caster × CasterCache :=
  c.caster r q.key q.mode

/-! ## One request -/

/-- A caster has been kept for some requests, and all else is as before. -/
structure Keeps (c : CasterCache) (built : Caster) (p : CasterRequest → Prop)
    (next : CasterCache) : Prop where
  find?_eq : ∀ q, p q → next.find? q = some built
  find?_eq_old : ∀ q, ¬ p q → next.find? q = c.find? q
  serial_eq : next.serial = c.serial
  nullability_eq : next.nullability = c.nullability

theorem Keeps.congr {built : Caster} {p p' : CasterRequest → Prop} {next : CasterCache}
    (hkeeps : c.Keeps built p next) (hiff : ∀ q, p' q ↔ p q) : c.Keeps built p' next := by
  have heq : p' = p := funext fun q => propext (hiff q)
  simpa [heq] using hkeeps

theorem casters_keepFor {key : TypePair} {built : Caster} {mode mode' : Mode} :
    (c.keepFor key built mode).2.casters mode' =
      if mode' = mode then (c.casters mode).insertNew key built else c.casters mode' := by
  cases mode <;> cases mode' <;> rfl

theorem keeps_keepFor {key : TypePair} {mode : Mode} (built : Caster)
    (hfree : c.get? key mode = none) :
    (c.keepFor key built mode).1 = built ∧
      c.Keeps built (fun q => key = q.key ∧ mode = q.mode) (c.keepFor key built mode).2 := by
  have hanswer : (c.keepFor key built mode).1 = ((c.get? key mode).getD built) := by
    cases mode <;> rfl
  have hgrown := Table.get?_insertNew_of_eq_none hfree
  refine ⟨by simp [hanswer, hfree], ?_, ?_, by cases mode <;> rfl, by cases mode <;> rfl⟩
  · rintro q ⟨rfl, rfl⟩
    simp [find?, get?, casters_keepFor, hgrown]
  · intro q hother
    by_cases hmode : q.mode = mode
    · have hkey : ¬ q.key = key := fun hkey => hother ⟨hkey.symm, hmode.symm⟩
      simp [find?, get?, casters_keepFor, hgrown, hmode, hkey]
    · simp [find?, get?, casters_keepFor, hmode]

theorem keeps_keepShared {key : TypePair} (built : Caster)
    (hfree : ∀ mode, c.get? key mode = none) :
    (c.keepShared key built).1 = built ∧
      c.Keeps built (fun q => key = q.key) (c.keepShared key built).2 := by
  have hunchecked : c.unchecked.get? key = none := hfree .unchecked
  have hchecked : c.checked.get? key = none := hfree .checked
  refine ⟨by simp [keepShared, hunchecked], ?_, ?_, rfl, rfl⟩
  · rintro ⟨key', mode⟩ rfl
    cases mode <;>
      simp [keepShared, find?, get?, casters, Table.get?_insertNew, hunchecked, hchecked]
  · rintro ⟨key', mode⟩ hother
    have hne : ¬ key' = key := fun heq => hother heq.symm
    cases mode <;> simp [keepShared, find?, get?, casters, Table.get?_insertNew, hne]

theorem find?_issue (run : Converter) (q : CasterRequest) :
    (c.issue run).2.find? q = c.find? q := by
  rcases q with ⟨key, mode⟩
  cases mode <;> rfl

theorem serve_of_kept (hkept : c.find? q = some kept) : c.serve r q = (.ok kept, c) := by
  have hget : c.get? q.key q.mode = some kept := hkept
  simp [serve, caster, hget]

theorem serve_of_error {e : BuildError} (hfree : c.find? q = none)
    (hfailed : r.converterFor q = .error e) : c.serve r q = (.error e.cause, c) := by
  have hget : c.get? q.key q.mode = none := hfree
  have hconverter : r.converter (r.conversionBetween q.key.source q.key.target) q.mode =
    .error e := hfailed
  simp [serve, caster, hget, hconverter]

/-- A new caster is kept for its mode alone, or for both. -/
theorem serve_of_ok {run : Converter} (hfree : c.find? q = none)
    (hbuilt : r.converterFor q = .ok run) :
    c.serve r q =
      let stored :=
        if r.dependsOnMode q.key then
          (c.issue run).2.keepFor q.key (c.issue run).1 q.mode
        else
          (c.issue run).2.keepShared q.key (c.issue run).1
      (.ok stored.1, stored.2) := by
  have hget : c.get? q.key q.mode = none := hfree
  have hconverter : r.converter (r.conversionBetween q.key.source q.key.target) q.mode =
    .ok run := hbuilt
  simp only [serve, caster, hget, hconverter]
  rfl

/-- How a request is served: from what is kept, by a failure of which nothing is kept, or by a new
caster, which is kept for all requests that share its entry. -/
inductive Served (r : Registry) (c : CasterCache) (q : CasterRequest) :
    Except CastError Caster → CasterCache → Prop where
  | hit {kept : Caster} : c.find? q = some kept → Served r c q (.ok kept) c
  | failed {e : BuildError} : c.find? q = none → r.converterFor q = .error e →
      Served r c q (.error e.cause) c
  | stored {run : Converter} {next : CasterCache} : c.find? q = none →
      r.converterFor q = .ok run → (c.issue run).2.Keeps (c.issue run).1 (r.Shares q) next →
      Served r c q (.ok (c.issue run).1) next

/-- A cache keeps one caster for the requests that share an entry: issued by this cache, different
from all others, and made for them. -/
structure Canonical (r : Registry) (c : CasterCache) : Prop where
  shared : ∀ {q q'}, r.Shares q q' → c.find? q = c.find? q'
  issued : ∀ {q kept}, c.find? q = some kept → ∃ i < c.serial, kept.id = .issued i
  distinct : ∀ {q q' kept kept'}, c.find? q = some kept → c.find? q' = some kept' →
    kept.id = kept'.id → r.Shares q q'
  built : ∀ {q kept}, c.find? q = some kept → r.converterFor q = .ok kept.run

theorem Canonical.id_ne_next (hc : c.Canonical r) (hkept : c.find? q = some kept) :
    kept.id ≠ .issued c.serial := by
  intro hid
  rcases hc.issued hkept with ⟨i, hi, hid'⟩
  cases hid'.symm.trans hid
  exact Nat.lt_irrefl _ hi

theorem Canonical.same_iff (hc : c.Canonical r) (hkept : c.find? q = some kept)
    (hkept' : c.find? q' = some kept') : kept.same kept' = true ↔ r.Shares q q' := by
  have hsame : kept.same kept' = true ↔ kept.id = kept'.id := decide_eq_true_iff
  refine hsame.trans ?_
  constructor
  · exact hc.distinct hkept hkept'
  · intro hshares
    cases hkept.symm.trans ((hc.shared hshares).trans hkept')
    rfl

/-- The entry of a request is that of another one exactly if they share it. -/
theorem Canonical.find?_eq_iff (hc : c.Canonical r) (hkept : c.find? q = some kept) :
    c.find? q = c.find? q' ↔ r.Shares q q' := by
  constructor
  · intro hsame
    exact hc.distinct hkept (hsame.symm.trans hkept) rfl
  · exact hc.shared

/-- Nothing is kept where there is no conversion. -/
theorem Canonical.find?_eq_none (hc : c.Canonical r)
    (hinvalid : r.isConvertible q.key.source q.key.target = false) : c.find? q = none := by
  cases hkept : c.find? q with
  | none => rfl
  | some kept =>
      have hvalid := (Registry.exists_converterBetween_iff q.mode).1 ⟨kept.run, hc.built hkept⟩
      cases hinvalid.symm.trans hvalid

theorem served (hc : c.Canonical r) (q : CasterRequest) :
    Served r c q (c.serve r q).1 (c.serve r q).2 := by
  cases hfind : c.find? q with
  | some kept =>
      rw [serve_of_kept hfind]
      exact .hit hfind
  | none =>
      cases hbuilt : r.converterFor q with
      | error e =>
          rw [serve_of_error hfind hbuilt]
          exact .failed hfind hbuilt
      | ok run =>
          rw [serve_of_ok hfind hbuilt]
          by_cases hmode : r.dependsOnMode q.key = true
          · have hfree : (c.issue run).2.get? q.key q.mode = none :=
              (find?_issue run q).trans hfind
            rcases keeps_keepFor (c.issue run).1 hfree with ⟨hanswer, hkeeps⟩
            have hstored : (c.issue run).2.Keeps (c.issue run).1 (r.Shares q) _ :=
              hkeeps.congr fun q' => by simp [Registry.Shares, hmode]
            simpa [hmode, hanswer] using Served.stored hfind hbuilt hstored
          -- Nothing is kept for the other mode either, so that both receive the new caster.
          · have hfree : ∀ mode, (c.issue run).2.get? q.key mode = none := by
              intro mode
              have hshares : r.Shares q ⟨q.key, mode⟩ := ⟨rfl, Or.inr (by simpa using hmode)⟩
              exact (find?_issue run ⟨q.key, mode⟩).trans ((hc.shared hshares).symm.trans hfind)
            rcases keeps_keepShared (c.issue run).1 hfree with ⟨hanswer, hkeeps⟩
            have hstored : (c.issue run).2.Keeps (c.issue run).1 (r.Shares q) _ :=
              hkeeps.congr fun q' => by simp [Registry.Shares, hmode]
            simpa [hmode, hanswer] using Served.stored hfind hbuilt hstored

section Step

variable {answer : Except CastError Caster} {next : CasterCache}

/-- What is kept stays. -/
theorem Served.find?_of_eq_some (hs : Served r c q answer next) (hc : c.Canonical r)
    (hkept : c.find? q' = some kept) : next.find? q' = some kept := by
  cases hs with
  | hit _ => exact hkept
  | failed _ _ => exact hkept
  | @stored run _ hfree _ hkeeps =>
      have hapart : ¬ r.Shares q q' := by
        intro hshares
        cases hfree.symm.trans ((hc.shared hshares).trans hkept)
      exact (hkeeps.find?_eq_old q' hapart).trans ((find?_issue run q').trans hkept)

/-- What is answered is kept. -/
theorem Served.find?_self (hs : Served r c q (.ok kept) next) : next.find? q = some kept := by
  cases hs with
  | hit hkept => exact hkept
  | stored _ _ hkeeps => exact hkeeps.find?_eq q (Registry.Shares.refl q)

/-- What is kept after a request was kept before it, or is its answer. -/
theorem Served.find?_cases (hs : Served r c q answer next) (hkept : next.find? q' = some kept) :
    c.find? q' = some kept ∨ (r.Shares q q' ∧ answer = .ok kept ∧ kept.id = .issued c.serial ∧
      next.serial = c.serial + 1) := by
  cases hs with
  | hit _ => exact Or.inl hkept
  | failed _ _ => exact Or.inl hkept
  | @stored run _ _ _ hkeeps =>
      by_cases hshares : r.Shares q q'
      · cases (hkeeps.find?_eq q' hshares).symm.trans hkept
        exact Or.inr ⟨hshares, rfl, rfl, hkeeps.serial_eq⟩
      · have hold := (hkeeps.find?_eq_old q' hshares).symm.trans hkept
        exact Or.inl ((find?_issue run q').symm.trans hold)

theorem Served.serial_le (hs : Served r c q answer next) : c.serial ≤ next.serial := by
  cases hs with
  | hit _ => exact Nat.le_refl _
  | failed _ _ => exact Nat.le_refl _
  | stored _ _ hkeeps => exact Nat.le_trans (Nat.le_succ _) (Nat.le_of_eq hkeeps.serial_eq.symm)

theorem Served.nullability_eq (hs : Served r c q answer next) :
    next.nullability = c.nullability := by
  cases hs with
  | hit _ => rfl
  | failed _ _ => rfl
  | stored _ _ hkeeps => exact hkeeps.nullability_eq

/-- The answer to a request is the converter that is asked for, or why there is none. -/
theorem Served.map_run_eq (hs : Served r c q answer next) (hc : c.Canonical r) :
    answer.map Caster.run = (r.converterFor q).mapError BuildError.cause := by
  cases hs with
  | hit hkept => exact (congrArg (Except.mapError BuildError.cause) (hc.built hkept)).symm
  | failed _ hfailed => exact (congrArg (Except.mapError BuildError.cause) hfailed).symm
  | stored _ hbuilt _ => exact (congrArg (Except.mapError BuildError.cause) hbuilt).symm

theorem Served.converterFor_eq (hs : Served r c q (.ok kept) next) (hc : c.Canonical r) :
    r.converterFor q = .ok kept.run := by
  have hrun := hs.map_run_eq hc
  cases hbuilt : r.converterFor q with
  | ok run =>
      have heq : (.ok kept.run : Except CastError Converter) = .ok run :=
        hrun.trans (congrArg (Except.mapError BuildError.cause) hbuilt)
      exact congrArg Except.ok (Except.ok.inj heq).symm
  | error e =>
      have hclash : (.ok kept.run : Except CastError Converter) = .error e.cause :=
        hrun.trans (congrArg (Except.mapError BuildError.cause) hbuilt)
      cases hclash

/-- A request is answered by a caster exactly when there is a conversion. -/
theorem Served.exists_ok_iff (hs : Served r c q answer next) (hc : c.Canonical r) :
    (∃ kept, answer = .ok kept) ↔ r.isConvertible q.key.source q.key.target = true := by
  have hbuilt : (∃ run, r.converterFor q = .ok run) ↔
      r.isConvertible q.key.source q.key.target = true :=
    Registry.exists_converterBetween_iff q.mode
  refine Iff.trans ?_ hbuilt
  constructor
  · rintro ⟨kept, rfl⟩
    exact ⟨kept.run, hs.converterFor_eq hc⟩
  · rintro ⟨run, hrun⟩
    have hanswer : answer.map Caster.run = .ok run :=
      (hs.map_run_eq hc).trans (congrArg (Except.mapError BuildError.cause) hrun)
    cases answer with
    | ok kept => exact ⟨kept, rfl⟩
    | error e => cases hanswer

theorem Served.eq_of_error {e : CastError} (hs : Served r c q answer next)
    (herror : answer = .error e) : next = c := by
  cases hs with
  | hit _ => rfl
  | failed _ _ => rfl
  | stored _ _ _ => cases herror

theorem Served.canonical (hs : Served r c q answer next) (hc : c.Canonical r) :
    next.Canonical r := by
  refine ⟨?_, ?_, ?_, ?_⟩
  · intro q₁ q₂ hshares
    cases hs with
    | hit _ => exact hc.shared hshares
    | failed _ _ => exact hc.shared hshares
    | @stored run _ _ _ hkeeps =>
        by_cases hnew : r.Shares q q₁
        · calc
            next.find? q₁ = some (c.issue run).1 := hkeeps.find?_eq q₁ hnew
            _ = next.find? q₂ := (hkeeps.find?_eq q₂ (hnew.trans hshares)).symm
        · have hnew' : ¬ r.Shares q q₂ := fun h => hnew (h.trans hshares.symm)
          calc
            next.find? q₁ = c.find? q₁ :=
              (hkeeps.find?_eq_old q₁ hnew).trans (find?_issue run q₁)
            _ = c.find? q₂ := hc.shared hshares
            _ = next.find? q₂ :=
              ((hkeeps.find?_eq_old q₂ hnew').trans (find?_issue run q₂)).symm
  · intro q₁ kept hkept
    rcases hs.find?_cases hkept with hold | ⟨-, -, hid, hserial⟩
    · rcases hc.issued hold with ⟨i, hi, hid⟩
      exact ⟨i, Nat.lt_of_lt_of_le hi hs.serial_le, hid⟩
    · exact ⟨c.serial, by simp [hserial], hid⟩
  · intro q₁ q₂ kept₁ kept₂ hkept₁ hkept₂ hsame
    rcases hs.find?_cases hkept₁ with hold₁ | ⟨hshares₁, -, hid₁, -⟩
    · rcases hs.find?_cases hkept₂ with hold₂ | ⟨-, -, hid₂, -⟩
      · exact hc.distinct hold₁ hold₂ hsame
      · exact absurd (hsame.trans hid₂) (hc.id_ne_next hold₁)
    · rcases hs.find?_cases hkept₂ with hold₂ | ⟨hshares₂, -, -, -⟩
      · exact absurd (hsame.symm.trans hid₁) (hc.id_ne_next hold₂)
      · exact hshares₁.symm.trans hshares₂
  · intro q₁ kept hkept
    rcases hs.find?_cases hkept with hold | ⟨hshares, rfl, -⟩
    · exact hc.built hold
    · exact hshares.converterFor_eq.symm.trans (hs.converterFor_eq hc)

end Step

theorem Canonical.withNullability (hc : c.Canonical r) (nullability : Table TypeHash Bool) :
    Canonical r { c with nullability := nullability } :=
  ⟨hc.shared, hc.issued, hc.distinct, hc.built⟩

theorem find?_emptyFrom (serial : Nat) (q : CasterRequest) : (emptyFrom serial).find? q = none := by
  rcases q with ⟨key, mode⟩
  cases mode <;> rfl

theorem canonical_emptyFrom (serial : Nat) : (emptyFrom serial).Canonical r := by
  have hnever : ∀ {q kept}, (emptyFrom serial).find? q ≠ some kept := by
    intro q kept hkept
    cases (find?_emptyFrom serial q).symm.trans hkept
  refine ⟨?_, ?_, ?_, ?_⟩
  · intro q q' _
    exact (find?_emptyFrom serial q).trans (find?_emptyFrom serial q').symm
  · intro q kept hkept
    exact absurd hkept hnever
  · intro q q' kept kept' hkept
    exact absurd hkept hnever
  · intro q kept hkept
    exact absurd hkept hnever

/-! ## Any number of requests -/

/-- The cache after requests have been served one after the other. -/
def after (r : Registry) (c : CasterCache) (qs : List CasterRequest) : CasterCache :=
  qs.foldl (fun c q => (c.serve r q).2) c

/-- The requests with their answers. -/
def answers (r : Registry) (c : CasterCache) :
    List CasterRequest → List (CasterRequest × Except CastError Caster)
  | [] => []
  | q :: qs => (q, (c.serve r q).1) :: answers r (c.serve r q).2 qs

section Run

variable {qs : List CasterRequest}

theorem Canonical.after (hc : c.Canonical r) (qs : List CasterRequest) :
    (after r c qs).Canonical r := by
  induction qs generalizing c with
  | nil =>
      exact hc
  | cons q qs ih =>
      exact ih ((served hc q).canonical hc)

theorem Canonical.find?_after (hc : c.Canonical r) (hkept : c.find? q = some kept) :
    (CasterCache.after r c qs).find? q = some kept := by
  induction qs generalizing c with
  | nil =>
      exact hkept
  | cons q' qs ih =>
      have hs := served hc q'
      exact ih (hs.canonical hc) (hs.find?_of_eq_some hc hkept)

/-- Every caster that was answered is still kept for its request. -/
theorem Canonical.find?_of_mem_answers (hc : c.Canonical r)
    (hmem : (q, .ok kept) ∈ answers r c qs) : (CasterCache.after r c qs).find? q = some kept := by
  -- The answer is kept by the request that it answers, and by all requests after it.
  induction qs generalizing c with
  | nil =>
      cases hmem
  | cons q' qs ih =>
      have hs := served hc q'
      have hnext := hs.canonical hc
      rcases List.mem_cons.1 hmem with heq | hmem
      · rcases Prod.mk.inj heq with ⟨rfl, hanswer⟩
        rw [← hanswer] at hs
        exact hnext.find?_after hs.find?_self
      · exact ih hnext hmem

/-- Every caster that is kept was there before, or was answered to a request that shares the
entry. -/
theorem Canonical.mem_answers_of_find? (hc : c.Canonical r)
    (hkept : (CasterCache.after r c qs).find? q = some kept) :
    c.find? q = some kept ∨ ∃ q', (q', .ok kept) ∈ answers r c qs ∧ r.Shares q' q := by
  induction qs generalizing c with
  | nil =>
      exact Or.inl hkept
  | cons q' qs ih =>
      have hs := served hc q'
      rcases ih (hs.canonical hc) hkept with hnext | ⟨q'', hmem, hshares⟩
      · rcases hs.find?_cases hnext with hold | ⟨hshares, hanswer, -⟩
        · exact Or.inl hold
        · refine Or.inr ⟨q', ?_, hshares⟩
          rw [answers, ← hanswer]
          exact List.mem_cons_self
      · exact Or.inr ⟨q'', List.mem_cons_of_mem _ hmem, hshares⟩

/-- After any requests to an empty cache: two of them were answered by the same caster exactly when
they share an entry.  What was ever kept is kept.  The cache keeps a caster for a request exactly
when a request that shares its entry was answered by one.  Exactly the requests for a conversion
that exists are answered by a caster; any other one changes nothing, and nothing is kept for it. -/
theorem canonical_entries (r : Registry) (serial : Nat) (qs : List CasterRequest) :
    (∀ q q' kept kept', (q, .ok kept) ∈ answers r (emptyFrom serial) qs →
        (q', .ok kept') ∈ answers r (emptyFrom serial) qs →
        (kept.same kept' = true ↔ r.Shares q q')) ∧
      (∀ done rest, qs = done ++ rest → ∀ q kept,
        (after r (emptyFrom serial) done).find? q = some kept →
        (after r (emptyFrom serial) qs).find? q = some kept) ∧
      (∀ q, ((after r (emptyFrom serial) qs).find? q).isSome = true ↔
        ∃ q' kept, (q', .ok kept) ∈ answers r (emptyFrom serial) qs ∧ r.Shares q' q) ∧
      (∀ q, (∃ kept, ((after r (emptyFrom serial) qs).serve r q).1 = .ok kept) ↔
        r.isConvertible q.key.source q.key.target = true) ∧
      (∀ q e, ((after r (emptyFrom serial) qs).serve r q).1 = .error e →
        ((after r (emptyFrom serial) qs).serve r q).2 = after r (emptyFrom serial) qs) ∧
      ∀ q, r.isConvertible q.key.source q.key.target = false →
        (after r (emptyFrom serial) qs).find? q = none := by
  have hstart : (emptyFrom serial).Canonical r := canonical_emptyFrom serial
  have hend := hstart.after qs
  refine ⟨?_, ?_, ?_, ?_, ?_, ?_⟩
  · intro q q' kept kept' hmem hmem'
    exact hend.same_iff (hstart.find?_of_mem_answers hmem) (hstart.find?_of_mem_answers hmem')
  · rintro done rest rfl q kept hkept
    have happend : after r (emptyFrom serial) (done ++ rest) =
        after r (after r (emptyFrom serial) done) rest := List.foldl_append
    simpa [happend] using (hstart.after done).find?_after hkept
  · intro q
    constructor
    · intro hsome
      rcases Option.isSome_iff_exists.1 hsome with ⟨kept, hkept⟩
      rcases hstart.mem_answers_of_find? hkept with hold | ⟨q', hmem, hshares⟩
      · cases (find?_emptyFrom serial q).symm.trans hold
      · exact ⟨q', kept, hmem, hshares⟩
    · rintro ⟨q', kept, hmem, hshares⟩
      have hkept := (hend.shared hshares).symm.trans (hstart.find?_of_mem_answers hmem)
      simp [hkept]
  · intro q
    exact (served hend q).exists_ok_iff hend
  · intro q e herror
    exact (served hend q).eq_of_error herror
  · intro q hinvalid
    exact hend.find?_eq_none hinvalid

end Run

end CasterCache
end Recast
