import Recast.Conversion.Converter

/-!
# Cache — memory of casters, absence and traits

A finished registry gives the same answers for ever, so that they can be kept.  `CasterCache` keeps
the casters of either mode and the answers about absence, `TraitTable` the traits of types.  Nothing
kept is ever replaced.

A conversion whose modes cannot differ is stored once for both modes: it enters the unchecked table
first, and the checked table receives the very caster that the unchecked one holds.  A conversion
that cannot be built is not stored.
-/

namespace Recast

/-- The value kept under a key; a missing one is computed and kept. -/
def Table.memo {α β : Type} [DecidableEq α] (t : Table α β) (key : α) (compute : Unit → β) :
    β × Table α β :=
  match t.get? key with
  | some kept => (kept, t)
  | none =>
      let answer := compute ()
      (answer, t.insertNew key answer)

theorem Table.memo_answer {α β : Type} [DecidableEq α] (t : Table α β) (key : α)
    (compute : Unit → β) : (t.memo key compute).1 = (t.get? key).getD (compute ()) := by
  unfold memo
  cases t.get? key <;> rfl

/-- What is answered is kept, and nothing else changes. -/
theorem Table.get?_memo {α β : Type} [DecidableEq α] (t : Table α β) (key key' : α)
    (compute : Unit → β) :
    (t.memo key compute).2.get? key' =
      if key' = key then some (t.memo key compute).1 else t.get? key' := by
  unfold memo
  cases hget : t.get? key with
  | some kept =>
      by_cases hkey : key' = key
      · simp [hkey, hget]
      · simp [hkey]
  | none =>
      exact get?_insertNew_of_eq_none hget key' (compute ())

abbrev TraitTable : Type := Table TypeHash Traits

/-- The traits of a type, looked up on first use. -/
def TraitTable.traits (t : TraitTable) (r : Registry) (h : TypeHash) : Traits × TraitTable :=
  t.memo h fun _ => r.traits h

/-- Kept casters of both modes, kept answers about absence, and the number for the next caster. -/
structure CasterCache where
  unchecked : Table TypePair Caster
  checked : Table TypePair Caster
  nullability : Table TypeHash Bool
  /-- Casters are issued under this number and the ones after it. -/
  serial : Nat

namespace CasterCache

/-- The cache that keeps nothing yet and issues casters from a number on. -/
def emptyFrom (serial : Nat) : CasterCache :=
  { unchecked := Table.empty
    checked := Table.empty
    nullability := Table.empty
    serial := serial }

def empty : CasterCache :=
  emptyFrom 0

def casters (c : CasterCache) : Mode → Table TypePair Caster
  | .unchecked => c.unchecked
  | .checked => c.checked

def get? (c : CasterCache) (key : TypePair) (mode : Mode) : Option Caster :=
  (c.casters mode).get? key

def size (c : CasterCache) (mode : Mode) : Nat :=
  (c.casters mode).size

def isEmpty (c : CasterCache) : Bool :=
  c.unchecked.size == 0 && c.checked.size == 0

/-- Give a converter an identity of its own. -/
def issue (c : CasterCache) (run : Converter) : Caster × CasterCache :=
  ({ id := .issued c.serial, run := run }, { c with serial := c.serial + 1 })

/-- Keep a caster for one mode, and answer the caster that is kept. -/
def keepFor (c : CasterCache) (key : TypePair) (built : Caster) : Mode → Caster × CasterCache
  | .unchecked =>
      ((c.unchecked.get? key).getD built, { c with unchecked := c.unchecked.insertNew key built })
  | .checked =>
      ((c.checked.get? key).getD built, { c with checked := c.checked.insertNew key built })

/-- Keep one caster for both modes, and answer the caster that is kept. -/
def keepShared (c : CasterCache) (key : TypePair) (built : Caster) : Caster × CasterCache :=
  -- The unchecked table decides which caster is kept, so that both tables agree on it.
  let kept := (c.unchecked.get? key).getD built
  (kept,
    { c with
      unchecked := c.unchecked.insertNew key built
      checked := c.checked.insertNew key kept })

/-- The caster for a pair and a mode, made on first use. -/
def caster (c : CasterCache) (r : Registry) (key : TypePair) (mode : Mode) :
    Except CastError Caster × CasterCache :=
  match c.get? key mode with
  | some kept => (.ok kept, c)
  | none =>
      let conversion := r.conversionBetween key.source key.target
      match r.converter conversion mode with
      -- Nothing is kept of a failure: the next request finds it again.
      | .error e => (.error e.cause, c)
      | .ok run =>
          let (built, issued) := c.issue run
          let (kept, stored) :=
            if conversion.dependsOnMode then
              issued.keepFor key built mode
            else
              issued.keepShared key built
          (.ok kept, stored)

/-- Whether absence is among the values of a type, computed on first use. -/
def isNullable (c : CasterCache) (h : TypeHash) (compute : Unit → Bool) : Bool × CasterCache :=
  let (answer, nullability) := c.nullability.memo h compute
  (answer, { c with nullability := nullability })

end CasterCache
end Recast
