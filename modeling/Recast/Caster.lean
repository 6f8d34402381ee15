import Recast.Error
import Recast.Mode
import Recast.Value

/-!
# Caster — conversion functions with an identity

A `Converter` is a function from values to values that may fail.  A `Caster` is a converter that was
handed out once and is shared from then on: two casters are the same caster when they have the same
identity, whatever they compute.
-/

namespace Recast

structure TypePair where
  source : TypeHash
  target : TypeHash
  deriving DecidableEq

def TypePair.text (k : TypePair) : String :=
  k.source.text ++ " -> " ++ k.target.text

abbrev Converter : Type := Value → Except CastError Value

def Converter.identity : Converter := .ok

/-- Where a caster comes from, which tells it from all others. -/
inductive CasterId where
  /-- The function registered for a pair and a mode. -/
  | registered (pair : TypePair) (mode : Mode)
  /-- The caster that was issued under this number. -/
  | issued (serial : Nat)
  deriving DecidableEq

structure Caster where
  id : CasterId
  run : Converter

def Caster.same (a b : Caster) : Bool :=
  decide (a.id = b.id)

/-! ## Registered conversions -/

/-- The conversion registered for one pair of types, with or without a variant for checked casts. -/
structure RegisteredConversion where
  unchecked : Caster
  checked : Option Caster

namespace RegisteredConversion

def ofConverters (pair : TypePair) (unchecked : Converter) (checked : Option Converter) :
    RegisteredConversion :=
  { unchecked :=
      { id := .registered pair .unchecked
        run := unchecked }
    checked := checked.map fun run =>
      { id := .registered pair .checked
        run := run } }

/-- Whether checked casts have a variant of their own. -/
def hasCheckedVariant (c : RegisteredConversion) : Bool :=
  c.checked.isSome

def casterFor (c : RegisteredConversion) : Mode → Caster
  | .unchecked => c.unchecked
  | .checked => c.checked.getD c.unchecked

theorem casterFor_of_not_hasCheckedVariant {c : RegisteredConversion}
    (h : c.hasCheckedVariant = false) (mode : Mode) : c.casterFor mode = c.unchecked := by
  cases mode with
  | unchecked =>
      rfl
  | checked =>
      have hnone : c.checked = none := by simpa [hasCheckedVariant] using h
      simp [casterFor, hnone]

end RegisteredConversion
end Recast
