import Recast.Num
import Recast.Binary.Decimal

/-!
# Scalar — primitive values

A scalar is a kind together with a value of that kind: a truth value, an integer in range, or a
floating-point value.  `Scalar.as?` reads a scalar back at a kind and succeeds at its own kind only.
-/

namespace Recast

def Kind.Carrier : Kind → Type
  | .bool => Bool
  | .int k => Num k
  | .float f => Binary f

instance : (k : Kind) → DecidableEq k.Carrier
  | .bool => inferInstanceAs (DecidableEq Bool)
  | .int k => inferInstanceAs (DecidableEq (Num k))
  | .float f => inferInstanceAs (DecidableEq (Binary f))

/-- A primitive value with its kind. -/
structure Scalar where
  kind : Kind
  val : kind.Carrier
  deriving DecidableEq

namespace Scalar

def typeHash (x : Scalar) : TypeHash :=
  x.kind.typeHash

/-- The value of a scalar of exactly this kind. -/
def as? (k : Kind) (x : Scalar) : Option k.Carrier :=
  if h : x.kind = k then some (h ▸ x.val) else none

@[simp]
theorem as?_mk (k : Kind) (v : k.Carrier) : as? k ⟨k, v⟩ = some v := by
  simp [as?]

theorem as?_eq_some_iff {k : Kind} {x : Scalar} {v : k.Carrier} :
    as? k x = some v ↔ x = ⟨k, v⟩ := by
  constructor
  · intro h
    obtain ⟨kind, val⟩ := x
    by_cases hk : kind = k
    · subst hk
      simp_all [as?]
    · simp [as?, hk] at h
  · rintro rfl
    exact as?_mk k v

/-- An integer as a scalar of an integer kind, if it is in range. -/
def ofInt? (k : IntKind) (n : Int) : Option Scalar :=
  (Num.ofInt? k n).map fun v => { kind := .int k, val := v }

def toInt? : Scalar → Option Int
  | ⟨.int _, n⟩ => some n.toInt
  | _ => none

/-- The value of a floating-point scalar in the longest format, which is exact. -/
def toDouble? : Scalar → Option (Binary .double)
  | ⟨.float _, x⟩ => some (x.toFormat .double)
  | _ => none

/-- The text of a scalar: a word, decimal digits, or the shortest decimal that reads back. -/
def text : Scalar → String
  | ⟨.bool, b⟩ => match b with
      | true => "true"
      | false => "false"
  | ⟨.int _, n⟩ => toString n.toInt
  | ⟨.float _, x⟩ => x.text

/-- Equality of two values of one kind; floating-point values compare as numbers. -/
def carrierEq : (k : Kind) → k.Carrier → k.Carrier → Bool
  | .bool, a, b => decide (a = b)
  | .int _, a, b => decide (a = b)
  | .float _, a, b => a.numericEq b

/-- Equality as values: scalars of different kinds differ, and floating-point values compare as
numbers. -/
def valueEq (x y : Scalar) : Bool :=
  match as? x.kind y with
  | some v => carrierEq x.kind x.val v
  | none => false

end Scalar
end Recast
