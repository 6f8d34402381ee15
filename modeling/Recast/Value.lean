import Recast.Scalar.Basic

/-!
# Value — values whose type is known at run time

A `Value` is what casts consume and produce: nothing (`null`), a scalar, a value of an enumeration,
or a shared handle to an object.  Every value but `null` knows its type (`Value.typeHash?`).
-/

namespace Recast

/-- A value of an enumeration: which enumeration, and the scalar that stands for it.  The scalar
need not be one that the enumeration declares, nor of its underlying kind. -/
structure EnumValue where
  type : TypeHash
  raw : Scalar
  deriving DecidableEq

inductive Payload where
  | int (n : Int)
  | text (s : String)
  /-- An integer under the name of the host's own type. -/
  | host (type : String) (n : Int)
  deriving DecidableEq

/-- A shared handle to an object.  Casting hands on the same handle, so that an object keeps its
concrete class under every cast. -/
structure ObjectRef where
  /-- Which object this is: handles are the same exactly when these numbers agree. -/
  id : Nat
  type : TypeHash
  payload : Payload
  deriving DecidableEq

namespace ObjectRef

def same (a b : ObjectRef) : Bool :=
  a.id == b.id

def debugText (o : ObjectRef) : String :=
  "ObjectRef(" ++ o.type.debugText ++ ")"

end ObjectRef

inductive Value where
  /-- Nothing: an absent reference or an empty optional. -/
  | null
  | scalar (x : Scalar)
  | enum (e : EnumValue)
  | object (o : ObjectRef)
  deriving DecidableEq

namespace Value

/-- The run-time type of a value; `null` has none. -/
def typeHash? : Value → Option TypeHash
  | .null => none
  | .scalar x => some x.typeHash
  | .enum e => some e.type
  | .object o => some o.type

def isNull : Value → Bool
  | .null => true
  | _ => false

theorem typeHash?_eq_none_iff {v : Value} : v.typeHash? = none ↔ v = .null := by
  cases v <;> simp [typeHash?]

def object? : Value → Option ObjectRef
  | .object o => some o
  | _ => none

/-- The shape of a value in a few words, for messages. -/
def describe : Value → String
  | .null => "null"
  | .scalar x => x.kind.name
  | .enum e => "enum " ++ e.type.text
  | .object o => "object " ++ o.type.text

/-- Equality as values: scalars compare as numbers, objects by handle. -/
def valueEq : Value → Value → Bool
  | .null, .null => true
  | .scalar x, .scalar y => x.valueEq y
  | .enum a, .enum b => decide (a.type = b.type) && a.raw.valueEq b.raw
  | .object a, .object b => a.same b
  | _, _ => false

end Value
end Recast
