import Recast.Declaration
import Recast.Error
import Recast.Value

/-!
# HostType — types known before run time

A `HostType` describes a type whose values a program handles without asking for their type: a
primitive, a declared enumeration, an object handle, any value at all, or an optional of such a
type.  `HostType.Carrier` is the Lean type of its values.

* `HostType.erase` forgets the type and gives a `Value`;
* `HostType.extract` reads a `Value` back at a type.  It converts nothing: a value of another type
  is refused, and so is `null`, unless the type is an optional or takes any value.
-/

namespace Recast

/-! ## Declared enumerations -/

/-- A named value of a declared enumeration, in range of its integer kind. -/
structure Variant (k : IntKind) where
  name : String
  value : Num k
  deriving DecidableEq

/-- An enumeration that the host program declares over an integer kind. -/
structure HostEnum where
  name : String
  /-- The integer kind that stands for the values. -/
  repr : IntKind
  variants : List (Variant repr)
  names_nodup : (variants.map Variant.name).Nodup
  values_nodup : (variants.map Variant.value).Nodup

namespace HostEnum

/-- The values of a declared enumeration are its variants. -/
def Member (d : HostEnum) : Type :=
  { v : Variant d.repr // v ∈ d.variants }

instance (d : HostEnum) : DecidableEq d.Member :=
  inferInstanceAs (DecidableEq { v : Variant d.repr // v ∈ d.variants })

/-- The identity of a declared enumeration is that of its name. -/
def typeHash (d : HostEnum) : TypeHash :=
  TypeHash.ofName d.name

def ofRaw? (d : HostEnum) (raw : Num d.repr) : Option d.Member :=
  d.variants.attach.find? fun v => v.val.value = raw

/-- The declaration by which a registry learns of the enumeration. -/
def declaration (d : HostEnum) : EnumDecl :=
  { name := d.name
    hash := d.typeHash
    underlying := .int d.repr
    values := d.variants.map fun v => { name := v.name, value := v.value.toInt } }

end HostEnum

/-! ## Host types -/

inductive HostType where
  | scalar (k : Kind)
  | enum (d : HostEnum)
  /-- A handle to an object of any class. -/
  | object
  /-- Any value, whatever its type. -/
  | dynamic
  /-- A type with absence added. -/
  | option (t : HostType)

namespace HostType

def Carrier : HostType → Type
  | .scalar k => k.Carrier
  | .enum d => d.Member
  | .object => ObjectRef
  | .dynamic => Value
  | .option t => Option t.Carrier

def name : HostType → String
  | .scalar k => k.name
  | .enum d => d.name
  | .object => "object"
  | .dynamic => "value"
  | .option t => t.name ++ "?"

/-- The identity of a host type.  Handles and untyped values have none of their own. -/
def typeHash : HostType → TypeHash
  | .scalar k => k.typeHash
  | .enum d => d.typeHash
  | .object => TypeHash.empty
  | .dynamic => TypeHash.empty
  | .option t => TypeHash.nullable t.typeHash

/-- Whether a host type has an identity of its own, and can take part in casts between types. -/
def isIdentified : HostType → Bool
  | .scalar _ => true
  | .enum _ => true
  | .object => false
  | .dynamic => false
  | .option t => t.isIdentified

def erase : (t : HostType) → t.Carrier → Value
  | .scalar k, v => .scalar ⟨k, v⟩
  | .enum d, v => .enum { type := d.typeHash, raw := ⟨.int d.repr, v.val.value⟩ }
  | .object, o => .object o
  | .dynamic, v => v
  | .option _, none => .null
  | .option t, some v => t.erase v

def extract : (t : HostType) → Value → Except CastError t.Carrier
  | .scalar k, v =>
      match v with
      | .scalar x =>
          match x.as? k with
          | some c => .ok c
          | none => .error (.invalidCast x.kind.name k.name)
      | .null => .error (.nullNotAllowed k.name)
      | other => .error (.invalidCast other.describe k.name)
  | .enum d, v =>
      match v with
      | .null => .error (.nullNotAllowed d.name)
      | .enum e =>
          if e.type = d.typeHash then
            -- The scalar can have any kind; only one of the underlying kind can name a variant.
            match (e.raw.as? (.int d.repr)).bind d.ofRaw? with
            | some m => .ok m
            | none => .error (.invalidCast e.raw.text d.name)
          else
            .error (.invalidCast (Value.enum e).describe d.name)
      | other => .error (.invalidCast other.describe d.name)
  | .object, v =>
      match v with
      | .object o => .ok o
      | .null => .error (.nullNotAllowed "object")
      | other => .error (.invalidCast other.describe "object")
  | .dynamic, v => .ok v
  | .option t, v =>
      match v with
      -- Absence has one form, however many options are nested.
      | .null => .ok none
      | other => (t.extract other).map some

end HostType
end Recast
