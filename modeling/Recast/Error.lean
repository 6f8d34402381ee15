import Recast.TypeHash

/-!
# Error — why a cast or a registration is refused

Each error names the types it is about as they are shown to a reader; `message` is the sentence shown.
-/

namespace Recast

/-! ## Casts -/

inductive CastError where
  /-- There is no conversion between the types, or the value is no instance of what was asked. -/
  | invalidCast (source target : String)
  /-- The converted value lies outside the range of the target. -/
  | overflow (value target : String)
  /-- An absent value was cast to a type without absence. -/
  | nullNotAllowed (target : String)
  deriving DecidableEq, Repr

namespace CastError

def message : CastError → String
  | .invalidCast source target => "invalid cast from '" ++ source ++ "' to '" ++ target ++ "'"
  | .overflow value target => "value " ++ value ++ " is out of range for '" ++ target ++ "'"
  | .nullNotAllowed target => "null cannot be cast to non-nullable type '" ++ target ++ "'"

/-- Name another target in an overflow; the other errors stay as they are. -/
def retarget (target : String) : CastError → CastError
  | .overflow value _ => .overflow value target
  | e => e

end CastError

structure BuildError where
  cause : CastError
  deriving DecidableEq, Repr

def BuildError.message (e : BuildError) : String :=
  "cannot build conversion: " ++ e.cause.message

/-! ## Registrations -/

inductive BaseFault where
  | notClass
  | notInterface
  | notInterfaceOfInterface
  deriving DecidableEq, Repr

def BaseFault.message : BaseFault → String
  | .notClass => "base must be a class"
  | .notInterface => "not an interface"
  | .notInterfaceOfInterface => "interfaces can only extend interfaces"

inductive RegistrationError where
  | duplicateType (name : String)
  /-- A base, interface, wrapped type or end of a conversion is not known. -/
  | unknownType (name : String) (hash : TypeHash)
  | invalidEnumUnderlying (name underlying : String)
  /-- A wrapper of a type that is no plain value type. -/
  | nullableOfReference (name : String)
  | invalidBase (name base : String) (fault : BaseFault)
  /-- A type that names itself as a supertype. -/
  | inheritanceCycle (name base : String)
  | duplicateConversion (source target : String)
  deriving DecidableEq, Repr

def RegistrationError.message : RegistrationError → String
  | .duplicateType name => "type '" ++ name ++ "' is already registered"
  | .unknownType name hash => "type '" ++ name ++ "' references unknown type " ++ hash.text
  | .invalidEnumUnderlying name underlying =>
      "enum '" ++ name ++ "' must have an integer underlying type, found '" ++ underlying ++ "'"
  | .nullableOfReference name =>
      "cannot make nullable wrapper of reference type '" ++ name ++ "'"
  | .invalidBase name base fault =>
      "'" ++ name ++ "' cannot derive from '" ++ base ++ "': " ++ fault.message
  | .inheritanceCycle name base => "inheritance cycle between '" ++ name ++ "' and '" ++ base ++ "'"
  | .duplicateConversion source target =>
      "a conversion from '" ++ source ++ "' to '" ++ target ++ "' is already registered"

end Recast
