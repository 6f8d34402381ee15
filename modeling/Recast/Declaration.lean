import Recast.Kind

/-!
# Declaration — what a registry is told about types

A declared type is a primitive, a class, an enumeration, an interface or a nullable wrapper.  A
declaration carries the identity and the name of its type; classes and interfaces also name their
direct supertypes.
-/

namespace Recast

/-! ## Sorts of types -/

/-- How values of a type are held. -/
inductive Semantics where
  /-- By value: absence is not among the values. -/
  | value
  /-- By reference: a reference may be absent. -/
  | reference
  deriving DecidableEq, Repr

def Semantics.name : Semantics → String
  | .value => "value"
  | .reference => "reference"

structure PrimitiveDecl where
  kind : Kind
  hash : TypeHash
  deriving DecidableEq

def PrimitiveDecl.ofKind (k : Kind) : PrimitiveDecl :=
  { kind := k
    hash := k.typeHash }

/-- A class: held by value or by reference, with at most one base class. -/
structure ClassDecl where
  name : String
  hash : TypeHash
  semantics : Semantics
  /-- The class that this one extends. -/
  base : Option TypeHash
  interfaces : List TypeHash
  deriving DecidableEq

namespace ClassDecl

/-- A class without supertypes, identified by its name. -/
def named (name : String) (semantics : Semantics) : ClassDecl :=
  { name := name
    hash := TypeHash.ofName name
    semantics := semantics
    base := none
    interfaces := [] }

/-- The direct supertypes of a class, its base class first. -/
def supertypes (c : ClassDecl) : List TypeHash :=
  c.base.toList ++ c.interfaces

end ClassDecl

/-- An interface, which may extend other interfaces. -/
structure InterfaceDecl where
  name : String
  hash : TypeHash
  bases : List TypeHash
  deriving DecidableEq

structure Enumerator where
  name : String
  value : Int
  deriving DecidableEq

/-- An enumeration: named values over an underlying kind. -/
structure EnumDecl where
  name : String
  hash : TypeHash
  underlying : Kind
  values : List Enumerator
  deriving DecidableEq

namespace EnumDecl

/-- The value with this name; the first one declared wins. -/
def value? (e : EnumDecl) (name : String) : Option Int :=
  (e.values.find? fun v => v.name = name).map Enumerator.value

/-- The name of this value; the first one declared wins. -/
def name? (e : EnumDecl) (value : Int) : Option String :=
  (e.values.find? fun v => v.value = value).map Enumerator.name

end EnumDecl

/-- The nullable wrapper `T?` of a value type `T`. -/
structure NullableDecl where
  name : String
  hash : TypeHash
  inner : TypeHash
  deriving DecidableEq

def NullableDecl.wrapping (inner : TypeHash) (innerName : String) : NullableDecl :=
  { name := innerName ++ "?"
    hash := TypeHash.nullable inner
    inner := inner }

/-! ## Declarations -/

inductive TypeDecl where
  | primitive (e : PrimitiveDecl)
  | classType (e : ClassDecl)
  | enumType (e : EnumDecl)
  | interface (e : InterfaceDecl)
  | nullable (e : NullableDecl)
  deriving DecidableEq

namespace TypeDecl

def hash : TypeDecl → TypeHash
  | .primitive e => e.hash
  | .classType e => e.hash
  | .enumType e => e.hash
  | .interface e => e.hash
  | .nullable e => e.hash

def name : TypeDecl → String
  | .primitive e => e.kind.name
  | .classType e => e.name
  | .enumType e => e.name
  | .interface e => e.name
  | .nullable e => e.name

/-- How values of a type are held: a class says so itself, interfaces are references, all others are
values. -/
def semantics : TypeDecl → Semantics
  | .classType e => e.semantics
  | .interface _ => .reference
  | _ => .value

def isPrimitive : TypeDecl → Bool
  | .primitive _ => true
  | _ => false

def isClass : TypeDecl → Bool
  | .classType _ => true
  | _ => false

def isEnum : TypeDecl → Bool
  | .enumType _ => true
  | _ => false

def isInterface : TypeDecl → Bool
  | .interface _ => true
  | _ => false

def isNullable : TypeDecl → Bool
  | .nullable _ => true
  | _ => false

/-- Whether a type can be wrapped: it is held by value and is no wrapper itself. -/
def isWrappable (e : TypeDecl) : Bool :=
  e.semantics = .value && !e.isNullable

/-- The direct supertypes that a declaration names, in order. -/
def supertypes : TypeDecl → List TypeHash
  | .classType e => e.supertypes
  | .interface e => e.bases
  | _ => []

end TypeDecl
end Recast
