import Recast.Caster
import Recast.Declaration
import Recast.Inheritance
import Recast.Table

/-!
# Registry — the types that take part in casts

A registry holds the declared types, the inheritance graph of its classes and interfaces, and the
conversions registered for pairs of types.  It only grows:

* `Registry.declare` adds a type whose identity is free and whose references are in order
  (`Registry.checkReferences`), and with a wrappable type its wrapper `T?`, unless the wrapper's
  identity is taken;
* `Registry.declarePrimitives` adds the built-in primitives that are missing;
* `Registry.addConversion` adds the conversion for a pair of known types, once.

A refusal yields an error and no registry.
-/

namespace Recast

structure Registry where
  types : Table TypeHash TypeDecl
  inheritance : Inheritance
  conversions : Table TypePair RegisteredConversion

namespace Registry

def empty : Registry :=
  { types := Table.empty
    inheritance := Inheritance.empty
    conversions := Table.empty }

/-! ## Look-up -/

def get? (r : Registry) (h : TypeHash) : Option TypeDecl :=
  r.types.get? h

def contains (r : Registry) (h : TypeHash) : Bool :=
  r.types.contains h

/-- Whether a type is declared or built in. -/
def isKnown (r : Registry) (h : TypeHash) : Bool :=
  r.contains h || (Kind.ofHash? h).isSome

/-- The name of a type as it is shown; a type that is not known is shown by its hash. -/
def nameOf (r : Registry) (h : TypeHash) : String :=
  match r.get? h with
  | some e => e.name
  | none =>
      match Kind.ofHash? h with
      | some k => k.name
      | none => "<unknown " ++ h.text ++ ">"

def conversion? (r : Registry) (key : TypePair) : Option RegisteredConversion :=
  r.conversions.get? key

/-- Whether the first type derives from the second or implements it, in one step or more. -/
def isStrictSubtype (r : Registry) (a b : TypeHash) : Bool :=
  r.inheritance.isStrictSupertype b a

/-- Whether the instances of the first type are instances of the second. -/
def isSubtype (r : Registry) (a b : TypeHash) : Bool :=
  decide (a = b) || r.isStrictSubtype a b

theorem isSubtype_refl (r : Registry) (h : TypeHash) : r.isSubtype h h = true := by
  simp [isSubtype]

theorem isSubtype_iff {r : Registry} {a b : TypeHash} :
    r.isSubtype a b = true ↔ r.inheritance.Reaches a b := by
  simp only [isSubtype, isStrictSubtype, Bool.or_eq_true, decide_eq_true_eq,
    Inheritance.isStrictSupertype_iff]
  constructor
  · rintro (rfl | h)
    · exact .refl _
    · exact h.2
  · intro h
    by_cases heq : a = b
    · exact Or.inl heq
    · exact Or.inr ⟨fun hne => heq hne.symm, h⟩

theorem isSubtype_trans {r : Registry} {a b c : TypeHash} (hab : r.isSubtype a b = true)
    (hbc : r.isSubtype b c = true) : r.isSubtype a c = true := by
  rw [isSubtype_iff] at hab hbc ⊢
  exact hab.trans hbc

/-! ## Validation -/

/-- The declaration of a type that another one refers to. -/
def require (r : Registry) (name : String) (h : TypeHash) : Except RegistrationError TypeDecl :=
  match r.get? h with
  | some e => .ok e
  | none => .error (.unknownType name h)

/-- Check one supertype of a declaration: it is another type, it is known, and it is of the right
sort. -/
def checkSupertype (r : Registry) (name : String) (own : TypeHash) (accepts : TypeDecl → Bool)
    (fault : BaseFault) (base : TypeHash) : Except RegistrationError Unit :=
  if base = own then
    -- All other cycles are ruled out because a base is declared before the types that name it.
    .error (.inheritanceCycle name name)
  else
    (r.require name base).bind fun e =>
      if accepts e then .ok () else .error (.invalidBase name e.name fault)

/-- Check a list of supertypes in order; the first fault is reported. -/
def checkSupertypes (r : Registry) (name : String) (own : TypeHash) (accepts : TypeDecl → Bool)
    (fault : BaseFault) : List TypeHash → Except RegistrationError Unit
  | [] => .ok ()
  | base :: rest =>
      (r.checkSupertype name own accepts fault base).bind fun _ =>
        r.checkSupertypes name own accepts fault rest

/-- Check what a declaration refers to, in the order in which it is written. -/
def checkReferences (r : Registry) : TypeDecl → Except RegistrationError Unit
  | .primitive _ => .ok ()
  | .enumType e =>
      if e.underlying.isInteger then
        .ok ()
      else
        .error (.invalidEnumUnderlying e.name e.underlying.name)
  | .nullable e =>
      (r.require e.name e.inner).bind fun inner =>
        if inner.isWrappable then .ok () else .error (.nullableOfReference inner.name)
  | .classType e =>
      (r.checkSupertypes e.name e.hash TypeDecl.isClass .notClass e.base.toList).bind fun _ =>
        r.checkSupertypes e.name e.hash TypeDecl.isInterface .notInterface e.interfaces
  | .interface e =>
      r.checkSupertypes e.name e.hash TypeDecl.isInterface .notInterfaceOfInterface e.bases

/-! ## Declaring -/

/-- The inheritance graph with the node and the edges of one more declaration. -/
def extendInheritance (h : Inheritance) (e : TypeDecl) : Inheritance :=
  if e.isClass || e.isInterface then
    e.supertypes.foldl (fun grown s => grown.link e.hash s) (h.addNode e.hash)
  else
    h

/-- The declared types with one more, and with its wrapper where it can be wrapped. -/
def extendTypes (types : Table TypeHash TypeDecl) (e : TypeDecl) : Table TypeHash TypeDecl :=
  let grown := types.insertNew e.hash e
  if e.isWrappable then
    let wrapper := NullableDecl.wrapping e.hash e.name
    -- Where the identity of the wrapper is taken, its holder stays.
    grown.insertNew wrapper.hash (.nullable wrapper)
  else
    grown

/-- Add a valid declaration. -/
def insert (r : Registry) (e : TypeDecl) : Registry :=
  { r with
    types := extendTypes r.types e
    inheritance := extendInheritance r.inheritance e }

def declare (r : Registry) (e : TypeDecl) : Except RegistrationError Registry :=
  if r.contains e.hash then
    .error (.duplicateType e.name)
  else
    (r.checkReferences e).map fun _ => r.insert e

/-- Add every built-in primitive whose identity is free. -/
def declarePrimitives (r : Registry) : Registry :=
  Kind.all.foldl
    (fun grown k =>
      if grown.contains k.typeHash then
        grown
      else
        grown.insert (.primitive (PrimitiveDecl.ofKind k)))
    r

def builtin : Registry :=
  empty.declarePrimitives

/-- The refusal of a pair of types of which one is not known. -/
def unknownEnd (r : Registry) (key : TypePair) (h : TypeHash) : RegistrationError :=
  .unknownType (r.nameOf key.source ++ " -> " ++ r.nameOf key.target) h

/-- Register the conversion for a pair of types, with or without a variant for checked casts. -/
def addConversion (r : Registry) (key : TypePair) (unchecked : Converter)
    (checked : Option Converter) : Except RegistrationError Registry :=
  if !r.isKnown key.source then
    .error (r.unknownEnd key key.source)
  else if !r.isKnown key.target then
    .error (r.unknownEnd key key.target)
  else if r.conversions.contains key then
    .error (.duplicateConversion (r.nameOf key.source) (r.nameOf key.target))
  else
    .ok { r with
      conversions :=
        r.conversions.insertNew key (RegisteredConversion.ofConverters key unchecked checked) }

end Registry
end Recast
