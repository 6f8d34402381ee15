import Recast.Traits

/-!
# Conversion — which conversion leads from one type to another

`Registry.conversionBetween` decides whether a conversion exists for a pair of types, and of which
category.  Nullable wrappers are lifted first, so that `T?` and `T` are treated alike on either
side.  The first rule that applies decides:

1. the same type: identity;
2. two numeric primitives: widening or narrowing;
3. an enumeration and a numeric primitive, either way;
4. a type and one of its supertypes: upcast;
5. a type and one that derives from it: downcast;
6. a registered conversion, for the pair as requested or else for the pair without wrappers.
-/

namespace Recast

/-- The category of a conversion, with what is needed to carry it out. -/
inductive Category where
  | identity
  /-- Numeric, and every value has its counterpart. -/
  | widening (source target : Kind)
  /-- Numeric, and some values have no counterpart. -/
  | narrowing (source target : Kind)
  | enumToNumeric (enum : TypeHash) (underlying target : Kind)
  | numericToEnum (source : Kind) (enum : TypeHash) (underlying : Kind)
  | upcast (target : TypeHash)
  /-- To a type that derives from the source, as far as the object allows. -/
  | downcast (target : TypeHash)
  /-- By the conversion registered for a pair; whether it has a variant for checked casts. -/
  | custom (key : TypePair) (checkedVariant : Bool)
  | invalid
  deriving DecidableEq

namespace Category

def name : Category → String
  | .identity => "identity"
  | .widening _ _ => "widening numeric"
  | .narrowing _ _ => "narrowing numeric"
  | .enumToNumeric _ _ _ => "enum to numeric"
  | .numericToEnum _ _ _ => "numeric to enum"
  | .upcast _ => "reference upcast"
  | .downcast _ => "reference downcast"
  | .custom _ _ => "custom operator"
  | .invalid => "invalid"

/-- Whether checked and unchecked casts can answer differently. -/
def dependsOnMode : Category → Bool
  | .narrowing _ _ => true
  | .enumToNumeric _ _ _ => true
  | .numericToEnum _ _ _ => true
  | .custom _ checkedVariant => checkedVariant
  | _ => false

def isValid : Category → Bool
  | .invalid => false
  | _ => true

end Category

structure Conversion where
  source : TypeHash
  target : TypeHash
  /-- The type cast from without its wrapper, of which values are instances. -/
  stripped : TypeHash
  category : Category
  /-- Whether absence is among the values of the type cast to. -/
  targetNullable : Bool
  deriving DecidableEq

namespace Conversion

def pair (c : Conversion) : TypePair :=
  { source := c.source
    target := c.target }

def isValid (c : Conversion) : Bool :=
  c.category.isValid

def dependsOnMode (c : Conversion) : Bool :=
  c.category.dependsOnMode

end Conversion

namespace Registry

/-! ## Rules -/

/-- The rules for numeric kinds and enumerations, between two types without wrappers. -/
def numericCategory? (r : Registry) (source target : TypeHash) : Option Category :=
  match r.traits source, r.traits target with
  | .primitive a, .primitive b =>
      if a.isNumeric && b.isNumeric then
        some (if a.widensTo b then .widening a b else .narrowing a b)
      else
        none
  | .enum underlying, .primitive b =>
      if b.isNumeric then some (.enumToNumeric source underlying b) else none
  | .primitive a, .enum underlying =>
      if a.isNumeric then some (.numericToEnum a target underlying) else none
  | _, _ => none

/-- The rules for supertypes, between two types without wrappers. -/
def referenceCategory? (r : Registry) (source target : TypeHash) : Option Category :=
  if r.isStrictSubtype source target then
    some (.upcast target)
  else if r.isStrictSubtype target source then
    some (.downcast target)
  else
    none

def customCategory? (r : Registry) (key : TypePair) : Option Category :=
  (r.conversion? key).map fun c => .custom key c.hasCheckedVariant

/-- The rules that need no registration, between two types without wrappers. -/
def builtinCategory? (r : Registry) (source target : TypeHash) : Option Category :=
  if source = target then
    some .identity
  else
    r.numericCategory? source target <|> r.referenceCategory? source target

def category (r : Registry) (source target : TypeHash) : Category :=
  let a := r.strip source
  let b := r.strip target
  -- A conversion can be registered for the wrappers themselves, so that the pair as requested is
  -- tried first.
  let found :=
    r.builtinCategory? a b
      <|> r.customCategory? { source := source, target := target }
      <|> r.customCategory? { source := a, target := b }
  found.getD .invalid

def conversionBetween (r : Registry) (source target : TypeHash) : Conversion :=
  { source := source
    target := target
    stripped := r.strip source
    category := r.category source target
    targetNullable := (r.traits target).isNullable }

def isConvertible (r : Registry) (source target : TypeHash) : Bool :=
  (r.conversionBetween source target).isValid

/-- A type converts to itself by handing values on. -/
@[simp]
theorem category_self (r : Registry) (h : TypeHash) : r.category h h = .identity := by
  simp [category, builtinCategory?]

end Registry
end Recast
