import Recast.Registry

/-!
# Traits — what casting needs to know about a type

`Traits` says what a type is, as far as casting is concerned.  A built-in primitive is recognised by
its hash, declared or not; any other type has the traits of its declaration.  A type that is not
known counts as an opaque reference.
-/

namespace Recast

-- Sums start from the literal zero, whatever else is imported.
attribute [local instance (2000)] Zero.ofOfNat0

inductive Traits where
  | unknown
  | primitive (k : Kind)
  | enum (underlying : Kind)
  | nullable (inner : TypeHash)
  | valueClass
  /-- A class or interface whose values are held by reference. -/
  | reference
  deriving DecidableEq

/-- A yes-or-no trait. -/
inductive TraitFlag where
  | known
  | primitive
  | numeric
  | enum
  | valueType
  | nullable
  deriving DecidableEq, Repr

namespace TraitFlag

/-- The flags, the lowest bit first. -/
def all : List TraitFlag :=
  [.known, .primitive, .numeric, .enum, .valueType, .nullable]

def bit : TraitFlag → Nat
  | .known => 1
  | .primitive => 2
  | .numeric => 4
  | .enum => 8
  | .valueType => 16
  | .nullable => 32

def name : TraitFlag → String
  | .known => "KNOWN"
  | .primitive => "PRIMITIVE"
  | .numeric => "NUMERIC"
  | .enum => "ENUM"
  | .valueType => "VALUE_TYPE"
  | .nullable => "NULLABLE"

end TraitFlag

namespace Traits

def primitiveKind? : Traits → Option Kind
  | .primitive k => some k
  | _ => none

def numericKind? : Traits → Option Kind
  | .primitive k => if k.isNumeric then some k else none
  | _ => none

def enumUnderlying? : Traits → Option Kind
  | .enum k => some k
  | _ => none

def nullableInner? : Traits → Option TypeHash
  | .nullable inner => some inner
  | _ => none

def isKnown : Traits → Bool
  | .unknown => false
  | _ => true

def isNumeric (t : Traits) : Bool :=
  t.numericKind?.isSome

def isEnum (t : Traits) : Bool :=
  t.enumUnderlying?.isSome

def isValueType : Traits → Bool
  | .unknown => false
  | .reference => false
  | _ => true

/-- Whether absence is among the values of a type. -/
def isNullable : Traits → Bool
  | .unknown => true
  | .nullable _ => true
  | .reference => true
  | _ => false

def has (t : Traits) : TraitFlag → Bool
  | .known => t.isKnown
  | .primitive => t.primitiveKind?.isSome
  | .numeric => t.isNumeric
  | .enum => t.isEnum
  | .valueType => t.isValueType
  | .nullable => t.isNullable

/-- The yes-or-no traits of a type, the lowest bit first. -/
def flags (t : Traits) : List TraitFlag :=
  TraitFlag.all.filter t.has

/-- The yes-or-no traits of a type as one number. -/
def bits (t : Traits) : Nat :=
  (t.flags.map TraitFlag.bit).sum

theorem nullableInner?_eq_some_iff {t : Traits} {inner : TypeHash} :
    t.nullableInner? = some inner ↔ t = .nullable inner := by
  cases t <;> simp [nullableInner?]

/-- The traits that a declaration gives to its type. -/
def ofDecl : TypeDecl → Traits
  | .primitive e => .primitive e.kind
  | .enumType e => .enum e.underlying
  | .nullable e => .nullable e.inner
  | .interface _ => .reference
  | .classType e =>
      match e.semantics with
      | .value => .valueClass
      | .reference => .reference

theorem isKnown_ofDecl (e : TypeDecl) : (ofDecl e).isKnown = true := by
  cases e with
  | classType e => cases hsem : e.semantics <;> simp [ofDecl, hsem, isKnown]
  | _ => rfl

theorem isKnown_eq_false_iff {t : Traits} : t.isKnown = false ↔ t = .unknown := by
  cases t <;> simp [isKnown]

theorem ofDecl_eq_nullable_iff {e : TypeDecl} {inner : TypeHash} :
    ofDecl e = .nullable inner ↔ ∃ w, e = .nullable w ∧ w.inner = inner := by
  cases e with
  | classType e => cases hsem : e.semantics <;> simp [ofDecl, hsem]
  | _ => simp [ofDecl]

end Traits

namespace Registry

def traits (r : Registry) (h : TypeHash) : Traits :=
  match Kind.ofHash? h with
  -- The hash of a kind means that kind, whatever is declared under it.
  | some k => .primitive k
  | none =>
      match r.get? h with
      | some e => Traits.ofDecl e
      | none => .unknown

/-- The type without its wrapper: what a wrapper wraps, and any other type itself. -/
def strip (r : Registry) (h : TypeHash) : TypeHash :=
  (r.traits h).nullableInner?.getD h

@[simp]
theorem traits_typeHash (r : Registry) (k : Kind) : r.traits k.typeHash = .primitive k := by
  simp [traits]

theorem traits_of_get?_eq_some {r : Registry} {h : TypeHash} {e : TypeDecl}
    (hkind : Kind.ofHash? h = none) (hget : r.get? h = some e) : r.traits h = .ofDecl e := by
  simp [traits, hkind, hget]

theorem traits_of_get?_eq_none {r : Registry} {h : TypeHash} (hkind : Kind.ofHash? h = none)
    (hget : r.get? h = none) : r.traits h = .unknown := by
  simp [traits, hkind, hget]

/-- A type has traits other than those of an unknown one exactly if it is declared or built in. -/
theorem isKnown_traits (r : Registry) (h : TypeHash) : (r.traits h).isKnown = r.isKnown h := by
  have hcontains : r.contains h = (r.get? h).isSome := rfl
  unfold isKnown
  cases hkind : Kind.ofHash? h with
  | some k => simp [traits, hkind, Traits.isKnown]
  | none =>
      cases hget : r.get? h with
      | none => simp [traits_of_get?_eq_none hkind hget, hcontains, hget, Traits.isKnown]
      | some e => simp [traits_of_get?_eq_some hkind hget, hcontains, hget, Traits.isKnown_ofDecl]

theorem traits_eq_unknown_iff {r : Registry} {h : TypeHash} :
    r.traits h = .unknown ↔ r.isKnown h = false := by
  rw [← isKnown_traits, Traits.isKnown_eq_false_iff]

/-- The traits of a type depend on its own declaration only. -/
theorem traits_congr {r r' : Registry} {h : TypeHash} (hget : r.get? h = r'.get? h) :
    r.traits h = r'.traits h := by
  simp only [traits, hget]

theorem traits_eq_nullable_iff {r : Registry} {h inner : TypeHash} :
    r.traits h = .nullable inner ↔
      Kind.ofHash? h = none ∧ ∃ w, r.get? h = some (.nullable w) ∧ w.inner = inner := by
  cases hkind : Kind.ofHash? h with
  | some k => simp [traits, hkind]
  | none =>
      cases hget : r.get? h with
      | none => simp [traits_of_get?_eq_none hkind hget]
      | some e => simp [traits_of_get?_eq_some hkind hget, Traits.ofDecl_eq_nullable_iff]

@[simp]
theorem strip_typeHash (r : Registry) (k : Kind) : r.strip k.typeHash = k.typeHash := by
  simp [strip, Traits.nullableInner?]

theorem strip_of_nullableInner?_eq_none {r : Registry} {h : TypeHash}
    (hnone : (r.traits h).nullableInner? = none) : r.strip h = h := by
  simp [strip, hnone]

end Registry
end Recast
