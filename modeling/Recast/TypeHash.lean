import Recast.Digest

/-!
# TypeHash — the identity of a type

A type is known by a 64-bit hash, that of its name or, for a wrapper `T?`, that of the type wrapped.
-/

namespace Recast

-- Powers are those of the core library in all modules, whatever else they import.
attribute [scoped instance (2000)] instPowNat

structure TypeHash where
  value : UInt64
  deriving DecidableEq, Inhabited, Repr

namespace TypeHash

/-- An odd number, so that multiplying by it loses nothing. -/
def separator : UInt64 := 0x4bc94d6bd06053ad

def namedDomain : UInt64 := 0x2fac10b63a6cc57c

def nullableDomain : UInt64 := 0x6c8e9cf570932bd5

def ofName (name : String) : TypeHash :=
  { value := namedDomain ^^^ Digest.ofString name }

/-- The hash of the nullable wrapper `T?` of the type with this hash. -/
def nullable (inner : TypeHash) : TypeHash :=
  { value := nullableDomain ^^^ Digest.rotateLeft (inner.value * separator) 17 }

def empty : TypeHash :=
  { value := 0 }

def isEmpty (h : TypeHash) : Bool :=
  h.value == 0

def digits (h : TypeHash) : List Char :=
  (List.range 16).map fun i => Nat.digitChar (h.value.toNat / 16 ^ (15 - i) % 16)

def text (h : TypeHash) : String :=
  "0x" ++ String.ofList h.digits

def debugText (h : TypeHash) : String :=
  "TypeHash(" ++ h.text ++ ")"

end TypeHash
end Recast
