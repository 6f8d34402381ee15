import Recast.TypeHash

/-!
# Kind — the built-in primitive types

Eleven types are built in: `bool`, eight fixed-width integers and two binary floating-point formats.
A `Kind` names one of them.  This module fixes their names, widths and hashes, and says with
`Kind.widensTo` which kinds hold every value of which others.

* `Kind.typeHash_eq_ofName`: the hash of a kind is that of its name.
* `Kind.ofHash?_eq_some_iff`: a kind is found again by its hash, and by no other.
-/

namespace Recast

/-! ## Integers -/

inductive Width where
  | w8
  | w16
  | w32
  | w64
  deriving DecidableEq, Repr

def Width.bits : Width → Nat
  | .w8 => 8
  | .w16 => 16
  | .w32 => 32
  | .w64 => 64

/-- An integer kind: with or without sign, and how wide. -/
structure IntKind where
  signed : Bool
  width : Width
  deriving DecidableEq, Repr

namespace IntKind

def bits (k : IntKind) : Nat :=
  k.width.bits

/-- Number of bits that carry magnitude: all of them, or all but the sign. -/
def magnitudeBits (k : IntKind) : Nat :=
  if k.signed then k.bits - 1 else k.bits

def minValue (k : IntKind) : Int :=
  if k.signed then -(2 ^ k.magnitudeBits) else 0

def maxValue (k : IntKind) : Int :=
  2 ^ k.magnitudeBits - 1

def name (k : IntKind) : String :=
  match k.signed, k.width with
  | true, .w8 => "i8"
  | true, .w16 => "i16"
  | true, .w32 => "i32"
  | true, .w64 => "i64"
  | false, .w8 => "u8"
  | false, .w16 => "u16"
  | false, .w32 => "u32"
  | false, .w64 => "u64"

/-- The integer kinds, the signed ones first, each group by width. -/
def all : List IntKind :=
  [true, false].flatMap fun signed =>
    [Width.w8, .w16, .w32, .w64].map fun width => { signed := signed, width := width }

theorem mem_all (k : IntKind) : k ∈ all := by
  obtain ⟨signed, width⟩ := k
  cases signed <;> cases width <;> decide

end IntKind

/-! ## Floating-point formats -/

inductive FloatKind where
  | single
  | double
  deriving DecidableEq, Repr

namespace FloatKind

/-- Number of bits of the significand, the leading one included. -/
def precision : FloatKind → Nat
  | .single => 24
  | .double => 53

/-- Number of bits of the stored fraction, which leaves out the leading bit. -/
def fractionBits (f : FloatKind) : Nat :=
  f.precision - 1

def bits : FloatKind → Nat
  | .single => 32
  | .double => 64

def name : FloatKind → String
  | .single => "f32"
  | .double => "f64"

end FloatKind

/-! ## Kinds -/

/-- A built-in primitive type.  Every kind but `bool` is numeric. -/
inductive Kind where
  | bool
  | int (k : IntKind)
  | float (f : FloatKind)
  deriving DecidableEq, Repr

namespace Kind

/-! ### The numeric kinds by name -/

abbrev i8 : Kind := .int ⟨true, .w8⟩
abbrev i16 : Kind := .int ⟨true, .w16⟩
abbrev i32 : Kind := .int ⟨true, .w32⟩
abbrev i64 : Kind := .int ⟨true, .w64⟩
abbrev u8 : Kind := .int ⟨false, .w8⟩
abbrev u16 : Kind := .int ⟨false, .w16⟩
abbrev u32 : Kind := .int ⟨false, .w32⟩
abbrev u64 : Kind := .int ⟨false, .w64⟩
abbrev f32 : Kind := .float .single
abbrev f64 : Kind := .float .double

/-- All kinds: `bool`, the integers, the floating-point formats. -/
def all : List Kind :=
  .bool :: (IntKind.all.map .int ++ [.float .single, .float .double])

theorem mem_all (k : Kind) : k ∈ all := by
  cases k with
  | bool => simp [all]
  | int k => simp [all, IntKind.mem_all]
  | float f => cases f <;> simp [all]

def name : Kind → String
  | .bool => "bool"
  | .int k => k.name
  | .float f => f.name

/-- Width in bits; a `bool` takes eight. -/
def bits : Kind → Nat
  | .bool => 8
  | .int k => k.bits
  | .float f => f.bits

def isNumeric : Kind → Bool
  | .bool => false
  | .int _ => true
  | .float _ => true

def isInteger : Kind → Bool
  | .int _ => true
  | _ => false

def isSignedInteger : Kind → Bool
  | .int k => k.signed
  | _ => false

def isUnsignedInteger : Kind → Bool
  | .int k => !k.signed
  | _ => false

def isFloat : Kind → Bool
  | .float _ => true
  | _ => false

/-! ## Widening -/

/-- Whether every value of the first kind is a value of the second.

An integer kind widens to one with at least as many magnitude bits, and to a format with at least as
many significand bits; a signed kind never widens to an unsigned one.  A format widens to a longer
one, never to integers.  `bool` widens to itself alone. -/
def widensTo : Kind → Kind → Bool
  | .bool, .bool => true
  | .int a, .int b => (!a.signed || b.signed) && a.magnitudeBits ≤ b.magnitudeBits
  | .int a, .float f => a.magnitudeBits ≤ f.precision
  | .float f, .float g => f.precision ≤ g.precision
  | _, _ => false

/-! ## Hashes -/

/-- The hash of a kind, written out. -/
def typeHash : Kind → TypeHash
  | .bool => ⟨0x1e0c8fa4cced99c1⟩
  | .int ⟨true, .w8⟩ => ⟨0x80c32ec9c85d8b3c⟩
  | .int ⟨true, .w16⟩ => ⟨0xecb9ffbbc5b061c6⟩
  | .int ⟨true, .w32⟩ => ⟨0x9cb37a47e9d0b0cc⟩
  | .int ⟨true, .w64⟩ => ⟨0x05783c9f00020aef⟩
  | .int ⟨false, .w8⟩ => ⟨0xb270aa7171000bbf⟩
  | .int ⟨false, .w16⟩ => ⟨0xb4ca9722ff46e69d⟩
  | .int ⟨false, .w32⟩ => ⟨0x8f3920e7d45e5176⟩
  | .int ⟨false, .w64⟩ => ⟨0x0f30574ce4bd0d58⟩
  | .float .single => ⟨0x96c8a91b9b171b50⟩
  | .float .double => ⟨0x970099dc22c5c57b⟩

theorem typeHash_eq_ofName (k : Kind) : k.typeHash = TypeHash.ofName k.name := by
  have h : ∀ k ∈ all, k.typeHash = TypeHash.ofName k.name := by decide +kernel
  exact h k (mem_all k)

def ofHash? (h : TypeHash) : Option Kind :=
  all.find? fun k => k.typeHash = h

theorem typeHash_injective {a b : Kind} (h : a.typeHash = b.typeHash) : a = b := by
  have distinct : ∀ a ∈ all, ∀ b ∈ all, a.typeHash = b.typeHash → a = b := by decide
  exact distinct a (mem_all a) b (mem_all b) h

@[simp]
theorem ofHash?_typeHash (k : Kind) : ofHash? k.typeHash = some k := by
  have found : ∀ k ∈ all, ofHash? k.typeHash = some k := by decide
  exact found k (mem_all k)

theorem typeHash_of_ofHash? {h : TypeHash} {k : Kind} (found : ofHash? h = some k) :
    k.typeHash = h := by
  simpa using List.find?_some found

theorem ofHash?_eq_some_iff {h : TypeHash} {k : Kind} : ofHash? h = some k ↔ h = k.typeHash := by
  constructor
  · intro found
    exact (typeHash_of_ofHash? found).symm
  · rintro rfl
    exact ofHash?_typeHash k

end Kind
end Recast
