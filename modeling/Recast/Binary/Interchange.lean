import Recast.Binary.Basic

/-!
# Interchange — the stored bits of floating-point values

A stored value is a sign bit, an exponent field and a fraction, read as one natural number.
-/

namespace Recast
namespace FloatKind

/-- The positive infinity as it is stored, one above the greatest finite value. -/
def infinityBits (f : FloatKind) : Nat :=
  (f.limitExponent - f.precision - f.minExponent + 2) * 2 ^ f.fractionBits

def signBit (f : FloatKind) (negative : Bool) : Nat :=
  if negative then 2 ^ (f.bits - 1) else 0

def pack (f : FloatKind) (m : Nat) : Nat :=
  -- The leading bit of a significand of full length steps the field by one.
  (f.spacingExponent m - f.minExponent) * 2 ^ f.fractionBits + m / f.spacing m

def unpack (f : FloatKind) (body : Nat) : Nat :=
  let field := body / 2 ^ f.fractionBits
  let fraction := body % 2 ^ f.fractionBits
  if field = 0 then
    fraction * 2 ^ f.minExponent
  else
    (fraction + 2 ^ f.fractionBits) * 2 ^ (f.minExponent + (field - 1))

end FloatKind

namespace Binary

def ofBits (f : FloatKind) (bits : Nat) : Binary f :=
  let negative := bits / 2 ^ (f.bits - 1) % 2 == 1
  let body := bits % 2 ^ (f.bits - 1)
  if body < f.infinityBits then
    ofMagnitude f negative (f.unpack body)
  else if h : f.IsNaNFraction (body - f.infinityBits) then
    .nan negative (body - f.infinityBits) h
  else
    .infinite negative

def toBits {f : FloatKind} : Binary f → Nat
  | .nan negative n _ => f.signBit negative + (f.infinityBits + n)
  | .infinite negative => f.signBit negative + f.infinityBits
  | .finite negative m _ => f.signBit negative + f.pack m

/-- The bits by which a value is reported; a NaN is reported as such. -/
def toBits? {f : FloatKind} (x : Binary f) : Option Nat :=
  if x.isNaN then none else some x.toBits

end Binary
end Recast
