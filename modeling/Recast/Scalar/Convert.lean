import Recast.Binary.Arithmetic
import Recast.Error
import Recast.Mode
import Recast.Scalar.Basic

/-!
# Convert — conversion between numeric kinds

Without a check, integers wrap around, floating-point values lose their fraction and are clamped to
the range of an integer kind, and a conversion into a format rounds to nearest.  With a check,
whatever would leave the range of the target is an overflow.
-/

namespace Recast
namespace IntKind

/-! ## Ranges in double precision -/

def lowerEnd (k : IntKind) : Binary .double :=
  Binary.ofInt .double k.minValue

def upperEnd (k : IntKind) : Binary .double :=
  (Binary.ofInt .double k.maxValue).add (Binary.ofInt .double 1)

def passesRangeTest {f : FloatKind} (k : IntKind) (v : Binary f) : Bool :=
  let x := v.toFormat .double
  x.isFinite && k.lowerEnd.le x.whole && x.whole.lt k.upperEnd

end IntKind

namespace Scalar

/-! ## Conversion -/

def noConversion (x : Scalar) (target : Kind) : CastError :=
  .invalidCast x.kind.name target.name

def outOfRange (x : Scalar) (target : Kind) : CastError :=
  .overflow x.text target.name

/-- The integer of a kind nearest to the integer part of a floating-point value; NaN gives zero. -/
def saturate {f : FloatKind} (k : IntKind) : Binary f → Num k
  | .nan _ _ _ => Num.zero k
  | .infinite negative => Num.clamp k (if negative then k.minValue else k.maxValue)
  | .finite negative m _ => Num.clamp k (Binary.signed negative (m / Binary.one))

/-- Where there is an integer part, it is the one that is clamped. -/
theorem saturate_eq_clamp {f : FloatKind} {k : IntKind} {v : Binary f} {i : Int}
    (h : v.trunc? = some i) : saturate k v = Num.clamp k i := by
  cases v with
  | finite negative m hm =>
      cases h
      rfl
  | _ => cases h

/-- Convert without watching for overflow. -/
def convertUnchecked (x : Scalar) (target : Kind) : Except CastError Scalar :=
  match x, target with
  | ⟨.int _, n⟩, .int k => .ok ⟨.int k, Num.wrap k n.toInt⟩
  | ⟨.int _, n⟩, .float f => .ok ⟨.float f, Binary.ofInt f n.toInt⟩
  | ⟨.float _, v⟩, .int k => .ok ⟨.int k, saturate k v⟩
  | ⟨.float _, v⟩, .float g => .ok ⟨.float g, v.toFormat g⟩
  -- What is left has a `bool` on one side or on both.
  | x, target => .error (noConversion x target)

/-- Whether the result of a conversion is in range. -/
def inRange (x : Scalar) (target : Kind) : Bool :=
  match x, target with
  | ⟨.int _, n⟩, .int k => decide (k.Contains n.toInt)
  | ⟨.float _, v⟩, .int k => k.passesRangeTest v
  -- An infinity carries over; only one that rounding made out of a finite value is an overflow.
  | ⟨.float .double, v⟩, .float .single => !(v.isFinite && (v.toFormat .single).isInfinite)
  | _, _ => true

def convertChecked (x : Scalar) (target : Kind) : Except CastError Scalar :=
  if inRange x target then
    convertUnchecked x target
  else
    .error (outOfRange x target)

theorem convertChecked_of_inRange {x : Scalar} {target : Kind} (h : inRange x target = true) :
    convertChecked x target = convertUnchecked x target :=
  if_pos h

theorem convertChecked_of_not_inRange {x : Scalar} {target : Kind} (h : ¬ inRange x target = true) :
    convertChecked x target = .error (outOfRange x target) :=
  if_neg h

def convert : Mode → Scalar → Kind → Except CastError Scalar
  | .unchecked => convertUnchecked
  | .checked => convertChecked

theorem kind_of_convertUnchecked {x y : Scalar} {target : Kind}
    (h : convertUnchecked x target = .ok y) : y.kind = target := by
  obtain ⟨kind, v⟩ := x
  cases kind <;> cases target <;> simp [convertUnchecked] at h
  all_goals rw [← h]

/-- A successful conversion yields a scalar of the target kind. -/
theorem kind_of_convert {mode : Mode} {x y : Scalar} {target : Kind}
    (h : convert mode x target = .ok y) : y.kind = target := by
  cases mode with
  | unchecked => exact kind_of_convertUnchecked h
  | checked =>
      by_cases hrange : inRange x target = true
      · exact kind_of_convertUnchecked ((convertChecked_of_inRange hrange).symm.trans h)
      · cases (convertChecked_of_not_inRange hrange).symm.trans h

end Scalar
end Recast
