import Recast.Conversion.Basic
import Recast.Scalar.Convert

/-!
# Converter — how a conversion is carried out

`Registry.converter` turns a conversion into a converter, one rule per category.  Whatever the
category, `null` is answered first: it is handed on where the target has absence, and refused
elsewhere.  Any other value must be what the conversion expects, or it is an invalid cast.
-/

namespace Recast

/-- Answer `null` by the target's absence, and leave all other values to a converter. -/
def Converter.guardNull (targetNullable : Bool) (targetName : String) (run : Converter) : Converter
  | .null => if targetNullable then .ok .null else .error (.nullNotAllowed targetName)
  | v => run v

/-- Convert scalars of one numeric kind to another. -/
def Converter.numeric (mode : Mode) (source target : Kind) : Converter
  | .scalar x =>
      if x.kind = source then
        (x.convert mode target).map .scalar
      else
        .error (.invalidCast (Value.scalar x).describe target.name)
  | v => .error (.invalidCast v.describe target.name)

/-- Convert the values of an enumeration whose scalar has the underlying kind. -/
def Converter.enumToNumeric (mode : Mode) (enum : TypeHash) (underlying target : Kind) : Converter
  | .enum e =>
      if e.type = enum ∧ e.raw.kind = underlying then
        (e.raw.convert mode target).map .scalar
      else
        .error (.invalidCast (Value.enum e).describe target.name)
  | v => .error (.invalidCast v.describe target.name)

/-- Convert scalars of one numeric kind to values of an enumeration, declared or not.  An overflow
is reported against the target of the cast. -/
def Converter.numericToEnum (mode : Mode) (source : Kind) (enum : TypeHash) (underlying : Kind)
    (targetName : String) : Converter
  | .scalar x =>
      if x.kind = source then
        match x.convert mode underlying with
        | .ok raw => .ok (.enum { type := enum, raw := raw })
        | .error e => .error (e.retarget targetName)
      else
        .error (.invalidCast (Value.scalar x).describe targetName)
  | v => .error (.invalidCast v.describe targetName)

namespace Registry

/-- The type of a value as it is shown: the name of its run-time type. -/
def describe (r : Registry) (v : Value) : String :=
  match v.typeHash? with
  | some h => r.nameOf h
  | none => v.describe

/-- Hand on the instances of a type. -/
def instanceConverter (r : Registry) (type : TypeHash) (targetName : String) : Converter := fun v =>
  match v.typeHash? with
  | some actual =>
      if r.isSubtype actual type then
        .ok v
      else
        .error (.invalidCast (r.describe v) targetName)
  | none => .error (.invalidCast (r.describe v) targetName)

/-- Hand on the objects that are instances of a type. -/
def objectConverter (r : Registry) (type : TypeHash) (targetName : String) : Converter := fun v =>
  match v.object? with
  | some o =>
      if r.isSubtype o.type type then
        .ok v
      else
        .error (.invalidCast (r.describe v) targetName)
  | none => .error (.invalidCast (r.describe v) targetName)

/-- The converter of a conversion for all values but `null`. -/
def handler (r : Registry) (c : Conversion) (mode : Mode) : Except BuildError Converter :=
  let targetName := r.nameOf c.target
  match c.category with
  | .identity => .ok (r.instanceConverter c.stripped targetName)
  -- Widening cannot overflow, so that both modes share one converter.
  | .widening source target => .ok (Converter.numeric .unchecked source target)
  | .narrowing source target => .ok (Converter.numeric mode source target)
  | .enumToNumeric enum underlying target =>
      .ok (Converter.enumToNumeric mode enum underlying target)
  | .numericToEnum source enum underlying =>
      .ok (Converter.numericToEnum mode source enum underlying targetName)
  -- An instance of the source is one of the target as well; downward the object itself decides.
  | .upcast _ => .ok (r.objectConverter c.stripped targetName)
  | .downcast target => .ok (r.objectConverter target targetName)
  | .custom key _ =>
      match r.conversion? key with
      | some custom => .ok (custom.casterFor mode).run
      | none => .error { cause := .invalidCast key.source.text key.target.text }
  | .invalid => .error { cause := .invalidCast (r.nameOf c.source) targetName }

/-- The converter of a conversion. -/
def converter (r : Registry) (c : Conversion) (mode : Mode) : Except BuildError Converter :=
  (r.handler c mode).map (Converter.guardNull c.targetNullable (r.nameOf c.target))

/-- The converter between two types. -/
def converterBetween (r : Registry) (source target : TypeHash) (mode : Mode) :
    Except BuildError Converter :=
  r.converter (r.conversionBetween source target) mode

end Registry
end Recast
