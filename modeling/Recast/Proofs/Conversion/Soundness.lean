import Recast.Proofs.Conversion.Rules
import Recast.Proofs.Registry.WellFormed

/-!
# Soundness — casts respect run-time types

A value is an instance of a type if its run-time type is that type or derives from it
(`Registry.IsInstance`).  The rules of casting check their input in different ways: by the kind of a
scalar, by the identity of an enumeration, by the class of an object against either end of the
conversion.  Each of these checks amounts to the same.

* `Registry.Carries.refuses`: what is no instance of the type cast from is refused;
* `Registry.Carries.isInstance_of_ok`: what is answered is an instance of the type cast to;
* `Registry.cast_isInstance`: so that a cast leads from instances to instances.
-/

namespace Recast

/-- Whether a declaration stands under the hash of its kind, if it is that of a primitive. -/
def TypeDecl.isInPlace : TypeDecl → Bool
  | .primitive e => decide (e.hash = e.kind.typeHash)
  | _ => true

/-! ## Answers of numeric converters -/

namespace Converter

variable {mode : Mode} {source target underlying : Kind} {enum : TypeHash} {targetName : String}
  {v w : Value}

theorem kind_of_map_convert {x : Scalar}
    (h : (x.convert mode target).map Value.scalar = .ok w) :
    ∃ y, w = .scalar y ∧ y.kind = target := by
  cases hconvert : x.convert mode target with
  | error e =>
      rw [hconvert] at h
      cases h
  | ok y =>
      rw [hconvert] at h
      cases h
      exact ⟨y, rfl, Scalar.kind_of_convert hconvert⟩

theorem numeric_eq_ok (h : numeric mode source target v = .ok w) :
    ∃ y, w = .scalar y ∧ y.kind = target := by
  rcases numeric_cases source target v with ⟨x, -, -, hanswer⟩ | ⟨-, hrefused⟩
  · exact kind_of_map_convert ((hanswer mode).symm.trans h)
  · cases (hrefused mode).symm.trans h

theorem enumToNumeric_eq_ok (h : enumToNumeric mode enum underlying target v = .ok w) :
    ∃ y, w = .scalar y ∧ y.kind = target := by
  rcases enumToNumeric_cases enum underlying target v with ⟨e, -, -, -, hanswer⟩ | ⟨-, hrefused⟩
  · exact kind_of_map_convert ((hanswer mode).symm.trans h)
  · cases (hrefused mode).symm.trans h

theorem numericToEnum_eq_ok (h : numericToEnum mode source enum underlying targetName v = .ok w) :
    ∃ raw, w = .enum { type := enum, raw := raw } := by
  rcases numericToEnum_cases source enum underlying targetName v with
    ⟨x, -, -, hanswer⟩ | ⟨-, hrefused⟩
  · have hok := (hanswer mode).symm.trans h
    cases hconvert : x.convert mode underlying with
    | error e =>
        rw [hconvert] at hok
        cases hok
    | ok raw =>
        rw [hconvert] at hok
        cases hok
        exact ⟨raw, rfl⟩
  · cases (hrefused mode).symm.trans h

end Converter

namespace Registry

variable {r : Registry} {source target type h : TypeHash} {v w : Value} {targetName : String}

/-! ## Primitives in their places -/

/-- Every declaration of a primitive stands under the hash of its kind. -/
def PrimitivesInPlace (r : Registry) : Prop :=
  ∀ {h e}, r.get? h = some e → e.isInPlace = true

theorem primitivesInPlace_of_values (hall : ∀ e ∈ r.types.values, e.isInPlace = true) :
    r.PrimitivesInPlace := by
  intro h e hget
  exact hall e (Table.mem_values_of_get? hget)

theorem eq_typeHash_of_traits {k : Kind} (hr : Reachable r) (hplace : r.PrimitivesInPlace)
    (htraits : r.traits h = .primitive k) : h = k.typeHash := by
  unfold traits at htraits
  split at htraits
  · rename_i found hkind
    cases htraits
    exact Kind.ofHash?_eq_some_iff.1 hkind
  · split at htraits
    · rename_i e hget
      cases e with
      | primitive e =>
          cases htraits
          calc
            h = e.hash := (hr.wellFormed.hash_eq hget).symm
            _ = e.kind.typeHash := of_decide_eq_true (hplace hget)
      | classType e =>
          unfold Traits.ofDecl at htraits
          cases hsem : e.semantics <;> simp [hsem] at htraits
      | enumType e => cases htraits
      | interface e => cases htraits
      | nullable e => cases htraits
    · cases htraits

theorem typeHash?_scalar {k : Kind} {x : Scalar} (hr : Reachable r) (hplace : r.PrimitivesInPlace)
    (hkind : (r.traits h).numericKind? = some k) (hx : x.kind = k) :
    (Value.scalar x).typeHash? = some h := by
  have htraits := (Traits.numericKind?_eq_some_iff.1 hkind).1
  have hplaced := eq_typeHash_of_traits hr hplace htraits
  rw [hplaced, ← hx]
  rfl

theorem isInstance_scalar {k : Kind} {x : Scalar} (hr : Reachable r) (hplace : r.PrimitivesInPlace)
    (hkind : (r.traits h).numericKind? = some k) (hx : x.kind = k) :
    r.IsInstance (.scalar x) h :=
  isInstance_of_typeHash? (typeHash?_scalar hr hplace hkind hx)

/-! ## What a rule refuses and answers -/

/-- The name that a refusal gives to the type cast to.  Rules that lead to a numeric kind give the
name of the kind. -/
def refusalName (r : Registry) (target : TypeHash) : Category → String
  | .widening _ b => b.name
  | .narrowing _ b => b.name
  | .enumToNumeric _ _ b => b.name
  | _ => r.nameOf target

section Rule

variable {category : Category} {run : Mode → Converter}
  (hrule : r.Carries source target category run) (hr : Reachable r) (hplace : r.PrimitivesInPlace)
include hrule hr hplace

/-- What is no instance of the type cast from is refused. -/
theorem Carries.refuses (hbuiltin : category.isBuiltin = true)
    (hv : ¬ r.IsInstance v (r.strip source)) (mode : Mode) :
    ∃ text, run mode v = .error (.invalidCast text (r.refusalName target category)) := by
  have hnumeric : ∀ {a : Kind}, (r.traits (r.strip source)).numericKind? = some a →
      ∀ (b : Kind) (mode : Mode), ∃ text,
        Converter.numeric mode a b v = .error (.invalidCast text b.name) := by
    intro a ha b mode
    rcases Converter.numeric_cases a b v with ⟨x, rfl, hx, -⟩ | ⟨-, hrefused⟩
    · exact absurd (isInstance_scalar hr hplace ha hx) hv
    · exact ⟨_, hrefused mode⟩
  cases hrule with
  | identity _ =>
      exact ⟨_, (instanceConverter_eq r _ _ v).trans (if_neg hv)⟩
  | widening ha _ _ =>
      exact hnumeric ha _ _
  | narrowing ha _ _ =>
      exact hnumeric ha _ _
  | @enumToNumeric underlying b _ _ =>
      rcases Converter.enumToNumeric_cases (r.strip source) underlying b v with
        ⟨e, rfl, htype, -, -⟩ | ⟨-, hrefused⟩
      · have htype' : (Value.enum e).typeHash? = some (r.strip source) := congrArg some htype
        exact absurd (isInstance_of_typeHash? htype') hv
      · exact ⟨_, hrefused mode⟩
  | @numericToEnum a underlying ha _ =>
      rcases Converter.numericToEnum_cases a (r.strip target) underlying (r.nameOf target) v with
        ⟨x, rfl, hx, -⟩ | ⟨-, hrefused⟩
      · exact absurd (isInstance_scalar hr hplace ha hx) hv
      · exact ⟨_, hrefused mode⟩
  | upcast _ =>
      refine ⟨_, (objectConverter_eq r _ _ v).trans (if_neg ?_)⟩
      rintro ⟨-, hsource⟩
      exact hv hsource
  | downcast hdown =>
      -- Only the target is checked, but its instances are instances of the source.
      refine ⟨_, (objectConverter_eq r _ _ v).trans (if_neg ?_)⟩
      rintro ⟨-, htarget⟩
      exact hv (htarget.mono hdown)
  | custom _ =>
      cases hbuiltin

/-- What is answered is an instance of the type cast to. -/
theorem Carries.isInstance_of_ok (hbuiltin : category.isBuiltin = true) {mode : Mode}
    (hok : run mode v = .ok w) : r.IsInstance w (r.strip target) := by
  cases hrule with
  | identity hsame =>
      rcases instanceConverter_eq_ok hok with ⟨rfl, hv⟩
      rw [← hsame]
      exact hv
  | widening _ hb _ =>
      rcases Converter.numeric_eq_ok hok with ⟨y, rfl, hy⟩
      exact isInstance_scalar hr hplace hb hy
  | narrowing _ hb _ =>
      rcases Converter.numeric_eq_ok hok with ⟨y, rfl, hy⟩
      exact isInstance_scalar hr hplace hb hy
  | enumToNumeric _ hb =>
      rcases Converter.enumToNumeric_eq_ok hok with ⟨y, rfl, hy⟩
      exact isInstance_scalar hr hplace hb hy
  | numericToEnum _ _ =>
      rcases Converter.numericToEnum_eq_ok hok with ⟨raw, rfl⟩
      exact isInstance_of_typeHash? rfl
  | upcast hup =>
      -- Only the source is checked, but its instances are instances of the target.
      rcases objectConverter_eq_ok hok with ⟨rfl, hv⟩
      exact hv.mono hup
  | downcast _ =>
      rcases objectConverter_eq_ok hok with ⟨rfl, hv⟩
      exact hv
  | custom _ =>
      cases hbuiltin

end Rule

/-! ## Casts from instances to instances -/

/-- Where a conversion needs no registration, its converter in either mode answers instances of the
type cast from only, and with instances of the type cast to, either type without its wrapper. -/
theorem cast_isInstance (hr : Reachable r) (hplace : r.PrimitivesInPlace)
    (hbuiltin : (r.conversionBetween source target).category.isBuiltin = true) (mode : Mode) :
    ∃ run, r.converterBetween source target mode = .ok run ∧
      ∀ v w, v ≠ .null → run v = .ok w →
        r.IsInstance v (r.conversionBetween source target).stripped ∧
          r.IsInstance w (r.strip target) := by
  have hvalid : r.isConvertible source target = true := Category.isValid_of_isBuiltin hbuiltin
  rcases exists_converters hvalid with ⟨run, hrule, hrun⟩
  refine ⟨_, hrun mode, ?_⟩
  intro v w hv hok
  rw [Converter.guardNull_of_ne_null hv] at hok
  refine ⟨?_, hrule.isInstance_of_ok hr hplace hbuiltin hok⟩
  apply Classical.byContradiction
  intro hforeign
  rcases hrule.refuses hr hplace hbuiltin hforeign mode with ⟨text, herror⟩
  cases hok.symm.trans herror

/-- An `i64` to an optional `u8`, with a check: the answer is a plain `u8`. -/
theorem cast_isInstance_optional :
    Reachable builtin ∧ builtin.PrimitivesInPlace ∧
      builtin.category Kind.i64.typeHash Kind.u8.typeHash.nullable = .narrowing .i64 .u8 ∧
      ∃ run, builtin.converterBetween Kind.i64.typeHash Kind.u8.typeHash.nullable .checked =
          .ok run ∧
        run (.scalar ⟨.i64, Num.wrap _ 200⟩) = .ok (.scalar ⟨.u8, Num.wrap _ 200⟩) ∧
        builtin.IsInstance (.scalar ⟨.i64, Num.wrap _ 200⟩) Kind.i64.typeHash ∧
        builtin.IsInstance (.scalar ⟨.u8, Num.wrap _ 200⟩)
          (builtin.strip Kind.u8.typeHash.nullable) := by
  have hplace : builtin.PrimitivesInPlace := primitivesInPlace_of_values (by decide)
  have hbuiltin : (builtin.conversionBetween Kind.i64.typeHash
      Kind.u8.typeHash.nullable).category.isBuiltin = true := by decide
  rcases cast_isInstance reachable_builtin hplace hbuiltin .checked with ⟨run, hrun, hsound⟩
  have hanswer : (builtin.converterBetween Kind.i64.typeHash Kind.u8.typeHash.nullable .checked).map
      (fun run => run (.scalar ⟨.i64, Num.wrap _ 200⟩)) =
        .ok (.ok (.scalar ⟨.u8, Num.wrap _ 200⟩)) := rfl
  rw [hrun] at hanswer
  have hok := Except.ok.inj hanswer
  rcases hsound _ _ (by simp) hok with ⟨hsource, htarget⟩
  exact ⟨reachable_builtin, hplace, by decide, run, hrun, hok, hsource, htarget⟩

end Registry
end Recast
