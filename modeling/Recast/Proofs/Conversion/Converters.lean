import Recast.Conversion.Converter

/-!
# Converters — which values they take, and what becomes of them

One statement for each converter says which values it takes and what it answers in either mode.  All
other values are an invalid cast.  What is shown about casts rests on these statements alone, so that
a converter can change without the rules around it.

The converters that hand values on take the instances of a type (`Registry.IsInstance`): the values
whose run-time type is that type or derives from it.
-/

namespace Recast
namespace Converter

variable {source target underlying : Kind} {enum : TypeHash} {targetName : String} {v : Value}

theorem guardNull_of_ne_null {targetNullable : Bool} {run : Converter} (hv : v ≠ .null) :
    guardNull targetNullable targetName run v = run v := by
  cases v with
  | null => exact absurd rfl hv
  | _ => rfl

/-- What a converter does to `null` does not matter behind the answer to it. -/
theorem guardNull_congr {run run' : Converter} (hrun : ∀ v, v ≠ .null → run' v = run v)
    (targetNullable : Bool) (targetName : String) :
    guardNull targetNullable targetName run' = guardNull targetNullable targetName run := by
  funext v
  cases v with
  | null => rfl
  | _ => exact hrun _ (by simp)

/-! ## Converters between kinds -/

theorem numeric_cases (source target : Kind) (v : Value) :
    (∃ x, v = .scalar x ∧ x.kind = source ∧
        ∀ mode, numeric mode source target v = (x.convert mode target).map .scalar) ∨
      (∀ x, v = .scalar x → x.kind ≠ source) ∧
        ∀ mode, numeric mode source target v = .error (.invalidCast v.describe target.name) := by
  cases v with
  | scalar x =>
      by_cases hx : x.kind = source
      · exact Or.inl ⟨x, rfl, hx, fun _ => if_pos hx⟩
      · refine Or.inr ⟨?_, fun _ => if_neg hx⟩
        rintro y ⟨⟩
        exact hx
  | _ => exact Or.inr ⟨by simp, fun _ => rfl⟩

theorem enumToNumeric_cases (enum : TypeHash) (underlying target : Kind) (v : Value) :
    (∃ e, v = .enum e ∧ e.type = enum ∧ e.raw.kind = underlying ∧
        ∀ mode, enumToNumeric mode enum underlying target v =
          (e.raw.convert mode target).map .scalar) ∨
      (∀ e, v = .enum e → ¬ (e.type = enum ∧ e.raw.kind = underlying)) ∧
        ∀ mode, enumToNumeric mode enum underlying target v =
          .error (.invalidCast v.describe target.name) := by
  cases v with
  | enum e =>
      by_cases he : e.type = enum ∧ e.raw.kind = underlying
      · exact Or.inl ⟨e, rfl, he.1, he.2, fun _ => if_pos he⟩
      · refine Or.inr ⟨?_, fun _ => if_neg he⟩
        rintro e' ⟨⟩
        exact he
  | _ => exact Or.inr ⟨by simp, fun _ => rfl⟩

theorem numericToEnum_cases (source : Kind) (enum : TypeHash) (underlying : Kind)
    (targetName : String) (v : Value) :
    (∃ x, v = .scalar x ∧ x.kind = source ∧
        ∀ mode, numericToEnum mode source enum underlying targetName v =
          ((x.convert mode underlying).map fun raw =>
            Value.enum { type := enum, raw := raw }).mapError (CastError.retarget targetName)) ∨
      (∀ x, v = .scalar x → x.kind ≠ source) ∧
        ∀ mode, numericToEnum mode source enum underlying targetName v =
          .error (.invalidCast v.describe targetName) := by
  cases v with
  | scalar x =>
      by_cases hx : x.kind = source
      · refine Or.inl ⟨x, rfl, hx, ?_⟩
        intro mode
        refine (if_pos hx).trans ?_
        cases x.convert mode underlying <;> rfl
      · refine Or.inr ⟨?_, fun _ => if_neg hx⟩
        rintro y ⟨⟩
        exact hx
  | _ => exact Or.inr ⟨by simp, fun _ => rfl⟩

end Converter

namespace Registry

variable {r : Registry} {source target type h : TypeHash} {targetName : String} {v : Value}

/-! ## Instances -/

/-- A value whose run-time type is a type or derives from it.  `null` is an instance of nothing. -/
def IsInstance (r : Registry) (v : Value) (h : TypeHash) : Prop :=
  ∃ actual, v.typeHash? = some actual ∧ r.isSubtype actual h = true

instance (r : Registry) (v : Value) (h : TypeHash) : Decidable (r.IsInstance v h) :=
  decidable_of_iff ((v.typeHash?.any fun actual => r.isSubtype actual h) = true) (by
    simp [IsInstance, Option.any_eq_true])

theorem isInstance_iff_of_typeHash? {actual : TypeHash} (htype : v.typeHash? = some actual) :
    r.IsInstance v h ↔ r.isSubtype actual h = true := by
  simp [IsInstance, htype]

theorem isInstance_of_typeHash? (htype : v.typeHash? = some h) : r.IsInstance v h :=
  (isInstance_iff_of_typeHash? htype).2 (r.isSubtype_refl h)

theorem isSubtype_of_isStrictSubtype (hs : r.isStrictSubtype source target = true) :
    r.isSubtype source target = true := by
  simp [isSubtype, hs]

theorem IsInstance.mono (hv : r.IsInstance v source) (hs : r.isStrictSubtype source target = true) :
    r.IsInstance v target := by
  rcases hv with ⟨actual, htype, hsub⟩
  exact ⟨actual, htype, isSubtype_trans hsub (isSubtype_of_isStrictSubtype hs)⟩

/-! ## Converters that hand values on -/

theorem instanceConverter_eq (r : Registry) (type : TypeHash) (targetName : String) (v : Value) :
    r.instanceConverter type targetName v =
      if r.IsInstance v type then .ok v else .error (.invalidCast (r.describe v) targetName) := by
  unfold instanceConverter
  cases htype : v.typeHash? with
  | none =>
      have hv : ¬ r.IsInstance v type := by simp [IsInstance, htype]
      exact (if_neg hv).symm
  | some actual => simp only [isInstance_iff_of_typeHash? htype]

theorem objectConverter_eq (r : Registry) (type : TypeHash) (targetName : String) (v : Value) :
    r.objectConverter type targetName v =
      if v.object?.isSome = true ∧ r.IsInstance v type then .ok v
      else .error (.invalidCast (r.describe v) targetName) := by
  cases v with
  | object o =>
      have hv : r.IsInstance (.object o) type ↔ r.isSubtype o.type type = true :=
        isInstance_iff_of_typeHash? rfl
      simp [objectConverter, Value.object?, hv]
  | _ => rfl

/-- What is handed on is an instance. -/
theorem instanceConverter_eq_ok {w : Value} (hok : r.instanceConverter type targetName v = .ok w) :
    v = w ∧ r.IsInstance v type := by
  rw [instanceConverter_eq] at hok
  split at hok
  · rename_i hv
    exact ⟨Except.ok.inj hok, hv⟩
  · cases hok

theorem objectConverter_eq_ok {w : Value} (hok : r.objectConverter type targetName v = .ok w) :
    v = w ∧ r.IsInstance v type := by
  rw [objectConverter_eq] at hok
  split at hok
  · rename_i hv
    exact ⟨Except.ok.inj hok, hv.2⟩
  · cases hok

end Registry
end Recast
