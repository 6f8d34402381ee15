import Recast.Proofs.Binary.Interchange
import Recast.Proofs.HostType.RoundTrip

/-!
# Inverse — what can be read at a type

A type reads exactly the values that it erases to.  What it reads determines the value, as a scalar,
an enumeration value or a handle says all there is to say; the other way round only `null` can stand
for several values, all of them of an optional.

* `HostType.extract_cases`: how reading a value can end, `null` apart;
* `HostType.exists_extract_erase`: whatever was erased can be read;
* `HostType.extract_inverts_erase`: reading is the inverse of erasing, which values are refused and
  how, and for which types reading undoes erasing.
-/

namespace Recast
namespace HostType

variable {t s : HostType} {x : Value} {e : CastError}

/-! ## Null -/

/-- Whether `null` can be read at a type. -/
def takesNull : HostType → Bool
  | .scalar _ => false
  | .enum _ => false
  | .object => false
  | .dynamic => true
  | .option _ => true

theorem extract_null_eq_error_iff :
    t.extract .null = .error e ↔ t.takesNull = false ∧ e = .nullNotAllowed t.name := by
  cases t <;> simp [extract, takesNull, name, eq_comm]

theorem erase_of_extract_null {v : t.Carrier} (hread : t.extract .null = .ok v) :
    t.erase v = .null := by
  cases t with
  | dynamic =>
      cases hread
      rfl
  | option s =>
      cases hread
      rfl
  | _ => cases hread

theorem exists_erase_eq_null_iff : (∃ v, t.erase v = .null) ↔ t.takesNull = true := by
  cases t with
  | dynamic => exact iff_of_true ⟨.null, rfl⟩ rfl
  | option s => exact iff_of_true ⟨none, rfl⟩ rfl
  | _ => simp [erase, takesNull]

/-! ## Reading -/

/-- What a refusal shows of a value: the scalar behind a value of the enumeration asked for, and of
any other value its shape. -/
def shownAs : HostType → Value → String
  | .enum d, .enum y => if y.type = d.typeHash then y.raw.text else (Value.enum y).describe
  | .option t, x => t.shownAs x
  | _, x => x.describe

theorem extract_scalar_cases (k : Kind) (y : Scalar) :
    (∃ v, (scalar k).extract (.scalar y) = .ok v ∧ (scalar k).erase v = .scalar y) ∨
      (scalar k).extract (.scalar y) = .error (.invalidCast y.kind.name k.name) := by
  cases hvalue : y.as? k with
  | none =>
      exact Or.inr (by simp only [extract, hvalue])
  | some c =>
      have hread : (scalar k).extract (.scalar y) = .ok c := by simp only [extract, hvalue]
      have hscalar : y = ⟨k, c⟩ := Scalar.as?_eq_some_iff.1 hvalue
      exact Or.inl ⟨c, hread, congrArg Value.scalar hscalar.symm⟩

/-- A scalar names a variant if it has the underlying kind and the value of the variant. -/
theorem extract_enum_cases (d : HostEnum) (y : EnumValue) :
    (∃ v, (enum d).extract (.enum y) = .ok v ∧ (enum d).erase v = .enum y) ∨
      (enum d).extract (.enum y) = .error (.invalidCast ((enum d).shownAs (.enum y)) d.name) := by
  by_cases htype : y.type = d.typeHash
  · cases hvalue : (y.raw.as? (.int d.repr)).bind d.ofRaw? with
    | none =>
        exact Or.inr (by simp only [extract, shownAs, if_pos htype, hvalue])
    | some m =>
        have hread : (enum d).extract (.enum y) = .ok m := by
          simp only [extract, if_pos htype, hvalue]
        obtain ⟨raw, hraw, hmember⟩ := Option.bind_eq_some_iff.1 hvalue
        have hscalar : y.raw = ⟨.int d.repr, raw⟩ := Scalar.as?_eq_some_iff.1 hraw
        cases HostEnum.ofRaw?_eq_some_iff.1 hmember
        have herase : (enum d).erase m =
            .enum { type := d.typeHash, raw := ⟨.int d.repr, m.val.value⟩ } := rfl
        rw [← htype, ← hscalar] at herase
        exact Or.inl ⟨m, hread, herase⟩
  · exact Or.inr (by simp only [extract, shownAs, if_neg htype])

/-- A value other than `null` is read as what erases to it, or is no instance of the type inside
all optionals. -/
theorem extract_cases (t : HostType) (hpresent : x ≠ .null) :
    (∃ v, t.extract x = .ok v ∧ t.erase v = x) ∨
      t.extract x = .error (.invalidCast (t.shownAs x) t.core.name) := by
  induction t with
  | scalar k =>
      cases x with
      | null => exact absurd rfl hpresent
      | scalar y => exact extract_scalar_cases k y
      | _ => exact Or.inr rfl
  | enum d =>
      cases x with
      | null => exact absurd rfl hpresent
      | enum y => exact extract_enum_cases d y
      | _ => exact Or.inr rfl
  | object =>
      cases x with
      | null => exact absurd rfl hpresent
      | object o => exact Or.inl ⟨o, rfl, rfl⟩
      | _ => exact Or.inr rfl
  | dynamic => exact Or.inl ⟨x, rfl, rfl⟩
  | option s ih =>
      rw [extract_option hpresent]
      rcases ih with ⟨w, hread, herase⟩ | hrefused
      · exact Or.inl ⟨some w, congrArg (Except.map some) hread, herase⟩
      · exact Or.inr (congrArg (Except.map some) hrefused)

/-- A value that was read erases to what it was read from. -/
theorem erase_of_extract {v : t.Carrier} (hread : t.extract x = .ok v) : t.erase v = x := by
  by_cases hnull : x = .null
  · cases hnull
    exact erase_of_extract_null hread
  · rcases extract_cases t hnull with ⟨v', hread', herase⟩ | hrefused
    · cases hread'.symm.trans hread
      exact herase
    · cases hrefused.symm.trans hread

theorem eq_invalidCast_of_extract (hpresent : x ≠ .null) (hrefused : t.extract x = .error e) :
    e = .invalidCast (t.shownAs x) t.core.name := by
  rcases extract_cases t hpresent with ⟨v, hread, -⟩ | hrefused'
  · cases hread.symm.trans hrefused
  · cases hrefused'.symm.trans hrefused
    rfl

/-! ## Reading back -/

theorem extract_erase_some {w u : s.Carrier} (hpresent : s.erase w ≠ .null)
    (hread : s.extract (s.erase w) = .ok u) : (option s).extract (s.erase w) = .ok (some u) := by
  rw [extract_option hpresent, hread]
  rfl

/-- Whatever was erased can be read. -/
theorem exists_extract_erase (u : t.Carrier) : ∃ v, t.extract (t.erase u) = .ok v := by
  induction t with
  | option s ih =>
      cases u with
      | none => exact ⟨none, rfl⟩
      | some w =>
          by_cases hnull : s.erase w = .null
          -- An absence further in is read as the outermost one.
          · have herased : (option s).erase (some w) = .null := hnull
            rw [herased]
            exact ⟨none, rfl⟩
          · obtain ⟨v, hread⟩ := ih w
            exact ⟨some v, extract_erase_some hnull hread⟩
  | _ => exact ⟨u, extract_erase_of_not_isOptional rfl u⟩

/-- Whether no optional of the type is one of an optional or of any value. -/
def isFaithful : HostType → Bool
  | .option t => !t.takesNull
  | _ => true

/-- Reading undoes erasing unless an optional is one of a type that has `null` already. -/
theorem extract_erase_eq_iff : (∀ v, t.extract (t.erase v) = .ok v) ↔ t.isFaithful = true := by
  cases t with
  | option s =>
      cases hinner : s.takesNull with
      | true =>
          have hlossy : ¬ (option s).isFaithful = true := by simp [isFaithful, hinner]
          refine iff_of_false ?_ hlossy
          intro hback
          obtain ⟨w, hnull⟩ := exists_erase_eq_null_iff.2 hinner
          have hread : (option s).extract .null = .ok (some w) := hnull ▸ hback (some w)
          cases hread
      | false =>
          have hfaithful : (option s).isFaithful = true := by simp [isFaithful, hinner]
          refine iff_of_true ?_ hfaithful
          intro v
          cases v with
          | none => rfl
          | some w =>
              have hsingle : s.isOptional = false := by
                cases s with
                | option s => cases hinner
                | _ => rfl
              have hpresent : s.erase w ≠ .null := by
                intro hnull
                cases hinner.symm.trans (exists_erase_eq_null_iff.1 ⟨w, hnull⟩)
              exact extract_erase_some hpresent (extract_erase_of_not_isOptional hsingle w)
  | _ => exact iff_of_true (extract_erase_of_not_isOptional rfl) rfl

/-! ## The inverse of erasing -/

/-- Reading is the inverse of erasing, on the values that were erased.  What was read erases to the
value it was read from, which for a floating-point scalar is the one value with the same stored
bits, and all that was erased can be read.  `null` is refused, as such, by the types without absence; any other value that
cannot be read is no instance of the type.  A type reads back all of its values as they were exactly
if no optional is one of an optional or of any value. -/
theorem extract_inverts_erase (t : HostType) :
    (∀ x v, t.extract x = .ok v → t.erase v = x) ∧
      (∀ (f : FloatKind) (bits : Nat), bits < 2 ^ f.bits →
        ∀ v, t.extract (.scalar ⟨.float f, Binary.ofBits f bits⟩) = .ok v →
          ∃ y : Binary f, t.erase v = .scalar ⟨.float f, y⟩ ∧
            ∀ z : Binary f, z.toBits = bits ↔ z = y) ∧
      (∀ u, ∃ v, t.extract (t.erase u) = .ok v) ∧
      (∀ e, t.extract .null = .error e ↔ t.takesNull = false ∧ e = .nullNotAllowed t.name) ∧
      (∀ x e, x ≠ .null → t.extract x = .error e →
        e = .invalidCast (t.shownAs x) t.core.name) ∧
      ((∀ v, t.extract (t.erase v) = .ok v) ↔ t.isFaithful = true) := by
  refine ⟨?_, ?_, exists_extract_erase, ?_, ?_, extract_erase_eq_iff⟩
  · intro x v hread
    exact erase_of_extract hread
  · intro f bits hbits v hread
    exact ⟨_, erase_of_extract hread, fun z => Binary.toBits_eq_iff hbits⟩
  · intro e
    exact extract_null_eq_error_iff
  · intro x e hpresent hrefused
    exact eq_invalidCast_of_extract hpresent hrefused

/-- Seven is read at `i32?` as itself.  It is no `i64`, and `null` is no `i32`.  A negative NaN is
read at `f64` with the bits that it has. -/
theorem extract_inverts_erase_seven :
    (option (scalar .i32)).extract (.scalar ⟨.i32, Num.wrap _ 7⟩) = .ok (some (Num.wrap _ 7)) ∧
      (option (scalar .i32)).erase (some (Num.wrap _ 7)) = .scalar ⟨.i32, Num.wrap _ 7⟩ ∧
      (∃ e, (scalar .i64).extract (.scalar ⟨.i32, Num.wrap _ 7⟩) = .error e ∧
        e = .invalidCast "i32" "i64") ∧
      (scalar .i32).extract .null = .error (.nullNotAllowed "i32") ∧
      ∃ v, (scalar .f64).extract (.scalar ⟨.f64, Binary.ofBits .double 0xfff0000000000001⟩) = .ok v ∧
        ∃ y : Binary .double, (scalar .f64).erase v = .scalar ⟨.f64, y⟩ ∧
          ∀ z : Binary .double, z.toBits = 0xfff0000000000001 ↔ z = y := by
  obtain ⟨herase, -⟩ := extract_inverts_erase (option (scalar .i32))
  obtain ⟨-, -, -, -, hrefused, -⟩ := extract_inverts_erase (scalar .i64)
  obtain ⟨-, -, -, hnull, -⟩ := extract_inverts_erase (scalar .i32)
  obtain ⟨-, hbits, -⟩ := extract_inverts_erase (scalar .f64)
  have hread : (option (scalar .i32)).extract (.scalar ⟨.i32, Num.wrap _ 7⟩) =
      .ok (some (Num.wrap _ 7)) := rfl
  have hother : (scalar .i64).extract (.scalar ⟨.i32, Num.wrap _ 7⟩) =
      .error (.invalidCast "i32" "i64") := rfl
  have hsame : (scalar .f64).extract (.scalar ⟨.f64, Binary.ofBits .double 0xfff0000000000001⟩) =
      .ok (Binary.ofBits .double 0xfff0000000000001) := rfl
  exact ⟨hread, herase _ _ hread, ⟨_, hother, hrefused _ _ (by simp) hother⟩,
    (hnull _).2 ⟨rfl, rfl⟩, _, hsame, hbits _ _ (by decide) _ hsame⟩

/-- An absence inside an optional comes back as the absence of the optional. -/
example : (option (option (scalar .i32))).extract
    ((option (option (scalar .i32))).erase (some none)) = .ok none := rfl

end HostType
end Recast
