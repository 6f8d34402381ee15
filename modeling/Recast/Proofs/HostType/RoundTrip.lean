import Mathlib.Data.List.Nodup
import Recast.HostType

/-!
# RoundTrip — erasing a type and reading it back

Optionals lose their depth when their type is erased: whatever is absent at some level becomes
`null`, and `null` is read back as the outermost absence.  `HostType.isAbsent` says what becomes
`null`, and `HostType.isNestedNone` what is read back as something else.

* `HostType.typeHash?_erase`: the run-time type of what is erased, which is that of the type without
  its optionals (`HostType.core`);
* `HostType.extract_erase`: everything else is read back as it was.
-/

namespace Recast

/-- Where no two elements of a list have the same key, an element is found by its key. -/
theorem find?_eq_some_iff_of_nodup {α β : Type} [DecidableEq β] {l : List α} {key : α → β}
    (hdistinct : (l.map key).Nodup) {a : α} {b : β} :
    l.find? (fun x => key x = b) = some a ↔ a ∈ l ∧ key a = b := by
  constructor
  · intro hfound
    exact ⟨List.mem_of_find?_eq_some hfound, by simpa using List.find?_some hfound⟩
  · rintro ⟨hmem, rfl⟩
    cases hfound : l.find? fun x => key x = key a with
    | none =>
        have habsent := List.find?_eq_none.1 hfound a hmem
        simp at habsent
    | some a' =>
        have hkey : key a' = key a := by simpa using List.find?_some hfound
        have hmem' := List.mem_of_find?_eq_some hfound
        exact congrArg some (List.inj_on_of_nodup_map hdistinct hmem' hmem hkey)

theorem HostEnum.ofRaw?_eq_some_iff {d : HostEnum} {raw : Num d.repr} {m : d.Member} :
    d.ofRaw? raw = some m ↔ m.val.value = raw := by
  have hdistinct : (d.variants.attach.map fun v => v.val.value).Nodup := by
    have hkeys : d.variants.attach.map (fun v => v.val.value) = d.variants.map Variant.value :=
      List.attach_map_val
    rw [hkeys]
    exact d.values_nodup
  exact (find?_eq_some_iff_of_nodup hdistinct).trans (and_iff_right (List.mem_attach _ _))

namespace HostType

/-! ## Absence -/

/-- The type without its optionals. -/
def core : HostType → HostType
  | .option t => t.core
  | t => t

def isOptional : HostType → Bool
  | .option _ => true
  | _ => false

/-- Whether a value of an optional is absent, at whatever level. -/
def isAbsent : (t : HostType) → t.Carrier → Bool
  | .option _, none => true
  | .option t, some v => t.isAbsent v
  | _, _ => false

/-- Whether a value is present and holds an absence. -/
def isNestedNone : (t : HostType) → t.Carrier → Bool
  | .option t, some v => t.isAbsent v
  | _, _ => false

variable {t : HostType} {v : t.Carrier}

theorem core_of_not_isOptional (h : t.isOptional = false) : t.core = t := by
  cases t with
  | option t => cases h
  | _ => rfl

theorem isOptional_of_isAbsent (h : t.isAbsent v = true) : t.isOptional = true := by
  cases t with
  | option t => rfl
  | _ => cases h

theorem isAbsent_of_not_isOptional (h : t.isOptional = false) : t.isAbsent v = false := by
  cases habsent : t.isAbsent v with
  | false => rfl
  | true => exact (isOptional_of_isAbsent habsent).symm.trans h

theorem isAbsent_of_isNestedNone (h : t.isNestedNone v = true) : t.isAbsent v = true := by
  cases t with
  | option t =>
      cases v with
      | none => rfl
      | some v => exact h
  | _ => cases h

/-! ## Run-time types -/

/-- An identified type erases to `null` where it is absent, and else to a value of its core. -/
theorem typeHash?_erase (hident : t.isIdentified = true) (v : t.Carrier) :
    (t.erase v).typeHash? = if t.isAbsent v = true then none else some t.core.typeHash := by
  induction t with
  | scalar k => rfl
  | enum d => rfl
  | object => cases hident
  | dynamic => cases hident
  | option t ih =>
      cases v with
      | none => rfl
      | some w => exact ih hident w

theorem typeHash?_erase_of_not_isOptional (hident : t.isIdentified = true)
    (hsingle : t.isOptional = false) (v : t.Carrier) :
    (t.erase v).typeHash? = some t.typeHash := by
  rw [typeHash?_erase hident, isAbsent_of_not_isOptional hsingle, core_of_not_isOptional hsingle]
  rfl

theorem erase_eq_null_iff (hident : t.isIdentified = true) :
    t.erase v = .null ↔ t.isAbsent v = true := by
  rw [← Value.typeHash?_eq_none_iff, typeHash?_erase hident]
  cases t.isAbsent v <;> simp

/-! ## Reading back -/

theorem extract_option {s : HostType} {x : Value} (hx : x ≠ .null) :
    (option s).extract x = (s.extract x).map some := by
  cases x with
  | null => exact absurd rfl hx
  | _ => rfl

theorem extract_erase_of_not_isOptional (hsingle : t.isOptional = false) (v : t.Carrier) :
    t.extract (t.erase v) = .ok v := by
  cases t with
  | scalar k =>
      have hread : Scalar.as? k ⟨k, v⟩ = some v := Scalar.as?_mk k v
      simp only [erase, extract, hread]
  | enum d =>
      have hraw : Scalar.as? (.int d.repr) ⟨.int d.repr, v.val.value⟩ = some v.val.value :=
        Scalar.as?_mk (.int d.repr) v.val.value
      have hread : (Scalar.as? (.int d.repr) ⟨.int d.repr, v.val.value⟩).bind d.ofRaw? = some v := by
        rw [hraw]
        exact HostEnum.ofRaw?_eq_some_iff.2 rfl
      simp only [erase, extract, if_pos, hread]
  | object => rfl
  | dynamic => rfl
  | option s => cases hsingle

/-- An identified type reads back what it erased, unless that was a nested absence. -/
theorem extract_erase (hident : t.isIdentified = true) (hnested : t.isNestedNone v = false) :
    t.extract (t.erase v) = .ok v := by
  induction t with
  | option s ih =>
      cases v with
      | none => rfl
      | some w =>
          have hpresent : s.isAbsent w = false := hnested
          have hinner : s.isNestedNone w = false := by
            cases hcase : s.isNestedNone w with
            | false => rfl
            | true => exact (isAbsent_of_isNestedNone hcase).symm.trans hpresent
          have hnull : s.erase w ≠ .null := by
            intro hnull
            have hident' : s.isIdentified = true := hident
            cases ((erase_eq_null_iff hident').1 hnull).symm.trans hpresent
          have hread : (s.extract (s.erase w)).map some = .ok (some w) := by
            rw [ih hident hinner]
            rfl
          exact (extract_option hnull).trans hread
  | _ => exact extract_erase_of_not_isOptional rfl v

end HostType
end Recast
