import Recast.Proofs.Context.Memory
import Recast.Proofs.Conversion.Enumerations
import Recast.Proofs.HostType.RoundTrip

/-!
# DeclaredEnums — the host's enumerations and what a registry makes of them

The host knows a value of a declared enumeration as a variant, a registry as an entry of the
declaration, and casts as a scalar of the underlying kind.  These are three views of one list of
variants, in which neither a name nor a value occurs twice.

A registry takes an enumeration for one if it is declared there and its hash is not that of a
primitive (`Registry.Registers`); the hash of a primitive means the primitive, whatever is declared.

* `HostEnum.name?_eq_some_iff`, `HostEnum.value?_eq_some_iff`: the declaration finds a variant where
  the host does;
* `HostEnum.Reflects`: what a cast to a declared enumeration makes of the conversion to its
  underlying kind;
* `Registry.Registers.outcome_reflects`: that every such cast does so;
* `Context.declared_enum_views`: all of it, and casts there and back, whatever a context was asked
  before.
-/

namespace Recast

/-! ## The declaration -/

namespace EnumDecl

variable {e : EnumDecl} {name : String} {value : Int}

theorem value?_eq_some_iff (hdistinct : (e.values.map Enumerator.name).Nodup) :
    e.value? name = some value ↔ ∃ v ∈ e.values, v.name = name ∧ v.value = value := by
  rw [value?, Option.map_eq_some_iff]
  simp only [find?_eq_some_iff_of_nodup hdistinct, and_assoc]

theorem name?_eq_some_iff (hdistinct : (e.values.map Enumerator.value).Nodup) :
    e.name? value = some name ↔ ∃ v ∈ e.values, v.name = name ∧ v.value = value := by
  rw [name?, Option.map_eq_some_iff]
  simp only [find?_eq_some_iff_of_nodup hdistinct, and_assoc, and_comm (a := _ = value)]

end EnumDecl

namespace HostEnum

variable {d : HostEnum} {raw : Num d.repr} {m : d.Member}

/-- The declaration lists the variants, by name and value. -/
theorem exists_mem_values_iff :
    (∃ v ∈ d.declaration.values, v.name = m.val.name ∧ v.value = raw.toInt) ↔
      m.val.value = raw := by
  constructor
  · rintro ⟨v, hmem, hname, hvalue⟩
    obtain ⟨m', hmem', rfl⟩ := List.mem_map.1 hmem
    -- The names are distinct, so that the entry is that of this variant.
    cases List.inj_on_of_nodup_map d.names_nodup hmem' m.property hname
    exact Num.ext hvalue
  · rintro rfl
    exact ⟨_, List.mem_map_of_mem m.property, rfl, rfl⟩

theorem value?_eq_some_iff :
    d.declaration.value? m.val.name = some raw.toInt ↔ d.ofRaw? raw = some m := by
  have hnames : d.declaration.values.map Enumerator.name = d.variants.map Variant.name :=
    List.map_map
  have hdistinct : (d.declaration.values.map Enumerator.name).Nodup := by
    rw [hnames]
    exact d.names_nodup
  rw [EnumDecl.value?_eq_some_iff hdistinct, exists_mem_values_iff, ofRaw?_eq_some_iff]

theorem name?_eq_some_iff :
    d.declaration.name? raw.toInt = some m.val.name ↔ d.ofRaw? raw = some m := by
  have hvalues : d.declaration.values.map Enumerator.value =
      (d.variants.map Variant.value).map Num.toInt := by
    rw [declaration, List.map_map, List.map_map]
    rfl
  have hdistinct : (d.declaration.values.map Enumerator.value).Nodup := by
    rw [hvalues]
    exact d.values_nodup.map fun _ _ => Num.ext
  rw [EnumDecl.name?_eq_some_iff hdistinct, exists_mem_values_iff, ofRaw?_eq_some_iff]

end HostEnum

/-! ## Registered enumerations -/

namespace Registry

variable {r : Registry} {d : HostEnum} {k : Kind}

/-- A registry has the declaration of an enumeration, and no primitive has its hash. -/
structure Registers (r : Registry) (d : HostEnum) : Prop where
  get?_eq : r.get? d.typeHash = some (.enumType d.declaration)
  ofHash?_eq_none : Kind.ofHash? d.typeHash = none

/-- Where the primitives were declared first, no enumeration has the hash of one. -/
theorem registers_of_leads (hleads : builtin.Leads r)
    (hget : r.get? d.typeHash = some (.enumType d.declaration)) : r.Registers d := by
  refine ⟨hget, ?_⟩
  cases hkind : Kind.ofHash? d.typeHash with
  | none => rfl
  | some k =>
      -- The primitive was there first, and what is declared stays.
      have hown := hleads.get?_of_eq_some (get?_builtin_typeHash k)
      rw [← Kind.ofHash?_eq_some_iff.1 hkind, hget] at hown
      cases hown

namespace Registers

theorem traits_eq (h : r.Registers d) : r.traits d.typeHash = .enum (.int d.repr) :=
  traits_of_get?_eq_some h.ofHash?_eq_none h.get?_eq

theorem nameOf_eq (h : r.Registers d) : r.nameOf d.typeHash = d.name := by
  rw [nameOf, h.get?_eq]
  rfl

theorem strip_eq (h : r.Registers d) : r.strip d.typeHash = d.typeHash := by
  refine strip_of_nullableInner?_eq_none ?_
  rw [h.traits_eq]
  rfl

theorem typeHash_ne (h : r.Registers d) (k : Kind) : k.typeHash ≠ d.typeHash := by
  intro hsame
  have hkind := h.ofHash?_eq_none
  rw [← hsame, Kind.ofHash?_typeHash] at hkind
  cases hkind

theorem category_toEnum (h : r.Registers d) (hk : k.isNumeric = true) :
    r.category k.typeHash d.typeHash = .numericToEnum k d.typeHash (.int d.repr) := by
  refine category_of_builtinCategory? ?_
  rw [strip_typeHash, h.strip_eq, builtinCategory?, if_neg (h.typeHash_ne k), numericCategory?,
    traits_typeHash, h.traits_eq]
  simp [hk]

theorem category_fromEnum (h : r.Registers d) (hk : k.isNumeric = true) :
    r.category d.typeHash k.typeHash = .enumToNumeric d.typeHash (.int d.repr) k := by
  refine category_of_builtinCategory? ?_
  rw [strip_typeHash, h.strip_eq, builtinCategory?, if_neg (h.typeHash_ne k).symm,
    numericCategory?, traits_typeHash, h.traits_eq]
  simp [hk]

end Registers
end Registry

/-! ## Answers -/

namespace HostEnum

variable {d : HostEnum}

/-- The answer of a cast of a scalar to a declared enumeration reflects the conversion of the scalar
to the underlying kind. -/
structure Reflects (d : HostEnum) (x : Scalar) (converted : Except CastError Scalar)
    (answer : Except CastError d.Member) : Prop where
  ok_iff : ∀ m : d.Member, answer = .ok m ↔ converted = .ok ⟨.int d.repr, m.val.value⟩
  overflow_iff : (∃ value target, answer = .error (.overflow value target)) ↔
    ∃ value target, converted = .error (.overflow value target)
  /-- A refusal names the enumeration, not its underlying kind. -/
  of_error : ∀ e, converted = .error e → answer = .error (.overflow x.text d.name)
  /-- A scalar that stands for no variant is shown as it is after the conversion. -/
  of_undeclared : ∀ n : Num d.repr, converted = .ok ⟨.int d.repr, n⟩ → d.ofRaw? n = none →
    answer = .error (.invalidCast (Scalar.text ⟨.int d.repr, n⟩) d.name)

theorem reflects_member (x : Scalar) (m : d.Member) :
    d.Reflects x (.ok ⟨.int d.repr, m.val.value⟩) (.ok m) := by
  refine ⟨?_, by simp, ?_, ?_⟩
  · intro m'
    constructor
    · rintro ⟨⟩
      rfl
    · intro heq
      have hvalue : m.val.value = m'.val.value :=
        eq_of_heq (Scalar.mk.inj (Except.ok.inj heq)).2
      have hsame : some m = some m' :=
        (ofRaw?_eq_some_iff.2 hvalue).symm.trans (ofRaw?_eq_some_iff.2 rfl)
      exact congrArg Except.ok (Option.some.inj hsame)
  · rintro e ⟨⟩
  · rintro n ⟨⟩ hnone
    cases hnone.symm.trans (ofRaw?_eq_some_iff.2 rfl)

theorem reflects_undeclared (x : Scalar) {n : Num d.repr} (hnone : d.ofRaw? n = none) :
    d.Reflects x (.ok ⟨.int d.repr, n⟩)
      (.error (.invalidCast (Scalar.text ⟨.int d.repr, n⟩) d.name)) := by
  refine ⟨?_, by simp, ?_, ?_⟩
  · intro m
    refine iff_of_false (by simp) ?_
    rintro ⟨⟩
    cases hnone.symm.trans (ofRaw?_eq_some_iff.2 rfl)
  · rintro e ⟨⟩
  · rintro n' ⟨⟩ -
    rfl

theorem reflects_outOfRange (d : HostEnum) (x : Scalar) :
    d.Reflects x (.error (Scalar.outOfRange x (.int d.repr))) (.error (.overflow x.text d.name)) := by
  refine ⟨by simp, by simp [Scalar.outOfRange], ?_, ?_⟩
  · intro e _
    rfl
  · rintro n ⟨⟩

end HostEnum

theorem HostType.extract_of_undeclared {d : HostEnum} {n : Num d.repr} (hnone : d.ofRaw? n = none) :
    (HostType.enum d).extract (.enum { type := d.typeHash, raw := ⟨.int d.repr, n⟩ }) =
      .error (.invalidCast (Scalar.text ⟨.int d.repr, n⟩) d.name) := by
  have hraw : Scalar.as? (.int d.repr) ⟨.int d.repr, n⟩ = some n := Scalar.as?_mk (.int d.repr) n
  have hread : (Scalar.as? (.int d.repr) ⟨.int d.repr, n⟩).bind d.ofRaw? = none := by
    rw [hraw]
    exact hnone
  simp only [HostType.extract, if_true, hread]

/-! ## Casts -/

namespace Registry

variable {r : Registry} {d : HostEnum} {k : Kind}

namespace Registers

theorem outcome_toEnum (h : r.Registers d) (hk : k.isNumeric = true) (x : k.Carrier)
    (mode : Mode) :
    r.outcome (.cast (.scalar k) (.enum d) x mode) =
      (Converter.numericToEnum mode k d.typeHash (.int d.repr) d.name
        (.scalar ⟨k, x⟩)).bind (HostType.enum d).extract := by
  have hcast := castBetween_of_numericToEnum (h.category_toEnum hk) mode ⟨k, x⟩
  rw [h.nameOf_eq] at hcast
  rw [← hcast]
  exact outcome_cast_eq r (.scalar k) (.enum d) x mode

theorem outcome_fromEnum (h : r.Registers d) (hk : k.isNumeric = true) (m : d.Member)
    (mode : Mode) :
    r.outcome (.cast (.enum d) (.scalar k) m mode) =
      (Converter.enumToNumeric mode d.typeHash (.int d.repr) k
        (.enum { type := d.typeHash, raw := ⟨.int d.repr, m.val.value⟩ })).bind
          (HostType.scalar k).extract := by
  have hcast := castBetween_of_enumToNumeric (h.category_fromEnum hk) mode
    { type := d.typeHash, raw := ⟨.int d.repr, m.val.value⟩ }
  rw [← hcast]
  exact outcome_cast_eq r (.enum d) (.scalar k) m mode

/-- Three things can happen to a scalar: it is out of range for the underlying kind, or what it is
converted to names a variant, or it names none. -/
theorem outcome_reflects (h : r.Registers d) (hk : k.isNumeric = true) (x : k.Carrier)
    (mode : Mode) :
    d.Reflects ⟨k, x⟩ (Scalar.convert mode ⟨k, x⟩ (.int d.repr))
      (r.outcome (.cast (.scalar k) (.enum d) x mode)) := by
  rw [h.outcome_toEnum hk]
  rcases Scalar.convert_cases (x := ⟨k, x⟩) hk (c := .int d.repr) rfl mode with ⟨y, hy⟩ | ⟨-, hrange⟩
  · rw [Converter.numericToEnum_of_ok rfl hy, hy]
    obtain ⟨_, n⟩ := y
    cases Scalar.kind_of_convert hy
    have hanswer : ∀ v, (Except.ok v : Except CastError Value).bind (HostType.enum d).extract =
        (HostType.enum d).extract v := fun _ => rfl
    rw [hanswer]
    -- The type and the kind are right, so that only the value is looked up.
    cases hfound : d.ofRaw? n with
    | none =>
        rw [HostType.extract_of_undeclared hfound]
        exact HostEnum.reflects_undeclared _ hfound
    | some m =>
        cases HostEnum.ofRaw?_eq_some_iff.1 hfound
        have hread := HostType.extract_erase_of_not_isOptional (t := .enum d) rfl m
        exact hread ▸ HostEnum.reflects_member _ m
  · rw [Converter.numericToEnum_of_outOfRange rfl hrange, hrange]
    exact HostEnum.reflects_outOfRange d _

/-- A kind to which the underlying kind widens holds every variant, and gives it back. -/
theorem exists_outcome_fromEnum_toEnum (h : r.Registers d) (hk : k.isNumeric = true)
    (hwide : (Kind.int d.repr).widensTo k = true) (m : d.Member) (mode mode' : Mode) :
    ∃ x : k.Carrier, r.outcome (.cast (.enum d) (.scalar k) m mode) = .ok x ∧
      r.outcome (.cast (.scalar k) (.enum d) x mode') = .ok m := by
  let raw : Scalar := ⟨.int d.repr, m.val.value⟩
  have hnumber : raw.number? = some (.rational m.val.value.toInt) := rfl
  -- The wider kind has a scalar that is the same number, and either mode converts between the two.
  obtain ⟨⟨kind, x⟩, rfl, hx⟩ := Kind.holds_of_widensTo hwide ⟨raw, rfl, hnumber⟩
  have hforth : raw.convert mode kind = .ok ⟨kind, x⟩ :=
    Scalar.convert_eq_of_number? hnumber hx mode
  have hagain : Scalar.convert mode' ⟨kind, x⟩ (.int d.repr) = .ok raw :=
    Scalar.convert_eq_of_number? hx hnumber mode'
  have hcast : Converter.enumToNumeric mode d.typeHash (.int d.repr) kind
      (.enum { type := d.typeHash, raw := raw }) = .ok (.scalar ⟨kind, x⟩) :=
    Converter.enumToNumeric_of_ok rfl rfl hforth
  refine ⟨x, ?_, ((h.outcome_reflects hk x mode').ok_iff m).2 hagain⟩
  rw [h.outcome_fromEnum hk, hcast]
  exact HostType.extract_erase_of_not_isOptional (t := .scalar kind) rfl x

end Registers
end Registry

/-! ## Every context -/

namespace Context

/-- The views of a declared enumeration agree.  For every scalar of the underlying kind and every
variant, the host finds the variant by the scalar exactly if the declaration names it so, and exactly
if the declaration has this value under its name.  Where the enumeration is registered under a hash
of its own, as it always is after the primitives, a cast of a scalar of a numeric kind reflects the
conversion to the underlying kind, whatever a context was asked before; and a variant that is cast to
a kind to which the underlying kind widens comes back from there, in any modes. -/
theorem declared_enum_views (d : HostEnum) :
    (∀ (raw : Num d.repr) (m : d.Member),
        (d.ofRaw? raw = some m ↔ d.declaration.name? raw.toInt = some m.val.name) ∧
          (d.ofRaw? raw = some m ↔ d.declaration.value? m.val.name = some raw.toInt)) ∧
      ∀ r : Registry, r.get? d.typeHash = some (.enumType d.declaration) →
        Kind.ofHash? d.typeHash = none ∨ Registry.builtin.Leads r →
        ∀ (os os' : List Operation) (k : Kind), k.isNumeric = true →
          (∀ (x : k.Carrier) (mode : Mode),
            d.Reflects ⟨k, x⟩ (Scalar.convert mode ⟨k, x⟩ (.int d.repr))
              (((ofRegistry r).after os).cast (.scalar k) (.enum d) x mode).1) ∧
            ((Kind.int d.repr).widensTo k = true → ∀ (m : d.Member) (mode mode' : Mode),
              ∃ x : k.Carrier,
                (((ofRegistry r).after os).cast (.enum d) (.scalar k) m mode).1 = .ok x ∧
                  (((ofRegistry r).after os').cast (.scalar k) (.enum d) x mode').1 = .ok m) := by
  refine ⟨?_, ?_⟩
  · intro raw m
    exact ⟨HostEnum.name?_eq_some_iff.symm, HostEnum.value?_eq_some_iff.symm⟩
  · intro r hget hown os os' k hk
    have hr : r.Registers d := by
      rcases hown with hfree | hleads
      · exact ⟨hget, hfree⟩
      · exact Registry.registers_of_leads hleads hget
    refine ⟨?_, ?_⟩
    · intro x mode
      exact cast_after_eq r os (.scalar k) (.enum d) x mode ▸ hr.outcome_reflects hk x mode
    · intro hwide m mode mode'
      obtain ⟨x, hforth, hback⟩ := hr.exists_outcome_fromEnum_toEnum hk hwide m mode mode'
      refine ⟨x, ?_, ?_⟩
      · exact (cast_after_eq r os (.enum d) (.scalar k) m mode).trans hforth
      · exact (cast_after_eq r os' (.scalar k) (.enum d) x mode').trans hback

/-- An enumeration over `i8` with two values, one of them negative. -/
def temperature : HostEnum :=
  { name := "Temperature"
    repr := ⟨true, .w8⟩
    variants :=
      [{ name := "Freezing", value := Num.wrap _ (-10) }, { name := "Warm", value := Num.wrap _ 20 }]
    names_nodup := by decide
    values_nodup := by decide }

/-- The primitives and that enumeration. -/
def thermometer : Registry :=
  (Registry.builtin.register (.declare (.enumType temperature.declaration))).2

/-- Freezing is cast from -10, 300 is out of range and 5 is no value.  By way of `f32` it comes
back. -/
theorem declared_enum_views_temperature :
    ∃ freezing : temperature.Member,
      temperature.ofRaw? (Num.wrap _ (-10)) = some freezing ∧
        temperature.declaration.name? (-10) = some "Freezing" ∧
        temperature.declaration.value? "Freezing" = some (-10) ∧
        thermometer.get? temperature.typeHash = some (.enumType temperature.declaration) ∧
        Registry.builtin.Leads thermometer ∧
        ((ofRegistry thermometer).cast (.scalar .i64) (.enum temperature) (Num.wrap _ (-10))
          .checked).1 = .ok freezing ∧
        ((ofRegistry thermometer).cast (.scalar .i64) (.enum temperature) (Num.wrap _ 300)
          .checked).1 = .error (.overflow "300" "Temperature") ∧
        ((ofRegistry thermometer).cast (.scalar .i64) (.enum temperature) (Num.wrap _ 5)
          .checked).1 = .error (.invalidCast "5" "Temperature") ∧
        (Kind.int temperature.repr).widensTo .f32 = true ∧
        ∃ x : Kind.f32.Carrier,
          ((ofRegistry thermometer).cast (.enum temperature) (.scalar .f32) freezing
              .unchecked).1 = .ok x ∧
            ((ofRegistry thermometer).cast (.scalar .f32) (.enum temperature) x
              .checked).1 = .ok freezing := by
  have hget : thermometer.get? temperature.typeHash =
      some (.enumType temperature.declaration) := by decide +kernel
  have hleads : Registry.builtin.Leads thermometer := Registry.Leads.refl.register _
  obtain ⟨hviews, hcasts⟩ := declared_enum_views temperature
  have hi64 := (hcasts thermometer hget (Or.inr hleads) [] [] .i64 rfl).1
  let freezing : temperature.Member :=
    ⟨{ name := "Freezing", value := Num.wrap _ (-10) }, by decide⟩
  have hfound : temperature.ofRaw? (Num.wrap _ (-10)) = some freezing := by decide
  refine ⟨freezing, hfound, (hviews _ freezing).1.1 hfound, (hviews _ freezing).2.1 hfound, hget,
    hleads, ?_, ?_, ?_, by decide, ?_⟩
  · exact ((hi64 (Num.wrap _ (-10)) .checked).ok_iff freezing).2 rfl
  · exact (hi64 (Num.wrap _ 300) .checked).of_error _ rfl
  · exact (hi64 (Num.wrap _ 5) .checked).of_undeclared (Num.wrap _ 5) rfl (by decide)
  · exact (hcasts thermometer hget (Or.inr hleads) [] [] .f32 rfl).2 (by decide) freezing _ _

/-- An enumeration over `u8` with the name of a primitive. -/
def misnamed : HostEnum :=
  { name := "i32"
    repr := ⟨false, .w8⟩
    variants := [{ name := "A", value := Num.wrap _ 1 }]
    names_nodup := by decide
    values_nodup := by decide }

/-- That enumeration and nothing else. -/
def misnaming : Registry :=
  (Registry.empty.register (.declare (.enumType misnamed.declaration))).2

/-- Where the primitives are not declared, an enumeration can be declared under the hash of one.  A
cast to it is a cast to the primitive, and what that answers is no value of the enumeration. -/
theorem misnamed_enum_not_cast :
    Registry.Reachable misnaming ∧
      misnaming.get? misnamed.typeHash = some (.enumType misnamed.declaration) ∧
      (∃ m : misnamed.Member, Scalar.convert .unchecked ⟨.i64, Num.wrap _ 1⟩ (.int misnamed.repr) =
        .ok ⟨.int misnamed.repr, m.val.value⟩) ∧
      ((ofRegistry misnaming).cast (.scalar .i64) (.enum misnamed) (Num.wrap _ 1) .unchecked).1 =
        .error (.invalidCast "i32" "i32") := by
  -- The hash means `i32`, so that the cast narrows to `i32` and never sees the enumeration.
  have hhash : misnamed.typeHash = Kind.i32.typeHash := (Kind.typeHash_eq_ofName .i32).symm
  have hcast : misnaming.castBetween Kind.i64.typeHash Kind.i32.typeHash .unchecked
      (.scalar ⟨.i64, Num.wrap _ 1⟩) = .ok (.scalar ⟨.i32, Num.wrap _ 1⟩) := rfl
  have hanswer := cast_after_eq misnaming [] (.scalar .i64) (.enum misnamed) (Num.wrap _ 1)
    .unchecked
  refine ⟨.step _ .start, by decide +kernel, ⟨⟨_, List.mem_singleton_self _⟩, rfl⟩, ?_⟩
  refine hanswer.trans ((Registry.outcome_cast_eq _ _ _ _ _).trans ?_)
  show (misnaming.castBetween Kind.i64.typeHash misnamed.typeHash .unchecked
    (.scalar ⟨.i64, Num.wrap _ 1⟩)).bind (HostType.enum misnamed).extract = _
  rw [hhash, hcast]
  rfl

end Context
end Recast
