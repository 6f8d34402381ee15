import Recast.Proofs.Conversion.Existence
import Recast.Proofs.Registry.Hierarchy

/-!
# Duality — the conversion back

The rules for conversions are tried in an order, and several of them look at one end of the pair
only.  Still the built-in ones treat both directions alike: `Category.back` gives the category of
the way back from that of the way there.

* `Registry.Reachable.builtinCategory?_swap`: the rules of the swapped pair, for types without
  wrappers.  Upcasts are tried before downcasts, so that this rests on the order of the types;
* `Registry.Reachable.category_swap`: hence the category of the swapped pair, for any types;
* `Registry.category_dual`: category by category, and which pairs convert.
-/

namespace Recast
namespace Category

/-- The category between two numeric kinds. -/
def numeric (source target : Kind) : Category :=
  if source.widensTo target then .widening source target else .narrowing source target

/-- The category of the way back to a type without its wrapper, if no registration is needed. -/
def back (home : TypeHash) : Category → Category
  | .widening source target => numeric target source
  | .narrowing source target => numeric target source
  | .enumToNumeric enum underlying target => .numericToEnum target enum underlying
  | .numericToEnum source enum underlying => .enumToNumeric enum underlying source
  | .upcast _ => .downcast home
  | .downcast _ => .upcast home
  | c => c

variable {c : Category} {x y : Kind} {home : TypeHash}

theorem numeric_eq (x y : Kind) : numeric x y = .widening x y ∨ numeric x y = .narrowing x y := by
  unfold numeric
  split
  · exact Or.inl rfl
  · exact Or.inr rfl

theorem back_numeric (home : TypeHash) (x y : Kind) : (numeric x y).back home = numeric y x := by
  rcases numeric_eq x y with h | h <;> rw [h] <;> rfl

/-- What is numeric one way is numeric the other way, between the same kinds. -/
theorem back_of_numeric (h : c = .widening x y ∨ c = .narrowing x y) :
    c.back home = .widening y x ∨ c.back home = .narrowing y x := by
  rcases h with rfl | rfl
  · exact numeric_eq y x
  · exact numeric_eq y x

theorem isBuiltin_back (home : TypeHash) (c : Category) : (c.back home).isBuiltin = c.isBuiltin := by
  cases c with
  | widening x y => rcases numeric_eq y x with h | h <;> simp only [back, h, isBuiltin]
  | narrowing x y => rcases numeric_eq y x with h | h <;> simp only [back, h, isBuiltin]
  | _ => rfl

end Category

namespace Registry

variable {r : Registry} {a b : TypeHash}

/-! ## The rules of the swapped pair -/

theorem numericCategory?_swap (r : Registry) (a b : TypeHash) :
    r.numericCategory? b a = (r.numericCategory? a b).map (Category.back a) := by
  unfold numericCategory?
  cases ha : r.traits a with
  | primitive x =>
      cases hb : r.traits b with
      | primitive y =>
          simp only [Bool.and_comm (Kind.isNumeric y)]
          split
          · exact congrArg some (Category.back_numeric a x y).symm
          · rfl
      | enum underlying => cases hx : x.isNumeric <;> simp [Category.back]
      | _ => rfl
  | enum underlying =>
      cases hb : r.traits b with
      | primitive y => cases hy : y.isNumeric <;> simp [Category.back]
      | _ => rfl
  | _ => cases hb : r.traits b <;> rfl

theorem Reachable.not_isStrictSubtype_swap (hr : Reachable r) (h : r.isStrictSubtype a b = true) :
    r.isStrictSubtype b a = false := by
  have horder := isStrictOrder_isStrictSubtype hr
  rw [← Bool.not_eq_true]
  intro hback
  exact horder.irrefl a (horder.trans a b a h hback)

/-- Only one of two types can be a strict subtype of the other, so that it makes no difference that
upcasts are tried first. -/
theorem Reachable.referenceCategory?_swap (hr : Reachable r) (a b : TypeHash) :
    r.referenceCategory? b a = (r.referenceCategory? a b).map (Category.back a) := by
  unfold referenceCategory?
  cases hup : r.isStrictSubtype a b with
  | true =>
      rw [hr.not_isStrictSubtype_swap hup]
      rfl
  | false => cases r.isStrictSubtype b a <;> rfl

theorem Reachable.builtinCategory?_swap (hr : Reachable r) (a b : TypeHash) :
    r.builtinCategory? b a = (r.builtinCategory? a b).map (Category.back a) := by
  unfold builtinCategory?
  by_cases hsame : a = b
  · rw [if_pos hsame, if_pos hsame.symm]
    rfl
  · rw [if_neg hsame, if_neg (Ne.symm hsame), numericCategory?_swap, hr.referenceCategory?_swap]
    cases r.numericCategory? a b <;> rfl

/-! ## The category of the swapped pair -/

theorem Reachable.category_swap (hr : Reachable r) (h : (r.category a b).isBuiltin = true) :
    r.category b a = (r.category a b).back (r.strip a) := by
  rcases Option.isSome_iff_exists.1 (isBuiltin_category_iff.1 h) with ⟨found, hfound⟩
  rw [category_eq r b, category_eq r a, hr.builtinCategory?_swap, hfound]
  rfl

/-- A built-in category is that of a pair exactly if it is what lies between its way back, which is
the category of the swapped pair, and the way back from there. -/
theorem Reachable.category_eq_iff_swap (hr : Reachable r) {c : Category} (hc : c.isBuiltin = true) :
    r.category a b = c ↔
      c = (c.back (r.strip a)).back (r.strip b) ∧ r.category b a = c.back (r.strip a) := by
  have hback : (c.back (r.strip a)).isBuiltin = true := (Category.isBuiltin_back _ c).trans hc
  constructor
  · rintro rfl
    have hthere := hr.category_swap hc
    have hagain := hr.category_swap (a := b) (b := a) (hthere ▸ hback)
    rw [hthere] at hagain
    exact ⟨hagain, hthere⟩
  · rintro ⟨hsame, hthere⟩
    rw [hr.category_swap (a := b) (b := a) (hthere ▸ hback), hthere]
    exact hsame.symm

theorem Reachable.enumToNumeric_iff_swap (hr : Reachable r) {enum : TypeHash}
    {underlying kind : Kind} :
    r.category a b = .enumToNumeric enum underlying kind ↔
      r.category b a = .numericToEnum kind enum underlying := by
  rw [hr.category_eq_iff_swap rfl]
  exact and_iff_right rfl

theorem Reachable.numeric_category_swap (hr : Reachable r) {x y : Kind}
    (h : r.category a b = .widening x y ∨ r.category a b = .narrowing x y) :
    r.category b a = .widening y x ∨ r.category b a = .narrowing y x := by
  have hbuiltin : (r.category a b).isBuiltin = true := by
    rcases h with h | h <;> rw [h] <;> rfl
  rw [hr.category_swap hbuiltin]
  exact Category.back_of_numeric h

/-- Where nothing is registered, the pairs that convert are those of a built-in rule. -/
theorem Reachable.isConvertible_swap (hr : Reachable r) (hnone : ∀ key, r.conversion? key = none)
    (a b : TypeHash) : r.isConvertible a b = r.isConvertible b a := by
  rw [Bool.eq_iff_iff, isConvertible_iff, isConvertible_iff, hr.builtinCategory?_swap (r.strip a),
    Option.isSome_map]
  simp [hnone]

/-- The conversion from one type to another and the conversion back are of dual categories: identity
goes with identity, numeric with numeric between the kinds the other way round, from an enumeration
with to the enumeration, and up with down, each to its own end without its wrapper.  Where no
conversion is registered, a pair converts exactly if the swapped pair does. -/
theorem category_dual (hr : Reachable r) (a b : TypeHash) :
    (r.category a b = .identity ↔ r.category b a = .identity) ∧
      (∀ x y, (r.category a b = .widening x y ∨ r.category a b = .narrowing x y) ↔
        (r.category b a = .widening y x ∨ r.category b a = .narrowing y x)) ∧
      (∀ enum underlying kind, r.category a b = .enumToNumeric enum underlying kind ↔
        r.category b a = .numericToEnum kind enum underlying) ∧
      (∀ t, r.category a b = .upcast t ↔
        t = r.strip b ∧ r.category b a = .downcast (r.strip a)) ∧
      (∀ t, r.category b a = .downcast t ↔
        t = r.strip a ∧ r.category a b = .upcast (r.strip b)) ∧
      ((∀ key, r.conversion? key = none) → r.isConvertible a b = r.isConvertible b a) := by
  refine ⟨?_, ?_, ?_, ?_, ?_, fun hnone => hr.isConvertible_swap hnone a b⟩
  · rw [hr.category_eq_iff_swap rfl]
    exact and_iff_right rfl
  · intro x y
    exact ⟨hr.numeric_category_swap, hr.numeric_category_swap⟩
  · intro enum underlying kind
    exact hr.enumToNumeric_iff_swap
  · intro t
    rw [hr.category_eq_iff_swap rfl]
    simp [Category.back]
  · intro t
    rw [hr.category_eq_iff_swap rfl]
    simp [Category.back]

/-- Up from a class to an interface that it implements through another one, and down again; and from
`u8?` to `i32` and back. -/
theorem category_dual_sketch :
    (Reachable sketch ∧ sketch.category ⟨5⟩ ⟨1⟩ = .upcast ⟨1⟩ ∧
        sketch.category ⟨1⟩ ⟨5⟩ = .downcast ⟨5⟩ ∧
        (∀ key, sketch.conversion? key = none) ∧
        sketch.isConvertible ⟨5⟩ ⟨4⟩ = sketch.isConvertible ⟨4⟩ ⟨5⟩) ∧
      Reachable builtin ∧
      builtin.category Kind.u8.typeHash.nullable Kind.i32.typeHash = .widening .u8 .i32 ∧
      (builtin.category Kind.i32.typeHash Kind.u8.typeHash.nullable = .widening .i32 .u8 ∨
        builtin.category Kind.i32.typeHash Kind.u8.typeHash.nullable = .narrowing .i32 .u8) := by
  refine ⟨⟨reachable_sketch, ?_⟩, reachable_builtin, ?_⟩
  · have hup : sketch.category ⟨5⟩ ⟨1⟩ = .upcast ⟨1⟩ := by decide
    have hnone : ∀ key, sketch.conversion? key = none := fun key => rfl
    have h := category_dual reachable_sketch ⟨5⟩ ⟨1⟩
    have h' := category_dual reachable_sketch ⟨5⟩ ⟨4⟩
    exact ⟨hup, ((h.2.2.2.1 ⟨1⟩).1 hup).2, hnone, h'.2.2.2.2.2 hnone⟩
  · have hwide : builtin.category Kind.u8.typeHash.nullable Kind.i32.typeHash =
        .widening .u8 .i32 := by decide
    have h := category_dual reachable_builtin Kind.u8.typeHash.nullable Kind.i32.typeHash
    exact ⟨hwide, (h.2.1 .u8 .i32).1 (Or.inl hwide)⟩

end Registry
end Recast
