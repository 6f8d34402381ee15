import Recast.TypeHash

/-!
# Inheritance — the inheritance graph

A directed graph without cycles: an edge leads from a class or interface to one of its direct
supertypes.  An edge that would close a cycle is refused.

* `Inheritance.Reaches`: from a type, upward along edges.
* `Inheritance.upward`: the types that a type reaches, by saturation; `Inheritance.mem_upward_iff`
  says that it finds exactly these.
* `Inheritance.isStrictSupertype`: whether a type is a strict supertype of another.
-/

namespace Recast

/-- An edge from a type to a direct supertype. -/
structure Edge where
  derived : TypeHash
  supertype : TypeHash
  deriving DecidableEq

/-- The inheritance graph. -/
structure Inheritance where
  /-- The types, in the order in which they first appeared. -/
  nodes : List TypeHash
  /-- The edges, the newest first. -/
  edges : List Edge
  deriving DecidableEq

namespace Inheritance

def empty : Inheritance :=
  { nodes := []
    edges := [] }

def size (h : Inheritance) : Nat :=
  h.nodes.length

def isEmpty (h : Inheritance) : Bool :=
  h.nodes.isEmpty

/-! ## Reaching upward -/

/-- `h.Reaches d a`: going from `d` along edges, in any number of steps, leads to `a`. -/
inductive Reaches (h : Inheritance) : TypeHash → TypeHash → Prop where
  | refl (d : TypeHash) : Reaches h d d
  | step {d s a : TypeHash} : Edge.mk d s ∈ h.edges → Reaches h s a → Reaches h d a

theorem Reaches.trans {h : Inheritance} {d m a : TypeHash} (lower : h.Reaches d m)
    (upper : h.Reaches m a) : h.Reaches d a := by
  induction lower with
  | refl _ =>
      exact upper
  | step edge _ ih =>
      exact .step edge (ih upper)

/-- Whether an edge leads out of a list of types. -/
def leaves (seen : List TypeHash) (e : Edge) : Bool :=
  decide (e.derived ∈ seen) && decide (e.supertype ∉ seen)

/-- Add supertypes one at a time, at most so many, until no edge leads out. -/
def saturate (edges : List Edge) : Nat → List TypeHash → List TypeHash
  | 0, seen => seen
  | n + 1, seen =>
      match edges.find? (leaves seen) with
      | none => seen
      | some e => saturate edges n (e.supertype :: seen)

/-- The types that a type reaches, itself among them. -/
def upward (h : Inheritance) (d : TypeHash) : List TypeHash :=
  saturate h.edges h.edges.length [d]

theorem subset_saturate {edges : List Edge} {n : Nat} {seen : List TypeHash} {x : TypeHash}
    (hx : x ∈ seen) : x ∈ saturate edges n seen := by
  induction n generalizing seen with
  | zero =>
      exact hx
  | succ n ih =>
      rw [saturate]
      split
      · exact hx
      · exact ih (List.mem_cons_of_mem _ hx)

theorem reaches_of_mem_saturate {h : Inheritance} {d x : TypeHash} {n : Nat} {seen : List TypeHash}
    (hseen : ∀ y ∈ seen, h.Reaches d y) (hx : x ∈ saturate h.edges n seen) : h.Reaches d x := by
  induction n generalizing seen with
  | zero =>
      exact hseen x hx
  | succ n ih =>
      rw [saturate] at hx
      split at hx
      · exact hseen x hx
      · rename_i e found
        have hmem := List.mem_of_find?_eq_some found
        have hleaves : e.derived ∈ seen ∧ e.supertype ∉ seen := by
          simpa [leaves] using List.find?_some found
        refine ih ?_ hx
        intro y hy
        rcases List.mem_cons.1 hy with rfl | hy
        · exact (hseen _ hleaves.1).trans (.step hmem (.refl _))
        · exact hseen y hy

/-- Number of edges whose supertype is not among these types. -/
def pending (edges : List Edge) (seen : List TypeHash) : Nat :=
  edges.countP fun e => decide (e.supertype ∉ seen)

theorem pending_cons_le (edges : List Edge) (seen : List TypeHash) (x : TypeHash) :
    pending edges (x :: seen) ≤ pending edges seen := by
  apply List.countP_mono_left
  intro e _ hnot
  simp only [List.mem_cons, not_or, decide_eq_true_eq] at hnot ⊢
  exact hnot.2

theorem pending_cons_lt {edges : List Edge} {seen : List TypeHash} {e : Edge} (hmem : e ∈ edges)
    (hnew : e.supertype ∉ seen) : pending edges (e.supertype :: seen) < pending edges seen := by
  induction edges with
  | nil =>
      exact absurd hmem List.not_mem_nil
  | cons f rest ih =>
      have hle := pending_cons_le rest seen e.supertype
      unfold pending at hle ih ⊢
      rcases List.mem_cons.1 hmem with rfl | hmem
      · rw [List.countP_cons_of_neg (by simp), List.countP_cons_of_pos (by simp [hnew])]
        omega
      · have hlt := ih hmem
        by_cases hf : f.supertype ∈ e.supertype :: seen
        · rw [List.countP_cons_of_neg (by simp only [hf]; simp)]
          exact Nat.lt_of_lt_of_le hlt (List.Sublist.countP_le (List.sublist_cons_self f rest))
        · have hf' : f.supertype ∉ seen := fun hin => hf (List.mem_cons_of_mem _ hin)
          rw [List.countP_cons_of_pos (by simp only [hf]; simp),
            List.countP_cons_of_pos (by simp [hf'])]
          omega

/-- With enough steps, no edge leads out of the saturated list. -/
theorem saturate_closed {edges : List Edge} {n : Nat} {seen : List TypeHash}
    (henough : pending edges seen ≤ n) {e : Edge} (hmem : e ∈ edges)
    (hin : e.derived ∈ saturate edges n seen) : e.supertype ∈ saturate edges n seen := by
  induction n generalizing seen with
  | zero =>
      have hnone : pending edges seen = 0 := Nat.le_zero.1 henough
      have hall := List.countP_eq_zero.1 hnone e hmem
      show e.supertype ∈ seen
      simpa using hall
  | succ n ih =>
      rw [saturate] at hin ⊢
      split
      -- No edge led out before the steps were used up.
      · rename_i hnone
        simp only [hnone] at hin
        have hstay := List.find?_eq_none.1 hnone e hmem
        simpa [leaves, hin] using hstay
      -- One edge was followed, and fewer edges are pending after it.
      · rename_i f found
        simp only [found] at hin
        have hf := List.mem_of_find?_eq_some found
        have hleaves : f.derived ∈ seen ∧ f.supertype ∉ seen := by
          simpa [leaves] using List.find?_some found
        have hlt := pending_cons_lt hf hleaves.2
        exact ih (by omega) hin

/-- Saturation finds exactly the types that a type reaches. -/
theorem mem_upward_iff {h : Inheritance} {d a : TypeHash} : a ∈ h.upward d ↔ h.Reaches d a := by
  constructor
  -- Every type that saturation adds is reached by an edge out of one that was reached before.
  · intro hmem
    refine reaches_of_mem_saturate ?_ hmem
    intro y hy
    rw [List.mem_singleton.1 hy]
    exact .refl d
  -- A path cannot leave a list that no edge leaves.
  · intro hreach
    have hclosed : ∀ {x y : TypeHash}, h.Reaches x y → x ∈ h.upward d → y ∈ h.upward d := by
      intro x y hxy
      induction hxy with
      | refl _ =>
          exact id
      | step edge _ ih =>
          intro hx
          exact ih (saturate_closed List.countP_le_length edge hx)
    exact hclosed hreach (subset_saturate (List.mem_singleton.2 rfl))

/-- Whether the first type is a strict supertype of the second. -/
def isStrictSupertype (h : Inheritance) (ancestor descendant : TypeHash) : Bool :=
  decide (ancestor ≠ descendant) && decide (ancestor ∈ h.upward descendant)

theorem isStrictSupertype_iff {h : Inheritance} {a d : TypeHash} :
    h.isStrictSupertype a d = true ↔ a ≠ d ∧ h.Reaches d a := by
  simp [isStrictSupertype, mem_upward_iff]

/-! ## Growing -/

/-- Add a type, unless it is there. -/
def addNode (h : Inheritance) (t : TypeHash) : Inheritance :=
  if t ∈ h.nodes then h else { h with nodes := h.nodes ++ [t] }

/-- The place of a type in the order of first appearance. -/
def index (h : Inheritance) (t : TypeHash) : Nat :=
  h.nodes.idxOf t

/-- Add an edge and its two types, the derived one first.  An edge that is there keeps its place;
one that would close a cycle is refused. -/
def link? (h : Inheritance) (derived supertype : TypeHash) : Option Inheritance :=
  if derived = supertype ∨ h.isStrictSupertype derived supertype then
    -- The supertype reaches the derived type already, so that this edge would close a cycle.
    none
  else
    let grown := (h.addNode derived).addNode supertype
    let edge : Edge := { derived := derived, supertype := supertype }
    if edge ∈ grown.edges then
      some grown
    else
      some { grown with edges := edge :: grown.edges }

/-- Add an edge, or leave the graph alone where it is refused. -/
def link (h : Inheritance) (derived supertype : TypeHash) : Inheritance :=
  (h.link? derived supertype).getD h

/-- The direct supertypes of a type, the one added last first. -/
def supertypes (h : Inheritance) (t : TypeHash) : List TypeHash :=
  (h.edges.filter fun e => e.derived = t).map Edge.supertype

end Inheritance
end Recast
