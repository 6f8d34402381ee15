import Mathlib.Data.List.Induction
import Mathlib.Logic.Relation
import Recast.Inheritance

/-!
# Linking — how an inheritance graph grows

A link is refused exactly when its supertype reaches the derived type already.  One that is accepted
adds the edge in front of the others, unless the edge is there.

* `Inheritance.link?_eq_none_iff`: which links are refused;
* `Inheritance.Lowest.foldl_link`: a type that nothing derives from can be linked to a list of other
  types, one after the other, and no link is refused.
-/

namespace Recast

/-! ## Lists without repetitions -/

section Repetitions

variable {α : Type} [DecidableEq α]

theorem eraseDups_concat (l : List α) (x : α) :
    (l ++ [x]).eraseDups = if x ∈ l then l.eraseDups else l.eraseDups ++ [x] := by
  rw [List.eraseDups_append]
  by_cases hx : x ∈ l
  · simp [List.removeAll, hx]
  · simp [List.removeAll, hx, List.eraseDups_cons]

/-- Inserting the elements of a list one by one leaves the first occurrence of each, the last one
first. -/
theorem foldl_insert (l : List α) :
    l.foldl (fun kept x => kept.insert x) [] = l.eraseDups.reverse := by
  induction l using List.reverseRecOn with
  | nil =>
      rfl
  | append_singleton l x ih =>
      rw [List.foldl_append, ih, eraseDups_concat]
      by_cases hx : x ∈ l <;> simp [hx]

end Repetitions

namespace Inheritance

variable {h : Inheritance} {d s t : TypeHash}

theorem mem_supertypes_iff : s ∈ h.supertypes d ↔ Edge.mk d s ∈ h.edges := by
  constructor
  · intro hs
    rcases List.mem_map.1 hs with ⟨⟨d', s'⟩, hmem, rfl⟩
    rcases List.mem_filter.1 hmem with ⟨hedge, hd⟩
    have hd' : d' = d := by simpa using hd
    simpa [hd'] using hedge
  · intro hedge
    exact List.mem_map.2 ⟨Edge.mk d s, List.mem_filter.2 ⟨hedge, by simp⟩, rfl⟩

/-! ## Paths -/

/-- A list of edges has one from the first type to the second. -/
def Links (edges : List Edge) (d s : TypeHash) : Prop :=
  Edge.mk d s ∈ edges

theorem reaches_of_transGen (hpath : Relation.TransGen (Links h.edges) d t) : h.Reaches d t := by
  induction hpath with
  | single edge =>
      exact .step edge (.refl _)
  | tail _ edge ih =>
      exact ih.trans (.step edge (.refl _))

theorem reaches_iff : h.Reaches d t ↔ d = t ∨ Relation.TransGen (Links h.edges) d t := by
  constructor
  · intro hreach
    induction hreach with
    | refl _ =>
        exact Or.inl rfl
    | step edge _ ih =>
        rcases ih with rfl | hpath
        · exact Or.inr (.single edge)
        · exact Or.inr (hpath.head edge)
  · rintro (rfl | hpath)
    · exact .refl d
    · exact reaches_of_transGen hpath

/-! ## Nodes -/

@[simp]
theorem edges_addNode : (h.addNode t).edges = h.edges := by
  unfold addNode
  split <;> rfl

theorem addNode_of_mem (ht : t ∈ h.nodes) : h.addNode t = h := by
  simp [addNode, ht]

theorem mem_nodes_addNode_iff {x : TypeHash} : x ∈ (h.addNode t).nodes ↔ x ∈ h.nodes ∨ x = t := by
  by_cases ht : t ∈ h.nodes
  · have habsorbed : x = t → x ∈ h.nodes := fun heq => heq ▸ ht
    simpa [addNode_of_mem ht] using habsorbed
  · simp [addNode, ht]

theorem nodup_nodes_addNode (hnodup : h.nodes.Nodup) : (h.addNode t).nodes.Nodup := by
  by_cases ht : t ∈ h.nodes
  · simpa [addNode_of_mem ht] using hnodup
  · have hapart : ∀ x ∈ h.nodes, x ≠ t := by
      rintro x hx rfl
      exact ht hx
    simpa [addNode, ht, List.nodup_append, hnodup] using hapart

/-! ## One link -/

theorem link?_eq_none_iff : h.link? d s = none ↔ h.Reaches s d := by
  have hcycle : (d = s ∨ h.isStrictSupertype d s = true) ↔ h.Reaches s d := by
    constructor
    · rintro (rfl | hstrict)
      · exact .refl d
      · exact (isStrictSupertype_iff.1 hstrict).2
    · intro hreach
      by_cases heq : d = s
      · exact Or.inl heq
      · exact Or.inr (isStrictSupertype_iff.2 ⟨heq, hreach⟩)
  refine Iff.trans ?_ hcycle
  unfold link?
  split
  · rename_i hrefused
    simp [hrefused]
  · rename_i haccepted
    simp only [haccepted, iff_false]
    split <;> simp

/-- The graph after a link that is accepted. -/
theorem link_of_not_reaches (hok : ¬ h.Reaches s d) :
    (h.link d s).nodes = ((h.addNode d).addNode s).nodes ∧
      (h.link d s).edges =
        if Edge.mk d s ∈ h.edges then h.edges else Edge.mk d s :: h.edges := by
  have haccepted : h.link? d s ≠ none := fun hnone => hok (link?_eq_none_iff.1 hnone)
  unfold link
  unfold link? at haccepted ⊢
  split at haccepted
  · exact absurd rfl haccepted
  · rename_i hfree
    rw [if_neg hfree]
    by_cases hedge : Edge.mk d s ∈ h.edges <;> simp [hedge]

theorem nodes_link (hok : ¬ h.Reaches s d) (hd : d ∈ h.nodes) (hs : s ∈ h.nodes) :
    (h.link d s).nodes = h.nodes := by
  rw [(link_of_not_reaches hok).1, addNode_of_mem hd, addNode_of_mem hs]

theorem supertypes_link_self (hok : ¬ h.Reaches s d) :
    (h.link d s).supertypes d = (h.supertypes d).insert s := by
  by_cases hs : s ∈ h.supertypes d
  · have hedge : Edge.mk d s ∈ h.edges := mem_supertypes_iff.1 hs
    rw [List.insert_of_mem hs]
    simp only [supertypes, (link_of_not_reaches hok).2, if_pos hedge]
  · have hedge : Edge.mk d s ∉ h.edges := fun hedge => hs (mem_supertypes_iff.2 hedge)
    rw [List.insert_of_not_mem hs]
    simp [supertypes, (link_of_not_reaches hok).2, if_neg hedge]

theorem supertypes_link_of_ne (hok : ¬ h.Reaches s d) (hne : t ≠ d) :
    (h.link d s).supertypes t = h.supertypes t := by
  have hne' : d ≠ t := fun heq => hne heq.symm
  unfold supertypes
  rw [(link_of_not_reaches hok).2]
  split <;> simp [hne']

/-! ## Links out of a type that nothing derives from -/

/-- No edge leads to a type. -/
def Lowest (h : Inheritance) (d : TypeHash) : Prop :=
  ∀ t, d ∉ h.supertypes t

theorem Lowest.not_reaches (hd : h.Lowest d) (hne : s ≠ d) : ¬ h.Reaches s d := by
  intro hreach
  -- The last edge of a path would lead to the type.
  induction hreach with
  | refl _ =>
      exact hne rfl
  | @step x y d edge _ ih =>
      refine ih hd ?_
      rintro rfl
      exact hd x (mem_supertypes_iff.2 edge)

theorem Lowest.link (hd : h.Lowest d) (hne : s ≠ d) : (h.link d s).Lowest d := by
  have hok := hd.not_reaches hne
  intro t hmem
  by_cases heq : t = d
  · have hinsert : d ∈ (h.supertypes d).insert s := by
      simpa [heq, supertypes_link_self hok] using hmem
    rcases List.mem_insert_iff.1 hinsert with rfl | hmem
    · exact hne rfl
    · exact hd d hmem
  · exact hd t (by simpa [supertypes_link_of_ne hok heq] using hmem)

/-- Links out of such a type to a list of other types, one after the other. -/
theorem Lowest.foldl_link {ss : List TypeHash} (hd : h.Lowest d) (hmem : d ∈ h.nodes)
    (hss : ∀ s ∈ ss, s ∈ h.nodes ∧ s ≠ d) :
    (ss.foldl (fun g s => g.link d s) h).Lowest d ∧
      (ss.foldl (fun g s => g.link d s) h).nodes = h.nodes ∧
      (ss.foldl (fun g s => g.link d s) h).supertypes d =
        ss.foldl (fun kept s => kept.insert s) (h.supertypes d) ∧
      ∀ t, t ≠ d → (ss.foldl (fun g s => g.link d s) h).supertypes t = h.supertypes t := by
  induction ss generalizing h with
  | nil =>
      exact ⟨hd, rfl, rfl, fun t _ => rfl⟩
  | cons s ss ih =>
      rcases hss s List.mem_cons_self with ⟨hs, hne⟩
      have hok := hd.not_reaches hne
      have hnodes : (h.link d s).nodes = h.nodes := nodes_link hok hmem hs
      have hrest : ∀ s' ∈ ss, s' ∈ (h.link d s).nodes ∧ s' ≠ d := by
        rw [hnodes]
        exact fun s' hs' => hss s' (List.mem_cons_of_mem s hs')
      rcases ih (hd.link hne) (by rwa [hnodes]) hrest with ⟨hlow, hnodes', hself, hother⟩
      refine ⟨hlow, hnodes'.trans hnodes, ?_, ?_⟩
      · rw [supertypes_link_self hok] at hself
        exact hself
      · intro t ht
        exact (hother t ht).trans (supertypes_link_of_ne hok ht)

/-- None of these links is refused. -/
theorem Lowest.link?_foldl_link_ne_none {done : List TypeHash} (hd : h.Lowest d)
    (hmem : d ∈ h.nodes) (hdone : ∀ s ∈ done, s ∈ h.nodes ∧ s ≠ d) (hne : s ≠ d) :
    (done.foldl (fun g s => g.link d s) h).link? d s ≠ none := by
  intro hrefused
  exact (hd.foldl_link hmem hdone).1.not_reaches hne (link?_eq_none_iff.1 hrefused)

end Inheritance
end Recast
