import Mathlib.Data.Finset.Card
import Mathlib.Data.List.TakeWhile
import Mathlib.Order.Defs.Unbundled
import Recast.Proofs.Inheritance.Linking

/-!
# History — an inheritance graph and what was added to it

An inheritance graph grows by types and by links, and refuses the links that would close a cycle.
`Inheritance.Records` says how a graph is read off the additions that were taken in: each type and
each edge stands where it was added for the first time, and no edge leads to a type that reaches
back.

* `Inheritance.Records.concat`: one more addition keeps it so;
* `Inheritance.growth_exact`: what this means for every list of additions to the empty graph.
-/

namespace Recast

/-- What can be added to an inheritance graph. -/
inductive Addition where
  | type (t : TypeHash)
  | edge (derived supertype : TypeHash)

namespace Addition

/-- The types that an addition names, the derived one first. -/
def types : Addition → List TypeHash
  | .type t => [t]
  | .edge d s => [d, s]

def edges : Addition → List Edge
  | .type _ => []
  | .edge d s => [{ derived := d, supertype := s }]

end Addition

/-! ## Lists without repetitions -/

section Repetitions

variable {α : Type} [DecidableEq α]

theorem nodup_eraseDups (l : List α) : l.eraseDups.Nodup := by
  induction l using List.reverseRecOn with
  | nil =>
      exact List.nodup_nil
  | append_singleton l x ih =>
      rw [eraseDups_concat]
      split
      · exact ih
      · rename_i hx
        have hapart : ∀ y ∈ l, y ≠ x := by
          rintro y hy rfl
          exact hx hy
        exact List.nodup_append.2 ⟨ih, List.nodup_singleton x, by simpa using hapart⟩

theorem length_eraseDups (l : List α) : l.eraseDups.length = l.toFinset.card := by
  have hsame : l.eraseDups.toFinset = l.toFinset := by
    ext x
    simp
  rw [← hsame, List.toFinset_card_of_nodup (nodup_eraseDups l)]

/-- Up to the first occurrence of an element, a list is what comes before it. -/
theorem exists_concat_eq_takeWhile (l : List α) (x : α) :
    ∃ after, l ++ [x] = l.takeWhile (fun y => y ≠ x) ++ x :: after := by
  induction l with
  | nil =>
      exact ⟨[], rfl⟩
  | cons y l ih =>
      by_cases hy : y = x
      · exact ⟨l ++ [x], by simp [hy]⟩
      · rcases ih with ⟨after, heq⟩
        exact ⟨after, by simp [hy, heq]⟩

/-- The place of an element is the number of elements that appear before it. -/
theorem idxOf_eraseDups_concat (l : List α) (x : α) :
    (l ++ [x]).eraseDups.idxOf x = (l.takeWhile fun y => y ≠ x).toFinset.card := by
  rcases exists_concat_eq_takeWhile l x with ⟨after, heq⟩
  rw [heq]
  have hx : x ∉ l.takeWhile fun y => y ≠ x := by
    intro hmem
    simpa using List.mem_takeWhile_imp hmem
  generalize l.takeWhile (fun y => y ≠ x) = before at hx ⊢
  -- The element is the first one that those before it do not strike out.
  have hkept : ((x :: after).removeAll before).eraseDups =
      x :: ((after.removeAll before).filter fun y => !y == x).eraseDups := by
    simp [List.removeAll, hx, List.eraseDups_cons]
  have hbefore : x ∉ before.eraseDups := by simpa using hx
  rw [List.eraseDups_append, hkept, List.idxOf_append_of_notMem hbefore, List.idxOf_cons_self,
    Nat.add_zero, length_eraseDups]

theorem takeWhile_ne_append (l : List α) (x : α) (after : List α) :
    (l ++ x :: after).takeWhile (fun y => y ≠ x) = l.takeWhile fun y => y ≠ x := by
  induction l with
  | nil =>
      simp
  | cons y l ih =>
      by_cases hy : y = x
      · simp [hy]
      · simpa [List.takeWhile_cons, hy] using ih

end Repetitions

namespace Inheritance

variable {h : Inheritance} {a : Addition} {as done : List Addition} {d s t x y : TypeHash}

/-! ## Additions -/

/-- Make an addition, or leave the graph alone where it is refused. -/
def grow (h : Inheritance) : Addition → Inheritance
  | .type t => h.addNode t
  | .edge d s => h.link d s

/-- Whether an addition is taken in: a type always is, and a link unless it is refused. -/
def takes (h : Inheritance) : Addition → Bool
  | .type _ => true
  | .edge d s => (h.link? d s).isSome

/-- The graph after additions, one after the other. -/
def growAll (h : Inheritance) (as : List Addition) : Inheritance :=
  as.foldl grow h

/-- Those of a list of additions that are taken in, one after the other. -/
def taken (h : Inheritance) : List Addition → List Addition
  | [] => []
  | a :: as => if h.takes a then a :: (h.grow a).taken as else (h.grow a).taken as

theorem grow_of_not_takes (hrefused : h.takes a = false) : h.grow a = h := by
  cases a with
  | type t => cases hrefused
  | edge d s =>
      have hnone : h.link? d s = none := by simpa [takes] using hrefused
      simp [grow, link, hnone]

/-- What a list of additions takes in is what its parts take in. -/
theorem taken_append (h : Inheritance) (as bs : List Addition) :
    h.taken (as ++ bs) = h.taken as ++ (h.growAll as).taken bs := by
  induction as generalizing h with
  | nil =>
      rfl
  | cons a as ih =>
      rw [List.cons_append, taken, taken, ih]
      split <;> rfl

/-! ## Cycles -/

/-- No edge leads to a type that reaches back. -/
def Acyclic (h : Inheritance) : Prop :=
  ∀ e ∈ h.edges, ¬ h.Reaches e.supertype e.derived

theorem mem_edges_link_iff {e : Edge} (hok : ¬ h.Reaches s d) :
    e ∈ (h.link d s).edges ↔ e ∈ h.edges ∨ e = { derived := d, supertype := s } := by
  rw [(link_of_not_reaches hok).2]
  split
  · rename_i hedge
    rw [or_iff_left_of_imp]
    rintro rfl
    exact hedge
  · rw [List.mem_cons, or_comm]

/-- A path in the graph with one more edge was there before, or leads to that edge and on from
it. -/
theorem Reaches.of_link (hok : ¬ h.Reaches s d) (hreach : (h.link d s).Reaches x y) :
    h.Reaches x y ∨ (h.Reaches x d ∧ h.Reaches s y) := by
  induction hreach with
  | refl x =>
      exact Or.inl (.refl x)
  | @step x m y edge _ ih =>
      rcases (mem_edges_link_iff hok).1 edge with hold | hnew
      · rcases ih with hpath | ⟨hlower, hupper⟩
        · exact Or.inl (.step hold hpath)
        · exact Or.inr ⟨.step hold hlower, hupper⟩
      · cases hnew
        rcases ih with hpath | ⟨-, hupper⟩
        · exact Or.inr ⟨.refl _, hpath⟩
        · exact Or.inr ⟨.refl _, hupper⟩

theorem Acyclic.link (hacyclic : h.Acyclic) (hok : ¬ h.Reaches s d) : (h.link d s).Acyclic := by
  intro e edge hback
  rcases (mem_edges_link_iff hok).1 edge with hold | rfl
  · rcases hback.of_link hok with hpath | ⟨hlower, hupper⟩
    · exact hacyclic e hold hpath
    -- The old edge closes the way from the supertype of the new one back to its derived type.
    · exact hok (hupper.trans (.step hold hlower))
  · rcases hback.of_link hok with hpath | ⟨hlower, -⟩
    · exact hok hpath
    · exact hok hlower

theorem Acyclic.addNode (hacyclic : h.Acyclic) (t : TypeHash) : (h.addNode t).Acyclic := by
  intro e edge hback
  rw [edges_addNode] at edge
  rw [reaches_iff, edges_addNode, ← reaches_iff] at hback
  exact hacyclic e edge hback

theorem Acyclic.not_transGen (hacyclic : h.Acyclic) (t : TypeHash) :
    ¬ Relation.TransGen (Links h.edges) t t := by
  intro hpath
  rcases Relation.TransGen.head'_iff.1 hpath with ⟨s, edge, hback⟩
  rcases Relation.reflTransGen_iff_eq_or_transGen.1 hback with rfl | hback
  · exact hacyclic _ edge (.refl _)
  · exact hacyclic _ edge (reaches_of_transGen hback)

theorem Acyclic.isStrictSupertype_iff_transGen (hacyclic : h.Acyclic) {ancestor : TypeHash} :
    h.isStrictSupertype ancestor d = true ↔ Relation.TransGen (Links h.edges) d ancestor := by
  rw [isStrictSupertype_iff, reaches_iff]
  constructor
  · rintro ⟨hne, heq | hpath⟩
    · exact absurd heq.symm hne
    · exact hpath
  · intro hpath
    refine ⟨?_, Or.inr hpath⟩
    rintro rfl
    exact hacyclic.not_transGen _ hpath

theorem Acyclic.isStrictOrder (hacyclic : h.Acyclic) :
    IsStrictOrder TypeHash (fun a d => h.isStrictSupertype a d = true) := by
  have hirrefl : ∀ t, ¬ h.isStrictSupertype t t = true := by
    intro t hstrict
    exact hacyclic.not_transGen t (hacyclic.isStrictSupertype_iff_transGen.1 hstrict)
  have htrans : ∀ a m d, h.isStrictSupertype a m = true → h.isStrictSupertype m d = true →
      h.isStrictSupertype a d = true := by
    intro a m d hupper hlower
    rw [hacyclic.isStrictSupertype_iff_transGen] at hupper hlower ⊢
    exact hlower.trans hupper
  exact { irrefl := hirrefl, trans := htrans }

/-! ## The record of a graph -/

/-- A graph shows the additions that were taken in. -/
structure Records (h : Inheritance) (done : List Addition) : Prop where
  /-- Each type stands where it appeared first. -/
  nodes_eq : h.nodes = (done.flatMap Addition.types).eraseDups
  /-- Each edge stands where it was added first, the last one first. -/
  edges_eq : h.edges = (done.flatMap Addition.edges).eraseDups.reverse
  acyclic : h.Acyclic

theorem records_empty : empty.Records [] := by
  refine ⟨rfl, rfl, ?_⟩
  intro e edge
  cases edge

theorem nodes_addNode_eq {names : List TypeHash} (hnodes : h.nodes = names.eraseDups)
    (t : TypeHash) : (h.addNode t).nodes = (names ++ [t]).eraseDups := by
  unfold addNode
  rw [eraseDups_concat, hnodes]
  by_cases ht : t ∈ names <;> simp [ht, hnodes]

/-- One more addition is recorded, if it is taken in. -/
theorem Records.concat (hr : h.Records done) (htaken : h.takes a = true) :
    (h.grow a).Records (done ++ [a]) := by
  cases a with
  | type t =>
      have hgrown := nodes_addNode_eq hr.nodes_eq t
      refine ⟨?_, ?_, ?_⟩
      · simpa [grow, Addition.types] using hgrown
      · simpa [grow, Addition.edges] using hr.edges_eq
      · exact hr.acyclic.addNode t
  | edge d s =>
      have hok : ¬ h.Reaches s d := by
        intro hreach
        rw [takes, link?_eq_none_iff.2 hreach] at htaken
        cases htaken
      have hlinked := link_of_not_reaches hok
      have hgrown := nodes_addNode_eq (nodes_addNode_eq hr.nodes_eq d) s
      refine ⟨?_, ?_, hr.acyclic.link hok⟩
      · simpa [grow, Addition.types, hlinked.1] using hgrown
      · have hmem : Edge.mk d s ∈ h.edges ↔ Edge.mk d s ∈ done.flatMap Addition.edges := by
          rw [hr.edges_eq, List.mem_reverse, List.mem_eraseDups]
        rw [List.flatMap_append, List.flatMap_singleton, Addition.edges, eraseDups_concat]
        refine hlinked.2.trans ?_
        simp only [hmem]
        split
        · exact hr.edges_eq
        · rw [List.reverse_concat, hr.edges_eq]

/-- So are all that are taken in. -/
theorem Records.append (hr : h.Records done) (as : List Addition) :
    (h.growAll as).Records (done ++ h.taken as) := by
  induction as generalizing h done with
  | nil =>
      simpa [growAll, taken] using hr
  | cons a as ih =>
      cases htaken : h.takes a with
      | true => simpa [growAll, taken, htaken] using ih (hr.concat htaken)
      | false =>
          have hsame := grow_of_not_takes htaken
          simpa [growAll, taken, htaken, hsame] using ih hr

/-! ## Places -/

/-- The place of a type is the number of types that appeared before it. -/
theorem Records.index_addNode (hr : h.Records done) (t : TypeHash) :
    (h.addNode t).index t =
      ((done.flatMap Addition.types).takeWhile fun x => x ≠ t).toFinset.card := by
  unfold index
  rw [nodes_addNode_eq hr.nodes_eq t, idxOf_eraseDups_concat]

theorem Records.size_eq (hr : h.Records done) :
    h.size = (done.flatMap Addition.types).toFinset.card := by
  rw [size, hr.nodes_eq, length_eraseDups]

theorem Records.links_eq (hr : h.Records done) :
    Links h.edges = Links (done.flatMap Addition.edges) := by
  funext d s
  simp only [Links, hr.edges_eq, List.mem_reverse, List.mem_eraseDups]

/-! ## Every list of additions -/

/-- The graph that a list of additions leads to. -/
def ofAdditions (as : List Addition) : Inheritance :=
  empty.growAll as

/-- The types that a list of additions names, refused links apart. -/
def named (as : List Addition) : List TypeHash :=
  (empty.taken as).flatMap Addition.types

/-- The links of a list of additions that are accepted. -/
def accepted (as : List Addition) : List Edge :=
  (empty.taken as).flatMap Addition.edges

theorem records_ofAdditions (as : List Addition) :
    (ofAdditions as).Records (empty.taken as) :=
  records_empty.append as

theorem ofAdditions_append (as bs : List Addition) :
    ofAdditions (as ++ bs) = (ofAdditions as).growAll bs :=
  List.foldl_append

theorem taken_concat (as : List Addition) (a : Addition) :
    empty.taken (as ++ [a]) =
      if (ofAdditions as).takes a then empty.taken as ++ [a] else empty.taken as := by
  have hlast : (ofAdditions as).taken [a] = if (ofAdditions as).takes a then [a] else [] := rfl
  rw [taken_append]
  refine (congrArg (empty.taken as ++ ·) hlast).trans ?_
  split
  · rfl
  · exact List.append_nil _

/-- A type that is added is named, and so are the types of a link that is accepted. -/
theorem named_accepted_concat {a : Addition} (htaken : (ofAdditions as).takes a = true) :
    named (as ++ [a]) = named as ++ a.types ∧ accepted (as ++ [a]) = accepted as ++ a.edges := by
  simp [named, accepted, taken_concat, htaken]

/-- A refused link leaves no trace. -/
theorem ofAdditions_concat_of_link?_eq_none (hnone : (ofAdditions as).link? d s = none) :
    ofAdditions (as ++ [.edge d s]) = ofAdditions as ∧
      named (as ++ [.edge d s]) = named as ∧ accepted (as ++ [.edge d s]) = accepted as := by
  have hrefused : (ofAdditions as).takes (.edge d s) = false := by simp [takes, hnone]
  refine ⟨?_, ?_, ?_⟩
  · rw [ofAdditions_append]
    exact grow_of_not_takes hrefused
  · simp [named, taken_concat, hrefused]
  · simp [accepted, taken_concat, hrefused]

theorem ofAdditions_concat_of_link?_eq_some {grown : Inheritance}
    (hsome : (ofAdditions as).link? d s = some grown) :
    ofAdditions (as ++ [.edge d s]) = grown := by
  rw [ofAdditions_append]
  simp [growAll, grow, link, hsome]

/-- A type that was added keeps its place. -/
theorem index_addNode_append (as : List Addition) (t : TypeHash) (rest : List Addition) :
    ((ofAdditions (as ++ .type t :: rest)).addNode t).index t =
      ((ofAdditions as).addNode t).index t := by
  have htaken : empty.taken (as ++ .type t :: rest) =
      empty.taken as ++ .type t :: ((ofAdditions as).addNode t).taken rest :=
    taken_append empty as (.type t :: rest)
  -- What is named from then on stands behind this type.
  rw [(records_ofAdditions _).index_addNode, (records_ofAdditions as).index_addNode, htaken,
    List.flatMap_append, List.flatMap_cons, Addition.types, List.singleton_append,
    takeWhile_ne_append]

/-- Whatever was added to an empty graph, refused links included.  A link is refused exactly if it
leads from a type to itself, or to one that reaches it along the accepted links, and then nothing
changes; any other link is accepted, and its two types are named.  A type is a strict supertype of
those that reach it along accepted links, and this is a strict order.  A type that is added has as
its place the number of types that were named before it, and keeps it; the size of the graph is the
number of types that were named.  The direct supertypes of a type are those of its accepted links,
each at its first occurrence, the last one first. -/
theorem growth_exact (as : List Addition) :
    (∀ d s, (ofAdditions as).link? d s = none ↔
        d = s ∨ Relation.TransGen (Links (accepted as)) s d) ∧
      (∀ d s, (ofAdditions as).link? d s = none →
        ofAdditions (as ++ [.edge d s]) = ofAdditions as ∧
          named (as ++ [.edge d s]) = named as ∧ accepted (as ++ [.edge d s]) = accepted as) ∧
      (∀ d s grown, (ofAdditions as).link? d s = some grown →
        ofAdditions (as ++ [.edge d s]) = grown ∧ named (as ++ [.edge d s]) = named as ++ [d, s] ∧
          accepted (as ++ [.edge d s]) = accepted as ++ [{ derived := d, supertype := s }]) ∧
      (∀ a d, (ofAdditions as).isStrictSupertype a d = true ↔
        Relation.TransGen (Links (accepted as)) d a) ∧
      IsStrictOrder TypeHash (fun a d => (ofAdditions as).isStrictSupertype a d = true) ∧
      (∀ t, ((ofAdditions as).addNode t).index t =
          ((named as).takeWhile fun x => x ≠ t).toFinset.card ∧
        named (as ++ [.type t]) = named as ++ [t] ∧ accepted (as ++ [.type t]) = accepted as) ∧
      (∀ t rest, ((ofAdditions (as ++ .type t :: rest)).addNode t).index t =
        ((ofAdditions as).addNode t).index t) ∧
      (ofAdditions as).size = (named as).toFinset.card ∧
      ∀ t, (ofAdditions as).supertypes t =
        (((accepted as).eraseDups.filter fun e => e.derived = t).map Edge.supertype).reverse := by
  have hr := records_ofAdditions as
  have hlinks : Links (ofAdditions as).edges = Links (accepted as) := hr.links_eq
  refine ⟨?_, ?_, ?_, ?_, hr.acyclic.isStrictOrder, ?_, index_addNode_append as, hr.size_eq, ?_⟩
  · intro d s
    rw [link?_eq_none_iff, reaches_iff, hlinks, eq_comm]
  · intro d s hnone
    exact ofAdditions_concat_of_link?_eq_none hnone
  · intro d s grown hsome
    have htaken : (ofAdditions as).takes (.edge d s) = true := by simp [takes, hsome]
    exact ⟨ofAdditions_concat_of_link?_eq_some hsome, named_accepted_concat htaken⟩
  · intro a d
    rw [hr.acyclic.isStrictSupertype_iff_transGen, hlinks]
  · intro t
    have hadded : named (as ++ [.type t]) = named as ++ [t] ∧
        accepted (as ++ [.type t]) = accepted as ++ [] := named_accepted_concat rfl
    rw [List.append_nil] at hadded
    exact ⟨hr.index_addNode t, hadded⟩
  · intro t
    rw [supertypes, hr.edges_eq, List.filter_reverse, List.map_reverse]
    rfl

/-- A link back is refused and leaves no trace; a link from a third type is accepted. -/
theorem growth_exact_link_back :
    (ofAdditions [.edge ⟨2⟩ ⟨1⟩]).link? ⟨1⟩ ⟨2⟩ = none ∧
      ofAdditions [.edge ⟨2⟩ ⟨1⟩, .edge ⟨1⟩ ⟨2⟩] = ofAdditions [.edge ⟨2⟩ ⟨1⟩] ∧
      ∃ grown, (ofAdditions [.edge ⟨2⟩ ⟨1⟩]).link? ⟨3⟩ ⟨1⟩ = some grown ∧
        ofAdditions [.edge ⟨2⟩ ⟨1⟩, .edge ⟨3⟩ ⟨1⟩] = grown ∧
        named [.edge ⟨2⟩ ⟨1⟩, .edge ⟨3⟩ ⟨1⟩] = [⟨2⟩, ⟨1⟩, ⟨3⟩, ⟨1⟩] := by
  obtain ⟨-, hrefused, haccepted, -⟩ := growth_exact [.edge ⟨2⟩ ⟨1⟩]
  have hback : (ofAdditions [.edge ⟨2⟩ ⟨1⟩]).link? ⟨1⟩ ⟨2⟩ = none := by decide
  refine ⟨hback, (hrefused _ _ hback).1, ?_⟩
  cases hthird : (ofAdditions [.edge ⟨2⟩ ⟨1⟩]).link? ⟨3⟩ ⟨1⟩ with
  | none => cases hthird
  | some grown => exact ⟨grown, rfl, (haccepted _ _ _ hthird).1, (haccepted _ _ _ hthird).2.1⟩

/-- The second link is refused, the last one is there already. -/
example :
    let as : List Addition :=
      [.edge ⟨2⟩ ⟨1⟩, .edge ⟨1⟩ ⟨2⟩, .type ⟨3⟩, .edge ⟨2⟩ ⟨3⟩, .edge ⟨2⟩ ⟨1⟩]
    accepted as = [⟨⟨2⟩, ⟨1⟩⟩, ⟨⟨2⟩, ⟨3⟩⟩, ⟨⟨2⟩, ⟨1⟩⟩] ∧
      (ofAdditions as).supertypes ⟨2⟩ = [⟨3⟩, ⟨1⟩] ∧ (ofAdditions as).size = 3 := by
  decide

end Inheritance
end Recast
