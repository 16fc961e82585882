import Mathlib.Data.List.Perm.Subperm
import Stencil.Proofs.Tree.Building
/-!
# Walks are recursions

The loops over a stack list what a walk comes to, and this is what recursion over the children
lists, nodes first and tokens from left to right (`Visits.preorder`, `Visits.leavesBelow`); the
recursion is along the array, where children come before their parents (`Ordered`). Of a tree that
holds all its nodes (`Gathered`) the walk from the root comes to each of them once
(`Gathered.perm_descendants`), so that nodes can be counted along the walk as well as in the array.
-/

namespace Stencil
namespace SyntaxTree

/-- Children come before their parents in the array. -/
def Ordered (tree : SyntaxTree) : Prop :=
  ∀ ⦃parent child : Nat⦄, .node child ∈ tree.children parent → child < parent

variable (tree : SyntaxTree) (ordered : tree.Ordered)

/-- The nodes below a node, each before those below it. -/
def preorder (ordered : tree.Ordered) (id : Nat) : List Nat :=
  (tree.childNodes id).attach.flatMap fun child => child.1 :: preorder ordered child.1
termination_by id
decreasing_by exact ordered (mem_childNodes.1 child.2)

/-- The tokens below a node from left to right. -/
def leavesBelow (ordered : tree.Ordered) (id : Nat) : List Nat :=
  (tree.children id).attach.flatMap fun
    | ⟨.token index, _⟩ => [index]
    | ⟨.node child, _⟩ => leavesBelow ordered child
termination_by id
decreasing_by exact ordered ‹_›

/-- The tokens of a child: itself, or those below it. -/
def leavesOf : Child → List Nat
  | .token index => [index]
  | .node id => tree.leavesBelow ordered id

/-- The nodes below a node are its child nodes, each followed by those below it. -/
theorem preorder_eq (id : Nat) : tree.preorder ordered id =
    (tree.childNodes id).flatMap fun child => child :: tree.preorder ordered child := by
  have each (child : Nat) (member : child ∈ tree.childNodes id) :
      (fun child : { child // child ∈ tree.childNodes id } =>
        child.1 :: tree.preorder ordered child.1) ⟨child, member⟩ =
      child :: tree.preorder ordered child := rfl
  rw [preorder, List.flatMap_subtype each, List.unattach_attach]

/-- The tokens below a node are those of its children from left to right. -/
theorem leavesBelow_eq (id : Nat) : tree.leavesBelow ordered id =
    (tree.children id).flatMap (tree.leavesOf ordered) := by
  have each (child : Child) (member : child ∈ tree.children id) :
      (match (⟨child, member⟩ : { child // child ∈ tree.children id }) with
        | ⟨.token index, _⟩ => [index]
        | ⟨.node below, _⟩ => tree.leavesBelow ordered below) = tree.leavesOf ordered child := by
    cases child <;> rfl
  rw [leavesBelow, List.flatMap_subtype each, List.unattach_attach]

variable {tree}

/-- A walk comes to nodes in the order of the recursion. -/
theorem Visits.preorder {pending visited : List Child} (visits : tree.Visits pending visited) :
    nodesAmong visited =
      (nodesAmong pending).flatMap fun child => child :: tree.preorder ordered child := by
  induction visits with
  | nil => rfl
  | token index _ ih => exact ih
  | @node pending visited id _ ih =>
    rw [nodesAmong_append, List.flatMap_append, ← childNodes_eq, ← preorder_eq] at ih
    exact congrArg (id :: ·) ih

/-- A walk comes to tokens from left to right. -/
theorem Visits.leavesBelow {pending visited : List Child} (visits : tree.Visits pending visited) :
    visited.filterMap childToken? = pending.flatMap (tree.leavesOf ordered) := by
  induction visits with
  | nil => rfl
  | token index _ ih => exact congrArg (index :: ·) ih
  | @node pending visited id _ ih =>
    rw [List.flatMap_append, ← leavesBelow_eq] at ih
    exact ih

/-- A walk comes to the pending nodes and to the child nodes of each node that it comes to. -/
theorem Visits.perm {pending visited : List Child} (visits : tree.Visits pending visited) :
    (nodesAmong visited).Perm
      (nodesAmong pending ++ (nodesAmong visited).flatMap tree.childNodes) := by
  induction visits with
  | nil => exact .nil
  | token index _ ih => exact ih
  | @node pending visited id _ ih =>
    rw [nodesAmong_append, ← childNodes_eq, List.append_assoc] at ih
    have later := List.perm_append_comm_assoc (tree.childNodes id) (nodesAmong pending)
      ((nodesAmong visited).flatMap tree.childNodes)
    exact (ih.trans later).cons id

/-- No nodes are all children of each other: each would have its parent among them, further on in
the array. -/
theorem Ordered.eq_nil_of_perm (ordered : tree.Ordered) {ids : List Nat}
    (closed : ids.Perm (ids.flatMap tree.childNodes)) : ids = [] := by
  have free (id : Nat) : id ∉ ids := by
    induction more : tree.size - id using Nat.strongRecOn generalizing id with
    | ind distance ih =>
      intro member
      obtain ⟨parent, there, child⟩ := List.mem_flatMap.1 (closed.mem_iff.1 member)
      have listed := mem_childNodes.1 child
      have later := ordered listed
      have within := lt_size_of_mem_children listed
      exact ih (tree.size - parent) (by omega) parent rfl there
  exact List.eq_nil_iff_forall_not_mem.2 free

/-- Walks beneath a drawn node are recursions. -/
theorem walks_of_draws {id : Nat} {shape : Shape} (drawn : Draws tree.nodes (.node id) shape)
    (enough : shape.places ≤ tree.childCount) :
    tree.descendants id = tree.preorder ordered id ∧
      tree.tokensOf id = tree.leavesBelow ordered id := by
  rw [preorder_eq, leavesBelow_eq, childNodes_eq]
  cases drawn with
  | node found beneath =>
    have visits := tree.visits_walk (.node found beneath) enough
    rw [descendants_eq visits, tokensOf_eq visits]
    exact ⟨visits.preorder ordered, visits.leavesBelow ordered⟩

end SyntaxTree

/-! ### All nodes of a tree -/

namespace Gathered

open scoped List

variable {tree : SyntaxTree} {given : List Nat}
  (gathered : Gathered tree.nodes [.node tree.root] given) (last : tree.root + 1 = tree.size)

include gathered

/-- In an array of gathered nodes children come before their parents. -/
theorem ordered : tree.Ordered := by
  intro parent child member
  have inside := SyntaxTree.lt_size_of_mem_children member
  have found : tree.nodes[parent]? = some tree.nodes[parent] := Array.getElem?_eq_getElem inside
  rw [tree.children_of_found found] at member
  exact gathered.earlier found child member

/-- The root is drawn by all that there is. -/
theorem draws_root : ∃ kind shapes, Draws tree.nodes (.node tree.root) (.node kind shapes) ∧
    (Shape.node kind shapes).places ≤ tree.childCount := by
  obtain ⟨shapes, drawn, -, places⟩ := gathered.drawn
  cases drawn with
  | cons first rest =>
    cases rest with
    | nil =>
      have enough := Nat.le_of_eq (places.symm.trans tree.childCount_eq.symm)
      cases first with
      | node found beneath => exact ⟨_, _, .node found beneath, enough⟩

include last

/-- Every node is the root or beneath it: the parent of a node comes after it in the array. -/
theorem mem_descendants {id : Nat} (inside : id < tree.size) :
    id ∈ tree.root :: tree.descendants tree.root := by
  obtain ⟨kind, shapes, drawn, enough⟩ := gathered.draws_root
  induction more : tree.root - id using Nat.strongRecOn generalizing id with
  | ind distance ih =>
    by_cases top : id = tree.root
    · exact top ▸ List.mem_cons_self
    · have below : id < tree.root := by omega
      obtain ⟨parent, member, -⟩ := gathered.existsUnique_parent last below
      have later := gathered.ordered member
      have within := SyntaxTree.lt_size_of_mem_children member
      have above := ih (tree.root - parent) (by omega) within rfl
      exact List.mem_cons_of_mem _ (tree.mem_descendants_of_child drawn enough above member)

/-- Every node is drawn, by a part of what draws the root. -/
theorem draws {id : Nat} (inside : id < tree.size) : ∃ shape,
    Draws tree.nodes (.node id) shape ∧ shape.places ≤ tree.childCount := by
  obtain ⟨kind, shapes, drawn, enough⟩ := gathered.draws_root
  obtain ⟨node, listed, here⟩ :=
    tree.exists_node drawn enough (gathered.mem_descendants last inside)
  exact ⟨_, here, Nat.le_trans (Shape.places_le_of_mem _ listed) enough⟩

/-- The walk from the root comes to each other node once. -/
theorem perm_descendants : (tree.descendants tree.root).Perm (List.range tree.root) := by
  obtain ⟨kind, shapes, drawn, enough⟩ := gathered.draws_root
  have visits := tree.visits_walk drawn enough
  have each : tree.descendants tree.root = nodesAmong ((tree.walk tree.root).toList.map (·.2)) :=
    SyntaxTree.descendants_eq visits
  have listed := visits.perm
  rw [← each, ← SyntaxTree.childNodes_eq] at listed
  have whole := gathered.perm_childNodes last
  rw [← last, List.range_succ, List.flatMap_append, List.flatMap_singleton] at whole
  have within : List.range tree.root ⊆ tree.descendants tree.root := by
    intro id member
    have less := List.mem_range.1 member
    have inside : id < tree.size := by omega
    have found := gathered.mem_descendants last inside
    exact (List.mem_cons.1 found).resolve_left (Nat.ne_of_lt less)
  obtain ⟨front, same, part⟩ := List.nodup_range.subperm within
  obtain ⟨extra, split⟩ := part.exists_perm_append
  have split := split.trans (same.append_right extra)
  have besides : extra.Perm (extra.flatMap tree.childNodes) := by
    refine (List.perm_append_left_iff (List.range tree.root)).1 ?_
    calc List.range tree.root ++ extra
      _ ~ tree.descendants tree.root := split.symm
      _ ~ tree.childNodes tree.root ++ (tree.descendants tree.root).flatMap tree.childNodes :=
        listed
      _ ~ tree.childNodes tree.root ++ (List.range tree.root ++ extra).flatMap tree.childNodes :=
        (split.flatMap_right _).append_left _
      _ = tree.childNodes tree.root ++ (List.range tree.root).flatMap tree.childNodes ++
          extra.flatMap tree.childNodes := by rw [List.flatMap_append, List.append_assoc]
      _ ~ (List.range tree.root).flatMap tree.childNodes ++ tree.childNodes tree.root ++
          extra.flatMap tree.childNodes := List.perm_append_comm.append_right _
      _ ~ List.range tree.root ++ extra.flatMap tree.childNodes := whole.append_right _
  rw [gathered.ordered.eq_nil_of_perm besides, List.append_nil] at split
  exact split

/-- The walk from the root comes to the other nodes, and to each of them once. -/
theorem nodup_descendants : (tree.descendants tree.root).Nodup :=
  (gathered.perm_descendants last).nodup_iff.2 List.nodup_range

/-- Beneath the root are all the other nodes. -/
theorem mem_descendants_iff {id : Nat} :
    id ∈ tree.descendants tree.root ↔ id < tree.size ∧ id ≠ tree.root := by
  rw [(gathered.perm_descendants last).mem_iff, List.mem_range]
  omega

/-- There are as many nodes of a kind along the walk as in the array. -/
theorem count_eq (kind : NodeKind) : tree.count kind = (tree.findAll kind).length := by
  have kinds : (List.range tree.size).map tree.kind? =
      tree.nodes.toList.map fun node => some node.kind := by
    refine List.ext_getElem (by simp [SyntaxTree.size]) fun id inside within => ?_
    rw [List.length_map, Array.length_toList] at within
    rw [List.getElem_map, List.getElem_map, List.getElem_range, Array.getElem_toList,
      SyntaxTree.kind?, SyntaxTree.node?, Array.getElem?_eq_getElem within, Option.map_some]
  have all : (tree.root :: tree.descendants tree.root).Perm (List.range tree.size) := by
    rw [← last, List.range_succ]
    exact ((gathered.perm_descendants last).cons _).trans (List.perm_append_singleton _ _).symm
  rw [SyntaxTree.findAll, ← List.countP_eq_length_filter, all.countP_eq, SyntaxTree.count,
    ← Array.countP_toList]
  have counted := congrArg (List.countP fun found => decide (found = some kind)) kinds
  rw [List.countP_map, List.countP_map] at counted
  refine Eq.trans (List.countP_congr fun node _ => ?_) counted.symm
  simp

end Gathered
end Stencil
