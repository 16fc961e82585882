import Mathlib.Data.List.Nodup
import Mathlib.Data.List.Pairwise
import Stencil.Proofs.Tree.Shape
/-!
# The nodes of a tree in document order

A shape lists its nodes, each with its kind and the shapes of its children, in the order in which a
walk over the tree comes to them (`descendants_drawn`). Every token is a child of one node only
(`childTokens_unique`), as long as the leaves are different.
-/

namespace Stencil
namespace Shape

mutual

/-- The nodes of a shape in document order, each with its children. -/
def nodes : Shape → List (NodeKind × List Shape)
  | .token _ => []
  | .node kind children => (kind, children) :: nodesAll children

/-- The nodes of shapes side by side. -/
def nodesAll : List Shape → List (NodeKind × List Shape)
  | [] => []
  | shape :: rest => shape.nodes ++ nodesAll rest

end

/-- The token a shape is. -/
def token? : Shape → Option Nat
  | .token index => some index
  | .node _ _ => none

/-- The nodes of two rows of shapes are those of the one and then those of the other. -/
@[simp]
theorem nodesAll_append (left right : List Shape) :
    nodesAll (left ++ right) = nodesAll left ++ nodesAll right := by
  induction left with
  | nil => rfl
  | cons shape rest ih => simp only [List.cons_append, nodesAll, ih, List.append_assoc]

/-- Without shapes there are no nodes. -/
@[simp]
theorem nodesAll_nil : nodesAll [] = [] := rfl

/-- The nodes of the first shape come before those of the others. -/
@[simp]
theorem nodesAll_cons (shape : Shape) (rest : List Shape) :
    nodesAll (shape :: rest) = shape.nodes ++ nodesAll rest := rfl

/-- A token has no nodes. -/
@[simp]
theorem nodes_token (index : Nat) : (Shape.token index).nodes = [] := rfl

/-- A node comes before the nodes of its children. -/
@[simp]
theorem nodes_node (kind : NodeKind) (children : List Shape) :
    (Shape.node kind children).nodes = (kind, children) :: nodesAll children := rfl

/-- Tokens have no nodes, so that `simp` drops the white space read before a node. -/
@[simp]
theorem nodesAll_tokens (start count : Nat) : nodesAll (tokens start count) = [] := by
  rw [tokens]
  generalize List.range' start count = indices
  induction indices with
  | nil => rfl
  | cons index rest ih => rw [List.map_cons, nodesAll_cons, ih, nodes_token, List.append_nil]

/-- The leaves of a row of tokens are these. -/
@[simp]
theorem leavesAll_tokens (start count : Nat) :
    leavesAll (tokens start count) = List.range' start count := by
  rw [tokens]
  generalize List.range' start count = indices
  induction indices with
  | nil => rfl
  | cons index rest ih => rw [List.map_cons, leavesAll, ih, leaves, List.singleton_append]

/-- Two rows of tokens that meet are one. -/
theorem tokens_meet {start middle stop : Nat} (before : start ≤ middle) (after : middle ≤ stop) :
    tokens start (middle - start) ++ tokens middle (stop - middle) =
      tokens start (stop - start) := by
  have joined := tokens_append start (middle - start) (stop - middle)
  rw [show start + (middle - start) = middle by omega,
    show middle - start + (stop - middle) = stop - start by omega] at joined
  exact joined

/-- The leaves of these shapes are the tokens from one place to another. -/
def Spans (shapes : List Shape) (start stop : Nat) : Prop :=
  start ≤ stop ∧ leavesAll shapes = List.range' start (stop - start)

variable {start middle stop : Nat} {left right shapes : List Shape}

/-- No shapes span nothing. -/
theorem spans_nil (place : Nat) : Spans [] place place :=
  ⟨Nat.le_refl _, by rw [Nat.sub_self]; rfl⟩

/-- Shapes that meet span both stretches. -/
theorem Spans.append (one : Spans left start middle) (two : Spans right middle stop) :
    Spans (left ++ right) start stop := by
  obtain ⟨before, first⟩ := one
  obtain ⟨after, second⟩ := two
  refine ⟨Nat.le_trans before after, ?_⟩
  have joined := congrArg leavesAll (tokens_meet before after)
  simp only [leavesAll_append, leavesAll_tokens] at joined
  rw [leavesAll_append, first, second, joined]

/-- Tokens span from the first place to behind the last. -/
theorem spans_tokens (order : start ≤ stop) : Spans (tokens start (stop - start)) start stop :=
  ⟨order, leavesAll_tokens _ _⟩

/-- A node spans what its children do. -/
theorem Spans.node {kind : NodeKind} (inside : Spans shapes start stop) :
    Spans [.node kind shapes] start stop := by
  refine ⟨inside.1, ?_⟩
  rw [leavesAll_node]
  exact inside.2

mutual

/-- The leaves of a shape are the tokens that its nodes have as children. -/
theorem leaves_perm (kind : NodeKind) (children : List Shape) :
    ((Shape.node kind children).nodes.flatMap fun node => node.2.filterMap token?).Perm
      (Shape.node kind children).leaves := by
  rw [nodes_node, List.flatMap_cons, leaves]
  exact leavesAll_perm children

/-- The leaves of shapes side by side are the tokens among them and those that their nodes have. -/
theorem leavesAll_perm : ∀ children : List Shape,
    (children.filterMap token? ++
      (nodesAll children).flatMap fun node => node.2.filterMap token?).Perm (leavesAll children)
  | [] => .nil
  | .token index :: rest => (leavesAll_perm rest).cons index
  | .node kind children :: rest => by
    have first := leaves_perm kind children
    have later := leavesAll_perm rest
    rw [nodesAll_cons, List.flatMap_append, leavesAll]
    refine List.Perm.trans ?_ (first.append later)
    rw [List.filterMap_cons_none rfl, ← List.append_assoc, ← List.append_assoc]
    exact List.perm_append_comm.append_right _

end

mutual

/-- A node among others has no more places than all of them. -/
theorem places_le_of_mem {node : NodeKind × List Shape} : ∀ (shape : Shape),
    node ∈ shape.nodes → (Shape.node node.1 node.2).places ≤ shape.places
  | .token _, member => nomatch member
  | .node kind children, member => by
    rcases List.mem_cons.1 member with rfl | further
    · exact Nat.le_refl _
    · have below := places_le_of_mem_all children further
      simp only [places] at below ⊢
      omega

/-- A node among those of shapes side by side has no more places than these. -/
theorem places_le_of_mem_all {node : NodeKind × List Shape} : ∀ (shapes : List Shape),
    node ∈ nodesAll shapes → (Shape.node node.1 node.2).places ≤ placesAll shapes
  | [], member => nomatch member
  | shape :: rest, member => by
    rw [placesAll]
    rcases List.mem_append.1 member with here | further
    · exact Nat.le_add_right_of_le (places_le_of_mem shape here)
    · exact Nat.le_add_left_of_le (places_le_of_mem_all rest further)

end

/-- A node among shapes is one of their nodes. -/
theorem mem_nodesAll_of_node {kind : NodeKind} {row : List Shape}
    (member : .node kind row ∈ shapes) : (kind, row) ∈ nodesAll shapes := by
  obtain ⟨before, after, rfl⟩ := List.append_of_mem member
  simp

/-- A token among shapes is one of their leaves. -/
theorem mem_leavesAll_of_token {index : Nat} (member : .token index ∈ shapes) :
    index ∈ leavesAll shapes := by
  obtain ⟨before, after, rfl⟩ := List.append_of_mem member
  simp [leavesAll, leaves]

end Shape

/-- Where the last shape is a node, the last child is that node. -/
theorem DrawsAll.getLast {nodes : Array Node} {children : List Child} {front row : List Shape}
    {kind : NodeKind} (drawn : DrawsAll nodes children (front ++ [.node kind row])) :
    ∃ last, children.getLast? = some (.node last) ∧ Draws nodes (.node last) (.node kind row) := by
  induction front generalizing children with
  | nil =>
    cases drawn with
    | cons first rest =>
      cases rest with
      | nil =>
        cases first with
        | node found beneath => exact ⟨_, rfl, .node found beneath⟩
  | cons before front ih =>
    cases drawn with
    | @cons child _ children _ _ rest =>
      obtain ⟨last, found, here⟩ := ih rest
      refine ⟨last, ?_, here⟩
      rw [List.getLast?_cons, found, Option.getD_some]

/-- Where the first shape is a token, the first child is that token. -/
theorem DrawsAll.head {nodes : Array Node} {children : List Child} {index : Nat}
    {rest : List Shape} (drawn : DrawsAll nodes children (.token index :: rest)) :
    children.head? = some (.token index) := by
  cases drawn with
  | cons first _ =>
    cases first with
    | token => rfl

namespace SyntaxTree

/-- A walk takes one way only. -/
theorem Visits.unique {tree : SyntaxTree} {pending left right : List Child}
    (visits : tree.Visits pending left) (also : tree.Visits pending right) : left = right := by
  induction visits generalizing right with
  | nil => cases also; rfl
  | token index _ ih => cases also with | token _ further => rw [ih further]
  | node id _ ih => cases also with | node _ further => rw [ih further]

/-- A walk comes to all pending children and to those of each node that it comes to. -/
theorem Visits.closed {tree : SyntaxTree} {pending visited : List Child}
    (visits : tree.Visits pending visited) : pending ⊆ visited ∧
      ∀ id, Child.node id ∈ visited → tree.children id ⊆ visited := by
  induction visits with
  | nil => exact ⟨List.Subset.refl _, by simp⟩
  | @token pending visited index _ ih =>
    refine ⟨List.cons_subset_cons _ ih.1, fun id member => ?_⟩
    rcases List.mem_cons.1 member with same | later
    · contradiction
    · exact List.subset_cons_of_subset _ (ih.2 id later)
  | @node pending visited id _ ih =>
    obtain ⟨beneath, rest⟩ := List.append_subset.1 ih.1
    refine ⟨List.cons_subset_cons _ rest, fun id' member => ?_⟩
    rcases List.mem_cons.1 member with same | later
    · obtain rfl := Child.node.inj same
      exact List.subset_cons_of_subset _ beneath
    · exact List.subset_cons_of_subset _ (ih.2 id' later)

/-- A walk over drawn children comes to the nodes of their shapes. -/
theorem Visits.nodes {tree : SyntaxTree} {pending visited : List Child} {shapes : List Shape}
    (visits : tree.Visits pending visited) (drawn : DrawsAll tree.nodes pending shapes) :
    List.Forall₂ (fun id node => Draws tree.nodes (.node id) (.node node.1 node.2))
      (visited.filterMap childNode?) (Shape.nodesAll shapes) := by
  induction visits generalizing shapes with
  | nil => cases drawn with | nil => exact .nil
  | token index _ ih =>
    cases drawn with
    | cons first rest =>
      have later := ih rest
      cases first with
      | token => exact later
  | node id _ ih =>
    cases drawn with
    | cons first rest =>
      cases first with
      | node found beneath =>
        have under := ih ((tree.children_drawn (.node found beneath)).concat rest)
        rw [Shape.nodesAll_append] at under
        exact .cons (.node found beneath) under

/-- A node and those beneath it are the nodes of its shape in order, if the nodes of the array have
as many children as the shape. -/
theorem descendants_drawn (tree : SyntaxTree) {id : Nat} {kind : NodeKind} {shapes : List Shape}
    (drawn : Draws tree.nodes (.node id) (.node kind shapes))
    (enough : (Shape.node kind shapes).places ≤ tree.childCount) :
    List.Forall₂ (fun id node => Draws tree.nodes (.node id) (.node node.1 node.2))
      (id :: tree.descendants id) (Shape.node kind shapes).nodes := by
  have visits := tree.visits_walk drawn enough
  rw [descendants_eq visits]
  exact .cons drawn (visits.nodes (tree.children_drawn drawn))

/-- A node is beneath another exactly if the whole walk comes to it. -/
theorem mem_descendants_iff {tree : SyntaxTree} {id : Nat}
    (visits : tree.Visits (tree.children id) ((tree.walk id).toList.map (·.2))) (below : Nat) :
    below ∈ tree.descendants id ↔ Child.node below ∈ (tree.walk id).toList.map (·.2) := by
  rw [descendants_eq visits, List.mem_filterMap]
  constructor
  · rintro ⟨child, member, same⟩
    cases child with
    | token => contradiction
    | node => exact Option.some.inj same ▸ member
  · exact fun member => ⟨_, member, rfl⟩

/-- The nodes beneath a node are closed under taking children. -/
theorem mem_descendants_of_child (tree : SyntaxTree) {id parent child : Nat} {kind : NodeKind}
    {shapes : List Shape} (drawn : Draws tree.nodes (.node id) (.node kind shapes))
    (enough : (Shape.node kind shapes).places ≤ tree.childCount)
    (above : parent ∈ id :: tree.descendants id) (member : .node child ∈ tree.children parent) :
    child ∈ tree.descendants id := by
  have visits := tree.visits_walk drawn enough
  obtain ⟨all, closed⟩ := visits.closed
  rw [mem_descendants_iff visits]
  rcases List.mem_cons.1 above with rfl | below
  · exact all member
  · exact closed parent ((mem_descendants_iff visits parent).1 below) member

/-- What is in a list has a partner in a list that matches it. -/
theorem exists_partner {α β : Type} {related : α → β → Prop} {left : List α} {right : List β}
    (each : List.Forall₂ related left right) {x : α} (member : x ∈ left) :
    ∃ y ∈ right, related x y := by
  induction each with
  | nil => contradiction
  | cons here _ ih =>
    rcases List.mem_cons.1 member with rfl | further
    · exact ⟨_, List.mem_cons_self, here⟩
    · obtain ⟨y, listed, there⟩ := ih further
      exact ⟨y, List.mem_cons_of_mem _ listed, there⟩

/-- A node beneath another is one of its shape. -/
theorem exists_node (tree : SyntaxTree) {id below : Nat} {kind : NodeKind} {shapes : List Shape}
    (drawn : Draws tree.nodes (.node id) (.node kind shapes))
    (enough : (Shape.node kind shapes).places ≤ tree.childCount)
    (member : below ∈ id :: tree.descendants id) : ∃ node ∈ (Shape.node kind shapes).nodes,
      Draws tree.nodes (.node below) (.node node.1 node.2) :=
  exists_partner (tree.descendants_drawn drawn enough) member

/-- A node of its shape lies beneath a node, or is that node. -/
theorem exists_id (tree : SyntaxTree) {id : Nat} {kind : NodeKind} {shapes : List Shape}
    {node : NodeKind × List Shape} (drawn : Draws tree.nodes (.node id) (.node kind shapes))
    (enough : (Shape.node kind shapes).places ≤ tree.childCount)
    (member : node ∈ (Shape.node kind shapes).nodes) : ∃ below ∈ id :: tree.descendants id,
      Draws tree.nodes (.node below) (.node node.1 node.2) :=
  exists_partner (tree.descendants_drawn drawn enough).flip member

/-- The tokens that a drawn node has as children are those of its shape. -/
theorem childTokens_of_draws (tree : SyntaxTree) {id : Nat} {kind : NodeKind}
    {shapes : List Shape} (drawn : Draws tree.nodes (.node id) (.node kind shapes)) :
    tree.childTokens id = shapes.filterMap Shape.token? := by
  have beneath := tree.children_drawn drawn
  rw [childTokens]
  generalize tree.children id = children at beneath
  clear drawn
  induction children generalizing shapes with
  | nil => cases beneath with | nil => rfl
  | cons child children ih =>
    cases beneath with
    | cons first rest =>
      cases first with
      | token index => exact congrArg (index :: ·) (ih rest)
      | node => exact (ih rest).trans (List.filterMap_cons_none rfl).symm

/-- A token is a child of one node only, if the leaves of the tree are different. -/
theorem childTokens_unique (tree : SyntaxTree) {id : Nat} {kind : NodeKind} {shapes : List Shape}
    (drawn : Draws tree.nodes (.node id) (.node kind shapes))
    (enough : (Shape.node kind shapes).places ≤ tree.childCount)
    (different : (Shape.node kind shapes).leaves.Nodup) {left right token : Nat}
    (one : left ∈ id :: tree.descendants id) (other : right ∈ id :: tree.descendants id)
    (first : token ∈ tree.childTokens left) (second : token ∈ tree.childTokens right) :
    left = right := by
  have each := tree.descendants_drawn drawn enough
  generalize id :: tree.descendants id = ids at each one other
  have same : ids.flatMap tree.childTokens =
      (Shape.node kind shapes).nodes.flatMap fun node => node.2.filterMap Shape.token? := by
    generalize (Shape.node kind shapes).nodes = nodes at each
    clear one other
    induction each with
    | nil => rfl
    | cons here _ ih =>
      rw [List.flatMap_cons, List.flatMap_cons, tree.childTokens_of_draws here, ih]
  have apart : (ids.flatMap tree.childTokens).Nodup := by
    rw [same, (Shape.leaves_perm kind shapes).nodup_iff]
    exact different
  by_contra distinct
  have : Std.Symm (Function.onFun List.Disjoint tree.childTokens) := 
    ⟨fun _ _ apart _ here there => apart there here⟩
  have disjoint := (List.nodup_flatMap.1 apart).2.forall one other distinct
  exact disjoint first second

end SyntaxTree
end Stencil
