import Mathlib.Data.List.Nodup
import Stencil.Proofs.Tree.Growth
import Stencil.Proofs.Tree.Nodes
/-!
# Trees built by any calls

A builder may be called in any order, with checkpoints that are stale or were taken in another node.
Nothing is lost, doubled or reordered by that: the children of the open nodes in a row, outermost
first, are what the builder holds, and opening a node cuts that row at another place but does not
change it (`held_startAt`). `Gathered` is what the row and the closed nodes satisfy together, each
call keeps it, and when the last node is closed it says what the tree is made of (`calls_finish`).
-/

namespace Stencil

/-- Children drawn side by side are drawn part by part. -/
theorem DrawsAll.split {nodes : Array Node} {left right : List Child} {shapes : List Shape}
    (drawn : DrawsAll nodes (left ++ right) shapes) :
    ∃ front back, shapes = front ++ back ∧ DrawsAll nodes left front ∧
      DrawsAll nodes right back := by
  induction left generalizing shapes with
  | nil => exact ⟨[], shapes, rfl, .nil, drawn⟩
  | cons child left ih =>
    cases drawn with
    | cons first rest =>
      obtain ⟨front, back, rfl, one, two⟩ := ih rest
      exact ⟨_ :: front, back, rfl, .cons first one, two⟩

/-- A child of a drawn node is drawn by one of the shapes of its children. -/
theorem DrawsAll.exists_of_mem {nodes : Array Node} {children : List Child} {shapes : List Shape}
    (drawn : DrawsAll nodes children shapes) {child : Child} (member : child ∈ children) :
    ∃ shape ∈ shapes, Draws nodes child shape := by
  induction children generalizing shapes with
  | nil => contradiction
  | cons first children ih =>
    cases drawn with
    | cons here rest =>
      rcases List.mem_cons.1 member with rfl | further
      · exact ⟨_, List.mem_cons_self, here⟩
      · obtain ⟨shape, listed, there⟩ := ih rest further
        exact ⟨shape, List.mem_cons_of_mem _ listed, there⟩

/-! ### What is held and what is closed -/

/-- The nodes among some children. -/
def nodesAmong (children : List Child) : List Nat := children.filterMap SyntaxTree.childNode?

/-- The nodes among two rows of children are those of the one and then those of the other. -/
@[simp]
theorem nodesAmong_append (left right : List Child) :
    nodesAmong (left ++ right) = nodesAmong left ++ nodesAmong right := List.filterMap_append

/-- A node is among children exactly if it is one of them. -/
theorem mem_nodesAmong {children : List Child} {id : Nat} :
    id ∈ nodesAmong children ↔ .node id ∈ children := by
  rw [nodesAmong, List.mem_filterMap]
  constructor
  · rintro ⟨child, listed, same⟩
    cases child with
    | node below => exact Option.some.inj same ▸ listed
    | token index => contradiction
  · exact fun listed => ⟨_, listed, rfl⟩

/-- The nodes that are children of nodes in an array. -/
def nodesBeneath (nodes : Array Node) : List Nat :=
  nodes.toList.flatMap fun node => nodesAmong node.children.toList

/-- Closed nodes, and a row of children that no closed node has, with these tokens beneath them in
order. Every closed node is listed once, in the row or among the children of a later node. -/
structure Gathered (nodes : Array Node) (held : List Child) (given : List Nat) : Prop where
  drawn : ∃ shapes, DrawsAll nodes held shapes ∧ Shape.leavesAll shapes = given ∧
    childTotal nodes = Shape.placesAll shapes
  once : (nodesBeneath nodes ++ nodesAmong held).Perm (List.range nodes.size)
  earlier : ∀ ⦃parent : Nat⦄ ⦃node : Node⦄, nodes[parent]? = some node →
    ∀ below, .node below ∈ node.children.toList → below < parent

namespace Gathered

variable {nodes : Array Node} {held outer : List Child} {given : List Nat}

/-- Without nodes nothing is held. -/
theorem empty : Gathered #[] [] [] := ⟨⟨[], .nil, rfl, rfl⟩, .nil, nofun⟩

/-- A token is held after what is held already. -/
theorem token (gathered : Gathered nodes held given) (index : Nat) :
    Gathered nodes (held ++ [.token index]) (given ++ [index]) := by
  obtain ⟨shapes, drawn, leaves, places⟩ := gathered.drawn
  refine ⟨⟨shapes ++ [.token index], drawn.concat (.cons (.token index) .nil), ?_, ?_⟩, ?_,
    gathered.earlier⟩
  · rw [Shape.leavesAll_append, leaves]
    rfl
  · rw [Shape.placesAll_append, places]
    rfl
  · rw [nodesAmong_append, show nodesAmong [.token index] = [] from rfl, List.append_nil]
    exact gathered.once

/-- The last of what is held goes into a node, which is held in its place. -/
theorem close {inner : Array Child} (gathered : Gathered nodes (outer ++ inner.toList) given)
    (kind : NodeKind) (start stop : Nat) :
    Gathered (nodes.push ⟨kind, inner, start, stop⟩) (outer ++ [.node nodes.size]) given := by
  obtain ⟨shapes, drawn, leaves, places⟩ := gathered.drawn
  obtain ⟨front, back, rfl, kept, taken⟩ := drawn.split
  have found : (nodes.push ⟨kind, inner, start, stop⟩)[nodes.size]? =
      some ⟨kind, inner, start, stop⟩ := Array.getElem?_push_size
  have size := taken.length_eq
  rw [Array.length_toList] at size
  refine ⟨⟨front ++ [.node kind back], ?_, ?_, ?_⟩, ?_, ?_⟩
  · rw [← Array.append_singleton] at found ⊢
    exact (kept.append _).concat (.cons (.node found (taken.append _)) .nil)
  · rw [← leaves, Shape.leavesAll_append, Shape.leavesAll_append, Shape.leavesAll, Shape.leaves,
      Shape.leavesAll, List.append_nil]
  · rw [Shape.placesAll_append] at places ⊢
    rw [childTotal_push, Shape.placesAll, Shape.placesAll, Shape.places]
    dsimp only
    omega
  · have once := gathered.once
    rw [nodesAmong_append] at once
    rw [nodesBeneath, Array.toList_push, List.flatMap_append, ← nodesBeneath,
      List.flatMap_singleton, nodesAmong_append, Array.size_push, List.range_succ,
      show nodesAmong [.node nodes.size] = [nodes.size] from rfl, ← List.append_assoc,
      List.append_assoc (nodesBeneath nodes)]
    refine List.Perm.append_right _ (List.Perm.trans ?_ once)
    exact List.perm_append_comm.append_left _
  · intro parent node listed below member
    rw [Array.getElem?_push] at listed
    split at listed
    next last =>
      obtain rfl := Option.some.inj listed
      have within : below ∈ nodesBeneath nodes ++ nodesAmong (outer ++ inner.toList) := by
        rw [nodesAmong_append]
        exact List.mem_append_right _ (List.mem_append_right _ (mem_nodesAmong.2 member))
      rw [last]
      exact List.mem_range.1 (gathered.once.mem_iff.1 within)
    · exact gathered.earlier listed below member

end Gathered

/-! ### Calls -/

namespace TreeBuilder

/-- A call of a builder. Any checkpoint may be handed in, be it stale, taken in another node or
never taken. -/
inductive Call where
  | start (kind : NodeKind) (offset : Nat)
  | checkpoint
  | startAt (checkpoint : Checkpoint) (kind : NodeKind) (offset : Nat)
  | token (index : Nat)
  | finishNode

/-- The token that a call hands in. -/
def Call.token? : Call → Option Nat
  | .token index => some index
  | _ => none

/-- The builder after a call. -/
def call (builder : TreeBuilder) : Call → TreeBuilder
  | .start kind offset => builder.start kind offset
  | .checkpoint => builder
  | .startAt checkpoint kind offset => builder.startAt checkpoint kind offset
  | .token index => builder.token index
  | .finishNode => builder.finishNode

/-- The builder after calls in a row. -/
def calls (builder : TreeBuilder) (made : List Call) : TreeBuilder := made.foldl call builder

/-- The children of all open nodes in a row, those of the outermost first. -/
def held (builder : TreeBuilder) : List Child :=
  builder.opened.reverse.flatMap fun node => node.children.toList

/-- The innermost open node holds the end of the row. -/
theorem held_cons (tokens : Array Token) (nodes : Array Node) (node : OpenNode)
    (outer : List OpenNode) (last : Option Nat) :
    held ⟨tokens, nodes, node :: outer, last⟩ =
      held ⟨tokens, nodes, outer, last⟩ ++ node.children.toList := by
  rw [held, List.reverse_cons, List.flatMap_append, List.flatMap_singleton]
  rfl

/-- A node that is opened holds nothing yet. -/
theorem held_start (builder : TreeBuilder) (kind : NodeKind) (offset : Nat) :
    (builder.start kind offset).held = builder.held := by
  rw [start, held_cons]
  exact List.append_nil _

/-- A node that is opened at a checkpoint, whichever it is, takes a part of the row over in place.
-/
theorem held_startAt (builder : TreeBuilder) (checkpoint : Checkpoint) (kind : NodeKind)
    (offset : Nat) : (builder.startAt checkpoint kind offset).held = builder.held := by
  obtain ⟨tokens, nodes, opened, last⟩ := builder
  cases opened with
  | nil => rfl
  | cons innermost outer =>
    rw [startAt]
    split
    · -- The children from the checkpoint on and those before it are all of them, wherever it lies.
      have kept : (innermost.children.shrink checkpoint.children).toList =
          innermost.children.toList.take checkpoint.children := by simp
      have taken : (innermost.children.extract checkpoint.children innermost.children.size).toList =
          innermost.children.toList.drop checkpoint.children := by
        rw [Array.toList_extract, List.extract_eq_take_drop]
        exact List.take_of_length_le (by simp)
      dsimp only
      rw [held_cons, held_cons, held_cons, List.append_assoc, kept, taken, List.take_append_drop]
    · rw [held_cons]
      exact List.append_nil _

/-- What the outermost open node was opened with. -/
def outermost? (builder : TreeBuilder) : Option (NodeKind × Nat) :=
  builder.opened.getLast?.map fun node => (node.kind, node.offset)

/-- A builder that holds these tokens beneath its open nodes, of which the outermost was opened with
a kind at an offset. -/
structure Building (builder : TreeBuilder) (kind : NodeKind) (offset : Nat) (given : List Nat) :
    Prop where
  gathered : Gathered builder.nodes builder.held given
  first : builder.outermost? = some (kind, offset)

variable {builder : TreeBuilder} {kind : NodeKind} {offset : Nat} {given : List Nat}

/-- A builder that is building has an open node. -/
theorem Building.opened_ne_nil (building : builder.Building kind offset given) :
    builder.opened ≠ [] := by
  intro none
  have first := building.first
  rw [outermost?, none] at first
  contradiction

/-- Of two open nodes the inner one is closed. -/
theorem Building.finishNode (building : builder.Building kind offset given)
    (still : builder.finishNode.opened ≠ []) : builder.finishNode.Building kind offset given := by
  obtain ⟨tokens, nodes, opened, last⟩ := builder
  obtain ⟨gathered, first⟩ := building
  match opened with
  | [] => contradiction
  | [node] => contradiction
  | node :: outer :: rest =>
    obtain ⟨start, stop, closed⟩ := finishNode_opened tokens nodes node outer rest last
    rw [closed]
    refine ⟨?_, ?_⟩
    · rw [held_cons] at gathered
      have after := gathered.close node.kind start stop
      rw [held_cons, List.append_assoc] at after
      rw [held_cons, Array.toList_push]
      exact after
    · rw [← first]
      cases rest <;> rfl

/-- Each call that leaves a node open adds its token, if it has one, and changes nothing else. -/
theorem Building.call (building : builder.Building kind offset given) (made : Call)
    (still : (builder.call made).opened ≠ []) :
    (builder.call made).Building kind offset (given ++ made.token?.toList) := by
  have opened := building.opened_ne_nil
  obtain ⟨gathered, first⟩ := building
  cases made with
  | start inner place =>
    refine ⟨?_, ?_⟩
    · rw [TreeBuilder.call, held_start]
      exact (List.append_nil given).symm ▸ gathered
    · rw [← first, outermost?, TreeBuilder.call, TreeBuilder.start,
        List.getLast?_cons_of_ne_nil opened]
      rfl
  | checkpoint => exact ⟨(List.append_nil given).symm ▸ gathered, first⟩
  | startAt checkpoint inner place =>
    have nodes : (builder.startAt checkpoint inner place).nodes = builder.nodes := by
      unfold TreeBuilder.startAt
      split
      · rfl
      · split <;> rfl
    refine ⟨?_, ?_⟩
    · rw [TreeBuilder.call, held_startAt, nodes]
      exact (List.append_nil given).symm ▸ gathered
    · rw [← first]
      obtain ⟨tokens, nodes, stack, last⟩ := builder
      obtain ⟨innermost, outer, rfl⟩ := List.exists_cons_of_ne_nil opened
      rw [TreeBuilder.call, TreeBuilder.startAt]
      split <;> cases outer <;> rfl
  | token index =>
    obtain ⟨tokens, nodes, stack, last⟩ := builder
    obtain ⟨innermost, outer, rfl⟩ := List.exists_cons_of_ne_nil opened
    refine ⟨?_, ?_⟩
    · have more := gathered.token index
      rw [held_cons, List.append_assoc] at more
      rw [TreeBuilder.call, TreeBuilder.token, add, held_cons, Array.toList_push]
      exact more
    · rw [← first]
      cases outer <;> rfl
  | finishNode =>
    rw [show Call.finishNode.token?.toList = [] from rfl, List.append_nil]
    exact Building.finishNode ⟨gathered, first⟩ still

/-- Calls that leave a node open at every moment hand in their tokens one after another. -/
theorem Building.calls (building : builder.Building kind offset given) {made : List Call}
    (still : ∀ front, front <+: made → (builder.calls front).opened ≠ []) :
    (builder.calls made).Building kind offset (given ++ made.filterMap Call.token?) := by
  induction made generalizing builder given with
  | nil => exact (List.append_nil given).symm ▸ building
  | cons next made ih =>
    have after := building.call next (still [next] (by simp))
    have rest := ih after fun front within =>
      still (next :: front) (List.cons_prefix_cons.2 ⟨rfl, within⟩)
    rw [List.append_assoc] at rest
    have tokens : next.token?.toList ++ made.filterMap Call.token? =
        (next :: made).filterMap Call.token? := by
      cases given : next.token? with
      | none => rw [List.filterMap_cons_none given]; rfl
      | some index => rw [List.filterMap_cons_some given]; rfl
    exact tokens ▸ rest

/-- Closing all open nodes closes the first one last. It becomes the root, with everything that was
handed in beneath it. -/
theorem Building.finish (building : builder.Building kind offset given) :
    let tree := builder.finish
    Gathered tree.nodes [.node tree.root] given ∧ tree.root + 1 = tree.size ∧
      ∃ root, tree.node? tree.root = some root ∧ root.kind = kind ∧
        (root.children = #[] → root.start = offset ∧ root.stop = offset) := by
  induction more : builder.opened.length generalizing builder with
  | zero => exact absurd (List.length_eq_zero_iff.1 more) building.opened_ne_nil
  | succ count ih =>
    cases count with
    | succ count =>
      have fewer : builder.finishNode.opened.length = count + 1 := by
        obtain ⟨tokens, nodes, opened, last⟩ := builder
        obtain ⟨node, outer, rest, rfl⟩ : ∃ node outer rest, opened = node :: outer :: rest := by
          match opened, more with
          | node :: outer :: rest, _ => exact ⟨node, outer, rest, rfl⟩
        exact Nat.succ.inj more
      have same : builder.finish = builder.finishNode.finish := by
        rw [TreeBuilder.finish, depth, more, TreeBuilder.finish, depth, fewer, finishNodes]
      rw [same]
      exact ih (building.finishNode fun none => by rw [none] at fewer; contradiction) fewer
    | zero =>
      obtain ⟨tokens, nodes, opened, last⟩ := builder
      obtain ⟨gathered, first⟩ := building
      obtain ⟨node, rfl⟩ := List.length_eq_one_iff.1 more
      obtain ⟨rfl, rfl⟩ := Prod.mk.inj (Option.some.inj first)
      generalize range : closedRange tokens nodes node = span
      have closed : TreeBuilder.finish ⟨tokens, nodes, [node], last⟩ =
          ⟨nodes.push ⟨node.kind, node.children, span.1, span.2⟩, nodes.size⟩ := by
        rw [← range]
        rfl
      rw [closed]
      rw [held_cons] at gathered
      refine ⟨gathered.close _ _ _, (Array.size_push _).symm, _, Array.getElem?_push_size, rfl,
        fun empty => ?_⟩
      obtain rfl : span = (node.offset, node.offset) := by
        rw [← range, closedRange, show node.children = #[] from empty]
        rfl
      exact ⟨rfl, rfl⟩

end TreeBuilder

/-! ### The tree -/

namespace SyntaxTree

/-- The child nodes of a node are the nodes among its children. -/
theorem childNodes_eq (tree : SyntaxTree) (id : Nat) :
    tree.childNodes id = nodesAmong (tree.children id) := rfl

/-- The nodes that are children, listed parent by parent. -/
theorem flatMap_childNodes (tree : SyntaxTree) :
    (List.range tree.size).flatMap tree.childNodes = nodesBeneath tree.nodes := by
  have listed : (List.range tree.size).map tree.childNodes =
      tree.nodes.toList.map fun node => nodesAmong node.children.toList := by
    refine List.ext_getElem (by simp [size]) fun id inside within => ?_
    rw [List.length_map, Array.length_toList] at within
    have found : tree.nodes[id]? = some tree.nodes[id] := Array.getElem?_eq_getElem within
    have known := tree.children_of_found found
    rw [List.getElem_map, List.getElem_map, List.getElem_range, Array.getElem_toList,
      childNodes_eq, known]
  rw [List.flatMap_def, listed, nodesBeneath, List.flatMap_def]

/-- A node is a child node of another exactly if it is one of its children. -/
theorem mem_childNodes {tree : SyntaxTree} {parent id : Nat} :
    id ∈ tree.childNodes parent ↔ .node id ∈ tree.children parent := by
  rw [childNodes_eq, mem_nodesAmong]

/-- Only nodes of the tree have children. -/
theorem lt_size_of_mem_children {tree : SyntaxTree} {parent : Nat} {child : Child}
    (member : child ∈ tree.children parent) : parent < tree.size := by
  rw [children, node?] at member
  cases found : tree.nodes[parent]? with
  | none =>
    rw [found] at member
    contradiction
  | some node => exact (Array.getElem?_eq_some_iff.1 found).1

end SyntaxTree

namespace Gathered

variable {tree : SyntaxTree} {given : List Nat}

/-- The tokens beneath a single node that is held are those that were given. -/
theorem tokensOf (gathered : Gathered tree.nodes [.node tree.root] given) :
    tree.tokensOf tree.root = given := by
  obtain ⟨shapes, drawn, leaves, places⟩ := gathered.drawn
  cases drawn with
  | cons first rest =>
    cases rest with
    | nil =>
      simp only [Shape.leavesAll, Shape.placesAll, List.append_nil, Nat.add_zero] at leaves places
      rw [tree.tokensOf_eq_leaves first (Nat.le_of_eq (places.symm.trans tree.childCount_eq.symm)),
        leaves]

/-- Beneath a single node that is held, and is the last, each other node is listed once. -/
theorem perm_childNodes (gathered : Gathered tree.nodes [.node tree.root] given)
    (last : tree.root + 1 = tree.size) :
    ((List.range tree.size).flatMap tree.childNodes).Perm (List.range tree.root) := by
  have once := gathered.once
  rw [← tree.flatMap_childNodes, show tree.nodes.size = tree.root + 1 from last.symm,
    List.range_succ] at once
  exact (List.perm_append_right_iff _).1 once

/-- Then each other node has one parent, which lists it once. -/
theorem existsUnique_parent (gathered : Gathered tree.nodes [.node tree.root] given)
    (last : tree.root + 1 = tree.size) {id : Nat} (other : id < tree.root) :
    ∃! parent, Child.node id ∈ tree.children parent := by
  have perm := gathered.perm_childNodes last
  have apart := (List.nodup_flatMap.1 (perm.nodup_iff.2 List.nodup_range)).2
  obtain ⟨parent, -, member⟩ := List.mem_flatMap.1 (perm.mem_iff.2 (List.mem_range.2 other))
  refine ⟨parent, SyntaxTree.mem_childNodes.1 member, fun also listed => ?_⟩
  by_contra differ
  have : Std.Symm (Function.onFun List.Disjoint tree.childNodes) :=
    ⟨fun _ _ apart _ here there => apart there here⟩
  have inside := SyntaxTree.lt_size_of_mem_children (SyntaxTree.mem_childNodes.1 member)
  have within := SyntaxTree.lt_size_of_mem_children listed
  exact apart.forall (List.mem_range.2 within) (List.mem_range.2 inside) differ
    (SyntaxTree.mem_childNodes.2 listed) member

end Gathered

namespace TreeBuilder

/-- Whatever calls follow on the opening of a first node, as long as they leave it open, the tree is
rooted at that node and has the tokens that were handed in as its leaves, in the order of the calls.
Each other node is a child once, of one node, and comes before it; the root is the last node. -/
theorem calls_finish (tokens : Array Token) (kind : NodeKind) (offset : Nat) (made : List Call)
    (still : ∀ front, front <+: made → 0 < (((empty tokens).start kind offset).calls front).depth) :
    let tree := (((empty tokens).start kind offset).calls made).finish
    (∃ root, tree.node? tree.root = some root ∧ root.kind = kind ∧
      (root.children = #[] → root.start = offset ∧ root.stop = offset)) ∧
    tree.tokensOf tree.root = made.filterMap Call.token? ∧
    (∀ id < tree.size, id ≠ tree.root → ∃! parent, Child.node id ∈ tree.children parent) ∧
    (∀ parent, (tree.childNodes parent).Nodup) ∧
    (∀ parent child, Child.node child ∈ tree.children parent → child < parent) ∧
    tree.root + 1 = tree.size := by
  intro tree
  have begun : ((empty tokens).start kind offset).Building kind offset [] := ⟨.empty, rfl⟩
  have building := begun.calls fun front within =>
    List.ne_nil_of_length_pos (still front within)
  obtain ⟨gathered, last, root⟩ := building.finish
  rw [List.nil_append] at gathered
  refine ⟨root, gathered.tokensOf, fun id inside other => ?_, fun parent => ?_,
    fun parent child member => ?_, last⟩
  · have before : id < tree.root + 1 := Nat.lt_of_lt_of_eq inside last.symm
    have earlier : id < tree.root := Nat.lt_of_le_of_ne (Nat.le_of_lt_succ before) other
    exact gathered.existsUnique_parent last earlier
  · by_cases inside : parent < tree.size
    · have listed := (gathered.perm_childNodes last).nodup_iff.2 List.nodup_range
      exact (List.nodup_flatMap.1 listed).1 parent (List.mem_range.2 inside)
    · have none : tree.childNodes parent = [] := List.eq_nil_iff_forall_not_mem.2 fun id member =>
        inside (SyntaxTree.lt_size_of_mem_children (SyntaxTree.mem_childNodes.1 member))
      rw [none]
      exact List.nodup_nil
  · have inside := SyntaxTree.lt_size_of_mem_children member
    have found : tree.nodes[parent]? = some tree.nodes[parent] := Array.getElem?_eq_getElem inside
    rw [tree.children_of_found found] at member
    exact gathered.earlier found child member

/-- A checkpoint of the first node is used in another node, and once more when the children that it
counted are gone. -/
theorem calls_finish_stale :
    let made : List Call := [.token 0, .checkpoint, .start .variableTag 1, .token 1,
      .startAt ⟨1, 1⟩ .error 2, .token 2, .finishNode, .finishNode, .startAt ⟨1, 0⟩ .text 3,
      .finishNode, .startAt ⟨1, 5⟩ .comment 4, .token 3]
    let builder := (empty #[]).start .template 0
    (∀ front, front <+: made → 0 < (builder.calls front).depth) ∧
      (builder.calls made).finish.tokensOf (builder.calls made).finish.root = [0, 1, 2, 3] := by
  intro made builder
  have still : ∀ front, front <+: made → 0 < (builder.calls front).depth := by
    intro front within
    have each : ∀ count < 13, 0 < (builder.calls (made.take count)).depth := by decide
    have short : front.length < 13 := Nat.lt_succ_of_le within.length_le
    rw [List.prefix_iff_eq_take.1 within]
    exact each _ short
  exact ⟨still, (calls_finish #[] .template 0 made still).2.1⟩

end TreeBuilder
end Stencil
