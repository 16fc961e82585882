import Stencil.Proofs.Token.Significant
import Stencil.Proofs.Tree.Growth
/-!
# Trees without white space

A tree is bare when its white space leaves are taken out, the other leaves are named by their rank
among the significant tokens, and the ranges of the nodes are forgotten. Building goes with that:
white space that is added makes no difference to the bare tree (`bare_token_of_space`), and every
other step of a builder is the same step on the bare tree.
-/

namespace Stencil

/-- A child of a bare node: white space is none. -/
def Child.bare? (stream : TokenStream) : Child → Option Child
  | .node id => some (.node id)
  | .token index =>
    if stream.kindAt? index = some .whitespace then none else some (.token (stream.rank index))

/-- The children of a bare node. -/
def bareChildren (stream : TokenStream) (children : Array Child) : Array Child :=
  children.filterMap (Child.bare? stream)

/-- A node without white space and without a place. -/
def Node.bare (stream : TokenStream) (node : Node) : Node :=
  ⟨node.kind, bareChildren stream node.children, 0, 0⟩

/-- An open node without white space and without a place. -/
def OpenNode.bare (stream : TokenStream) (node : OpenNode) : OpenNode :=
  ⟨node.kind, bareChildren stream node.children, 0⟩

/-- A tree without white space. -/
def SyntaxTree.bare (tree : SyntaxTree) (stream : TokenStream) : SyntaxTree :=
  ⟨tree.nodes.map (Node.bare stream), tree.root⟩

/-- No node is taken out. -/
theorem SyntaxTree.size_bare (tree : SyntaxTree) (stream : TokenStream) :
    (tree.bare stream).size = tree.size := Array.size_map

namespace TreeBuilder

/-- A tree that is being built, without white space. -/
def bare (builder : TreeBuilder) (stream : TokenStream) : TreeBuilder :=
  ⟨#[], builder.nodes.map (Node.bare stream), builder.opened.map (OpenNode.bare stream),
    builder.lastClosed⟩

variable {stream : TokenStream}

/-- Children side by side are stripped of white space one by one. -/
theorem bareChildren_append (left right : Array Child) :
    bareChildren stream (left ++ right) = bareChildren stream left ++ bareChildren stream right :=
  Array.filterMap_append Array.size_append

/-- Another child is another bare child unless it is white space. -/
theorem bareChildren_push (children : Array Child) (child : Child) :
    bareChildren stream (children.push child) =
      match child.bare? stream with
      | none => bareChildren stream children
      | some bare => (bareChildren stream children).push bare := by
  rw [bareChildren, bareChildren, Array.filterMap_push (Array.size_push _)]
  split <;> rename_i found <;> rw [found]

/-- As many nodes are open. -/
theorem length_opened_bare (builder : TreeBuilder) (stream : TokenStream) :
    (builder.bare stream).opened.length = builder.opened.length := List.length_map ..

/-- A child is added as its bare form. -/
theorem bare_add (builder : TreeBuilder) {child bare : Child}
    (seen : child.bare? stream = some bare) :
    (builder.add child).bare stream = (builder.bare stream).add bare := by
  obtain ⟨tokens, nodes, opened, last⟩ := builder
  cases opened with
  | nil => rfl
  | cons innermost outer =>
    simp only [add, TreeBuilder.bare, List.map_cons, OpenNode.bare, bareChildren_push, seen]

/-- White space makes no difference. -/
theorem bare_token_of_space (builder : TreeBuilder) {index : Nat}
    (space : stream.kindAt? index = some .whitespace) :
    (builder.token index).bare stream = builder.bare stream := by
  have unseen : Child.bare? stream (.token index) = none := if_pos space
  obtain ⟨tokens, nodes, opened, last⟩ := builder
  cases opened with
  | nil => rfl
  | cons innermost outer =>
    simp only [token, add, TreeBuilder.bare, List.map_cons, OpenNode.bare, bareChildren_push,
      unseen]

/-- A significant token is added by its rank. -/
theorem bare_token (builder : TreeBuilder) {index : Nat}
    (solid : stream.kindAt? index ≠ some .whitespace) :
    (builder.token index).bare stream = (builder.bare stream).token (stream.rank index) :=
  builder.bare_add (if_neg solid)

/-- Bare nodes have no place. -/
theorem closedRange_bare (nodes : Array Node) (node : OpenNode) :
    closedRange #[] (nodes.map (Node.bare stream)) (node.bare stream) = (0, 0) := by
  have nowhere (child : Child) :
      rangeOf #[] (nodes.map (Node.bare stream)) child = (0, 0) := by
    cases child with
    | token index => rfl
    | node id =>
      rw [rangeOf, Array.getElem?_map]
      cases nodes[id]? <;> rfl
  rw [closedRange]
  split
  · rw [nowhere, nowhere]
  · rfl

/-- To close a node and to strip the builder of white space can be exchanged. -/
theorem bare_finishNode (builder : TreeBuilder) :
    builder.finishNode.bare stream = (builder.bare stream).finishNode := by
  obtain ⟨tokens, nodes, opened, last⟩ := builder
  cases opened with
  | nil => rfl
  | cons innermost outer =>
    simp only [finishNode]
    rw [bare_add _ rfl]
    simp only [TreeBuilder.bare, List.map_cons, closedRange_bare, Array.map_push, Array.size_map]
    rfl

/-- To close nodes and to strip the builder of white space can be exchanged. -/
theorem bare_finishNodes (builder : TreeBuilder) (count : Nat) :
    (builder.finishNodes count).bare stream = (builder.bare stream).finishNodes count := by
  induction count generalizing builder with
  | zero => rfl
  | succ count ih => rw [finishNodes, finishNodes, ih, bare_finishNode]

/-- To finish a tree and to strip it of white space can be exchanged. -/
theorem bare_finish (builder : TreeBuilder) :
    builder.finish.bare stream = (builder.bare stream).finish := by
  have closed : (builder.bare stream).finishNodes (builder.bare stream).depth =
      (builder.finishNodes builder.depth).bare stream := by
    rw [depth, length_opened_bare, bare_finishNodes, depth]
  rw [finish, finish, closed]
  generalize builder.finishNodes builder.depth = closed
  obtain ⟨tokens, nodes, opened, last⟩ := closed
  cases last with
  | some root => rfl
  | none =>
    simp only [SyntaxTree.bare, TreeBuilder.bare, Array.map_push, Array.size_map]
    rfl

/-- A node opened at a checkpoint takes over the bare children that came after it. -/
theorem bare_startAt {earlier middle : TreeBuilder} (within : earlier.opened ≠ [])
    {shapes : List Shape} (gained : earlier.Gains middle shapes) (kind : NodeKind)
    (offset : Nat) : (middle.startAt earlier.checkpoint kind offset).bare stream =
      (middle.bare stream).startAt (earlier.bare stream).checkpoint kind 0 := by
  obtain ⟨innermost, outer, opened⟩ := List.exists_cons_of_ne_nil within
  obtain ⟨added, children, -, -, now, -, -⟩ := gained _ _ opened
  obtain ⟨tokens, nodes, _, last⟩ := middle
  obtain rfl := now
  have place : earlier.checkpoint = ⟨outer.length + 1, innermost.children.size⟩ := by
    simp [checkpoint, depth, opened]
  have bare : (earlier.bare stream).checkpoint =
      ⟨(outer.map (OpenNode.bare stream)).length + 1, (innermost.bare stream).children.size⟩ := by
    simp [checkpoint, depth, TreeBuilder.bare, opened]
  have before : TreeBuilder.bare ⟨tokens, nodes,
      { innermost with children := innermost.children ++ children } :: outer, last⟩ stream =
      ⟨#[], nodes.map (Node.bare stream),
        { innermost.bare stream with
          children := (innermost.bare stream).children ++ bareChildren stream children } ::
          outer.map (OpenNode.bare stream), last⟩ := by
    simp only [TreeBuilder.bare, List.map_cons, OpenNode.bare, bareChildren_append]
  rw [place, startAt_of_gained, bare, before, startAt_of_gained]
  rfl

end TreeBuilder
end Stencil
