import Stencil.Tree.Basic
/-!
# Building trees

Nodes are opened and closed in stack order. A checkpoint remembers how many children the innermost
open node had; a node opened at it later takes over the children added since. That is how operators
that group to the left, and steps that follow an operand, come to hold what was read before them.
-/

namespace Stencil

/-- The number of open nodes at some moment and of children in the innermost of them. -/
structure Checkpoint where
  depth : Nat
  children : Nat
  deriving DecidableEq

/-- A node that still takes children. -/
structure OpenNode where
  kind : NodeKind
  children : Array Child
  /-- Where the node lies if it ends up without children. -/
  offset : Nat

/-- A tree being built. -/
structure TreeBuilder where
  /-- The tokens that leaves stand for; they give the nodes their ranges. -/
  tokens : Array Token
  /-- The nodes closed so far. -/
  nodes : Array Node
  /-- The open nodes, innermost first. -/
  opened : List OpenNode
  /-- The node closed last. -/
  lastClosed : Option Nat

namespace TreeBuilder

/-- Nothing built yet. -/
def empty (tokens : Array Token) : TreeBuilder := ⟨tokens, #[], [], none⟩

/-- The number of open nodes. -/
def depth (builder : TreeBuilder) : Nat := builder.opened.length

/-- Opens a node in the innermost open node. -/
def start (builder : TreeBuilder) (kind : NodeKind) (offset : Nat) : TreeBuilder :=
  { builder with opened := ⟨kind, #[], offset⟩ :: builder.opened }

/-- The present moment. -/
def checkpoint (builder : TreeBuilder) : Checkpoint :=
  ⟨builder.depth, (builder.opened.head?.map (·.children.size)).getD 0⟩

/-- Opens a node around the children added to the innermost open node since a checkpoint. A
checkpoint that was taken in another node yields none. -/
def startAt (builder : TreeBuilder) (checkpoint : Checkpoint) (kind : NodeKind) (offset : Nat) :
    TreeBuilder :=
  match builder with
  | ⟨tokens, nodes, [], lastClosed⟩ => ⟨tokens, nodes, [⟨kind, #[], offset⟩], lastClosed⟩
  | ⟨tokens, nodes, ⟨outer, children, outerOffset⟩ :: rest, lastClosed⟩ =>
    if checkpoint.depth = rest.length + 1 then
      let taken := children.extract checkpoint.children children.size
      let kept := children.shrink checkpoint.children
      ⟨tokens, nodes, ⟨kind, taken, offset⟩ :: ⟨outer, kept, outerOffset⟩ :: rest, lastClosed⟩
    else
      ⟨tokens, nodes, ⟨kind, #[], offset⟩ :: ⟨outer, children, outerOffset⟩ :: rest, lastClosed⟩

/-- Adds a child to the innermost open node; without an open node it is lost. -/
def add (builder : TreeBuilder) (child : Child) : TreeBuilder :=
  match builder with
  | ⟨tokens, nodes, ⟨kind, children, offset⟩ :: rest, lastClosed⟩ =>
    ⟨tokens, nodes, ⟨kind, children.push child, offset⟩ :: rest, lastClosed⟩
  | ⟨tokens, nodes, [], lastClosed⟩ => ⟨tokens, nodes, [], lastClosed⟩

/-- Adds a token to the innermost open node. -/
def token (builder : TreeBuilder) (index : Nat) : TreeBuilder := builder.add (.token index)

/-- The byte range of a child. -/
def rangeOf (tokens : Array Token) (nodes : Array Node) : Child → Nat × Nat
  | .node id => (nodes[id]?.map fun node => (node.start, node.stop)).getD (0, 0)
  | .token index => (tokens[index]?.map fun token => (token.start, token.stop)).getD (0, 0)

/-- From the start of the first child to the end of the last, or the node's own place without
children. -/
def closedRange (tokens : Array Token) (nodes : Array Node) (node : OpenNode) : Nat × Nat :=
  match node.children[0]?, node.children.back? with
  | some first, some last => ((rangeOf tokens nodes first).1, (rangeOf tokens nodes last).2)
  | _, _ => (node.offset, node.offset)

/-- Closes the innermost open node and adds it to the one around it. -/
def finishNode (builder : TreeBuilder) : TreeBuilder :=
  match builder with
  | ⟨tokens, nodes, [], lastClosed⟩ => ⟨tokens, nodes, [], lastClosed⟩
  | ⟨tokens, nodes, node :: rest, _⟩ =>
    let (start, stop) := closedRange tokens nodes node
    let id := nodes.size
    let closed : TreeBuilder :=
      ⟨tokens, nodes.push ⟨node.kind, node.children, start, stop⟩, rest, some id⟩
    closed.add (.node id)

/-- Closes so many open nodes. -/
def finishNodes (builder : TreeBuilder) : Nat → TreeBuilder
  | 0 => builder
  | count + 1 => finishNodes builder.finishNode count

/-- Closes what is open and hands over the tree, with the node closed last as its root. Nothing
built makes an empty template. -/
def finish (builder : TreeBuilder) : SyntaxTree :=
  let closed := builder.finishNodes builder.depth
  match closed.lastClosed with
  | some root => ⟨closed.nodes, root⟩
  | none => ⟨closed.nodes.push ⟨.template, #[], 0, 0⟩, closed.nodes.size⟩

end TreeBuilder
end Stencil
