import Stencil.Json
import Stencil.Token.Stream
import Stencil.Tree.Kind
/-!
# Syntax trees

The nodes of a tree lie in one array, children before parents, and are named by their place in it.
A child is a node or the index of a token, so that every token of a source, white space included,
is a leaf. The nodes and the tokens beneath a node are listed by loops over a stack, whose last
entry comes next; an outline goes along a walk that also keeps depths.
-/

namespace Stencil

/-- A child of a node. -/
inductive Child where
  | node (id : Nat)
  /-- The index of a token in the stream that was parsed. -/
  | token (index : Nat)
  deriving DecidableEq

/-- A node, with the byte range of everything beneath it. -/
structure Node where
  kind : NodeKind
  children : Array Child
  start : Nat
  stop : Nat
  deriving DecidableEq

/-- Whether a node covers no byte. -/
def Node.isEmpty (node : Node) : Bool := node.start = node.stop

/-- The nodes of a parsed template. -/
structure SyntaxTree where
  nodes : Array Node
  root : Nat
  deriving DecidableEq

namespace SyntaxTree

/-- The number of nodes. -/
def size (tree : SyntaxTree) : Nat := tree.nodes.size

/-- The node with a given place in the array. -/
def node? (tree : SyntaxTree) (id : Nat) : Option Node := tree.nodes[id]?

/-- The kind of a node. -/
def kind? (tree : SyntaxTree) (id : Nat) : Option NodeKind := (tree.node? id).map (·.kind)

/-- Whether a node is of a kind. -/
def isKind (tree : SyntaxTree) (kind : NodeKind) (id : Nat) : Bool := tree.kind? id = some kind

/-- The children of a node, in order. -/
def children (tree : SyntaxTree) (id : Nat) : List Child :=
  ((tree.node? id).map (·.children.toList)).getD []

/-- The children of a node that are nodes. -/
def childNodes (tree : SyntaxTree) (id : Nat) : List Nat :=
  (tree.children id).filterMap fun
    | .node child => some child
    | .token _ => none

/-- The children of a node that are tokens. -/
def childTokens (tree : SyntaxTree) (id : Nat) : List Nat :=
  (tree.children id).filterMap fun
    | .node _ => none
    | .token index => some index

/-- The first child node of a kind. -/
def firstChild? (tree : SyntaxTree) (id : Nat) (kind : NodeKind) : Option Nat :=
  (tree.childNodes id).find? (tree.isKind kind)

/-! ### Walks -/

/-- The number of child places in the whole tree; a walk visits each at most once. -/
def childCount (tree : SyntaxTree) : Nat :=
  tree.nodes.foldl (fun count node => count + node.children.size) 0

/-- What lies beneath a node, and how far beneath the start of the walk. -/
def beneath (tree : SyntaxTree) (depth : Nat) (id : Nat) : List (Nat × Child) :=
  (tree.children id).map fun child => (depth, child)

/-- A walk in document order over pending children, onto those visited before: the next child is
visited, and its own children come before the pending ones. -/
def walkFrom (tree : SyntaxTree) (visited : Array (Nat × Child)) :
    (steps : Nat) → (pending : List (Nat × Child)) → Array (Nat × Child)
  | 0, _ => visited
  | _ + 1, [] => visited
  | steps + 1, (depth, child) :: pending =>
    let inner := match child with
      | .node id => tree.beneath (depth + 1) id
      | .token _ => []
    walkFrom tree (visited.push (depth, child)) steps (inner ++ pending)

/-- Everything beneath a node in document order, with its depth below that node. -/
def walk (tree : SyntaxTree) (id : Nat) : Array (Nat × Child) :=
  tree.walkFrom #[] tree.childCount (tree.beneath 1 id)

/-- A stack with its entries from a place on in the opposite order. -/
def turnFrom (stack : Array Nat) (start : Nat) : Array Nat :=
  let turned := (stack.extract start).toList.reverse
  stack.shrink start ++ turned

/-- Nodes off the end of a stack, onto those found before. The child nodes of each go onto the
stack in order and are turned there, so that the first of them comes next. -/
def descendFrom (tree : SyntaxTree) (found : Array Nat) :
    (steps : Nat) → (stack : Array Nat) → Array Nat
  | 0, _ => found
  | steps + 1, stack =>
    match stack.back? with
    | none => found
    | some next =>
      let rest := stack.pop
      descendFrom tree (found.push next) steps
        (turnFrom (rest ++ tree.childNodes next) rest.size)

/-- The nodes beneath a node, in document order. -/
def descendants (tree : SyntaxTree) (id : Nat) : List Nat :=
  (tree.descendFrom #[] tree.childCount (turnFrom (tree.childNodes id).toArray 0)).toList

/-- Tokens off the end of a stack, onto those found before. A node is replaced by its children,
the last of them first. -/
def leavesFrom (tree : SyntaxTree) (tokens : Array Nat) :
    (steps : Nat) → (stack : Array Child) → Array Nat
  | 0, _ => tokens
  | steps + 1, stack =>
    match stack.back? with
    | none => tokens
    | some (.token index) => leavesFrom tree (tokens.push index) steps stack.pop
    | some (.node id) => leavesFrom tree tokens steps (stack.pop ++ (tree.children id).reverse)

/-- The tokens beneath a node, in document order. -/
def tokensOf (tree : SyntaxTree) (id : Nat) : List Nat :=
  (tree.leavesFrom #[] tree.childCount (tree.children id).reverse.toArray).toList

/-- Every node of a kind in document order, the root included. -/
def findAll (tree : SyntaxTree) (kind : NodeKind) : List Nat :=
  (tree.root :: tree.descendants tree.root).filter (tree.isKind kind)

/-- The number of nodes of a kind, counted in the array. -/
def count (tree : SyntaxTree) (kind : NodeKind) : Nat :=
  tree.nodes.countP fun node => node.kind = kind

/-- The kinds of the nodes beneath the root, each with the number of its nodes in the array. -/
def kindCounts (tree : SyntaxTree) : List (NodeKind × Nat) :=
  let kinds := (tree.descendants tree.root).filterMap tree.kind?
  (NodeKind.all.filter kinds.contains).map fun kind => (kind, tree.count kind)

/-- The text a node covers. -/
def nodeText (tree : SyntaxTree) (id : Nat) (source : String) : String :=
  ((tree.node? id).map fun node => Text.slice source node.start node.stop).getD ""

/-! ### Coverage -/

/-- Why the leaves of a tree are not the tokens of a stream. -/
inductive LeafFault where
  | wrongCount (held expected : Nat)
  | outOfOrder (index place : Nat)
  deriving DecidableEq

/-- What is wrong with the leaves, in one line. -/
def LeafFault.message : LeafFault → String
  | .wrongCount held expected =>
    "Tree holds " ++ toString held ++ " tokens, stream has " ++ toString expected
  | .outOfOrder index place =>
    "Token " ++ toString index ++ " found at leaf position " ++ toString place

/-- The first leaf that is not the token of its place. -/
def outOfOrder? : (place : Nat) → List Nat → Option LeafFault
  | _, [] => none
  | place, index :: rest =>
    if index = place then outOfOrder? (place + 1) rest else some (.outOfOrder index place)

/-- The leaves of a tree are the tokens of a stream, each once and in order. -/
def coverage (tree : SyntaxTree) (stream : TokenStream) : Except LeafFault Unit :=
  let leaves := tree.tokensOf tree.root
  if leaves.length ≠ stream.size then .error (.wrongCount leaves.length stream.size)
  else match outOfOrder? 0 leaves with
    | some fault => .error fault
    | none => .ok ()

/-! ### Dumps -/

/-- Two spaces for each level. -/
def indent (depth : Nat) : String := "".pushn ' ' (2 * depth)

/-- The line of a node: its kind and range. -/
def nodeLine (tree : SyntaxTree) (depth id : Nat) : String :=
  match tree.node? id with
  | none => ""
  | some node =>
    indent depth ++ node.kind.name ++ "@" ++ toString node.start ++ ".." ++ toString node.stop ++
      "\n"

/-- The line of a token: its kind, range and text. -/
def tokenLine (stream : TokenStream) (depth index : Nat) : String :=
  match stream.tokens[index]? with
  | none => ""
  | some token =>
    indent depth ++ token.label ++ " " ++ Text.quote (token.text stream.source) ++ "\n"

/-- An indented outline of a tree, one line per node or token. -/
def dump (tree : SyntaxTree) (stream : TokenStream) : String :=
  (tree.walk tree.root).foldl
    (fun out entry => match entry with
      | (depth, .node id) => out ++ tree.nodeLine depth id
      | (depth, .token index) => out ++ tokenLine stream depth index)
    (tree.nodeLine 0 tree.root)

end SyntaxTree

/-- A child as data. -/
def Child.toJson : Child → Json
  | .node id => .obj [("Node", id)]
  | .token index => .obj [("Token", index)]

/-- A node as data. -/
def Node.toJson (node : Node) : Json :=
  .obj
    [("kind", node.kind.name), ("children", .arr (node.children.toList.map Child.toJson)),
     ("start", node.start), ("end", node.stop)]

/-- A tree as data. -/
def SyntaxTree.toJson (tree : SyntaxTree) : Json :=
  .obj [("nodes", .arr (tree.nodes.toList.map Node.toJson)), ("root", tree.root)]

end Stencil
