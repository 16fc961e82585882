import Mathlib.Data.List.Forall2
import Stencil.Tree.Builder
/-!
# Trees within trees

A tree may be built as a part of another one: its tokens come after others, its nodes are added to
nodes that are there already, and its outermost open node has children from before. Every step of
the builder keeps two trees related in this way (`TreeEmbedding.Carries`).
-/

namespace Stencil

/-- There is such a token or node in the tree. -/
def TreeBuilder.Knows (builder : TreeBuilder) : Child → Prop
  | .token index => index < builder.tokens.size
  | .node id => id < builder.nodes.size

/-- How a tree is part of another: the number of tokens before it, the nodes before it, the children
that the outermost node had before, and how offsets in it are related to offsets in the other. -/
structure TreeEmbedding where
  tokens : Nat
  nodes : Array Node
  children : Array Child
  offsets : Nat → Nat → Prop

namespace TreeEmbedding

variable (e : TreeEmbedding)

/-- A child in the other tree. -/
def child : Child → Child
  | .token index => .token (index + e.tokens)
  | .node id => .node (id + e.nodes.size)

/-- A node in the other tree. -/
structure CarriesNode (one two : Node) : Prop where
  kind : two.kind = one.kind
  children : two.children = one.children.map e.child
  start : e.offsets one.start two.start
  stop : e.offsets one.stop two.stop

/-- The children that an open node had before, given the nodes that are open around it. -/
def before (outer : List OpenNode) : Array Child := if outer.isEmpty then e.children else #[]

/-- Open nodes in the other tree. Where the outermost lies is of no concern: it has children. -/
inductive CarriesOpened : List OpenNode → List OpenNode → Prop where
  | nil : CarriesOpened [] []
  | cons {one two : OpenNode} {outer outer' : List OpenNode} (kind : two.kind = one.kind)
      (children : two.children = e.before outer ++ one.children.map e.child)
      (offset : outer ≠ [] → e.offsets one.offset two.offset)
      (rest : CarriesOpened outer outer') : CarriesOpened (one :: outer) (two :: outer')

/-- A tree that is being built as part of another. -/
structure Carries (b b' : TreeBuilder) : Prop where
  tokens {index : Nat} {token : Token} (found : b.tokens[index]? = some token) :
    ∃ other, b'.tokens[index + e.tokens]? = some other ∧ e.offsets token.start other.start ∧
      e.offsets token.stop other.stop
  nodes : ∃ later : List Node, b'.nodes.toList = e.nodes.toList ++ later ∧
    List.Forall₂ e.CarriesNode b.nodes.toList later
  opened : e.CarriesOpened b.opened b'.opened
  known : ∀ node ∈ b.opened, ∀ child ∈ node.children, b.Knows child

variable {e} {b b' : TreeBuilder}

/-- As many nodes are open. -/
theorem CarriesOpened.length {one two : List OpenNode} (opened : e.CarriesOpened one two) :
    two.length = one.length := by
  induction opened with
  | nil => rfl
  | cons _ _ _ _ ih => exact congrArg (· + 1) ih

/-- There are as many nodes more as there were before. -/
theorem Carries.size (both : e.Carries b b') : b'.nodes.size = b.nodes.size + e.nodes.size := by
  obtain ⟨later, nodes, same⟩ := both.nodes
  rw [← Array.length_toList, nodes, List.length_append, ← same.length_eq, Array.length_toList,
    Array.length_toList, Nat.add_comm]

/-- A node is found as many places later. -/
theorem Carries.node (both : e.Carries b b') {id : Nat} {node : Node}
    (found : b.nodes[id]? = some node) :
    ∃ other, b'.nodes[id + e.nodes.size]? = some other ∧ e.CarriesNode node other := by
  obtain ⟨later, nodes, same⟩ := both.nodes
  obtain ⟨inside, rfl⟩ := Array.getElem?_eq_some_iff.1 found
  have inside' : id < later.length := by
    rw [← same.length_eq, Array.length_toList]
    exact inside
  refine ⟨later[id], ?_, ?_⟩
  · rw [← Array.getElem?_toList, nodes, List.getElem?_append_right (by simp),
      Array.length_toList, Nat.add_sub_cancel, List.getElem?_eq_getElem inside']
  · have pair := same.get (by simpa using inside) inside'
    simpa using pair

/-- The ranges of a child on both sides are related. -/
theorem Carries.rangeOf (both : e.Carries b b') {child : Child} (known : b.Knows child) :
    e.offsets (TreeBuilder.rangeOf b.tokens b.nodes child).1
        (TreeBuilder.rangeOf b'.tokens b'.nodes (e.child child)).1 ∧
      e.offsets (TreeBuilder.rangeOf b.tokens b.nodes child).2
        (TreeBuilder.rangeOf b'.tokens b'.nodes (e.child child)).2 := by
  cases child with
  | token index =>
    have found : b.tokens[index]? = some b.tokens[index] := Array.getElem?_eq_getElem known
    obtain ⟨other, there, start, stop⟩ := both.tokens found
    rw [child, TreeBuilder.rangeOf, TreeBuilder.rangeOf, found, there]
    exact ⟨start, stop⟩
  | node id =>
    have found : b.nodes[id]? = some b.nodes[id] := Array.getElem?_eq_getElem known
    obtain ⟨other, there, same⟩ := both.node found
    rw [child, TreeBuilder.rangeOf, TreeBuilder.rangeOf, found, there]
    exact ⟨same.start, same.stop⟩

/-! ### Opening nodes -/

/-- A node opened on both sides is carried over. -/
theorem Carries.start (both : e.Carries b b') (some : b.opened ≠ []) (kind : NodeKind)
    {offset offset' : Nat} (place : e.offsets offset offset') :
    e.Carries (b.start kind offset) (b'.start kind offset') := by
  refine ⟨both.tokens, both.nodes, ?_, fun node listed child member => ?_⟩
  · refine .cons rfl ?_ (fun _ => place) both.opened
    rw [before, if_neg (by simpa using some), Array.map_empty, Array.append_empty]
  · rcases List.mem_cons.1 listed with rfl | listed
    · exact absurd member (Array.not_mem_empty child)
    · exact both.known node listed child member

/-- Checkpoints on both sides, which count the children from before. -/
structure CarriesCheckpoint (e : TreeEmbedding) (one two : Checkpoint) : Prop where
  depth : two.depth = one.depth
  children : two.children = (if one.depth = 1 then e.children.size else 0) + one.children

/-- An open node has children from before if it is the outermost. -/
theorem size_before (outer : List OpenNode) :
    (e.before outer).size = if outer.length + 1 = 1 then e.children.size else 0 := by
  rw [before]
  cases outer with
  | nil => rfl
  | cons => rfl

/-- Checkpoints taken on both sides are carried over. -/
theorem Carries.checkpoint (both : e.Carries b b') (some : b.opened ≠ []) :
    e.CarriesCheckpoint b.checkpoint b'.checkpoint := by
  have depth : b'.checkpoint.depth = b.checkpoint.depth := both.opened.length
  refine ⟨depth, ?_⟩
  obtain ⟨tokens, nodes, opened, lastClosed⟩ := b
  obtain ⟨tokens', nodes', opened', lastClosed'⟩ := b'
  have carried := both.opened
  dsimp only at carried some
  cases carried with
  | nil => contradiction
  | @cons one two outer outer' kind children offset rest =>
    simp only [TreeBuilder.checkpoint, TreeBuilder.depth, List.head?_cons, Option.map_some,
      Option.getD_some, children, Array.size_append, Array.size_map, List.length_cons, size_before]
    rfl

/-- What comes after a checkpoint is the same on both sides. -/
theorem extract_append (kept children : Array Child) (count : Nat) :
    (kept ++ children).extract (kept.size + count) (kept ++ children).size =
      children.extract count children.size := by
  rw [Array.extract_append, Array.extract_eq_empty_of_le (by simp), Array.empty_append,
    Nat.add_sub_cancel_left, Array.size_append, Nat.add_sub_cancel_left]

/-- What comes before a checkpoint is the same on both sides but for the children from before. -/
theorem shrink_append (kept children : Array Child) (count : Nat) :
    (kept ++ children).shrink (kept.size + count) = kept ++ children.shrink count := by
  apply Array.toList_inj.1
  rw [Array.toList_shrink, Array.toList_append, Array.toList_append, Array.toList_shrink,
    ← Array.length_toList, List.take_length_add_append]

/-- What comes after a checkpoint was there. -/
theorem mem_of_mem_extract {child : Child} {children : Array Child} {start stop : Nat}
    (member : child ∈ children.extract start stop) : child ∈ children := by
  rw [← Array.mem_toList_iff, Array.toList_extract, List.extract_eq_take_drop] at member
  exact Array.mem_toList_iff.1 (List.mem_of_mem_drop (List.mem_of_mem_take member))

/-- A node opened at checkpoints that are carried over is carried over. -/
theorem Carries.startAt (both : e.Carries b b') (some : b.opened ≠ []) (kind : NodeKind)
    {checkpoint checkpoint' : Checkpoint} (origin : e.CarriesCheckpoint checkpoint checkpoint')
    {offset offset' : Nat} (place : e.offsets offset offset') :
    e.Carries (b.startAt checkpoint kind offset) (b'.startAt checkpoint' kind offset') := by
  have tokens := @both.tokens
  have nodes := both.nodes
  have carried := both.opened
  have known := both.known
  obtain ⟨_, _, opened, _⟩ := b
  obtain ⟨_, _, opened', _⟩ := b'
  dsimp only at carried some known tokens nodes
  cases carried with
  | nil => contradiction
  | @cons one two outer outer' same children begins rest =>
    obtain ⟨outerKind, inside, outerOffset⟩ := one
    obtain ⟨outerKind', inside', outerOffset'⟩ := two
    dsimp only at same children begins
    have length := rest.length
    simp only [TreeBuilder.startAt, length, origin.depth]
    have among {child : Child} (member : child ∈ inside) :=
      known ⟨outerKind, inside, outerOffset⟩ List.mem_cons_self child member
    have further {node : OpenNode} (listed : node ∈ outer) :=
      known node (List.mem_cons_of_mem _ listed)
    by_cases here : checkpoint.depth = outer.length + 1
    · rw [if_pos here, if_pos here, origin.children, here, ← size_before (e := e), children,
        extract_append, shrink_append]
      refine ⟨tokens, nodes, .cons rfl ?_ (fun _ => place) (.cons same ?_ begins rest), ?_⟩
      · rw [Array.size_map, Array.map_extract]
        exact Array.empty_append.symm
      · rw [Array.shrink_eq_take, Array.shrink_eq_take, Array.take_eq_extract,
          Array.take_eq_extract, Array.map_extract]
      · intro node listed child member
        rcases List.mem_cons.1 listed with rfl | listed
        · exact among (mem_of_mem_extract member)
        rcases List.mem_cons.1 listed with rfl | listed
        · rw [Array.shrink_eq_take, Array.take_eq_extract] at member
          exact among (mem_of_mem_extract member)
        · exact further listed child member
    · rw [if_neg here, if_neg here]
      refine ⟨tokens, nodes, .cons rfl ?_ (fun _ => place) (.cons same children begins rest), ?_⟩
      · rw [Array.map_empty, Array.append_empty]
        rfl
      · intro node listed child member
        rcases List.mem_cons.1 listed with rfl | listed
        · exact absurd member (Array.not_mem_empty child)
        · exact known node listed child member

/-! ### Adding children and closing nodes -/

/-- A child added on both sides is carried over. -/
theorem Carries.add (both : e.Carries b b') (some : b.opened ≠ []) {child : Child}
    (known : b.Knows child) : e.Carries (b.add child) (b'.add (e.child child)) := by
  have tokens := @both.tokens
  have nodes := both.nodes
  have carried := both.opened
  have others := both.known
  obtain ⟨_, _, opened, _⟩ := b
  obtain ⟨_, _, opened', _⟩ := b'
  dsimp only at carried some others tokens nodes
  cases carried with
  | nil => contradiction
  | @cons one two outer outer' same children begins rest =>
    obtain ⟨outerKind, inside, outerOffset⟩ := one
    obtain ⟨outerKind', inside', outerOffset'⟩ := two
    dsimp only at same children begins
    refine ⟨tokens, nodes, .cons same ?_ begins rest, ?_⟩
    · rw [children, Array.map_push, Array.append_push]
    · intro node listed other member
      rcases List.mem_cons.1 listed with rfl | listed
      · rcases Array.mem_push.1 member with member | rfl
        · exact others _ List.mem_cons_self other member
        · exact known
      · exact others node (List.mem_cons_of_mem _ listed) other member

/-- A token becomes a child on both sides. -/
theorem Carries.token (both : e.Carries b b') (some : b.opened ≠ []) {index : Nat}
    (inside : index < b.tokens.size) : e.Carries (b.token index) (b'.token (index + e.tokens)) :=
  both.add some (show b.Knows (.token index) from inside)

/-- The range of a node that is closed on both sides. -/
theorem Carries.closedRange (both : e.Carries b b') {one two : OpenNode}
    (known : ∀ child ∈ one.children, b.Knows child)
    (children : two.children = one.children.map e.child) (place : e.offsets one.offset two.offset) :
    e.offsets (TreeBuilder.closedRange b.tokens b.nodes one).1
        (TreeBuilder.closedRange b'.tokens b'.nodes two).1 ∧
      e.offsets (TreeBuilder.closedRange b.tokens b.nodes one).2
        (TreeBuilder.closedRange b'.tokens b'.nodes two).2 := by
  rw [TreeBuilder.closedRange, TreeBuilder.closedRange, children, Array.getElem?_map,
    Array.back?_map]
  cases first : one.children[0]? with
  | none => exact ⟨place, place⟩
  | some child =>
    cases last : one.children.back? with
    | none => exact ⟨place, place⟩
    | some child' =>
      exact ⟨(both.rangeOf (known child (Array.mem_of_getElem? first))).1,
        (both.rangeOf (known child' (Array.mem_of_back? last))).2⟩

/-- A node that is not the outermost is closed on both sides. -/
theorem Carries.finishNode (both : e.Carries b b') (inner : 2 ≤ b.opened.length) :
    e.Carries b.finishNode b'.finishNode := by
  obtain ⟨tokens, nodes, opened, lastClosed⟩ := b
  obtain ⟨tokens', nodes', opened', lastClosed'⟩ := b'
  have carried := both.opened
  dsimp only at carried inner
  cases carried with
  | nil => contradiction
  | @cons one two outer outer' same children begins rest =>
    have among : outer ≠ [] := by
      rintro rfl
      exact absurd inner (Nat.not_succ_le_self 1)
    have children' : two.children = one.children.map e.child := by
      rw [children, before, if_neg (by simpa using among), Array.empty_append]
    have known := both.known one List.mem_cons_self
    obtain ⟨start, stop⟩ := both.closedRange known children' (begins among)
    have size := both.size
    obtain ⟨later, listed, carries⟩ := both.nodes
    dsimp only at start stop size listed carries
    let closed : TreeBuilder := ⟨tokens, nodes.push ⟨one.kind, one.children,
      (TreeBuilder.closedRange tokens nodes one).1, (TreeBuilder.closedRange tokens nodes one).2⟩,
      outer, some nodes.size⟩
    let closed' : TreeBuilder := ⟨tokens', nodes'.push ⟨two.kind, two.children,
      (TreeBuilder.closedRange tokens' nodes' two).1,
      (TreeBuilder.closedRange tokens' nodes' two).2⟩, outer', some nodes'.size⟩
    have grown : e.Carries closed closed' := by
      have nodes' : ∃ later : List Node, closed'.nodes.toList = e.nodes.toList ++ later ∧
          List.Forall₂ e.CarriesNode closed.nodes.toList later := by
        refine ⟨_, by rw [Array.toList_push, listed, List.append_assoc], ?_⟩
        rw [Array.toList_push]
        exact List.rel_append carries (.cons ⟨same, children', start, stop⟩ .nil)
      refine ⟨both.tokens, nodes', rest, fun node listed child member => ?_⟩
      · have knows := both.known node (List.mem_cons_of_mem _ listed) child member
        cases child with
        | token index => exact knows
        | node id => exact Nat.lt_of_lt_of_le knows (by simp [closed])
    have known : closed.Knows (.node nodes.size) := by simp [TreeBuilder.Knows, closed]
    have added := grown.add among known
    rw [child, ← size] at added
    exact added

/-! ### Finished trees -/

variable (e) in
/-- A tree that is part of another. In both the root comes last; in the other it has the children
from before. -/
inductive CarriesTree : SyntaxTree → SyntaxTree → Prop where
  | mk {inner later : Array Node} {root root' : Node}
      (nodes : List.Forall₂ e.CarriesNode inner.toList later.toList)
      (kind : root'.kind = root.kind)
      (children : root'.children = e.children ++ root.children.map e.child) :
      CarriesTree ⟨inner.push root, inner.size⟩
        ⟨(e.nodes ++ later).push root', (e.nodes ++ later).size⟩

/-- When the outermost node is closed on both sides both trees are finished. -/
theorem Carries.finish (both : e.Carries b b') (single : b.opened.length = 1) :
    e.CarriesTree b.finishNode.finish b'.finishNode.finish := by
  obtain ⟨tokens, nodes, opened, lastClosed⟩ := b
  obtain ⟨tokens', nodes', opened', lastClosed'⟩ := b'
  have carried := both.opened
  obtain ⟨later, listed, carries⟩ := both.nodes
  dsimp only at carried single listed carries
  cases carried with
  | nil => contradiction
  | @cons one two outer outer' same children begins rest =>
    obtain rfl : outer = [] := List.length_eq_zero_iff.1 (Nat.succ.inj single)
    cases rest with
    | nil =>
      obtain rfl : nodes' = e.nodes ++ later.toArray :=
        Array.toList_inj.1 (by rw [listed, Array.toList_append])
      exact .mk carries same children

end TreeEmbedding

/-! ### Trees without places -/

/-- A node without its place. -/
def Node.unplaced (node : Node) : Node := { node with start := 0, stop := 0 }

/-- A tree without the places of its nodes. -/
def SyntaxTree.unplaced (tree : SyntaxTree) : SyntaxTree :=
  { tree with nodes := tree.nodes.map Node.unplaced }

namespace TreeEmbedding

variable {e : TreeEmbedding}

/-- Where nothing comes before, a tree that is part of another is the same up to places. -/
theorem CarriesTree.unplaced {one two : SyntaxTree} (carried : e.CarriesTree one two)
    (tokens : e.tokens = 0) (nodes : e.nodes = #[]) (children : e.children = #[]) :
    two.unplaced = one.unplaced := by
  obtain ⟨offset, before, _, offsets⟩ := e
  obtain rfl := tokens
  obtain rfl := nodes
  obtain rfl := children
  have keep : TreeEmbedding.child ⟨0, #[], #[], offsets⟩ = id := by
    funext child
    cases child <;> rfl
  have node {one two : Node} (kind : two.kind = one.kind) (children : two.children =
      one.children.map (TreeEmbedding.child ⟨0, #[], #[], offsets⟩)) :
      two.unplaced = one.unplaced := by
    rw [keep, Array.map_id] at children
    rw [Node.unplaced, Node.unplaced, kind, children]
  cases carried with
  | @mk inner later root root' same kind children =>
    have inside : later.map Node.unplaced = inner.map Node.unplaced := by
      apply Array.toList_inj.1
      rw [Array.toList_map, Array.toList_map, ← List.forall₂_eq_eq_eq,
        List.forall₂_map_left_iff, List.forall₂_map_right_iff]
      exact same.flip.imp fun _ _ carries => node carries.kind carries.children
    have last := node kind (children.trans Array.empty_append)
    simp only [SyntaxTree.unplaced, Array.map_push, Array.empty_append, inside, last]
    rw [SyntaxTree.mk.injEq]
    refine ⟨rfl, ?_⟩
    rw [← Array.size_map, inside, Array.size_map]

end TreeEmbedding

/-! ### Trees further on -/

/-- A child of a tree that comes after so many tokens and nodes. -/
def Child.shift (tokens nodes : Nat) : Child → Child
  | .token index => .token (index + tokens)
  | .node id => .node (id + nodes)

/-- A node after so many tokens, nodes and bytes. -/
def Node.shift (tokens nodes size : Nat) (node : Node) : Node where
  kind := node.kind
  children := node.children.map (Child.shift tokens nodes)
  start := node.start + size
  stop := node.stop + size

/-- A tree that joins two others, of which the second comes after so many tokens and bytes: it has
the nodes of the one and then those of the other further on, and instead of their roots, which come
last, one root over the children of both. -/
inductive SyntaxTree.Joins (tokens size : Nat) : SyntaxTree → SyntaxTree → SyntaxTree → Prop where
  | mk (before after : Array Node) (root root' : Node) :
    Joins tokens size ⟨before.push root, before.size⟩ ⟨after.push root', after.size⟩
      ⟨(before ++ after.map (Node.shift tokens before.size size)).push
        ⟨root'.kind, root.children ++ root'.children.map (Child.shift tokens before.size),
          root.start, root'.stop + size⟩, before.size + after.size⟩

/-- After nothing children stay as they are. -/
theorem Child.shift_zero : Child.shift 0 0 = id := by
  funext child
  cases child <;> rfl

/-- After nothing a node stays as it is. -/
theorem Node.shift_zero (node : Node) : node.shift 0 0 0 = node := by
  rw [shift, Child.shift_zero, Array.map_id]
  rfl

namespace TreeEmbedding

variable {e : TreeEmbedding} {size : Nat}
  (places : ∀ {start start' : Nat}, e.offsets start start' → start' = start + size)

/-- Children are carried over by a shift of tokens and of nodes. -/
theorem child_eq_shift (e : TreeEmbedding) : e.child = Child.shift e.tokens e.nodes.size := by
  funext child
  cases child <;> rfl

include places

/-- Where offsets are so many bytes further on, so are nodes. -/
theorem CarriesNode.eq_shift {one two : Node} (carries : e.CarriesNode one two) :
    two = one.shift e.tokens e.nodes.size size := by
  obtain ⟨kind, children, start, stop⟩ := carries
  obtain ⟨_, _, _, _⟩ := two
  rw [Node.shift, ← child_eq_shift, ← children, ← kind, ← places start, ← places stop]

/-- They are all nodes after those from before. -/
theorem forall₂_carriesNode {inner later : List Node}
    (carried : List.Forall₂ e.CarriesNode inner later) :
    later = inner.map (Node.shift e.tokens e.nodes.size size) := by
  induction carried with
  | nil => rfl
  | cons carries _ ih => rw [List.map_cons, ← ih, carries.eq_shift places]

/-- What is part of a tree behind the nodes of another one is joined to that one, whose root had
the children from before, if the root goes from where the one began to where the other ends. -/
theorem joins_of_carries {inner later : Array Node} {root root' top : Node}
    (nodes : List.Forall₂ e.CarriesNode inner.toList later.toList) (kind : top.kind = root'.kind)
    (children : top.children = e.children ++ root'.children.map e.child)
    (before : e.children = root.children) (start : top.start = root.start)
    (stop : top.stop = root'.stop + size) :
    SyntaxTree.Joins e.tokens size ⟨e.nodes.push root, e.nodes.size⟩
      ⟨inner.push root', inner.size⟩ ⟨(e.nodes ++ later).push top, (e.nodes ++ later).size⟩ := by
  obtain ⟨_, _, _, _⟩ := top
  obtain rfl : later = inner.map (Node.shift e.tokens e.nodes.size size) := by
    apply Array.toList_inj.1
    rw [Array.toList_map]
    exact forall₂_carriesNode places nodes
  rw [before, child_eq_shift] at children
  obtain rfl := kind
  obtain rfl := children
  obtain rfl := start
  obtain rfl := stop
  rw [Array.size_append, Array.size_map]
  exact .mk _ _ _ _

end TreeEmbedding
end Stencil
