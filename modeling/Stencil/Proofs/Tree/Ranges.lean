import Stencil.Proofs.Tree.Growth
import Stencil.Proofs.Tree.Nodes
/-!
# Where the nodes of a tree lie

The children of a node lie one after another over its range (`Row`). If that is so of every node in
the array, then the leaves beneath a node do too (`row_leaves`), and a walk comes to each node where
the last leaf before it ended (`SyntaxTree.walk_before`). For a tree that is being built,
`Spine` is the same of the nodes that are still open.
-/

namespace Stencil

/-- The byte range of a child, if there is such a token or node. -/
def Child.range? (tokens : Array Token) (nodes : Array Node) : Child → Option (Nat × Nat)
  | .node id => nodes[id]?.map fun node => (node.start, node.stop)
  | .token index => tokens[index]?.map fun token => (token.start, token.stop)

/-- Children that lie one after another from one offset to another. -/
inductive Row (tokens : Array Token) (nodes : Array Node) : List Child → Nat → Nat → Prop where
  | nil (place : Nat) : Row tokens nodes [] place place
  | cons {child : Child} {start middle stop : Nat} {rest : List Child}
      (found : child.range? tokens nodes = some (start, middle))
      (further : Row tokens nodes rest middle stop) : Row tokens nodes (child :: rest) start stop

/-- The children of every node lie one after another over its range. -/
def Placed (tokens : Array Token) (nodes : Array Node) : Prop :=
  ∀ ⦃id : Nat⦄ ⦃node : Node⦄, nodes[id]? = some node →
    Row tokens nodes node.children.toList node.start node.stop

/-- The range that the builder reads is that of the child, or empty at the start. -/
theorem rangeOf_eq (tokens : Array Token) (nodes : Array Node) (child : Child) :
    TreeBuilder.rangeOf tokens nodes child = (child.range? tokens nodes).getD (0, 0) := by
  cases child with
  | node id => rfl
  | token index => rfl

namespace Row

variable {tokens : Array Token} {nodes : Array Node} {left right children : List Child}
  {start middle stop : Nat}

/-- Rows that meet are one row. -/
theorem append (one : Row tokens nodes left start middle)
    (two : Row tokens nodes right middle stop) : Row tokens nodes (left ++ right) start stop := by
  induction one with
  | nil => exact two
  | cons found _ ih => exact .cons found (ih two)

/-- A row can be cut between any two children. -/
theorem split (row : Row tokens nodes (left ++ right) start stop) :
    ∃ middle, Row tokens nodes left start middle ∧ Row tokens nodes right middle stop := by
  induction left generalizing start with
  | nil => exact ⟨start, .nil start, row⟩
  | cons child left ih =>
    cases row with
    | cons found further =>
      obtain ⟨middle, one, two⟩ := ih further
      exact ⟨middle, .cons found one, two⟩

/-- A row that begins at a place ends at one place only. -/
theorem unique {other : Nat} (row : Row tokens nodes children start stop)
    (also : Row tokens nodes children start other) : stop = other := by
  induction row with
  | nil => cases also; rfl
  | cons found _ ih =>
    cases also with
    | cons same further =>
      obtain rfl := (Prod.mk.inj (Option.some.inj (found.symm.trans same))).2
      exact ih further

/-- Further nodes in the array move no child. -/
theorem mono (row : Row tokens nodes children start stop) (added : Array Node) :
    Row tokens (nodes ++ added) children start stop := by
  induction row with
  | nil place => exact .nil place
  | @cons child start middle stop rest found _ ih =>
    refine .cons ?_ ih
    cases child with
    | token index => exact found
    | node id =>
      obtain ⟨node, listed, range⟩ := Option.map_eq_some_iff.1 found
      have inside := (Array.getElem?_eq_some_iff.1 listed).1
      rw [Child.range?, Array.getElem?_append_left inside, listed, Option.map_some, range]

/-- A row starts where its first child does. -/
theorem first (row : Row tokens nodes children start stop) {child : Child}
    (head : children.head? = some child) :
    ∃ ends, child.range? tokens nodes = some (start, ends) := by
  cases row with
  | nil => contradiction
  | cons found further =>
    obtain rfl := Option.some.inj head
    exact ⟨_, found⟩

/-- A row ends where its last child does. -/
theorem last (row : Row tokens nodes children start stop) {child : Child}
    (back : children.getLast? = some child) :
    ∃ begins, child.range? tokens nodes = some (begins, stop) := by
  induction row with
  | nil => contradiction
  | cons found further ih =>
    cases further with
    | nil =>
      rw [List.getLast?_singleton, Option.some.injEq] at back
      exact ⟨_, back ▸ found⟩
    | cons => exact ih (by rwa [List.getLast?_cons_cons] at back)

/-- A row without children has no extent. -/
theorem eq_of_nil (row : Row tokens nodes [] start stop) : start = stop := by cases row; rfl

/-- Neighbours in a row meet. -/
theorem meets (row : Row tokens nodes children start stop) {place : Nat} {child next : Child}
    (here : children[place]? = some child) (there : children[place + 1]? = some next) :
    ∃ begins middle ends, child.range? tokens nodes = some (begins, middle) ∧
      next.range? tokens nodes = some (middle, ends) := by
  induction row generalizing place with
  | nil => contradiction
  | cons found further ih =>
    cases place with
    | succ place => exact ih here there
    | zero =>
      obtain rfl := Option.some.inj here
      obtain ⟨ends, later⟩ := further.first (List.head?_eq_getElem?.trans there)
      exact ⟨_, _, ends, found, later⟩

end Row

/-! ### Leaves -/

mutual

/-- The leaves beneath a child lie one after another over its range. -/
theorem row_leaves {tokens : Array Token} {nodes : Array Node} (placed : Placed tokens nodes)
    {child : Child} {shape : Shape} (drawn : Draws nodes child shape) {start stop : Nat}
    (found : child.range? tokens nodes = some (start, stop)) :
    Row tokens nodes (shape.leaves.map .token) start stop := by
  cases drawn with
  | token index => exact .cons found (.nil stop)
  | node listed beneath =>
    rw [Child.range?, listed, Option.map_some] at found
    obtain ⟨rfl, rfl⟩ := Prod.mk.inj (Option.some.inj found)
    exact row_leavesAll placed beneath (placed listed)

/-- The leaves beneath a row lie one after another over it. -/
theorem row_leavesAll {tokens : Array Token} {nodes : Array Node} (placed : Placed tokens nodes)
    {children : List Child} {shapes : List Shape} (drawn : DrawsAll nodes children shapes)
    {start stop : Nat} (row : Row tokens nodes children start stop) :
    Row tokens nodes ((Shape.leavesAll shapes).map .token) start stop := by
  cases drawn with
  | nil =>
    cases row with
    | nil => exact .nil start
  | cons first rest =>
    cases row with
    | cons found further =>
      rw [Shape.leavesAll, List.map_append]
      exact (row_leaves placed first found).append (row_leavesAll placed rest further)

end

namespace SyntaxTree

/-- A walk over pending children that lie in a row comes to each node where the leaves that it has
passed end. -/
theorem Visits.before {tree : SyntaxTree} {tokens : Array Token} {pending visited : List Child}
    (visits : tree.Visits pending visited) (placed : Placed tokens tree.nodes) {start stop : Nat}
    (row : Row tokens tree.nodes pending start stop) {before after : List Child} {id : Nat}
    (split : visited = before ++ .node id :: after) :
    ∃ node, tree.nodes[id]? = some node ∧
      Row tokens tree.nodes ((before.filterMap childToken?).map .token) start node.start := by
  induction visits generalizing start before with
  | nil => exact absurd split.symm (List.append_ne_nil_of_right_ne_nil _ (List.cons_ne_nil _ _))
  | token index _ ih =>
    cases row with
    | cons found further =>
      cases before with
      | nil =>
        have differ := (List.cons.inj split).1
        contradiction
      | cons entry before =>
        obtain ⟨rfl, rest⟩ := List.cons.inj split
        obtain ⟨node, listed, inside⟩ := ih further rest
        exact ⟨node, listed, .cons found inside⟩
  | node above _ ih =>
    cases row with
    | cons found further =>
      obtain ⟨node, known, range⟩ := Option.map_eq_some_iff.1 found
      obtain ⟨rfl, rfl⟩ := Prod.mk.inj range
      cases before with
      | nil =>
        obtain rfl := Child.node.inj (List.cons.inj split).1
        exact ⟨node, known, .nil _⟩
      | cons entry before =>
        obtain ⟨rfl, rest⟩ := List.cons.inj split
        have under := placed known
        rw [← tree.children_of_found known] at under
        have later := ih (under.append further) rest
        exact later

/-- A walk comes to each node where the leaves that it has passed end. -/
theorem walk_before (tree : SyntaxTree) {tokens : Array Token} (placed : Placed tokens tree.nodes)
    {id below depth : Nat} {node : Node} (found : tree.nodes[id]? = some node) {kind : NodeKind}
    {shapes : List Shape} (drawn : Draws tree.nodes (.node id) (.node kind shapes))
    (enough : (Shape.node kind shapes).places ≤ tree.childCount)
    {before after : List (Nat × Child)}
    (split : (tree.walk id).toList = before ++ (depth, .node below) :: after) :
    ∃ inner, tree.nodes[below]? = some inner ∧
      Row tokens tree.nodes ((before.filterMap entryToken?).map .token) node.start inner.start := by
  have row := placed found
  rw [← tree.children_of_found found] at row
  rw [filterMap_entryToken?]
  exact (tree.visits_walk drawn enough).before placed row
    (by rw [split, List.map_append, List.map_cons])

end SyntaxTree

/-! ### Trees that are being built -/

/-- The children of the open nodes, outermost first, lie one after another from the start on up to
a place. An open node without children remembers where it begins. -/
inductive Spine (tokens : Array Token) (nodes : Array Node) : List OpenNode → Nat → Prop where
  | nil : Spine tokens nodes [] 0
  | cons {node : OpenNode} {outer : List OpenNode} {start stop : Nat}
      (row : Row tokens nodes node.children.toList start stop)
      (place : node.children = #[] → node.offset = start)
      (around : Spine tokens nodes outer start) : Spine tokens nodes (node :: outer) stop

namespace Spine

variable {tokens : Array Token} {nodes : Array Node} {opened : List OpenNode} {start stop : Nat}

/-- Open nodes end at one place only. -/
theorem unique {other : Nat} (spine : Spine tokens nodes opened stop)
    (also : Spine tokens nodes opened other) : stop = other := by
  induction spine generalizing other with
  | nil => cases also; rfl
  | cons row _ _ ih =>
    cases also with
    | cons same _ around =>
      obtain rfl := ih around
      exact row.unique same

/-- Further nodes in the array leave the open nodes where they are. -/
theorem mono (spine : Spine tokens nodes opened stop) (added : Array Node) :
    Spine tokens (nodes ++ added) opened stop := by
  induction spine with
  | nil => exact .nil
  | cons row place _ ih => exact .cons (row.mono added) place ih

end Spine

/-- A node with one more child. -/
theorem Row.push {tokens : Array Token} {nodes : Array Node} {children : Array Child}
    {child : Child} {start middle stop : Nat} (row : Row tokens nodes children.toList start middle)
    (found : child.range? tokens nodes = some (middle, stop)) :
    Row tokens nodes (children.push child).toList start stop := by
  rw [Array.toList_push]
  exact row.append (.cons found (.nil stop))

/-- A node is closed over the range of its children, or where it begins if it has none. -/
theorem closedRange_of_row {tokens : Array Token} {nodes : Array Node} {node : OpenNode}
    {start stop : Nat} (row : Row tokens nodes node.children.toList start stop)
    (place : node.children = #[] → node.offset = start) :
    TreeBuilder.closedRange tokens nodes node = (start, stop) := by
  rw [TreeBuilder.closedRange]
  split
  next first last head back =>
    rw [← Array.getElem?_toList, ← List.head?_eq_getElem?] at head
    rw [← Array.getLast?_toList] at back
    obtain ⟨_, begins⟩ := row.first head
    obtain ⟨_, ends⟩ := row.last back
    rw [rangeOf_eq, rangeOf_eq, begins, ends, Option.getD_some, Option.getD_some]
  next none =>
    have empty : node.children = #[] := by
      by_contra some
      have positive := Array.size_pos_iff.2 some
      exact none _ _ (Array.getElem?_eq_getElem positive)
        (Array.getElem?_eq_getElem (Nat.sub_lt positive Nat.one_pos))
    rw [empty] at row
    rw [place empty, row.eq_of_nil]

/-- A node whose children lie in a row is added to the array. -/
theorem Placed.push {tokens : Array Token} {nodes : Array Node} (placed : Placed tokens nodes)
    {node : Node} (row : Row tokens nodes node.children.toList node.start node.stop) :
    Placed tokens (nodes.push node) := by
  intro id listed found
  rw [← Array.append_singleton]
  rw [Array.getElem?_push] at found
  split at found
  · obtain rfl := Option.some.inj found
    exact row.mono _
  · exact (placed found).mono _

/-- Every node in the array is a child of a later one or of an open one. -/
def Adopted (nodes : Array Node) (opened : List OpenNode) : Prop :=
  ∀ id < nodes.size, (∃ parent node, nodes[parent]? = some node ∧ id < parent ∧
      .node id ∈ node.children.toList) ∨
    ∃ taking ∈ opened, .node id ∈ taking.children.toList

/-- Open nodes that hold all that others hold do as well. -/
theorem Adopted.mono {nodes : Array Node} {opened later : List OpenNode}
    (adopted : Adopted nodes opened)
    (held : ∀ taking ∈ opened, ∀ child ∈ taking.children.toList,
      ∃ next ∈ later, child ∈ next.children.toList) : Adopted nodes later := fun id inside =>
  (adopted id inside).imp_right fun ⟨taking, listed, member⟩ => held taking listed _ member

/-- An open node takes one more child. -/
theorem Adopted.push {nodes : Array Node} {kind : NodeKind} {children : Array Child} {offset : Nat}
    {outer : List OpenNode} (adopted : Adopted nodes (⟨kind, children, offset⟩ :: outer))
    (child : Child) : Adopted nodes (⟨kind, children.push child, offset⟩ :: outer) := by
  refine adopted.mono (List.forall_mem_cons.2 ⟨fun below member => ?_, fun taking listed below
    member => ⟨taking, List.mem_cons_of_mem _ listed, member⟩⟩)
  refine ⟨_, List.mem_cons_self, ?_⟩
  rw [Array.toList_push]
  exact List.mem_append_left _ member

/-- What an open node holds is held by it when it is closed; the closed node is not held yet. -/
theorem Adopted.close {nodes : Array Node} {closing : OpenNode} {outer : List OpenNode}
    (adopted : Adopted nodes (closing :: outer)) (node : Node)
    (same : node.children = closing.children) : ∀ id < nodes.size,
      (∃ parent above, (nodes.push node)[parent]? = some above ∧ id < parent ∧
          .node id ∈ above.children.toList) ∨
        ∃ taking ∈ outer, .node id ∈ taking.children.toList := by
  intro id inside
  rcases adopted id inside with ⟨parent, above, found, later, member⟩ | ⟨taking, listed, member⟩
  · have within := (Array.getElem?_eq_some_iff.1 found).1
    refine .inl ⟨parent, above, ?_, later, member⟩
    rw [Array.getElem?_push_lt within]
    exact found ▸ (Array.getElem?_eq_getElem within).symm
  · rcases List.mem_cons.1 listed with rfl | listed
    · exact .inl ⟨nodes.size, node, Array.getElem?_push_size, inside, same ▸ member⟩
    · exact .inr ⟨taking, listed, member⟩

namespace TreeBuilder

/-- All nodes of a tree that is being built lie where their children do, up to a place, and all are
beneath open ones. -/
structure Settled (builder : TreeBuilder) (place : Nat) : Prop where
  placed : Placed builder.tokens builder.nodes
  spine : Spine builder.tokens builder.nodes builder.opened place
  adopted : Adopted builder.nodes builder.opened

variable {builder earlier middle : TreeBuilder} {place stop : Nat}

/-- The next token is added. -/
theorem Settled.token (settled : builder.Settled place) (within : builder.opened ≠ [])
    {index : Nat} {token : Token} (found : builder.tokens[index]? = some token)
    (next : token.start = place) : (builder.token index).Settled token.stop := by
  obtain ⟨tokens, nodes, opened, last⟩ := builder
  obtain ⟨placed, spine, adopted⟩ := settled
  cases spine with
  | nil => exact absurd rfl within
  | cons row _ around =>
    refine ⟨placed, .cons (row.push ?_) (fun empty => absurd empty (Array.push_ne_empty)) around,
      adopted.push _⟩
    rw [Child.range?, found, Option.map_some, next]

/-- A node is opened where the children so far end. -/
theorem Settled.start (settled : builder.Settled place) (kind : NodeKind) :
    (builder.start kind place).Settled place :=
  ⟨settled.placed, .cons (.nil place) (fun _ => rfl) settled.spine,
    settled.adopted.mono fun taking listed _ member =>
      ⟨taking, List.mem_cons_of_mem _ listed, member⟩⟩

/-- The innermost of two open nodes is closed. -/
theorem Settled.finishNode (settled : builder.Settled place)
    (inner : 2 ≤ builder.opened.length) : builder.finishNode.Settled place := by
  obtain ⟨tokens, nodes, opened, last⟩ := builder
  obtain ⟨placed, spine, adopted⟩ := settled
  cases spine with
  | nil => contradiction
  | @cons node outer start _ row place around =>
    cases around with
    | nil => exact absurd inner (Nat.not_succ_le_self 1)
    | @cons next outer begin _ outerRow _ around =>
      have range := closedRange_of_row row place
      simp only [TreeBuilder.finishNode, range, TreeBuilder.add]
      refine ⟨placed.push row, ?_, fun id inside => ?_⟩
      · rw [← Array.append_singleton]
        refine .cons ((outerRow.mono _).push ?_) (fun empty => absurd empty Array.push_ne_empty)
          (around.mono _)
        rw [Child.range?, Array.append_singleton, Array.getElem?_push_size, Option.map_some]
      · rw [Array.size_push] at inside
        rcases Nat.lt_succ_iff_lt_or_eq.1 inside with before | rfl
        · rcases adopted.close ⟨node.kind, node.children, start, _⟩ rfl id before with
            later | ⟨taking, listed, member⟩
          · exact .inl later
          · rcases List.mem_cons.1 listed with rfl | listed
            · exact .inr ⟨_, List.mem_cons_self, by simp [member]⟩
            · exact .inr ⟨taking, List.mem_cons_of_mem _ listed, member⟩
        · exact .inr ⟨_, List.mem_cons_self, by simp⟩

/-- A node is opened around what was added since a checkpoint. If that is nothing, the node begins
where the children so far end. -/
theorem Settled.startAt (origin : earlier.Settled place) (within : earlier.opened ≠ [])
    {shapes : List Shape} (gained : earlier.Gains middle shapes) (settled : middle.Settled stop)
    (kind : NodeKind) {offset : Nat} (still : shapes = [] → offset = stop) :
    (middle.startAt earlier.checkpoint kind offset).Settled stop := by
  obtain ⟨innermost, outer, opened⟩ := List.exists_cons_of_ne_nil within
  obtain ⟨added, children, tokens, nodes, now, drawn, -⟩ := gained _ _ opened
  obtain ⟨middleTokens, middleNodes, middleOpened, last⟩ := middle
  obtain rfl := now
  have same : earlier.checkpoint = ⟨outer.length + 1, innermost.children.size⟩ := by
    simp [checkpoint, depth, opened]
  rw [same, startAt_of_gained]
  obtain ⟨placed, spine, adopted⟩ := settled
  have before := origin.spine
  rw [opened] at before
  cases before with
  | @cons _ _ first _ row begins around =>
    cases spine with
    | @cons _ _ start _ whole _ around' =>
      have far := around.mono added
      dsimp only at tokens nodes
      rw [← nodes, ← tokens] at far
      obtain rfl := around'.unique far
      rw [Array.toList_append] at whole
      obtain ⟨meeting, kept, taken⟩ := whole.split
      refine ⟨placed, .cons taken (fun empty => ?_) (.cons kept begins around'), ?_⟩
      · dsimp only at empty taken drawn
        rw [empty] at drawn taken
        rw [taken.eq_of_nil]
        cases drawn with
        | nil => exact still rfl
      · refine adopted.mono (List.forall_mem_cons.2 ⟨fun child member => ?_, fun taking listed _
          member => ⟨taking, List.mem_cons_of_mem _ (List.mem_cons_of_mem _ listed), member⟩⟩)
        rw [Array.toList_append] at member
        rcases List.mem_append.1 member with old | new
        · exact ⟨innermost, List.mem_cons_of_mem _ List.mem_cons_self, old⟩
        · exact ⟨_, List.mem_cons_self, new⟩

/-- The last open node is closed, over everything from the start on. It is the root, and every
other node has a parent that comes later in the array. -/
theorem Settled.finish (settled : builder.Settled place) (single : builder.opened.length = 1) :
    let tree := builder.finishNode.finish
    Placed builder.tokens tree.nodes ∧
      (∃ node, tree.nodes[tree.root]? = some node ∧ node.start = 0 ∧ node.stop = place) ∧
      ∀ id < tree.nodes.size, id = tree.root ∨ ∃ parent > id, .node id ∈ tree.children parent := by
  obtain ⟨tokens, nodes, opened, last⟩ := builder
  obtain ⟨placed, spine, adopted⟩ := settled
  cases spine with
  | nil => contradiction
  | @cons node outer start _ row begins around =>
    obtain rfl : outer = [] := List.length_eq_zero_iff.1 (Nat.succ.inj single)
    cases around with
    | nil =>
      have range := closedRange_of_row row begins
      have shut : (TreeBuilder.finishNode ⟨tokens, nodes, [node], last⟩).finish =
          ⟨nodes.push ⟨node.kind, node.children, 0, place⟩, nodes.size⟩ := by
        simp only [TreeBuilder.finishNode, range]
        rfl
      rw [shut]
      refine ⟨placed.push row, ⟨_, Array.getElem?_push_size, rfl, rfl⟩, fun id inside => ?_⟩
      rw [Array.size_push] at inside
      rcases Nat.lt_succ_iff_lt_or_eq.1 inside with before | rfl
      · have closed := adopted.close ⟨node.kind, node.children, 0, place⟩ rfl id before
        rcases closed with ⟨parent, above, found, later, member⟩ | ⟨_, listed, -⟩
        · refine .inr ⟨parent, later, ?_⟩
          rw [SyntaxTree.children_of_found _ found]
          exact member
        · contradiction
      · exact .inl rfl

end TreeBuilder
end Stencil
