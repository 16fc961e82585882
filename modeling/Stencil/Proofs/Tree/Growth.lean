import Stencil.Proofs.Tree.Shape
/-!
# Trees that grow

Between two moments of building, the innermost open node gains children and nothing else that is
open changes. `Gains` says so and says by which shapes the new children are drawn. Nodes opened and
closed in between, also those opened around earlier children at a checkpoint, are one new child:
`gains_finishNode` and `gains_startAt`.
-/

namespace Stencil

/-- The number of children of nodes in an array. -/
def childTotal (nodes : Array Node) : Nat :=
  nodes.foldl (fun count node => count + node.children.size) 0

/-- Another node adds its children. -/
theorem childTotal_push (nodes : Array Node) (node : Node) :
    childTotal (nodes.push node) = childTotal nodes + node.children.size := by
  rw [childTotal, Array.foldl_push, childTotal]

/-- Children are counted part by part. -/
theorem childTotal_append (left right : Array Node) :
    childTotal (left ++ right) = childTotal left + childTotal right := by
  have counted (nodes : List Node) (start : Nat) :
      nodes.foldl (fun count node => count + node.children.size) start =
        start + nodes.foldl (fun count node => count + node.children.size) 0 := by
    induction nodes generalizing start with
    | nil => rfl
    | cons node nodes ih =>
      rw [List.foldl_cons, List.foldl_cons, ih, ih (0 + _)]
      omega
  rw [childTotal, Array.foldl_append, ← Array.foldl_toList, counted, Array.foldl_toList, childTotal,
    childTotal]

/-- A tree counts the children of all its nodes. -/
theorem SyntaxTree.childCount_eq (tree : SyntaxTree) : tree.childCount = childTotal tree.nodes :=
  rfl

namespace TreeBuilder

/-- The innermost open node gains children drawn by shapes. Nodes are only added, and they have as
many children as the shapes. Nothing is said where no node is open. -/
def Gains (earlier later : TreeBuilder) (shapes : List Shape) : Prop :=
  ∀ innermost outer, earlier.opened = innermost :: outer →
    ∃ (added : Array Node) (children : Array Child),
      later.tokens = earlier.tokens ∧
      later.nodes = earlier.nodes ++ added ∧
      later.opened = { innermost with children := innermost.children ++ children } :: outer ∧
      DrawsAll later.nodes children.toList shapes ∧
      childTotal added = Shape.placesAll shapes

/-- Without a change nothing is gained. -/
theorem gains_refl (builder : TreeBuilder) : builder.Gains builder [] := by
  intro innermost outer opened
  exact ⟨#[], #[], rfl, by simp, by simpa using opened, .nil, rfl⟩

/-- Gains follow one another. -/
theorem Gains.trans {first second third : TreeBuilder} {left right : List Shape}
    (before : first.Gains second left) (after : second.Gains third right) :
    first.Gains third (left ++ right) := by
  intro innermost outer opened
  obtain ⟨added, children, tokens, nodes, still, drawn, count⟩ := before _ _ opened
  obtain ⟨added', children', tokens', nodes', still', drawn', count'⟩ := after _ _ still
  refine ⟨added ++ added', children ++ children', tokens'.trans tokens, ?_, ?_, ?_, ?_⟩
  · rw [nodes', nodes, Array.append_assoc]
  · rw [still', Array.append_assoc]
  · rw [Array.toList_append]
    refine DrawsAll.concat ?_ drawn'
    rw [nodes']
    exact drawn.append added'
  · rw [childTotal_append, Shape.placesAll_append, count, count']

/-- A token is gained as itself. -/
theorem gains_token (builder : TreeBuilder) (index : Nat) :
    builder.Gains (builder.token index) [.token index] := by
  intro innermost outer opened
  obtain ⟨tokens, nodes, _, last⟩ := builder
  obtain rfl := opened
  exact ⟨#[], #[.token index], rfl, by simp [token, add], by simp [token, add],
    .cons (.token index) .nil, rfl⟩

/-- Closing a node adds it to the array and to the children of the node around it. -/
theorem finishNode_opened (tokens : Array Token) (nodes : Array Node) (node outer : OpenNode)
    (rest : List OpenNode) (last : Option Nat) :
    ∃ start stop, finishNode ⟨tokens, nodes, node :: outer :: rest, last⟩ =
      ⟨tokens, nodes.push ⟨node.kind, node.children, start, stop⟩,
        { outer with children := outer.children.push (.node nodes.size) } :: rest,
        some nodes.size⟩ :=
  ⟨_, _, rfl⟩

/-- An open node whose children are drawn is gained when it is closed. -/
theorem gains_finishNode_of_drawn {earlier later : TreeBuilder} {innermost : OpenNode}
    {outer : List OpenNode} {added : Array Node} {kind : NodeKind} {offset : Nat}
    {children : Array Child} {shapes : List Shape} (opened : earlier.opened = innermost :: outer)
    (tokens : later.tokens = earlier.tokens) (nodes : later.nodes = earlier.nodes ++ added)
    (still : later.opened = ⟨kind, children, offset⟩ :: innermost :: outer)
    (drawn : DrawsAll later.nodes children.toList shapes)
    (count : childTotal added = Shape.placesAll shapes) :
    earlier.Gains later.finishNode [.node kind shapes] := by
  intro innermost' outer' opened'
  obtain ⟨rfl, rfl⟩ := List.cons.inj (opened.symm.trans opened')
  obtain ⟨laterTokens, laterNodes, laterOpened, last⟩ := later
  obtain rfl := still
  obtain rfl := tokens
  obtain rfl := nodes
  obtain ⟨start, stop, closed⟩ := finishNode_opened earlier.tokens (earlier.nodes ++ added)
    ⟨kind, children, offset⟩ innermost outer last
  rw [closed]
  have found : ((earlier.nodes ++ added).push ⟨kind, children, start, stop⟩)[
      (earlier.nodes ++ added).size]? = some ⟨kind, children, start, stop⟩ :=
    Array.getElem?_push_size
  refine ⟨added.push ⟨kind, children, start, stop⟩, #[.node (earlier.nodes ++ added).size], rfl,
    by simp, by simp, .cons ?_ .nil, ?_⟩
  · apply Draws.node found
    rw [← Array.append_singleton]
    exact drawn.append _
  · have size := drawn.length_eq
    rw [Array.length_toList] at size
    rw [childTotal_push, Shape.placesAll, Shape.placesAll, Shape.places]
    dsimp only
    omega

/-- A node that gains children between its opening and its closing is one new child. -/
theorem gains_finishNode {earlier later : TreeBuilder} {kind : NodeKind} {offset : Nat}
    {shapes : List Shape} (inside : (earlier.start kind offset).Gains later shapes) :
    earlier.Gains later.finishNode [.node kind shapes] := by
  intro innermost outer opened
  obtain ⟨added, children, tokens, nodes, still, drawn, count⟩ := inside _ _ rfl
  rw [Array.empty_append] at still
  simp only [opened] at still
  exact gains_finishNode_of_drawn opened tokens nodes still drawn count _ _ opened

/-- What has been gained since a checkpoint moves into a node that is opened there. -/
theorem startAt_of_gained {tokens : Array Token} {nodes : Array Node} {innermost : OpenNode}
    {outer : List OpenNode} {gained : Array Child} {last : Option Nat} (kind : NodeKind)
    (offset : Nat) :
    startAt ⟨tokens, nodes, { innermost with children := innermost.children ++ gained } :: outer,
        last⟩ ⟨outer.length + 1, innermost.children.size⟩ kind offset =
      ⟨tokens, nodes, ⟨kind, gained, offset⟩ :: innermost :: outer, last⟩ := by
  have taken : (innermost.children ++ gained).extract innermost.children.size
      (innermost.children ++ gained).size = gained := by
    apply Array.ext'
    simp
  have kept : (innermost.children ++ gained).shrink innermost.children.size =
      innermost.children := by
    apply Array.ext'
    simp
  simp only [startAt, if_true, taken, kept]

/-- A node opened around what was gained since a checkpoint is one new child. -/
theorem gains_startAt {earlier middle later : TreeBuilder} {kind : NodeKind} {offset : Nat}
    {left right : List Shape} (before : earlier.Gains middle left)
    (after : (middle.startAt earlier.checkpoint kind offset).Gains later right) :
    earlier.Gains later.finishNode [.node kind (left ++ right)] := by
  intro innermost outer opened
  obtain ⟨added, children, tokens, nodes, still, drawn, count⟩ := before _ _ opened
  obtain ⟨middleTokens, middleNodes, middleOpened, last⟩ := middle
  obtain rfl := still
  obtain rfl := tokens
  obtain rfl := nodes
  have place : earlier.checkpoint = ⟨outer.length + 1, innermost.children.size⟩ := by
    simp [checkpoint, depth, opened]
  rw [place, startAt_of_gained] at after
  obtain ⟨added', children', tokens', nodes', still', drawn', count'⟩ := after _ _ rfl
  have nodes'' : later.nodes = earlier.nodes ++ (added ++ added') := by
    rw [nodes', Array.append_assoc]
  refine gains_finishNode_of_drawn opened tokens' nodes'' still' ?_ ?_ _ _ opened
  · rw [Array.toList_append]
    refine DrawsAll.concat ?_ drawn'
    rw [nodes']
    exact drawn.append added'
  · rw [childTotal_append, Shape.placesAll_append, count, count']

/-- A node that is opened where none is open, and closed, becomes the root. -/
theorem draws_finish {earlier later : TreeBuilder} {kind : NodeKind} {offset : Nat}
    {shapes : List Shape} (bare : earlier.nodes = #[]) (closed : earlier.opened = [])
    (inside : (earlier.start kind offset).Gains later shapes) :
    Draws later.finishNode.finish.nodes (.node later.finishNode.finish.root)
        (.node kind shapes) ∧
      later.finishNode.finish.childCount = (Shape.node kind shapes).places := by
  obtain ⟨added, children, tokens, nodes, still, drawn, count⟩ := inside _ _ rfl
  obtain ⟨laterTokens, laterNodes, laterOpened, last⟩ := later
  rw [Array.empty_append] at still
  obtain rfl := still
  obtain rfl : laterNodes = added := by
    simpa only [start, bare, Array.empty_append] using nodes
  have shut : (finishNode ⟨laterTokens, laterNodes, ⟨kind, children, offset⟩ :: earlier.opened,
      last⟩).finish =
      ⟨laterNodes.push ⟨kind, children, (closedRange laterTokens laterNodes ⟨kind, children,
        offset⟩).1, (closedRange laterTokens laterNodes ⟨kind, children, offset⟩).2⟩,
        laterNodes.size⟩ := by
    rw [closed]
    rfl
  have size := drawn.length_eq
  rw [Array.length_toList] at size
  rw [shut]
  generalize closedRange laterTokens laterNodes ⟨kind, children, offset⟩ = range
  have found : (laterNodes.push ⟨kind, children, range.1, range.2⟩)[laterNodes.size]? =
      some ⟨kind, children, range.1, range.2⟩ := Array.getElem?_push_size
  refine ⟨.node found ?_, ?_⟩
  · rw [← Array.append_singleton]
    exact drawn.append _
  · rw [SyntaxTree.childCount_eq, childTotal_push, Shape.places]
    dsimp only
    omega

end TreeBuilder
end Stencil
