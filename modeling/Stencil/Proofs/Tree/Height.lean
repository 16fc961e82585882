import Stencil.Proofs.Tree.Building
/-!
# How far down a tree goes

A way down from a node goes from each node to one of its child nodes (`SyntaxTree.Down`). Operators
that group to the left, filters, attributes, subscripts and calls stand around what was read before
them, so that their nodes make chains as long as the source. A level is a step of a way that does
not go on along a chain. The levels below a node are read off its shape (`Down.levels_le`), and a
node takes one level more than its children at most (`Shape.levels_node_le`), or no more than the
operand it goes on from (`Shape.levels_chain_le`).
-/

namespace Stencil

/-- The nodes that are put, one after another, around an operand and what follows it. -/
def NodeKind.isChain : NodeKind → Bool
  | .orExpression | .andExpression | .arithmeticExpression | .termExpression | .filterExpression
  | .attributeAccess | .subscriptAccess | .functionCall => true
  | _ => false

namespace SyntaxTree

/-- Whether a chain goes on from a node to a child: the child is the operand that the node was put
around. -/
def goesOn (tree : SyntaxTree) (id child : Nat) : Bool :=
  (tree.kind? id).any NodeKind.isChain && (tree.childNodes id).head? = some child

/-- A way down from a node to one beneath it: the number of its steps, and of its levels. -/
inductive Down (tree : SyntaxTree) (top : Nat) : (steps levels : Nat) → (id : Nat) → Prop where
  | here : Down tree top 0 0 top
  | step {steps levels id child : Nat} (above : Down tree top steps levels id)
      (below : child ∈ tree.childNodes id) :
      Down tree top (steps + 1) (if tree.goesOn id child then levels else levels + 1) child

end SyntaxTree

namespace Shape

/-- Whether a shape is that of a node. -/
def isNode : Shape → Bool
  | .token _ => false
  | .node _ _ => true

mutual

/-- The number of levels of a shape, its own among them. -/
def levels : Shape → Nat
  | .token _ => 0
  | .node kind children => if kind.isChain then levelsChain children else levelsAll children + 1

/-- The number of levels of shapes side by side. -/
def levelsAll : List Shape → Nat
  | [] => 0
  | shape :: rest => max shape.levels (levelsAll rest)

/-- The number of levels of a node that goes on from the first of its child nodes. -/
def levelsChain : List Shape → Nat
  | [] => 1
  | shape :: rest =>
    if shape.isNode then max shape.levels (levelsAll rest + 1) else levelsChain rest

end

variable {kind : NodeKind} {left right shapes : List Shape} {levels : Nat}

/-- The levels of two rows of shapes are those of the higher. -/
@[simp]
theorem levelsAll_append (left right : List Shape) :
    levelsAll (left ++ right) = max (levelsAll left) (levelsAll right) := by
  induction left with
  | nil => rw [List.nil_append, levelsAll, Nat.zero_max]
  | cons shape rest ih => rw [List.cons_append, levelsAll, levelsAll, ih, Nat.max_assoc]

/-- A row of one shape has its levels. -/
@[simp]
theorem levelsAll_singleton (shape : Shape) : levelsAll [shape] = shape.levels := by
  rw [levelsAll, levelsAll, Nat.max_zero]

/-- Tokens have no levels. -/
@[simp]
theorem levelsAll_tokens (start count : Nat) : levelsAll (tokens start count) = 0 := by
  rw [tokens]
  generalize List.range' start count = indices
  induction indices with
  | nil => rfl
  | cons index rest ih => rw [List.map_cons, levelsAll, ih, levels, Nat.max_zero]

/-- No shape of a row has more levels than the row. -/
theorem levels_le_of_mem {shape : Shape} (member : shape ∈ shapes) :
    shape.levels ≤ levelsAll shapes := by
  induction shapes with
  | nil => contradiction
  | cons first rest ih =>
    rw [levelsAll]
    rcases List.mem_cons.1 member with rfl | member
    · exact Nat.le_max_left _ _
    · exact Nat.le_trans (ih member) (Nat.le_max_right _ _)

/-- A chain adds one level at most. -/
theorem levelsChain_bounds (shapes : List Shape) :
    1 ≤ levelsChain shapes ∧ levelsChain shapes ≤ levelsAll shapes + 1 := by
  induction shapes with
  | nil => exact ⟨Nat.le_refl _, Nat.le_refl _⟩
  | cons shape rest ih =>
    rw [levelsChain, levelsAll]
    split <;> omega

/-- A node has a level of its own. -/
theorem one_le_levels_node (kind : NodeKind) (shapes : List Shape) :
    1 ≤ (node kind shapes).levels := by
  rw [Shape.levels]
  split
  · exact (levelsChain_bounds shapes).1
  · exact Nat.le_add_left _ _

/-- A node takes one level more than what is in it at most. -/
theorem levels_node_le (kind : NodeKind) (shapes : List Shape) :
    (node kind shapes).levels ≤ levelsAll shapes + 1 := by
  rw [Shape.levels]
  split
  · exact (levelsChain_bounds shapes).2
  · exact Nat.le_refl _

/-- Where a chain goes on from a node, that node shares its level. -/
theorem levelsChain_cons_node (kind : NodeKind) (children rest : List Shape) :
    levelsChain (.node kind children :: rest) =
      max (node kind children).levels (levelsAll rest + 1) := by
  rw [levelsChain]
  exact if_pos rfl

/-- Shapes without levels are tokens. -/
theorem levelsAll_eq_zero_iff : levelsAll shapes = 0 ↔ shapes.countP isNode = 0 := by
  induction shapes with
  | nil => exact ⟨fun _ => rfl, fun _ => rfl⟩
  | cons shape rest ih =>
    rw [levelsAll, Nat.max_eq_zero_iff, ih, List.countP_cons, Nat.add_eq_zero_iff, and_comm]
    refine and_congr_right fun _ => ?_
    cases shape with
    | token index => exact ⟨fun _ => rfl, fun _ => rfl⟩
    | node kind children =>
      have own := one_le_levels_node kind children
      exact ⟨fun none => by omega, nofun⟩

/-- A node of a chain takes no level more than the one operand it was put around. -/
theorem levels_chain_le (chain : kind.isChain = true) (one : left.countP isNode ≤ 1)
    (operand : levelsAll left ≤ levels + 1) (others : levelsAll right ≤ levels) :
    (node kind (left ++ right)).levels ≤ levels + 1 := by
  rw [Shape.levels, if_pos chain]
  induction left with
  | nil => exact Nat.le_trans (levelsChain_bounds right).2 (Nat.succ_le_succ others)
  | cons shape rest ih =>
    rw [levelsAll] at operand
    rw [List.countP_cons] at one
    rw [List.cons_append, levelsChain]
    split
    next isNode =>
      -- The operand is the only node before what follows it.
      rw [if_pos isNode] at one
      have none : levelsAll rest = 0 := levelsAll_eq_zero_iff.2 (by omega)
      rw [levelsAll_append, none]
      omega
    · exact ih (by omega) (by omega)

end Shape

/-! ### Ways down -/

namespace DrawsAll

variable {nodes : Array Node} {children : List Child} {shapes : List Shape} {below : Nat}

/-- A node among the shapes of drawn children draws one of them. -/
theorem exists_node_of_mem (drawn : DrawsAll nodes children shapes) {shape : Shape}
    (member : shape ∈ shapes) (isNode : shape.isNode = true) :
    ∃ below, .node below ∈ children ∧ Draws nodes (.node below) shape := by
  induction children generalizing shapes with
  | nil =>
    cases drawn
    contradiction
  | cons child rest ih =>
    cases drawn with
    | cons first others =>
      rcases List.mem_cons.1 member with rfl | member
      · cases first with
        | token index => contradiction
        | node found beneath => exact ⟨_, List.mem_cons_self, .node found beneath⟩
      · obtain ⟨below, listed, here⟩ := ih others member
        exact ⟨below, List.mem_cons_of_mem _ listed, here⟩

/-- In a chain the first node among the children takes no level from it, any other takes one. -/
theorem exists_levels_le (drawn : DrawsAll nodes children shapes)
    (member : .node below ∈ children) : ∃ shape, Draws nodes (.node below) shape ∧
      (if (nodesAmong children).head? = some below then shape.levels else shape.levels + 1) ≤
        Shape.levelsChain shapes := by
  induction children generalizing shapes with
  | nil => contradiction
  | cons child rest ih =>
    cases drawn with
    | cons first others =>
      cases child with
      | token index =>
        cases first with
        | token =>
          obtain ⟨shape, here, enough⟩ := ih others ((List.mem_cons.1 member).resolve_left nofun)
          exact ⟨shape, here, enough⟩
      | node id =>
        have head : (nodesAmong (.node id :: rest)).head? = some id := rfl
        rw [head]
        by_cases same : id = below
        · subst same
          refine ⟨_, first, ?_⟩
          cases first with
          | node found beneath =>
            rw [if_pos rfl, Shape.levelsChain_cons_node]
            exact Nat.le_max_left _ _
        · have later := (List.mem_cons.1 member).resolve_left fun equal => same (by
            injection equal with equal
            exact equal.symm)
          obtain ⟨shape, listed, here⟩ := others.exists_of_mem later
          refine ⟨shape, here, ?_⟩
          rw [if_neg fun equal => same (Option.some.inj equal)]
          cases first with
          | node found beneath =>
            rw [Shape.levelsChain_cons_node]
            exact Nat.le_trans (Nat.succ_le_succ (Shape.levels_le_of_mem listed))
              (Nat.le_max_right _ _)

end DrawsAll

namespace SyntaxTree.Down

variable {tree : SyntaxTree} {top steps levels id child : Nat} {shape : Shape}

/-- A step that does not go on along a chain is a level. -/
theorem level (above : tree.Down top steps levels id) (below : child ∈ tree.childNodes id)
    (apart : tree.goesOn id child = false) : tree.Down top (steps + 1) (levels + 1) child := by
  have next := above.step below
  rwa [apart, if_neg Bool.false_ne_true] at next

/-- A step along a chain is none. -/
theorem along (above : tree.Down top steps levels id) (below : child ∈ tree.childNodes id)
    (chain : tree.goesOn id child = true) : tree.Down top (steps + 1) levels child := by
  have next := above.step below
  rwa [chain, if_pos rfl] at next

/-- The levels of a way down, and those of the shape it comes to, are levels of the shape that it
starts from. -/
theorem exists_levels_le (down : tree.Down top steps levels id)
    (drawn : Draws tree.nodes (.node top) shape) :
    ∃ below, Draws tree.nodes (.node id) below ∧ levels + below.levels ≤ shape.levels := by
  induction down with
  | here => exact ⟨shape, drawn, Nat.le_of_eq (Nat.zero_add _)⟩
  | @step steps levels id child above below ih =>
    obtain ⟨outer, here, enough⟩ := ih
    cases outer with
    | token index => cases here
    | node kind shapes =>
      have children := tree.children_drawn here
      have member := mem_childNodes.1 below
      rw [Shape.levels] at enough
      rw [goesOn, tree.kind?_of_draws here, Option.any_some, childNodes_eq]
      by_cases chain : kind.isChain = true
      · obtain ⟨shape, there, within⟩ := children.exists_levels_le member
        refine ⟨shape, there, ?_⟩
        rw [if_pos chain] at enough
        simp only [chain, Bool.true_and, decide_eq_true_eq]
        split at within
        next first =>
          rw [if_pos first]
          omega
        next other =>
          rw [if_neg other]
          omega
      · obtain ⟨shape, listed, there⟩ := children.exists_of_mem member
        have within := Shape.levels_le_of_mem listed
        refine ⟨shape, there, ?_⟩
        rw [if_neg chain] at enough
        rw [if_neg (by simp [chain])]
        omega

/-- A way down from a drawn node has fewer levels than its shape. -/
theorem levels_lt (down : tree.Down top steps levels id)
    (drawn : Draws tree.nodes (.node top) shape) : levels < shape.levels := by
  obtain ⟨below, here, enough⟩ := down.exists_levels_le drawn
  cases here with
  | @node _ node shapes found beneath =>
    have own := Shape.one_le_levels_node node.kind shapes
    omega

/-- A way down goes on to a node whose shape is among those of the children. -/
theorem exists_further {kind : NodeKind} {shapes : List Shape}
    (down : tree.Down top steps levels id) (drawn : Draws tree.nodes (.node id) (.node kind shapes))
    (member : shape ∈ shapes) (isNode : shape.isNode = true) :
    ∃ more below, tree.Down top (steps + 1) more below ∧ Draws tree.nodes (.node below) shape := by
  obtain ⟨below, listed, here⟩ := (tree.children_drawn drawn).exists_node_of_mem member isNode
  exact ⟨_, below, down.step (mem_childNodes.2 listed), here⟩

end SyntaxTree.Down
end Stencil
