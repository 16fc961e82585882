import Stencil.Tree.Builder
/-!
# Shapes of trees

A shape is a tree as one value, without the array its nodes lie in. `Draws` says that a child in an
array of nodes is drawn by a shape. A walk is a relation between the pending children and those it
comes to (`Visits`), and each loop over a stack refines it: the stack holds what is pending, last
entry first (`Visits.descendFrom`, `Visits.leavesFrom`). The main statement, `tokensOf_eq_leaves`,
reads the tokens beneath a node off its shape, as long as the loop may take enough steps; `places`
counts these.
-/

namespace Stencil

/-- A token, or a node with what lies beneath it. -/
inductive Shape where
  | token (index : Nat)
  | node (kind : NodeKind) (children : List Shape)

namespace Shape

mutual

/-- The tokens of a shape from left to right. -/
def leaves : Shape → List Nat
  | .token index => [index]
  | .node _ children => leavesAll children

/-- The tokens of shapes side by side. -/
def leavesAll : List Shape → List Nat
  | [] => []
  | shape :: rest => shape.leaves ++ leavesAll rest

end

mutual

/-- The number of children of the nodes in a shape. -/
def places : Shape → Nat
  | .token _ => 0
  | .node _ children => children.length + placesAll children

/-- The number of children of the nodes in shapes side by side. -/
def placesAll : List Shape → Nat
  | [] => 0
  | shape :: rest => shape.places + placesAll rest

end

/-- Tokens side by side, so many from an index on. -/
def tokens (start count : Nat) : List Shape := (List.range' start count).map .token

/-- The tokens of two rows of shapes are those of the one and then those of the other. -/
@[simp]
theorem leavesAll_append (left right : List Shape) :
    leavesAll (left ++ right) = leavesAll left ++ leavesAll right := by
  induction left with
  | nil => rfl
  | cons shape rest ih => simp only [List.cons_append, leavesAll, ih, List.append_assoc]

/-- The only leaf of a token is the token. -/
@[simp]
theorem leavesAll_token (index : Nat) : leavesAll [.token index] = [index] := rfl

/-- The tokens of a node are those of its children. -/
@[simp]
theorem leavesAll_node (kind : NodeKind) (children : List Shape) :
    leavesAll [.node kind children] = leavesAll children := by
  rw [leavesAll, leaves, leavesAll, List.append_nil]

/-- Children are counted row by row. -/
@[simp]
theorem placesAll_append (left right : List Shape) :
    placesAll (left ++ right) = placesAll left + placesAll right := by
  induction left with
  | nil => simp only [List.nil_append, placesAll, Nat.zero_add]
  | cons shape rest ih => simp only [List.cons_append, placesAll, ih, Nat.add_assoc]

/-- A row of tokens can be cut anywhere. -/
theorem tokens_append (start count more : Nat) :
    tokens start count ++ tokens (start + count) more = tokens start (count + more) := by
  rw [tokens, tokens, tokens, ← List.map_append, List.range'_append_1]

end Shape

/-! ### Shapes of nodes in an array -/

mutual

/-- A child is drawn by a shape: a token by itself, and a node by its kind and the shapes of its
children. -/
inductive Draws (nodes : Array Node) : Child → Shape → Prop where
  | token (index : Nat) : Draws nodes (.token index) (.token index)
  | node {id : Nat} {node : Node} {shapes : List Shape} (found : nodes[id]? = some node)
      (beneath : DrawsAll nodes node.children.toList shapes) :
      Draws nodes (.node id) (.node node.kind shapes)

/-- Children are drawn by shapes one by one. -/
inductive DrawsAll (nodes : Array Node) : List Child → List Shape → Prop where
  | nil : DrawsAll nodes [] []
  | cons {child : Child} {shape : Shape} {children : List Child} {shapes : List Shape}
      (first : Draws nodes child shape) (rest : DrawsAll nodes children shapes) :
      DrawsAll nodes (child :: children) (shape :: shapes)

end

mutual

/-- Further nodes in the array change no shape. -/
theorem Draws.append {nodes : Array Node} {child : Child} {shape : Shape}
    (drawn : Draws nodes child shape) (added : Array Node) :
    Draws (nodes ++ added) child shape := by
  cases drawn with
  | token index => exact .token index
  | node found beneath =>
    have inside := (Array.getElem?_eq_some_iff.1 found).1
    exact .node (by rw [Array.getElem?_append_left inside, found]) (beneath.append added)

/-- Further nodes in the array change no row of shapes. -/
theorem DrawsAll.append {nodes : Array Node} {children : List Child} {shapes : List Shape}
    (drawn : DrawsAll nodes children shapes) (added : Array Node) :
    DrawsAll (nodes ++ added) children shapes := by
  cases drawn with
  | nil => exact .nil
  | cons first rest => exact .cons (first.append added) (rest.append added)

end

mutual

/-- A child has at most one shape. -/
theorem Draws.unique {nodes : Array Node} {child : Child} {left right : Shape}
    (first : Draws nodes child left) (second : Draws nodes child right) : left = right := by
  cases first with
  | token index => cases second with | token => rfl
  | node found beneath =>
    cases second with
    | node also other =>
      obtain rfl := Option.some.inj (found.symm.trans also)
      rw [beneath.unique other]

/-- Children have at most one row of shapes. -/
theorem DrawsAll.unique {nodes : Array Node} {children : List Child} {left right : List Shape}
    (first : DrawsAll nodes children left) (second : DrawsAll nodes children right) :
    left = right := by
  cases first with
  | nil => cases second with | nil => rfl
  | cons head tail =>
    cases second with
    | cons otherHead otherTail => rw [head.unique otherHead, tail.unique otherTail]

end

/-- There are as many shapes as children. -/
theorem DrawsAll.length_eq {nodes : Array Node} {children : List Child} {shapes : List Shape}
    (drawn : DrawsAll nodes children shapes) : children.length = shapes.length := by
  induction children generalizing shapes with
  | nil => cases drawn with | nil => rfl
  | cons child children ih =>
    cases drawn with | cons first rest => rw [List.length_cons, List.length_cons, ih rest]

/-- Rows of children side by side are drawn by their rows of shapes side by side. -/
theorem DrawsAll.concat {nodes : Array Node} {left right : List Child}
    {leftShapes rightShapes : List Shape} (first : DrawsAll nodes left leftShapes)
    (second : DrawsAll nodes right rightShapes) :
    DrawsAll nodes (left ++ right) (leftShapes ++ rightShapes) := by
  induction left generalizing leftShapes with
  | nil => cases first with | nil => exact second
  | cons child left ih => cases first with | cons head tail => exact .cons head (ih tail)

/-! ### Walks -/

namespace SyntaxTree

/-- The token that an entry of a walk is. -/
def entryToken? : Nat × Child → Option Nat
  | (_, .node _) => none
  | (_, .token index) => some index

/-- The token that a child is. -/
def childToken? : Child → Option Nat
  | .node _ => none
  | .token index => some index

/-- The node that a child is. -/
def childNode? : Child → Option Nat
  | .node id => some id
  | .token _ => none

/-- The tokens among the entries of a walk do not depend on depths. -/
theorem filterMap_entryToken? (entries : List (Nat × Child)) :
    entries.filterMap entryToken? = (entries.map (·.2)).filterMap childToken? := by
  rw [List.filterMap_map]
  congr 1
  funext ⟨depth, child⟩
  cases child <;> rfl

/-- The children of a node that is found. -/
theorem children_of_found (tree : SyntaxTree) {id : Nat} {node : Node}
    (found : tree.nodes[id]? = some node) : tree.children id = node.children.toList := by
  rw [children, node?, found, Option.map_some, Option.getD_some]

/-- The children of a drawn node are drawn. -/
theorem children_drawn (tree : SyntaxTree) {id : Nat} {kind : NodeKind} {shapes : List Shape}
    (drawn : Draws tree.nodes (.node id) (.node kind shapes)) :
    DrawsAll tree.nodes (tree.children id) shapes := by
  cases drawn with
  | node found beneath =>
    rw [tree.children_of_found found]
    exact beneath

/-- What lies beneath a node, depths aside, is its children. -/
theorem map_beneath (tree : SyntaxTree) (depth id : Nat) :
    (tree.beneath depth id).map (·.2) = tree.children id := by
  simp only [beneath, List.map_map, Function.comp_def, List.map_id']

/-- A walk over pending children in document order, with as many steps as it takes. -/
inductive Visits (tree : SyntaxTree) : (pending visited : List Child) → Prop where
  | nil : Visits tree [] []
  | token {pending visited : List Child} (index : Nat) (further : Visits tree pending visited) :
      Visits tree (.token index :: pending) (.token index :: visited)
  | node {pending visited : List Child} (id : Nat)
      (further : Visits tree (tree.children id ++ pending) visited) :
      Visits tree (.node id :: pending) (.node id :: visited)

/-- A walk that may take a step for each child in the shapes of the pending ones comes to its
end. -/
theorem visits_walkFrom (tree : SyntaxTree) {steps : Nat} (visited : Array (Nat × Child))
    (pending : List (Nat × Child)) {shapes : List Shape}
    (drawn : DrawsAll tree.nodes (pending.map (·.2)) shapes)
    (enough : shapes.length + Shape.placesAll shapes ≤ steps) :
    ∃ listed, (tree.walkFrom visited steps pending).toList = visited.toList ++ listed ∧
      tree.Visits (pending.map (·.2)) (listed.map (·.2)) := by
  induction steps generalizing visited pending shapes with
  | zero =>
    obtain rfl : shapes = [] := List.length_eq_zero_iff.1 (by omega)
    cases pending with
    | nil => exact ⟨[], by rw [walkFrom, List.append_nil], .nil⟩
    | cons => cases drawn
  | succ steps ih =>
    cases pending with
    | nil => exact ⟨[], by rw [walkFrom, List.append_nil], .nil⟩
    | cons entry pending =>
      obtain ⟨depth, child⟩ := entry
      cases drawn with
      | cons first rest =>
        simp only [List.length_cons, Shape.placesAll] at enough
        cases first with
        | token index =>
          obtain ⟨listed, walked, visits⟩ := ih (visited.push (depth, .token index)) pending rest
            (by simp only [Shape.places] at enough; omega)
          refine ⟨(depth, .token index) :: listed, ?_, .token index visits⟩
          rw [walkFrom, List.nil_append, walked, Array.toList_push, List.append_assoc,
            List.singleton_append]
        | @node id node shapes' found beneath =>
          obtain ⟨listed, walked, visits⟩ := ih (visited.push (depth, .node id))
            (tree.beneath (depth + 1) id ++ pending)
            (by
              rw [List.map_append, tree.map_beneath, tree.children_of_found found]
              exact beneath.concat rest)
            (by
              simp only [Shape.places] at enough
              rw [List.length_append, Shape.placesAll_append]
              omega)
          rw [List.map_append, tree.map_beneath] at visits
          refine ⟨(depth, .node id) :: listed, ?_, .node id visits⟩
          rw [walkFrom, walked, Array.toList_push, List.append_assoc, List.singleton_append]

/-- The walk over what is beneath a drawn node comes to its end. -/
theorem visits_walk (tree : SyntaxTree) {id : Nat} {kind : NodeKind} {shapes : List Shape}
    (drawn : Draws tree.nodes (.node id) (.node kind shapes))
    (enough : (Shape.node kind shapes).places ≤ tree.childCount) :
    tree.Visits (tree.children id) ((tree.walk id).toList.map (·.2)) := by
  have beneath := tree.children_drawn drawn
  rw [← tree.map_beneath 1 id] at beneath ⊢
  obtain ⟨listed, walked, visits⟩ := tree.visits_walkFrom #[] (tree.beneath 1 id) beneath enough
  rw [List.nil_append] at walked
  rw [walk, walked]
  exact visits

/-- A walk takes no more steps than it may. -/
theorem size_walkFrom_le (tree : SyntaxTree) (visited : Array (Nat × Child)) (steps : Nat)
    (pending : List (Nat × Child)) :
    (tree.walkFrom visited steps pending).size ≤ visited.size + steps := by
  induction steps generalizing visited pending with
  | zero => exact Nat.le_refl _
  | succ steps ih =>
    cases pending with
    | nil => exact Nat.le_add_right _ _
    | cons entry pending =>
      have later := ih (visited.push entry)
      simp only [Array.size_push, Nat.add_assoc, Nat.add_comm 1] at later
      exact later _

/-- No more is visited than there are places for children. -/
theorem length_walk_le (tree : SyntaxTree) (id : Nat) :
    ((tree.walk id).toList.map (·.2)).length ≤ tree.childCount := by
  rw [List.length_map, Array.length_toList]
  have bound := tree.size_walkFrom_le #[] tree.childCount (tree.beneath 1 id)
  rw [Array.size_empty, Nat.zero_add] at bound
  exact bound

/-! ### Stacks -/

/-- Only what lies on a stack from a place on is turned. -/
theorem toList_turnFrom (stack : Array Nat) (start : Nat) :
    (turnFrom stack start).toList =
      stack.toList.take start ++ (stack.toList.drop start).reverse := by
  have all : stack.toList.extract start stack.size = stack.toList.drop start := by
    rw [List.extract_eq_take_drop, ← Array.length_toList, ← List.length_drop, List.take_length]
  rw [turnFrom, Array.toList_appendList, Array.toList_shrink, Array.toList_extract, all]

/-- What is put on a stack and turned there is taken off in order. -/
theorem reverse_turnFrom (stack : Array Nat) (added : List Nat) :
    (turnFrom (stack ++ added) stack.size).toList.reverse = added ++ stack.toList.reverse := by
  rw [toList_turnFrom, Array.toList_appendList, ← Array.length_toList, List.take_left,
    List.drop_left, List.reverse_append, List.reverse_reverse]

/-- A stack is its last entry upon the others. -/
theorem exists_push {α : Type} {stack : Array α} {next : α} {rest : List α}
    (held : stack.toList.reverse = next :: rest) :
    ∃ below : Array α, stack = below.push next ∧ below.toList.reverse = rest := by
  refine ⟨rest.reverse.toArray, Array.toList_inj.1 ?_, List.reverse_reverse _⟩
  rw [Array.toList_push, ← List.reverse_cons, ← held, List.reverse_reverse]

variable {tree : SyntaxTree} {pending visited : List Child}

/-- The loop over a stack of the pending nodes finds the nodes that a walk comes to. -/
theorem Visits.descendFrom (visits : tree.Visits pending visited) {stack : Array Nat}
    (held : stack.toList.reverse = pending.filterMap childNode?) (found : Array Nat) {steps : Nat}
    (enough : visited.length ≤ steps) :
    (tree.descendFrom found steps stack).toList =
      found.toList ++ visited.filterMap childNode? := by
  induction visits generalizing stack found steps with
  | nil =>
    obtain rfl : stack = #[] := Array.toList_inj.1 (List.reverse_eq_nil_iff.1 held)
    cases steps <;> exact (List.append_nil _).symm
  | token index _ ih => exact ih held found (Nat.le_of_succ_le enough)
  | @node pending visited id _ ih =>
    obtain ⟨below, rfl, rest⟩ := exists_push held
    obtain ⟨steps, rfl⟩ := Nat.exists_eq_add_of_le' (Nat.le_trans (Nat.succ_pos _) enough)
    have turned : (turnFrom (below ++ tree.childNodes id) below.size).toList.reverse =
        (tree.children id ++ pending).filterMap childNode? := by
      rw [reverse_turnFrom, rest, List.filterMap_append]
      rfl
    have later := ih turned (found.push id) (Nat.le_of_succ_le_succ enough)
    rw [SyntaxTree.descendFrom, Array.back?_push, Array.pop_push]
    rw [later, Array.toList_push, List.append_assoc]
    rfl

/-- The loop over a stack of the pending children finds the tokens that a walk comes to. -/
theorem Visits.leavesFrom (visits : tree.Visits pending visited) {stack : Array Child}
    (held : stack.toList.reverse = pending) (tokens : Array Nat) {steps : Nat}
    (enough : visited.length ≤ steps) :
    (tree.leavesFrom tokens steps stack).toList =
      tokens.toList ++ visited.filterMap childToken? := by
  induction visits generalizing stack tokens steps with
  | nil =>
    obtain rfl : stack = #[] := Array.toList_inj.1 (List.reverse_eq_nil_iff.1 held)
    cases steps <;> exact (List.append_nil _).symm
  | token index _ ih =>
    obtain ⟨below, rfl, rest⟩ := exists_push held
    obtain ⟨steps, rfl⟩ := Nat.exists_eq_add_of_le' (Nat.le_trans (Nat.succ_pos _) enough)
    have later := ih rest (tokens.push index) (Nat.le_of_succ_le_succ enough)
    rw [SyntaxTree.leavesFrom, Array.back?_push, Array.pop_push]
    rw [later, Array.toList_push, List.append_assoc]
    rfl
  | @node pending visited id _ ih =>
    obtain ⟨below, rfl, rest⟩ := exists_push held
    obtain ⟨steps, rfl⟩ := Nat.exists_eq_add_of_le' (Nat.le_trans (Nat.succ_pos _) enough)
    have turned : (below ++ (tree.children id).reverse).toList.reverse =
        tree.children id ++ pending := by
      rw [Array.toList_appendList, List.reverse_append, List.reverse_reverse, rest]
    rw [SyntaxTree.leavesFrom, Array.back?_push, Array.pop_push]
    exact ih turned tokens (Nat.le_of_succ_le_succ enough)

/-- The nodes beneath a node are those that the whole walk comes to. -/
theorem descendants_eq {id : Nat}
    (visits : tree.Visits (tree.children id) ((tree.walk id).toList.map (·.2))) :
    tree.descendants id = ((tree.walk id).toList.map (·.2)).filterMap childNode? := by
  have turned : (turnFrom (tree.childNodes id).toArray 0).toList.reverse =
      (tree.children id).filterMap childNode? := by
    rw [toList_turnFrom, List.take_zero, List.drop_zero, List.nil_append, List.reverse_reverse]
    rfl
  exact visits.descendFrom turned #[] (tree.length_walk_le id)

/-- The tokens beneath a node are those that the whole walk comes to. -/
theorem tokensOf_eq {id : Nat}
    (visits : tree.Visits (tree.children id) ((tree.walk id).toList.map (·.2))) :
    tree.tokensOf id = ((tree.walk id).toList.map (·.2)).filterMap childToken? :=
  visits.leavesFrom (List.reverse_reverse _) #[] (tree.length_walk_le id)

/-- A walk over drawn children comes to the tokens of their shapes. -/
theorem Visits.tokens {shapes : List Shape} (visits : tree.Visits pending visited)
    (drawn : DrawsAll tree.nodes pending shapes) :
    visited.filterMap childToken? = Shape.leavesAll shapes := by
  induction visits generalizing shapes with
  | nil => cases drawn with | nil => rfl
  | token index _ ih =>
    cases drawn with
    | cons first rest => cases first with | token => exact congrArg (index :: ·) (ih rest)
  | node id _ ih =>
    cases drawn with
    | cons first rest =>
      cases first with
      | node found beneath =>
        rw [Shape.leavesAll, Shape.leaves, ← Shape.leavesAll_append]
        exact ih ((tree.children_drawn (.node found beneath)).concat rest)

/-- The tokens beneath a node are those of its shape, if the nodes of the array have as many
children as the shape. -/
theorem tokensOf_eq_leaves (tree : SyntaxTree) {id : Nat} {shape : Shape}
    (drawn : Draws tree.nodes (.node id) shape) (enough : shape.places ≤ tree.childCount) :
    tree.tokensOf id = shape.leaves := by
  cases drawn with
  | node found beneath =>
    have drawn := Draws.node found beneath
    have visits := tree.visits_walk drawn enough
    rw [tokensOf_eq visits]
    exact visits.tokens (tree.children_drawn drawn)

/-- A node that is drawn has the kind of its shape. -/
theorem kind?_of_draws (tree : SyntaxTree) {id : Nat} {kind : NodeKind} {shapes : List Shape}
    (drawn : Draws tree.nodes (.node id) (.node kind shapes)) : tree.kind? id = some kind := by
  cases drawn with
  | node found beneath => rw [kind?, node?, found, Option.map_some]

/-- Leaves are in order exactly if they are the indices from the first place on. -/
theorem outOfOrder?_eq_none_iff (start : Nat) (leaves : List Nat) :
    outOfOrder? start leaves = none ↔ leaves = List.range' start leaves.length := by
  induction leaves generalizing start with
  | nil => exact ⟨fun _ => rfl, fun _ => rfl⟩
  | cons index rest ih =>
    rw [outOfOrder?, List.length_cons, List.range'_succ, List.cons.injEq]
    by_cases here : index = start
    · rw [if_pos here, ih]
      exact ⟨fun same => ⟨here, same⟩, And.right⟩
    · rw [if_neg here]
      exact ⟨fun none => absurd none (Option.some_ne_none _), fun same => absurd same.1 here⟩

/-- A tree covers a stream exactly if its leaves are all indices in order. -/
theorem coverage_eq_ok_iff (tree : SyntaxTree) (stream : TokenStream) :
    tree.coverage stream = .ok () ↔ tree.tokensOf tree.root = List.range stream.size := by
  have ordered := outOfOrder?_eq_none_iff 0 (tree.tokensOf tree.root)
  rw [← List.range_eq_range'] at ordered
  rw [coverage]
  by_cases whole : (tree.tokensOf tree.root).length = stream.size
  · rw [whole] at ordered
    rw [if_neg (not_not_intro whole), ← ordered]
    cases outOfOrder? 0 (tree.tokensOf tree.root) with
    | none => exact ⟨fun _ => rfl, fun _ => rfl⟩
    | some fault => exact ⟨nofun, nofun⟩
  · rw [if_pos whole]
    refine ⟨nofun, fun same => absurd ?_ whole⟩
    rw [same, List.length_range]

/-- A tree whose leaves are all indices in order covers the stream. -/
theorem coverage_of_tokensOf (tree : SyntaxTree) (stream : TokenStream)
    (leaves : tree.tokensOf tree.root = List.range stream.size) :
    tree.coverage stream = .ok () := (tree.coverage_eq_ok_iff stream).2 leaves

end SyntaxTree
end Stencil
