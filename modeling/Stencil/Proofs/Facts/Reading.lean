import Mathlib.Data.List.Perm.Subperm
import Stencil.Facts.Collect
import Stencil.Proofs.Tree.Building
/-!
# What facts say

Facts are collected in two passes over a tree, with a table of the references that are left out and
with limits on the sets of names. `Facts.Describe` says what they are without any of that: of the
names that the nodes have in document order, each set holds the first different ones, as many as it
has room for. `InOrder` is document order, by recursion over child nodes, and `Bottom` is the
reference that a chain of calls, filters and attributes ends in, however long the chain is.
-/

namespace Stencil

/-- A node that is drawn is in the array. -/
theorem Draws.lt_size {nodes : Array Node} {id : Nat} {shape : Shape}
    (drawn : Draws nodes (.node id) shape) : id < nodes.size := by
  cases drawn with
  | node found _ => exact (Array.getElem?_eq_some_iff.1 found).1

/-- A node is drawn by a node. -/
theorem Draws.exists_node {nodes : Array Node} {id : Nat} {shape : Shape}
    (drawn : Draws nodes (.node id) shape) : ∃ kind shapes, shape = .node kind shapes := by
  cases drawn with
  | node => exact ⟨_, _, rfl⟩

namespace SyntaxTree

/-! ### Document order -/

mutual

/-- A node and the nodes beneath it in document order: the node comes first. -/
inductive InOrder (tree : SyntaxTree) : Nat → List Nat → Prop where
  | node {id : Nat} {below : List Nat} (beneath : AllInOrder tree (tree.childNodes id) below) :
      InOrder tree id (id :: below)

/-- Nodes side by side, each followed by the nodes beneath it. -/
inductive AllInOrder (tree : SyntaxTree) : List Nat → List Nat → Prop where
  | nil : AllInOrder tree [] []
  | cons {id : Nat} {rest here there : List Nat} (first : InOrder tree id here)
      (further : AllInOrder tree rest there) : AllInOrder tree (id :: rest) (here ++ there)

end

variable {tree : SyntaxTree}

/-- What is listed of two rows of nodes is what is listed of the one and then of the other. -/
theorem AllInOrder.split {left right listed : List Nat}
    (all : tree.AllInOrder (left ++ right) listed) : ∃ before after, listed = before ++ after ∧
      tree.AllInOrder left before ∧ tree.AllInOrder right after := by
  induction left generalizing listed with
  | nil => exact ⟨[], listed, rfl, .nil, all⟩
  | cons id left ih =>
    cases all with
    | @cons _ _ here there first further =>
      obtain ⟨before, after, rfl, one, two⟩ := ih further
      exact ⟨here ++ before, after, (List.append_assoc ..).symm, .cons first one, two⟩

/-- A walk lists nodes in document order. -/
theorem Visits.allInOrder {pending visited : List Child} (visits : tree.Visits pending visited) :
    tree.AllInOrder (nodesAmong pending) (nodesAmong visited) := by
  induction visits with
  | nil => exact .nil
  | token index _ ih => exact ih
  | node id _ ih =>
    rw [nodesAmong_append] at ih
    obtain ⟨before, after, listed, beneath, rest⟩ := ih.split
    rw [← childNodes_eq] at beneath
    have whole := AllInOrder.cons (.node beneath) rest
    rw [List.cons_append, ← listed] at whole
    exact whole

/-- The nodes beneath a drawn node are listed in document order. -/
theorem inOrder_descendants {id : Nat} {kind : NodeKind} {shapes : List Shape}
    (drawn : Draws tree.nodes (.node id) (.node kind shapes))
    (enough : (Shape.node kind shapes).places ≤ tree.childCount) :
    tree.InOrder id (id :: tree.descendants id) := by
  have visits := tree.visits_walk drawn enough
  have listed := visits.allInOrder
  rw [← childNodes_eq, nodesAmong, ← descendants_eq visits] at listed
  exact .node listed

/-! ### Chains -/

/-- The reference in which a chain of calls, filters and attributes ends. Each of these has what it
is applied to as its first child node. -/
inductive Bottom (tree : SyntaxTree) : Nat → Nat → Prop where
  | reference {id : Nat} (here : tree.kind? id = some .variableReference) : Bottom tree id id
  | link {id child base : Nat} {kind : NodeKind} (here : tree.kind? id = some kind)
      (chains : kind ∈ [.functionCall, .filterExpression, .attributeAccess])
      (first : (tree.childNodes id)[0]? = some child) (further : Bottom tree child base) :
      Bottom tree id base

/-- What is found in some steps is at the bottom. -/
theorem bottom_of_baseWithin {steps id base : Nat}
    (found : tree.baseWithin steps id = some base) : tree.Bottom id base := by
  induction steps generalizing id with
  | zero => contradiction
  | succ steps ih =>
    have link {kind : NodeKind} (here : tree.kind? id = some kind)
        (chains : kind ∈ [.functionCall, .filterExpression, .attributeAccess])
        (further : (tree.childNodes id).head?.bind (tree.baseWithin steps) = some base) :
        tree.Bottom id base := by
      obtain ⟨child, first, rest⟩ := Option.bind_eq_some_iff.1 further
      exact .link here chains (List.head?_eq_getElem? ▸ first) (ih rest)
    rw [baseWithin] at found
    split at found
    next here => exact Option.some.inj found ▸ .reference here
    next here => exact link here (by decide) found
    next here => exact link here (by decide) found
    next here => exact link here (by decide) found
    · contradiction

/-- A step along a chain. -/
theorem baseWithin_link {steps id child : Nat} {kind : NodeKind}
    (here : tree.kind? id = some kind)
    (chains : kind ∈ [.functionCall, .filterExpression, .attributeAccess])
    (first : (tree.childNodes id)[0]? = some child) :
    tree.baseWithin (steps + 1) id = tree.baseWithin steps child := by
  have onward : (tree.childNodes id).head?.bind (tree.baseWithin steps) =
      tree.baseWithin steps child := by rw [List.head?_eq_getElem?, first, Option.bind_some]
  simp only [List.mem_cons, List.not_mem_nil, or_false] at chains
  rcases chains with rfl | rfl | rfl <;> rw [baseWithin, here] <;> exact onward

/-- As many steps as there are nodes on a chain are enough to come to its bottom. No node comes
twice, since the shape of each is a part of the shape of the one before. -/
theorem Bottom.exists_path {id base : Nat} (bottom : tree.Bottom id base) {shape : Shape}
    (drawn : Draws tree.nodes (.node id) shape) : ∃ path : List Nat, path.Nodup ∧
      (∀ on ∈ path, on < tree.size ∧
        ∃ part, Draws tree.nodes (.node on) part ∧ sizeOf part ≤ sizeOf shape) ∧
      ∀ steps, path.length ≤ steps → tree.baseWithin steps id = some base := by
  induction bottom generalizing shape with
  | @reference id here =>
    refine ⟨[id], List.nodup_singleton id, ?_, fun steps enough => ?_⟩
    · intro on member
      rw [List.mem_singleton.1 member]
      exact ⟨drawn.lt_size, shape, drawn, Nat.le_refl _⟩
    · cases steps with
      | zero => contradiction
      | succ steps => rw [baseWithin, here]
  | @link id child base kind here chains first further ih =>
    obtain ⟨inner, shapes, rfl⟩ := drawn.exists_node
    have member := mem_childNodes.1 (List.mem_of_getElem? first)
    obtain ⟨part, listed, there⟩ := (tree.children_drawn drawn).exists_of_mem member
    obtain ⟨path, distinct, along, enough⟩ := ih there
    have smaller : sizeOf part < sizeOf (Shape.node inner shapes) := by
      have below := List.sizeOf_lt_of_mem listed
      rw [Shape.node.sizeOf_spec]
      omega
    refine ⟨id :: path, List.nodup_cons.2 ⟨fun again => ?_, distinct⟩, ?_, fun steps more => ?_⟩
    · obtain ⟨-, other, also, size⟩ := along id again
      rw [also.unique drawn] at size
      omega
    · refine List.forall_mem_cons.2 ⟨⟨drawn.lt_size, _, drawn, Nat.le_refl _⟩, fun on later => ?_⟩
      obtain ⟨inside, other, also, size⟩ := along on later
      exact ⟨inside, other, also, by omega⟩
    · cases steps with
      | zero => contradiction
      | succ steps =>
        rw [baseWithin_link here chains first]
        exact enough steps (Nat.le_of_succ_le_succ more)

/-- The reference at the bottom of a chain is found. -/
theorem base?_eq_some_iff {id base : Nat} {shape : Shape}
    (drawn : Draws tree.nodes (.node id) shape) :
    tree.base? id = some base ↔ tree.Bottom id base := by
  refine ⟨bottom_of_baseWithin, fun bottom => ?_⟩
  obtain ⟨path, distinct, along, enough⟩ := bottom.exists_path drawn
  have within : path ⊆ List.range tree.size := fun on member =>
    List.mem_range.2 (along on member).1
  have short := (distinct.subperm within).length_le
  rw [List.length_range] at short
  exact enough tree.size short

/-! ### Names in document order -/

/-- The references that name a test or a filter: what the second operand of a test, and the
expression of a filter block, ends in. -/
def Applies (tree : SyntaxTree) (id base : Nat) : Prop :=
  ∃ child, tree.Bottom child base ∧
    (tree.kind? id = some .testExpression ∧ (tree.childNodes id)[1]? = some child ∨
      tree.kind? id = some .filterBlock ∧ (tree.childNodes id)[0]? = some child)

/-- Whether a token is a name and the one before it is no dot. -/
def IsTarget (stream : TokenStream) (before : Option Nat) (index : Nat) : Prop :=
  stream.kindAt? index = some .identifier ∧
    before.bind stream.kindAt? ≠ some (.punctuation .dot)

instance (stream : TokenStream) (before : Option Nat) (index : Nat) :
    Decidable (IsTarget stream before index) := inferInstanceAs (Decidable (_ ∧ _))

/-- The names among tokens that do not stand behind a dot, white space aside. -/
def targetsIn (stream : TokenStream) (indices : List Nat) : List String :=
  let solid := indices.filter fun index => stream.kindAt? index ≠ some .whitespace
  let pairs := (none :: solid.map some).zip solid
  (pairs.filter fun pair => IsTarget stream pair.1 pair.2).map fun pair => stream.textAt pair.2

/-- The names of values at a node: of a reference that names no test and no filter, and of the
targets of loops and assignments. The nodes of the tree are given in document order. -/
noncomputable def valuesAt (tree : SyntaxTree) (stream : TokenStream) (order : List Nat)
    (id : Nat) : List String :=
  open Classical in
  match tree.kind? id with
  | some .variableReference =>
    if ∃ above ∈ order, tree.Applies above id then [] else tree.textsOf stream .identifier id
  | some .targetList => targetsIn stream (tree.childTokens id)
  | _ => []

/-- The name of the filter that a filter block applies. -/
noncomputable def appliedAt (tree : SyntaxTree) (stream : TokenStream) (id : Nat) : List String :=
  open Classical in
  if applies : tree.kind? id = some .filterBlock ∧ ∃ base, tree.Applies id base then
    tree.textsOf stream .identifier applies.2.choose
  else
    []

/-- The first name at a node of a kind. -/
def firstAt (tree : SyntaxTree) (stream : TokenStream) (kind : NodeKind) (id : Nat) :
    List String :=
  if tree.kind? id = some kind then (tree.textsOf stream .identifier id).take 1 else []

/-- The strings that a statement names templates with: its first child node, or the child nodes of
that if it is a list or a tuple, as far as these are strings. -/
def sourcesOf (tree : SyntaxTree) (stream : TokenStream) (id : Nat) : List String :=
  let items := ((tree.childNodes id).take 1).flatMap fun target =>
    if tree.isKind .listLiteral target || tree.isKind .tupleLiteral target then
      tree.childNodes target
    else
      [target]
  (items.filter (tree.isKind .stringLiteral)).map (tree.stringValue stream)

/-- The names of templates at a node of a kind that names any. -/
def sourcesAt (tree : SyntaxTree) (stream : TokenStream) (id : Nat) : List String :=
  match tree.kind? id with
  | some .extendsBlock | some .includeBlock | some .importBlock | some .fromImportBlock =>
    tree.sourcesOf stream id
  | _ => []

end SyntaxTree

namespace Facts

/-- A set has the first different names of a list, so many at most, in alphabetical order. -/
def HoldsFirst (limit : Nat) (names set : List String) : Prop :=
  set.Pairwise (· < ·) ∧ ∀ name : String, name ∈ set ↔ name ∈ names.eraseDups.take limit

/-- What facts are, given the nodes of a tree in document order. -/
structure Describe (facts : Facts) (tree : SyntaxTree) (stream : TokenStream) (limit : Nat)
    (order : List Nat) : Prop where
  values : HoldsFirst limit (order.flatMap (tree.valuesAt stream order)) facts.values
  macros : HoldsFirst limit (order.flatMap (tree.firstAt stream .macroBlock)) facts.macros
  blocks : HoldsFirst limit (order.flatMap (tree.firstAt stream .blockDefinition)) facts.blocks
  filters : HoldsFirst limit
    (order.flatMap (tree.appliedAt stream) ++
      order.flatMap (tree.firstAt stream .filterExpression)) facts.filters
  dependencies : HoldsFirst limit (order.flatMap (tree.sourcesAt stream)) facts.dependencies
  complexity : facts.complexity = order.countP fun id =>
    (tree.kind? id).any fun kind => kind.hasBody || kind = .elifBlock

end Facts

end Stencil
