import Stencil.Proofs.Coupling.Invariant
import Stencil.Proofs.Tree.Traversal
/-!
# Walks over parsed trees

Every step of a parse is one of the calls that a builder takes, so that at any time all closed nodes
and all tokens read are held (`Parser.Holding`). The tree of a parse has nothing besides what lies
beneath its root, and the walks over it are recursions (`parse_traversals`).
-/

namespace Stencil
namespace Parser

/-- The open nodes of a parse, the outermost of which is the template, hold all that was built. -/
def Holding (p : Parser) : Prop := ∃ offset given, p.builder.Building .template offset given

variable {p q : Parser}

/-- A parser that is holding has an open node. -/
theorem Holding.within (holding : p.Holding) : p.builder.opened ≠ [] := by
  obtain ⟨_, _, building⟩ := holding
  exact building.opened_ne_nil

/-- A call that leaves a node open leaves it holding all. -/
theorem Holding.call (holding : p.Holding) (made : TreeBuilder.Call)
    (same : q.builder = p.builder.call made) (still : q.builder.opened ≠ []) : q.Holding := by
  obtain ⟨_, _, building⟩ := holding
  rw [same] at still
  exact ⟨_, _, same ▸ building.call made still⟩

/-- Holding is kept by all that builds a tree. -/
theorem treeInvariant_holding : TreeInvariant Holding where
  within holding := holding.within
  still holding _ _ builder := by rwa [Holding, builder]
  take {p} holding _ := by
    obtain ⟨innermost, outer, opened⟩ := List.exists_cons_of_ne_nil holding.within
    obtain ⟨_, _, _, -, still, -⟩ := p.builder.gains_token p.position _ _ opened
    exact holding.call (.token p.position) rfl (still ▸ List.cons_ne_nil _ _)
  start {p} holding _ kind := holding.call (.start kind p.offset) rfl (List.cons_ne_nil _ _)
  startAt {o p} _ holding _ _ kind := by
    have length := p.length_opened_startAt o.builder.checkpoint kind
    exact holding.call (.startAt o.builder.checkpoint kind p.offset) rfl
      (List.ne_nil_of_length_eq_add_one length)
  finish holding inner := holding.call .finishNode rfl (opened_finish_ne_nil inner)

end Parser

namespace TreeBuilder

/-- Closing a node and then what is open closes what was open. -/
theorem finish_finishNode {builder : TreeBuilder} (some : builder.opened ≠ []) :
    builder.finishNode.finish = builder.finish := by
  obtain ⟨tokens, nodes, opened, last⟩ := builder
  obtain ⟨node, outer, rfl⟩ := List.exists_cons_of_ne_nil some
  cases outer <;> rfl

end TreeBuilder

namespace TokenStream

/-- A parsed tree has no nodes besides the root and those beneath it, and the root comes last. -/
theorem gathered_parse (stream : TokenStream) (limits : ParseLimits) :
    let tree := (stream.parse limits).tree
    (∃ given, Gathered tree.nodes [.node tree.root] given) ∧ tree.root + 1 = tree.size := by
  intro tree
  let p := Parser.ofStream stream limits
  have untouched : p.skipSpace.builder = p.builder := Parser.takeSpace_builder rfl _
  have begun : (p.start .template).Holding := by
    rw [Parser.start, untouched]
    exact ⟨_, [], .empty, rfl⟩
  obtain ⟨q, holding, -, -, -, closed⟩ := Parser.treeInvariant_holding.parse begun
  rw [TreeBuilder.finish_finishNode holding.within] at closed
  obtain ⟨_, given, building⟩ := holding
  obtain ⟨gathered, last, -⟩ := building.finish
  rw [← closed] at gathered last
  exact ⟨⟨given, gathered⟩, last⟩

/-- Children come before their parents in a parsed tree, and the walks over what lies beneath a node
are the recursions over its children. The walk from the root comes to every other node once, so that
a kind is counted along the walk as well as in the array. -/
theorem parse_traversals (stream : TokenStream) (limits : ParseLimits) :
    let tree := (stream.parse limits).tree
    ∃ ordered : tree.Ordered,
      (∀ id < tree.size, tree.descendants id = tree.preorder ordered id ∧
        tree.tokensOf id = tree.leavesBelow ordered id) ∧
      tree.root < tree.size ∧ (tree.descendants tree.root).Nodup ∧
      (∀ id, id ∈ tree.descendants tree.root ↔ id < tree.size ∧ id ≠ tree.root) ∧
      ∀ kind, tree.count kind = (tree.findAll kind).length := by
  intro tree
  obtain ⟨⟨given, gathered⟩, last⟩ := stream.gathered_parse limits
  refine ⟨gathered.ordered, fun id inside => ?_, Nat.lt_of_succ_le (Nat.le_of_eq last),
    gathered.nodup_descendants last, fun id => gathered.mem_descendants_iff last,
    gathered.count_eq last⟩
  obtain ⟨shape, drawn, enough⟩ := gathered.draws last inside
  exact SyntaxTree.walks_of_draws gathered.ordered drawn enough

end TokenStream
end Stencil
