import Stencil.Proofs.Coupling.Ranges
import Stencil.Proofs.Lexer.Boundaries
/-!
# Source ranges of nodes

In the tree of a source every node lies over what is beneath it: its children meet, its leaves go
from its start to its end, and its text is that of its leaves (`TokenStream.parse_ranges`). A node
without leaves has no extent and lies where the leaf before it ends.
-/

namespace Stencil

/-- Where the last of some tokens ends, or the start of the source without tokens. -/
def TokenStream.endOf (stream : TokenStream) (indices : List Nat) : Nat :=
  (indices.getLast?.bind fun index => stream.tokens[index]?.map (·.stop)).getD 0

/-- A node of a tree lies over what is beneath it. -/
structure SyntaxTree.Ranged (tree : SyntaxTree) (stream : TokenStream) (id : Nat) (node : Node) :
    Prop where
  /-- The node is the root or beneath it. -/
  beneath : id ∈ tree.root :: tree.descendants tree.root
  /-- The node starts where its first child does. -/
  first : ∀ child, node.children[0]? = some child →
    ∃ stop, child.range? stream.tokens tree.nodes = some (node.start, stop)
  /-- The node ends where its last child does. -/
  last : ∀ child, node.children.back? = some child →
    ∃ start, child.range? stream.tokens tree.nodes = some (start, node.stop)
  /-- A child ends where the next one starts. -/
  meets : ∀ place child next, node.children[place]? = some child →
    node.children[place + 1]? = some next → ∃ start middle stop,
      child.range? stream.tokens tree.nodes = some (start, middle) ∧
      next.range? stream.tokens tree.nodes = some (middle, stop)
  /-- The leaves beneath the node go from its start to its end. -/
  leaves : ∀ first last, (tree.tokensOf id).head? = some first →
    (tree.tokensOf id).getLast? = some last →
      stream.tokens[first]?.map (·.start) = some node.start ∧
      stream.tokens[last]?.map (·.stop) = some node.stop
  /-- Without leaves beneath it the node has no extent. -/
  empty : tree.tokensOf id = [] → node.start = node.stop
  /-- A walk over the tree comes to the node where the last leaf before it ends. -/
  after : ∀ before depth later,
    (tree.walk tree.root).toList = before ++ (depth, .node id) :: later →
      node.start = stream.endOf (before.filterMap SyntaxTree.entryToken?)
  /-- The text of the node is that of the leaves beneath it. -/
  text : tree.nodeText id stream.source = String.join ((tree.tokensOf id).map stream.textAt)

/-! ### Rows of tokens -/

namespace Row

variable {stream : TokenStream} {nodes : Array Node} {indices : List Nat} {start stop : Nat}

/-- The first of tokens in a row starts it. -/
theorem head_start (row : Row stream.tokens nodes (indices.map .token) start stop) {index : Nat}
    (head : indices.head? = some index) : stream.tokens[index]?.map (·.start) = some start := by
  have leading : (indices.map Child.token).head? = some (.token index) := by
    rw [List.head?_map, head, Option.map_some]
  obtain ⟨stop, found⟩ := row.first leading
  obtain ⟨token, listed, range⟩ := Option.map_eq_some_iff.1 found
  rw [listed, Option.map_some, (Prod.mk.inj range).1]

/-- The last of tokens in a row ends it. -/
theorem last_stop (row : Row stream.tokens nodes (indices.map .token) start stop) {index : Nat}
    (back : indices.getLast? = some index) : stream.tokens[index]?.map (·.stop) = some stop := by
  have trailing : (indices.map Child.token).getLast? = some (.token index) := by
    rw [List.getLast?_map, back, Option.map_some]
  obtain ⟨start, found⟩ := row.last trailing
  obtain ⟨token, listed, range⟩ := Option.map_eq_some_iff.1 found
  rw [listed, Option.map_some, (Prod.mk.inj range).2]

/-- Tokens in a row from the start of the source on end where the last one does. -/
theorem endOf_eq (row : Row stream.tokens nodes (indices.map .token) 0 stop) :
    stream.endOf indices = stop := by
  cases back : indices.getLast? with
  | none =>
    obtain rfl := List.getLast?_eq_none_iff.1 back
    exact row.eq_of_nil
  | some index =>
    rw [TokenStream.endOf, back, Option.bind_some, row.last_stop back, Option.getD_some]

/-- The text over tokens in a row is theirs one after another, if they are made of whole
characters. -/
theorem slice_eq
    (valid : ∀ (index : Nat) (token : Token), stream.tokens[index]? = some token →
      token.start ≤ token.stop ∧ (⟨token.start⟩ : String.Pos.Raw).IsValid stream.source ∧
        (⟨token.stop⟩ : String.Pos.Raw).IsValid stream.source)
    (row : Row stream.tokens nodes (indices.map .token) start stop) : start ≤ stop ∧
      ((⟨start⟩ : String.Pos.Raw).IsValid stream.source →
        (⟨stop⟩ : String.Pos.Raw).IsValid stream.source) ∧
      Text.slice stream.source start stop = String.join (indices.map stream.textAt) := by
  induction indices generalizing start with
  | nil =>
    obtain rfl := row.eq_of_nil
    exact ⟨Nat.le_refl _, id, Text.slice_self _ _⟩
  | cons index indices ih =>
    cases row with
    | @cons _ _ middle _ _ found further =>
      obtain ⟨later, ends, rest⟩ := ih further
      obtain ⟨token, listed, range⟩ := Option.map_eq_some_iff.1 found
      obtain ⟨rfl, rfl⟩ := Prod.mk.inj range
      obtain ⟨order, left, right⟩ := valid index token listed
      refine ⟨Nat.le_trans order later, fun _ => ends right, ?_⟩
      have own : stream.textAt index = Text.slice stream.source token.start token.stop := by
        rw [TokenStream.textAt, listed]
        rfl
      rw [List.map_cons, String.join_cons, ← rest, own]
      exact (Text.slice_append order later left right (ends right)).symm

end Row

namespace TokenStream

/-- In the tree of a source the root covers the source, and every node in the array is beneath the
root and lies over what is beneath itself, whatever the delimiters and the limits are. -/
theorem parse_ranges {source : String} {d : Delimiters} {limit : Nat} {stream : TokenStream}
    (read : ofSource source d limit = .ok stream) (limits : ParseLimits) :
    let tree := (stream.parse limits).tree
    (∃ root, tree.node? tree.root = some root ∧ root.start = 0 ∧
      root.stop = source.utf8ByteSize) ∧
    ∀ id node, tree.node? id = some node → tree.Ranged stream id node := by
  intro tree
  obtain ⟨same, -, -⟩ := (ofRange_eq_ok_iff (Nat.zero_le _) (Nat.le_refl _)).1 read
  have tiled := (delimited_ofSource read).2
  have solid : stream.kindAt? 0 ≠ some .whitespace := ofSource_kindAt?_zero read
  obtain ⟨placed, ⟨root, rootFound, starts, stops⟩, parents⟩ :=
    stream.placed_parse limits tiled solid
  obtain ⟨shapes, -, drawn, places⟩ := stream.draws_parse limits solid
  have enough := Nat.le_of_eq places.symm
  refine ⟨⟨root, rootFound, starts, same ▸ stops⟩, fun id node found => ?_⟩
  -- Parents come later in the array, so that every node is reached from the root.
  have reached (far id : Nat) (inside : id < tree.nodes.size) (near : tree.nodes.size ≤ id + far) :
      id ∈ tree.root :: tree.descendants tree.root := by
    induction far generalizing id with
    | zero => omega
    | succ far ih =>
      rcases parents id inside with rfl | ⟨parent, later, member⟩
      · exact List.mem_cons_self
      · have listed : parent < tree.nodes.size := by
          by_contra beyond
          rw [SyntaxTree.children, SyntaxTree.node?,
            Array.getElem?_eq_none (Nat.le_of_not_lt beyond)] at member
          exact List.not_mem_nil member
        exact List.mem_cons_of_mem _
          (tree.mem_descendants_of_child drawn enough (ih parent listed (by omega)) member)
  have beneath := reached _ id (Array.getElem?_eq_some_iff.1 found).1 (Nat.le_add_left _ _)
  have row := placed found
  obtain ⟨⟨kind, inner⟩, member, shaped⟩ := tree.exists_node drawn enough beneath
  have tokens := tree.tokensOf_eq_leaves shaped
    (Nat.le_trans (Shape.places_le_of_mem _ member) enough)
  have leaves := row_leaves placed shaped
    (show Child.range? stream.tokens tree.nodes (.node id) = some (node.start, node.stop) by
      rw [Child.range?, show tree.nodes[id]? = some node from found, Option.map_some])
  rw [← tokens] at leaves
  have valid (index : Nat) (token : Token) (listed : stream.tokens[index]? = some token) :
      token.start ≤ token.stop ∧ (⟨token.start⟩ : String.Pos.Raw).IsValid stream.source ∧
        (⟨token.stop⟩ : String.Pos.Raw).IsValid stream.source := by
    have ordered := listed
    rw [← Array.getElem?_toList] at ordered
    rw [same]
    exact ⟨Nat.le_of_lt (Tiles.next tiled ordered).1, isValid_of_ofSource read listed⟩
  exact {
    beneath := beneath
    first := fun child head => row.first (by rwa [List.head?_eq_getElem?, Array.getElem?_toList])
    last := fun child back => row.last (by rwa [Array.getLast?_toList])
    meets := fun place child next here there =>
      row.meets (by rwa [Array.getElem?_toList]) (by rwa [Array.getElem?_toList])
    leaves := fun first last head back => ⟨leaves.head_start head, leaves.last_stop back⟩
    empty := fun none => by
      rw [none] at leaves
      exact leaves.eq_of_nil
    after := fun before depth later split => by
      obtain ⟨inner, listed, upTo⟩ := tree.walk_before placed rootFound drawn enough split
      obtain rfl := Option.some.inj (listed.symm.trans found)
      rw [starts] at upTo
      exact upTo.endOf_eq.symm
    text := by
      rw [SyntaxTree.nodeText, found, Option.map_some, Option.getD_some]
      exact (leaves.slice_eq valid).2.2 }

/-- A tag that breaks off: an operand that is missing has no extent, where the last leaf ends. -/
theorem parse_ranges_missing :
    let stream : TokenStream := ⟨"é\x7b\x7ba +", #[⟨.text, 0, 2⟩, ⟨.delimiter .variableStart, 2, 4⟩,
        ⟨.identifier, 4, 5⟩, ⟨.whitespace, 5, 6⟩, ⟨.operator .plus, 6, 7⟩],
      #[.template, .template, .variableTag, .variableTag, .variableTag], .variableTag⟩
    let tree := stream.parse.tree
    ofSource stream.source {} = .ok stream ∧ tree.tokensOf 2 = [] ∧
      tree.Ranged stream 2 ⟨.error, #[], 7, 7⟩ := by
  intro stream tree
  have read : ofSource stream.source {} = .ok stream := ofSource_of_isFresh (by decide +kernel)
  have missing : tree.node? 2 = some ⟨.error, #[], 7, 7⟩ := by decide
  exact ⟨read, by decide, (parse_ranges read {}).2 2 _ missing⟩

end TokenStream
end Stencil
