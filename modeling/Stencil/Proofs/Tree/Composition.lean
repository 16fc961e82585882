import Mathlib.Computability.Language
import Mathlib.Order.CompletePartialOrder
import Stencil.Proofs.Parser.Statements
import Stencil.Proofs.Tree.Nodes
/-!
# What nodes consist of

A node of a given kind has child nodes of certain kinds only, and certain tokens besides white
space. Both are languages: `NodeKind.parts` has the rows of child nodes and `NodeKind.words` the
rows of tokens. A node is composed if its own rows are in the languages of its kind;
`Shape.Composed` says so of all nodes of a row of shapes.
-/

namespace Stencil

open scoped Computability

namespace NodeKind

/-- What stands for a value: an expression, or a placeholder where there is none. -/
def isOperand (kind : NodeKind) : Bool := kind.isExpression || kind = .error

/-- The rows of one operand. -/
def operand : Language NodeKind := {row | ∃ kind : NodeKind, kind.isOperand = true ∧ row = [kind]}

/-- The rows of child nodes that a node of a kind may have. Statements, content and placeholders may
have any. -/
def parts : NodeKind → Language NodeKind
  | .orExpression | .andExpression | .comparisonExpression | .testExpression
  | .arithmeticExpression | .termExpression | .powerExpression | .subscriptAccess =>
    operand * operand
  | .notExpression | .unaryExpression | .parenthesizedExpression | .attributeAccess
  | .keywordArgument => operand
  | .functionCall => operand * {[.argumentList]}
  | .filterExpression => operand * (1 + {[.argumentList]})
  | .conditionalExpression => operand * operand * (1 + operand)
  | .dictEntry => operand * (1 + operand)
  | .variableReference | .stringLiteral | .numberLiteral | .booleanLiteral | .noneLiteral => 1
  | .listLiteral | .tupleLiteral => operand∗
  | .dictLiteral => {[.dictEntry]}∗
  | .argumentList => (operand + {[.keywordArgument]})∗
  | .parameterList => {[.parameter]}∗
  | .parameter => 1 + operand
  | _ => ⊤

/-- The rows of tokens, white space aside, that a node of a kind may have next to its child nodes.
Names and literals have theirs; any other node may have any. -/
def words : NodeKind → Language TokenKind
  | .variableReference => {[.identifier]}
  | .stringLiteral => {[.literal .string]} * {[.literal .string]}∗
  | .numberLiteral => {[.literal .integer], [.literal .float]}
  | .booleanLiteral => {[.literal .boolTrue], [.literal .boolFalse]}
  | .noneLiteral => {[.literal .none]}
  | _ => ⊤

/-- A node that stands for a value is an operand. -/
theorem singleton_le_operand {kind : NodeKind} (isOperand : kind.isOperand = true) :
    {[kind]} ≤ operand := by
  rintro row rfl
  exact ⟨kind, isOperand, rfl⟩

/-- A node outside expressions may have any child nodes and any tokens. -/
theorem parts_of_isOuter {kind : NodeKind} (outer : kind.isOuter = true) :
    kind.parts = ⊤ ∧ kind.words = ⊤ := by
  cases kind <;> first | exact ⟨rfl, rfl⟩ | contradiction

/-- A string is a row of string literals. -/
theorem single_string_mem : [.literal .string] ∈ NodeKind.stringLiteral.words := by
  have one : [TokenKind.literal .string] ∈ ({[.literal .string]} : Language TokenKind) := rfl
  exact Language.append_mem_mul one (Language.nil_mem_kstar _)

/-- A row of string literals goes on with one more. -/
theorem append_string_mem {row : List TokenKind} (strings : row ∈ NodeKind.stringLiteral.words) :
    row ++ [.literal .string] ∈ NodeKind.stringLiteral.words := by
  have one : [TokenKind.literal .string] ∈ ({[.literal .string]} : Language TokenKind) := rfl
  obtain ⟨first, head, more, tail, rfl⟩ := Language.mem_mul.1 strings
  have longer : ({[.literal .string]} : Language TokenKind)∗ * {[.literal .string]} ≤
      {[.literal .string]}∗ := kstar_mul_le_kstar
  rw [List.append_assoc]
  exact Language.append_mem_mul head (longer (Language.append_mem_mul tail one))

end NodeKind

namespace Shape

/-- The kind of the node that a shape is. -/
def kind? : Shape → Option NodeKind
  | .token _ => none
  | .node kind _ => some kind

/-- The kinds of the nodes among shapes. -/
def kinds (shapes : List Shape) : List NodeKind := shapes.filterMap kind?

/-- The kinds of the tokens among shapes that are not white space. -/
def words (stream : TokenStream) (shapes : List Shape) : List TokenKind :=
  ((shapes.filterMap token?).filterMap stream.kindAt?).filter (· ≠ .whitespace)

/-- A node with these children has what its kind may have. -/
def Fits (stream : TokenStream) (kind : NodeKind) (shapes : List Shape) : Prop :=
  kinds shapes ∈ kind.parts ∧ words stream shapes ∈ kind.words

/-- Every node has what its kind may have. -/
def Composed (stream : TokenStream) (shapes : List Shape) : Prop :=
  ∀ node ∈ nodesAll shapes, Fits stream node.1 node.2

/-- The kinds of two rows of shapes are those of the one and then those of the other. -/
@[simp]
theorem kinds_append (left right : List Shape) :
    kinds (left ++ right) = kinds left ++ kinds right := List.filterMap_append

/-- Tokens have no kinds of nodes. -/
@[simp]
theorem kinds_tokens (start count : Nat) : kinds (tokens start count) = [] := by
  rw [kinds, tokens, List.filterMap_map, List.filterMap_eq_nil_iff]
  exact fun _ _ => rfl

/-- The words of two rows of shapes are those of the one and then those of the other. -/
@[simp]
theorem words_append (stream : TokenStream) (left right : List Shape) :
    words stream (left ++ right) = words stream left ++ words stream right := by
  rw [words, words, words, List.filterMap_append, List.filterMap_append, List.filter_append]

/-- A token that is not white space is a word. -/
theorem words_token {stream : TokenStream} {index : Nat} {kind : TokenKind}
    (here : stream.kindAt? index = some kind) (solid : kind ≠ .whitespace) :
    words stream [.token index] = [kind] := by
  have listed : [index].filterMap stream.kindAt? = [kind] := List.filterMap_cons_some here
  change List.filter _ ([index].filterMap stream.kindAt?) = _
  rw [listed]
  exact List.filter_cons_of_pos (decide_eq_true solid)

/-- White space is no word. -/
theorem words_tokens_of_blank {stream : TokenStream} {start count : Nat}
    (blank : ∀ index, start ≤ index → index < start + count →
      stream.kindAt? index = some .whitespace) : words stream (tokens start count) = [] := by
  have listed : (tokens start count).filterMap token? = List.range' start count := by
    rw [tokens, List.filterMap_map]
    exact List.filterMap_some
  rw [words, listed, List.filter_eq_nil_iff]
  intro kind member
  obtain ⟨index, within, here⟩ := List.mem_filterMap.1 member
  obtain ⟨after, before⟩ := List.mem_range'_1.1 within
  rw [blank index after before] at here
  simp [← Option.some.inj here]

variable {stream : TokenStream} {left right : List Shape}

/-- Two rows of shapes are composed exactly if each of them is. -/
@[simp]
theorem composed_append :
    Composed stream (left ++ right) ↔ Composed stream left ∧ Composed stream right := by
  simp only [Composed, nodesAll_append, List.forall_mem_append]

/-- Tokens are composed. -/
theorem composed_tokens (stream : TokenStream) (start count : Nat) :
    Composed stream (tokens start count) := by
  simp [Composed]

/-- A composed node with composed nodes beneath it. -/
theorem composed_node {kind : NodeKind} {shapes : List Shape} :
    Composed stream [.node kind shapes] ↔ Fits stream kind shapes ∧ Composed stream shapes := by
  simp only [Composed, nodesAll_cons, nodesAll_nil, nodes_node, List.append_nil,
    List.forall_mem_cons]

end Shape

namespace SyntaxTree

/-- A node has the child nodes, and next to them the tokens, that a node of its kind may have. -/
def Composed (tree : SyntaxTree) (stream : TokenStream) (id : Nat) : Prop :=
  ∃ kind, tree.kind? id = some kind ∧
    (∃ row ∈ kind.parts, (tree.childNodes id).map tree.kind? = row.map some) ∧
    ((tree.childTokens id).filterMap stream.kindAt?).filter (· ≠ .whitespace) ∈ kind.words

/-- The child nodes of a drawn node are of the kinds in its shape. -/
theorem kinds_childNodes (tree : SyntaxTree) {id : Nat} {kind : NodeKind} {shapes : List Shape}
    (drawn : Draws tree.nodes (.node id) (.node kind shapes)) :
    (tree.childNodes id).map tree.kind? = (Shape.kinds shapes).map some := by
  have beneath := tree.children_drawn drawn
  rw [childNodes]
  generalize tree.children id = children at beneath
  clear drawn
  induction children generalizing shapes with
  | nil => cases beneath with | nil => rfl
  | cons child children ih =>
    cases beneath with
    | cons first rest =>
      cases first with
      | token index => exact (ih rest).trans rfl
      | node found under =>
        exact congrArg₂ List.cons (tree.kind?_of_draws (.node found under)) (ih rest)

/-- A node is composed as its shape is. -/
theorem composed_of_draws (tree : SyntaxTree) {stream : TokenStream} {id : Nat} {kind : NodeKind}
    {shapes : List Shape} (drawn : Draws tree.nodes (.node id) (.node kind shapes))
    (fits : Shape.Fits stream kind shapes) : tree.Composed stream id := by
  obtain ⟨parts, words⟩ := fits
  refine ⟨kind, tree.kind?_of_draws drawn, ⟨_, parts, tree.kinds_childNodes drawn⟩, ?_⟩
  rw [tree.childTokens_of_draws drawn]
  exact words

/-- The nodes beneath a drawn node, and that node, are composed if its shape is. -/
theorem composed_of_mem (tree : SyntaxTree) {stream : TokenStream} {id below : Nat}
    {kind : NodeKind} {shapes : List Shape}
    (drawn : Draws tree.nodes (.node id) (.node kind shapes))
    (enough : (Shape.node kind shapes).places ≤ tree.childCount)
    (composed : Shape.Composed stream [.node kind shapes])
    (member : below ∈ id :: tree.descendants id) : tree.Composed stream below := by
  obtain ⟨node, listed, here⟩ := tree.exists_node drawn enough member
  refine tree.composed_of_draws here (composed node ?_)
  rw [Shape.nodesAll_cons, Shape.nodesAll_nil, List.append_nil]
  exact listed

end SyntaxTree
end Stencil
