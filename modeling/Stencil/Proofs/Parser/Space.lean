import Stencil.Parser.State
/-!
# White space before tokens

A parser looks past white space. `TokenStream.visible` is where it ends up looking from an index;
what the parser sees and where `skipSpace` and `bump` take it are equations with it.
-/

namespace Stencil
namespace TokenStream

/-- The first index from a given one on whose token is not white space, or else the end. -/
def visible (stream : TokenStream) (index : Nat) : Nat :=
  index + ((stream.tokens.toList.drop index).takeWhile (·.kind = .whitespace)).length

variable (stream : TokenStream)

/-- The kind of a token is that of the token listed there. -/
theorem kindAt?_eq (index : Nat) :
    stream.kindAt? index = (stream.tokens.toList.drop index).head?.map (·.kind) := by
  rw [kindAt?, List.head?_drop, Array.getElem?_toList]

/-- There is a token at exactly the indices below the size. -/
theorem kindAt?_isSome (index : Nat) : (stream.kindAt? index).isSome ↔ index < stream.size := by
  simp [kindAt?, size]

/-- There is no token from the size on. -/
theorem kindAt?_eq_none {index : Nat} : stream.kindAt? index = none ↔ stream.size ≤ index := by
  simp [kindAt?, size]

/-- Looking never goes back. -/
theorem le_visible (index : Nat) : index ≤ stream.visible index := Nat.le_add_right _ _

/-- At white space the parser looks at the next token. -/
theorem visible_of_space {index : Nat} (space : stream.kindAt? index = some .whitespace) :
    stream.visible index = stream.visible (index + 1) := by
  rw [kindAt?_eq, List.head?_drop] at space
  obtain ⟨token, listed, blank⟩ := Option.map_eq_some_iff.1 space
  obtain ⟨inside, found⟩ := List.getElem?_eq_some_iff.1 listed
  rw [visible, visible, List.drop_eq_getElem_cons inside, found, List.takeWhile_cons,
    if_pos (by simp [blank]), List.length_cons]
  omega

/-- At any other token, and at the end, the parser looks there. -/
theorem visible_of_not_space {index : Nat} (solid : stream.kindAt? index ≠ some .whitespace) :
    stream.visible index = index := by
  rw [kindAt?_eq] at solid
  rw [visible]
  cases listed : stream.tokens.toList.drop index with
  | nil => rfl
  | cons token rest =>
    rw [listed] at solid
    rw [List.takeWhile_cons, if_neg (by simpa using solid), List.length_nil, Nat.add_zero]

/-- What the parser looks at is not white space. -/
theorem kindAt?_visible (index : Nat) :
    stream.kindAt? (stream.visible index) ≠ some .whitespace := by
  rw [kindAt?_eq, visible, ← List.drop_drop]
  generalize stream.tokens.toList.drop index = rest
  induction rest with
  | nil => simp
  | cons token rest ih =>
    by_cases blank : token.kind = .whitespace
    · rw [List.takeWhile_cons, if_pos (by simp [blank]), List.length_cons, List.drop_succ_cons]
      exact ih
    · rw [List.takeWhile_cons, if_neg (by simp [blank])]
      simpa using blank

/-- Looking again finds the same. -/
@[simp]
theorem visible_visible (index : Nat) :
    stream.visible (stream.visible index) = stream.visible index :=
  stream.visible_of_not_space (stream.kindAt?_visible index)

end TokenStream

namespace Parser

/-- Enough steps find the first token that is not white space, if there is one. -/
theorem significantFrom_zero (stream : TokenStream) {among index : Nat}
    (enough : stream.size - index ≤ among) :
    significantFrom stream.tokens among 0 index =
      if stream.visible index < stream.size then some (stream.visible index) else none := by
  induction among generalizing index with
  | zero =>
    have past := stream.le_visible index
    rw [significantFrom, if_neg (by omega)]
  | succ among ih =>
    rw [significantFrom]
    cases listed : stream.tokens[index]? with
    | none =>
      have past := Array.getElem?_eq_none_iff.1 listed
      have further := stream.le_visible index
      rw [TokenStream.size]
      rw [if_neg (by omega)]
    | some token =>
      have inside : index < stream.size := (Array.getElem?_eq_some_iff.1 listed).1
      have kind : stream.kindAt? index = some token.kind := by rw [TokenStream.kindAt?, listed]; rfl
      by_cases blank : token.kind = .whitespace
      · rw [blank] at kind
        simp only [blank, if_true]
        rw [ih (by omega), stream.visible_of_space kind]
      · have solid : stream.kindAt? index ≠ some .whitespace := by simpa [kind] using blank
        have here := stream.visible_of_not_space solid
        simp only [blank, if_false]
        rw [here, if_pos inside]

/-- Enough steps find the token after the first that is not white space, if there is one. -/
theorem significantFrom_one (stream : TokenStream) {among index : Nat}
    (enough : stream.size - index ≤ among) :
    significantFrom stream.tokens among 1 index =
      if stream.visible (stream.visible index + 1) < stream.size then
        some (stream.visible (stream.visible index + 1))
      else none := by
  induction among generalizing index with
  | zero =>
    have past := stream.le_visible index
    have further := stream.le_visible (stream.visible index + 1)
    rw [significantFrom, if_neg (by omega)]
  | succ among ih =>
    rw [significantFrom]
    cases listed : stream.tokens[index]? with
    | none =>
      have past := Array.getElem?_eq_none_iff.1 listed
      have first := stream.le_visible index
      have second := stream.le_visible (stream.visible index + 1)
      rw [TokenStream.size]
      rw [if_neg (by omega)]
    | some token =>
      have inside : index < stream.size := (Array.getElem?_eq_some_iff.1 listed).1
      have kind : stream.kindAt? index = some token.kind := by rw [TokenStream.kindAt?, listed]; rfl
      by_cases blank : token.kind = .whitespace
      · rw [blank] at kind
        simp only [blank, if_true]
        rw [ih (by omega), stream.visible_of_space kind]
      · have solid : stream.kindAt? index ≠ some .whitespace := by simpa [kind] using blank
        have here := stream.visible_of_not_space solid
        simp only [blank, if_false]
        rw [here, significantFrom_zero stream (by omega)]

/-- An index within the stream that is found is looked up like any other. -/
theorem bind_kindAt? (stream : TokenStream) (index : Nat) :
    (if index < stream.size then some index else none).bind stream.kindAt? =
      stream.kindAt? index := by
  by_cases inside : index < stream.size
  · rw [if_pos inside, Option.bind_some]
  · rw [if_neg inside, Option.bind_none, stream.kindAt?_eq_none.2 (by omega)]

variable (p : Parser)

/-- The tokens that remain are enough steps. -/
theorem remaining_le : p.stream.size - p.position ≤ p.remaining := Nat.le_refl _

/-- The parser sees the first token that is not white space. -/
theorem current?_eq : p.current? = p.stream.kindAt? (p.stream.visible p.position) := by
  rw [current?, nth?, significant?, significantFrom_zero _ p.remaining_le, bind_kindAt?]

/-- The parser sees one token further. -/
theorem nth?_one_eq :
    p.nth? 1 = p.stream.kindAt? (p.stream.visible (p.stream.visible p.position + 1)) := by
  rw [nth?, significant?, significantFrom_one _ p.remaining_le, bind_kindAt?]

/-- The parser sees the mode after the first token that is not white space. -/
theorem nextMode?_eq : p.nextMode? = p.stream.modeAfter? (p.stream.visible p.position) := by
  rw [nextMode?, significant?, significantFrom_zero _ p.remaining_le]
  by_cases inside : p.stream.visible p.position < p.stream.size
  · rw [if_pos inside, Option.bind_some]
  · rw [if_neg inside, Option.bind_none, TokenStream.modeAfter?, if_neg inside]

/-- Being at a kind is seeing it. -/
theorem isAt_iff (kind : TokenKind) : p.isAt kind = true ↔ p.current? = some kind := by
  rw [isAt, decide_eq_true_iff]

/-- White space is skipped up to what the parser sees, with enough steps. -/
theorem takeSpace_position {among : Nat} (enough : p.stream.size - p.position ≤ among) :
    (p.takeSpace among).position = p.stream.visible p.position := by
  induction among generalizing p with
  | zero =>
    have past : p.stream.kindAt? p.position = none := p.stream.kindAt?_eq_none.2 (by omega)
    rw [takeSpace, p.stream.visible_of_not_space (by simp [past])]
  | succ among ih =>
    rw [takeSpace]
    by_cases blank : p.stream.kindAt? p.position = some .whitespace
    · rw [if_pos blank, ih p.take (by simp only [take]; omega)]
      exact (p.stream.visible_of_space blank).symm
    · rw [if_neg blank, p.stream.visible_of_not_space blank]

/-- Skipping white space leads to what the parser sees. -/
theorem skipSpace_position : p.skipSpace.position = p.stream.visible p.position :=
  p.takeSpace_position p.remaining_le

/-- White space is skipped within the stream. -/
theorem takeSpace_stream (among : Nat) : (p.takeSpace among).stream = p.stream := by
  induction among generalizing p with
  | zero => rfl
  | succ among ih =>
    rw [takeSpace]
    split
    · exact ih p.take
    · rfl

/-- Where taking the current token leads. -/
theorem bump_position : p.bump.position =
    if p.stream.visible p.position < p.stream.size then p.stream.visible p.position + 1
    else p.stream.visible p.position := by
  have stream : p.skipSpace.stream = p.stream := p.takeSpace_stream _
  simp only [bump, stream, p.skipSpace_position]
  split
  · rw [take, p.skipSpace_position]
  · exact p.skipSpace_position

/-- There is a token to see exactly where the stream goes on. -/
theorem current?_isSome_iff : p.current?.isSome ↔ p.stream.visible p.position < p.stream.size := by
  rw [current?_eq, TokenStream.kindAt?_isSome]

/-- Where the token at the position is not white space none is skipped. -/
theorem skipSpace_of_solid {p : Parser} (solid : p.stream.kindAt? p.position ≠ some .whitespace) :
    p.skipSpace = p := by
  rw [skipSpace]
  cases p.remaining with
  | zero => rfl
  | succ among => rw [takeSpace, if_neg solid]

/-- Where the parser sees the token at its position no white space is skipped. -/
theorem skipSpace_of_visible {p : Parser} (here : p.stream.visible p.position = p.position) :
    p.skipSpace = p := by
  apply skipSpace_of_solid
  rw [← here]
  exact p.stream.kindAt?_visible _

/-- White space is skipped once. -/
theorem skipSpace_skipSpace (p : Parser) : p.skipSpace.skipSpace = p.skipSpace := by
  apply skipSpace_of_solid
  have stream : p.skipSpace.stream = p.stream := p.takeSpace_stream _
  rw [stream, p.skipSpace_position]
  exact p.stream.kindAt?_visible _

/-- A checkpoint at a token is the present moment. -/
theorem checkpoint_of_visible {p : Parser} (here : p.stream.visible p.position = p.position) :
    p.checkpoint = (p.builder.checkpoint, p) := by
  rw [checkpoint, skipSpace_of_visible here]

/-- White space before a checkpoint makes no difference. -/
theorem checkpoint_skipSpace (p : Parser) : p.skipSpace.checkpoint = p.checkpoint := by
  rw [checkpoint, checkpoint, skipSpace_skipSpace]

/-! ### Seeing the same -/

/-- Both parsers look at the same token of the same stream. -/
structure Sees (p q : Parser) : Prop where
  stream : q.stream = p.stream
  visible : p.stream.visible q.position = p.stream.visible p.position

variable {p} {q r : Parser}

/-- A parser sees what it sees. -/
theorem Sees.refl (p : Parser) : p.Sees p := ⟨rfl, rfl⟩

/-- What is seen after two steps is seen after both. -/
theorem Sees.trans (first : p.Sees q) (second : q.Sees r) : p.Sees r :=
  ⟨second.stream.trans first.stream, by
    have further := second.visible
    rw [first.stream] at further
    exact further.trans first.visible⟩

/-- The kind that is seen is the same. -/
theorem Sees.current? (same : p.Sees q) : q.current? = p.current? := by
  rw [current?_eq, current?_eq, same.stream, same.visible]

/-- The kind of the token after it is the same. -/
theorem Sees.next? (same : p.Sees q) : q.nth? 1 = p.nth? 1 := by
  rw [nth?_one_eq, nth?_one_eq, same.stream, same.visible]

/-- Parsers that see the same token are both at structural tokens or neither is. -/
theorem Sees.atStructural (same : p.Sees q) : q.atStructural = p.atStructural := by
  rw [Parser.atStructural, Parser.atStructural, same.current?]

/-- Past white space the parser is at the token it sees. -/
theorem visible_skipSpace (p : Parser) :
    p.skipSpace.stream.visible p.skipSpace.position = p.skipSpace.position := by
  rw [skipSpace_position, skipSpace, takeSpace_stream, TokenStream.visible_visible]

/-- White space does not change what is seen. -/
theorem sees_skipSpace (p : Parser) : p.Sees p.skipSpace :=
  ⟨p.takeSpace_stream _, by rw [skipSpace_position, TokenStream.visible_visible]⟩

/-- A node begins at the token that the parser sees. -/
theorem visible_start (p : Parser) (kind : NodeKind) :
    (p.start kind).stream.visible (p.start kind).position = (p.start kind).position :=
  p.visible_skipSpace

/-- An opened node does not change what is seen. -/
theorem sees_start (p : Parser) (kind : NodeKind) : p.Sees (p.start kind) :=
  (sees_skipSpace p).trans ⟨rfl, rfl⟩

/-- A report anywhere does not change what is seen. -/
theorem sees_errorAt (p : Parser) (offset : Nat) (fault : SyntaxFault) (message : String) :
    p.Sees (p.errorAt offset fault message) := by
  rw [errorAt]
  split <;> exact ⟨rfl, rfl⟩

/-- A report does not change what is seen. -/
theorem sees_error (p : Parser) (fault : SyntaxFault) (message : String) :
    p.Sees (p.error fault message) := sees_errorAt p _ _ _

/-- A refused level does not change what is seen. -/
theorem sees_refuse (p : Parser) : p.Sees p.refuse := by
  rw [refuse]
  split
  · exact .refl p
  · have marked : p.Sees { p with depthReported := true } := ⟨rfl, rfl⟩
    exact marked.trans (sees_error _ _ _)

end Parser
end Stencil
