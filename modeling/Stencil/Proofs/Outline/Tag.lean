import Stencil.Proofs.Containment.Tag
import Stencil.Proofs.Lexer.Delimited
import Stencil.Proofs.Outline.Inside
/-!
# Tags from end to end

Every tag and every comment is read in the same way: its start delimiter, what stands in it, what is
skipped with a report, and the closing token if it is there. `Tagged` says what the parser has then
put into the open node. In a stream in which tags are delimited it has read just up to the closing
token, or all there is (`Tagged.reaches`).
-/

namespace Stencil
namespace TokenStream

/-- What a tag is read into, from its start delimiter to where it ends, and what is reported. -/
structure Tagged (stream : TokenStream) (opening stop : Nat) (row : List Shape)
    (raised : List Diagnostic) : Prop where
  forward : opening < stop
  begins : ∃ inside, row = .token opening :: inside
  leaves : Shape.leavesAll row = List.range' opening (stop - opening)
  parts : ∀ node ∈ Shape.nodesAll row, node.1.isPart = true ∨ node.1 = .error
  own : ∀ diagnostic ∈ raised, diagnostic.isMismatch = false
  /-- Without a report there is no placeholder. -/
  sound : raised = [] → ∀ node ∈ Shape.nodesAll row, node.1 ≠ .error
  /-- Without a report there is no character that fits nowhere, other than in a comment. -/
  legible : raised = [] → stream.kindAt? opening ≠ some (.delimiter .commentStart) →
    ∀ index ∈ Shape.leavesAll row, stream.kindAt? index ≠ some .badCharacter
  /-- Without a report the tag is closed, but for one that ends with its line. -/
  closed : raised = [] → stream.closerAt? opening = some .newline ∨
    ∃ last, stop = last + 1 ∧ opening < last ∧ stream.kindAt? last = stream.closerAt? opening
  /-- The closing token is taken if there is one, and all that is left if there is none. -/
  reaches : stream.Delimited → ∃ high, opening < high ∧ stream.Loose (opening + 1) high ∧
    ((stream.kindAt? high = stream.closerAt? opening ∧ stop = high + 1 ∧
        ∃ inside, row = .token opening :: (inside ++ [.token high])) ∨
      (stream.kindAt? high = none ∧ stop ≤ high ∧ stream.visible stop = high))

end TokenStream

namespace Parser

variable {stream : TokenStream} {p q r : Parser} {closer : TokenKind} {low high : Nat}

/-- No condition on what was reported is never broken. -/
theorem indifferent_true (stream : TokenStream) (low high : Nat) :
    Indifferent stream low high (fun _ => True) := fun _ _ _ _ _ => trivial

/-- The header that the current token calls for stays in the window. -/
theorem Confined.headed {o : Parser} (window : stream.Window low high closer)
    (confined : Confined stream low high (fun _ => True) o p) :
    Confined stream low high (fun _ => True) o (Parser.header p.current? p) := by
  have lawful := lawful_itself window (indifferent_true stream low high)
  have follows := confined.follows
  exact confined_of_follows (follows.trans (follows.abreast.header lawful))

/-- A parser stays in a window of the stream while it takes tokens up to the closer. -/
theorem Confined.upTo {o : Parser} (window : stream.Window low high closer)
    (confined : Confined stream low high (fun _ => True) o p) :
    Confined stream low high (fun _ => True) o
      (p.loop (fun p => p.current?.isSome && !p.isAt closer) bump) := by
  have only : (itself stream low high fun _ => True).Only closer := fun _ _ _ same here other =>
    (window.loose_or same.2.1 same.2.2 here).resolve_right other
  exact confined_of_follows
    (confined.follows.upTo (lawful_itself window (indifferent_true stream low high)) only)

/-- The window of a tag that is not read yet, which the parser enters with its start delimiter. -/
theorem confined_bump (source : p.stream = stream) (solid : stream.visible p.position = p.position)
    (some : p.current?.isSome) (before : p.position < high) :
    Confined stream (p.position + 1) high (fun _ => True) p.bump p.bump := by
  subst source
  obtain ⟨reads, further, -⟩ := bump_of_visible solid some
  exact ⟨reads.stream, Nat.le_of_eq further.symm, by omega, trivial, p.bump.grows_refl⟩

/-- After its start delimiter a tag has been read up to its closer, or to the end. -/
structure Approached (p q : Parser) (closer : TokenKind) (inside : List Shape)
    (raised : List Diagnostic) : Prop where
  reads : p.bump.Reads q inside
  raises : p.bump.Raises q raised
  parts : ∀ node ∈ Shape.nodesAll inside, node.1.isPart = true ∨ node.1 = .error
  own : ∀ diagnostic ∈ raised, diagnostic.isMismatch = false
  sound : raised = [] → ∀ node ∈ Shape.nodesAll inside, node.1 ≠ .error
  legible : raised = [] → p.current? ≠ some (.delimiter .commentStart) →
    ∀ index ∈ Shape.leavesAll inside, p.stream.kindAt? index ≠ some .badCharacter
  arrived : q.current? = some closer ∨ q.current? = none
  quiet : raised = [] → q.current? = some closer ∨ closer = .newline
  confined : ∀ high, p.stream.Window (p.position + 1) high closer → p.position < high →
    Confined p.stream (p.position + 1) high (fun _ => True) p.bump q

section

variable {inside : List Shape} {raised : List Diagnostic}
  (approached : Approached p q closer inside raised)
  (solid : p.stream.visible p.position = p.position)
  (opens : p.stream.closerAt? p.position = some closer)

include solid opens

/-- Where a tag is closed by something, a start delimiter begins it. -/
theorem exists_delimiter : ∃ kind, p.current? = some kind ∧ kind.isDelimiter = true := by
  rw [current?_eq, solid]
  rw [TokenStream.closerAt?] at opens
  split at opens
  next kind => exact ⟨_, kind, rfl⟩
  next kind => exact ⟨_, kind, rfl⟩
  next kind => exact ⟨_, kind, rfl⟩
  · contradiction

/-- A start delimiter is what the parser sees, and no character that fits nowhere. -/
theorem start_fits : p.current? = p.stream.kindAt? p.position ∧
    ∀ index ∈ (Shape.token p.position).leaves, p.stream.kindAt? index ≠ some .badCharacter := by
  obtain ⟨kind, current, delimiter⟩ := exists_delimiter solid opens
  have begins : p.current? = p.stream.kindAt? p.position := by rw [current?_eq, solid]
  refine ⟨begins, fun index member => ?_⟩
  rw [Shape.leaves, List.mem_singleton] at member
  rw [member, ← begins, current]
  rintro ⟨⟩
  contradiction

include approached

/-- What has been read with the start delimiter. -/
theorem Approached.opened : p.Reads q (.token p.position :: inside) ∧ p.Raises q raised ∧
    p.position < q.position := by
  obtain ⟨kind, current, -⟩ := exists_delimiter solid opens
  obtain ⟨opened, begins, -⟩ := bump_of_visible solid (current ▸ rfl)
  have forward := approached.reads.forward
  exact ⟨opened.trans approached.reads, p.raises_bump.trans approached.raises, by omega⟩

omit solid in
/-- Where tags are delimited what is seen at the end is the end of the window. -/
theorem Approached.ends (delimited : p.stream.Delimited) : ∃ high, p.position < high ∧
    p.stream.Loose (p.position + 1) high ∧ q.position ≤ high ∧
    p.stream.visible q.position = high ∧
    (p.stream.kindAt? high = some closer ∨ p.stream.kindAt? high = none) := by
  obtain ⟨high, past, loose, closed⟩ := delimited opens
  have window : p.stream.Window (p.position + 1) high closer :=
    ⟨loose, closed, TokenStream.isStructural_of_closerAt? opens⟩
  have confined := approached.confined high window past
  have arrived := approached.arrived
  rw [current?_eq, confined.source] at arrived
  exact ⟨high, past, loose, confined.before,
    window.visible_eq confined.after confined.before arrived, closed⟩

/-- A start delimiter, and what comes after it up to the closer, is a tag with the closer. -/
theorem Approached.tagged_of_closed (closed : q.current? = some closer) :
    ∃ row, p.Reads q.bump row ∧ p.Raises q.bump raised ∧
      p.stream.Tagged p.position q.bump.position row raised := by
  obtain ⟨reads, raises, after⟩ := approached.opened solid opens
  obtain ⟨begins, fits⟩ := start_fits solid opens
  have some : q.current?.isSome := closed ▸ rfl
  have taken := reads_bump some
  have stop : q.bump.position = q.stream.visible q.position + 1 := by
    rw [bump_position, if_pos (q.current?_isSome_iff.1 some)]
  have source := reads.stream
  have ahead := q.stream.le_visible q.position
  have structural := TokenStream.isStructural_of_closerAt? opens
  rw [current?_eq] at closed
  rw [source] at closed taken stop ahead
  have told := raises.trans q.raises_bump
  rw [List.append_nil] at told
  refine ⟨_, reads.trans taken, told, ?_⟩
  have row := (reads.trans taken).leaves
  have nodes : Shape.nodesAll (.token p.position :: inside ++
      (Shape.tokens q.position (p.stream.visible q.position - q.position) ++
        [.token (p.stream.visible q.position)])) = Shape.nodesAll inside := by
    simp
  refine ⟨by omega, ⟨_, rfl⟩, row, ?_, approached.own, ?_, ?_, ?_, ?_⟩
  · rw [nodes]
    exact approached.parts
  · rw [nodes]
    exact approached.sound
  · intro quiet tag index member
    rw [List.cons_append, Shape.leavesAll, Shape.leavesAll_append, Shape.leavesAll_append,
      Shape.leavesAll_tokens, List.mem_append, List.mem_append, List.mem_append] at member
    rw [← begins] at tag
    rcases member with first | within | space | last
    · exact fits index first
    · exact approached.legible quiet tag index within
    · rw [List.mem_range'_1] at space
      rw [TokenStream.kindAt?_before_visible space.1 (by omega)]
      rintro ⟨⟩
    · rw [Shape.leavesAll_token, List.mem_singleton] at last
      rw [last, closed]
      rintro ⟨⟩
      contradiction
  · exact fun _ => .inr ⟨_, stop, by omega, closed.trans opens.symm⟩
  · intro delimited
    obtain ⟨high, past, loose, before, same, ends⟩ := approached.ends opens delimited
    rw [same] at closed stop
    refine ⟨high, past, loose, .inl ⟨closed.trans opens.symm, stop,
      inside ++ Shape.tokens q.position (high - q.position), ?_⟩⟩
    rw [same, List.cons_append, List.append_assoc]

/-- A start delimiter, and what comes after it up to the end, is a tag that is not closed. -/
theorem Approached.tagged_of_open (nothing : q.current? = none) :
    p.Reads q (.token p.position :: inside) ∧ p.Raises q raised ∧
      p.stream.Tagged p.position q.position (.token p.position :: inside) raised := by
  obtain ⟨reads, raises, after⟩ := approached.opened solid opens
  obtain ⟨begins, fits⟩ := start_fits solid opens
  have stays : raised = [] → closer = .newline := fun quiet =>
    (approached.quiet quiet).resolve_left (by rw [nothing]; rintro ⟨⟩)
  refine ⟨reads, raises, after, ⟨_, rfl⟩, reads.leaves, ?_, approached.own, ?_, ?_, ?_, ?_⟩
  · rw [Shape.nodesAll_cons, Shape.nodes_token, List.nil_append]
    exact approached.parts
  · rw [Shape.nodesAll_cons, Shape.nodes_token, List.nil_append]
    exact approached.sound
  · intro quiet tag index member
    rw [Shape.leavesAll, List.mem_append] at member
    rw [← begins] at tag
    exact member.elim (fits index) (approached.legible quiet tag index)
  · exact fun quiet => .inl (opens.trans (congrArg some (stays quiet)))
  · intro delimited
    obtain ⟨high, past, loose, before, same, -⟩ := approached.ends opens delimited
    rw [current?_eq, reads.stream, same] at nothing
    exact ⟨high, past, loose, .inr ⟨nothing, before, same⟩⟩

/-- From its start delimiter on a tag is read up to its closer, which is taken, or to the end. -/
theorem Approached.tagged : ∃ row, p.Reads (q.skip closer) row ∧
    p.Raises (q.skip closer) raised ∧
    p.stream.Tagged p.position (q.skip closer).position row raised := by
  rw [skip_eq]
  rcases approached.arrived with closed | nothing
  · rw [if_pos ((isAt_iff q closer).2 closed)]
    exact approached.tagged_of_closed solid opens closed
  · rw [if_neg (not_isAt_of_none nothing)]
    exact ⟨_, approached.tagged_of_open solid opens nothing⟩

end

/-! ### What the parser does up to the closer -/

/-- Skipping to the closer, with a report, gathers what stands before it; without a report the
closer is there, or the end is one of a line. -/
theorem gathers_approach {fault : SyntaxFault} {message : String}
    (own : fault.isMismatch message = false) (closer : TokenKind) (p : Parser) :
    ∃ shapes raised, p.Gathers (p.approach closer fault message) shapes raised ∧
      (raised = [] → (p.approach closer fault message).current? = some closer ∨
        closer = .newline) := by
  rw [approach]
  by_cases arrived : (p.isAt closer || (decide (closer = .newline) && p.current?.isNone)) = true
  · rw [if_pos arrived]
    refine ⟨_, _, p.gathers_refl, fun _ => ?_⟩
    rw [Bool.or_eq_true, Bool.and_eq_true, decide_eq_true_eq] at arrived
    exact arrived.imp (isAt_iff p closer).1 And.left
  · rw [if_neg arrived, skipUntil]
    by_cases stops : ((p.error fault message).current?.isNone ||
        (p.error fault message).isAt closer) = true
    · rw [if_pos stops]
      exact ⟨_, _, p.gathers_error own, by rintro ⟨⟩⟩
    · rw [if_neg stops]
      have sees := sees_error p fault message
      have at_ : ((p.error fault message).start .error).position = p.stream.visible p.position := by
        rw [← sees.visible, ← sees.stream]
        exact (p.error fault message).skipSpace_position
      obtain ⟨reads, raises⟩ := reads_bumps (fun p => p.current?.isSome && !p.isAt closer)
        ((p.error fault message).start .error)
      rw [at_] at reads
      obtain ⟨row, raised, gathers, loud⟩ := gathers_blank _ own reads raises
      exact ⟨row, raised, gathers, fun quiet => absurd quiet loud⟩

/-- What a tag has inside, and the approach to its closer. -/
theorem approached_of_gathers (closer : TokenKind) (fault : SyntaxFault) (message : String)
    {shapes : List Shape} {raised : List Diagnostic} (some : p.current?.isSome)
    (solid : p.stream.visible p.position = p.position)
    (own : fault.isMismatch message = false) (shallow : fault ≠ .maxRecursionDepth)
    (inside : p.bump.Gathers q shapes raised)
    (confined : ∀ high, p.stream.Window (p.position + 1) high closer → p.position < high →
      Confined p.stream (p.position + 1) high (fun _ => True) p.bump p.bump →
      Confined p.stream (p.position + 1) high (fun _ => True) p.bump q) :
    ∃ shapes raised, p.Approached (q.approach closer fault message) closer shapes raised := by
  obtain ⟨rest, later, further, settled⟩ := gathers_approach own closer q
  have whole := inside.trans further
  have source : p.bump.stream = p.stream := (growing_bump p).ahead.stream
  refine ⟨_, _, whole.reads, whole.raises, whole.parts, whole.own, fun quiet => ?_,
    fun quiet _ => ?_, current?_approach closer fault message q, fun quiet => ?_,
    fun high window past => ?_⟩
  · exact (whole.clean quiet).1
  · rw [← source]
    exact (whole.clean quiet).2
  · exact settled (List.append_eq_nil_iff.1 quiet).2
  · have begins := confined_bump rfl solid some past
    exact (confined high window past begins).approach window (indifferent_true _ _ _) shallow _

/-- A parser at which a tag begins. -/
structure AtTag (p : Parser) (closer : TokenKind) : Prop where
  solid : p.stream.visible p.position = p.position
  opens : p.stream.closerAt? p.position = some closer

/-- A parser at a tag sees a token. -/
theorem AtTag.isSome (at_ : p.AtTag closer) : p.current?.isSome := by
  obtain ⟨kind, current, -⟩ := exists_delimiter at_.solid at_.opens
  rw [current]
  rfl

/-- A node that opens at the token the parser sees, where a tag begins. -/
theorem atTag_start (kind : NodeKind) (opens : p.stream.closerAt? (p.stream.visible p.position) =
    some closer) : (p.start kind).AtTag closer := by
  have position : (p.start kind).position = p.stream.visible p.position := p.skipSpace_position
  refine ⟨p.visible_start kind, ?_⟩
  rw [(sees_start p kind).stream, position]
  exact opens

/-- The token the parser sees begins a tag, which is read into one node. -/
structure Makes (p q : Parser) (kind : NodeKind) (row : List Shape) (raised : List Diagnostic) :
    Prop where
  reads : p.skipSpace.Reads q [.node kind row]
  raises : p.Raises q raised
  tagged : p.stream.Tagged (p.stream.visible p.position) q.position row raised

/-- A tag that is read into a node makes that node. -/
theorem makes_of_tagged {kind : NodeKind} {row : List Shape} {raised : List Diagnostic}
    (reads : (p.start kind).Reads q row) (raises : (p.start kind).Raises q raised)
    (tagged : (p.start kind).stream.Tagged (p.start kind).position q.position row raised) :
    p.Makes q.finish kind row raised := by
  have position : (p.start kind).position = p.stream.visible p.position := p.skipSpace_position
  rw [(sees_start p kind).stream, position] at tagged
  exact ⟨reads_node reads, ((p.raises_start kind).trans raises).still rfl rfl rfl, tagged⟩

/-- The content of a block tag is read from its start delimiter on. -/
theorem AtTag.tagContents (at_ : p.AtTag (Swap.terminator p)) :
    ∃ row raised, p.Reads (tagContents (p.nth? 1) p) row ∧
      p.Raises (tagContents (p.nth? 1) p) raised ∧
      p.stream.Tagged p.position (Parser.tagContents (p.nth? 1) p).position row raised := by
  obtain ⟨shapes, raised, inside⟩ := routine_gathers.header p.bump
  obtain ⟨_, _, approached⟩ := approached_of_gathers (Swap.terminator p) .missingBlockEnd
    "Expected block end delimiter" at_.isSome at_.solid rfl (by decide) inside
    fun high window _ begins => begins.headed window
  obtain ⟨row, reads, raises, tagged⟩ := approached.tagged at_.solid at_.opens
  rw [Swap.tagContents_eq, ← current?_bump at_.isSome]
  exact ⟨row, _, reads, raises, tagged⟩

/-- A block tag ends with its line or with its closing delimiter, as the parser takes it to. -/
theorem atTag_block (kind : NodeKind) (here : p.current? = some (.delimiter .blockStart)) :
    (p.start kind).AtTag (Swap.terminator (p.start kind)) := by
  apply atTag_start
  rw [current?_eq] at here
  rw [Swap.terminator, nextMode?_eq, (sees_start p kind).stream, (sees_start p kind).visible,
    TokenStream.closerAt?, here]

/-- The content of the block tag at the token the parser sees, in a node. -/
theorem reads_tagContents (kind : NodeKind) (here : p.current? = some (.delimiter .blockStart)) :
    ∃ row raised, (p.start kind).Reads (tagContents (p.nth? 1) (p.start kind)) row ∧
      (p.start kind).Raises (tagContents (p.nth? 1) (p.start kind)) raised ∧
      (p.start kind).stream.Tagged (p.start kind).position
        (tagContents (p.nth? 1) (p.start kind)).position row raised := by
  rw [← (sees_start p kind).next?]
  exact (atTag_block kind here).tagContents

/-- A block tag is read into a node. -/
theorem makes_tag (kind : NodeKind) (here : p.current? = some (.delimiter .blockStart)) :
    ∃ row raised, p.Makes (tag kind (p.nth? 1) p) kind row raised := by
  obtain ⟨row, raised, reads, raises, tagged⟩ := reads_tagContents kind here
  exact ⟨row, raised, makes_of_tagged reads raises tagged⟩

/-- A variable tag is read into a node. -/
theorem makes_variableTag (here : p.current? = some (.delimiter .variableStart)) :
    ∃ row raised, p.Makes p.variableTag .variableTag row raised := by
  have at_ : (p.start .variableTag).AtTag (.delimiter .variableEnd) := by
    apply atTag_start
    rw [current?_eq] at here
    rw [TokenStream.closerAt?, here]
  obtain ⟨shapes, raised, inside⟩ := routine_gathers.expression (p.start .variableTag).bump
  obtain ⟨_, _, approached⟩ := approached_of_gathers (.delimiter .variableEnd)
    .missingVariableEnd "Expected variable end delimiter" at_.isSome at_.solid rfl (by decide)
    inside fun high window _ begins => begins.step window (indifferent_true _ _ _) inStep_expression
  obtain ⟨row, reads, raises, tagged⟩ := approached.tagged at_.solid at_.opens
  rw [variableTag_eq]
  exact ⟨row, _, makes_of_tagged reads raises tagged⟩

/-! ### Comments -/

/-- A comment up to its closer: its tokens, and a report that it is not closed, unless it ends with
its line. -/
def remark (closer : TokenKind) (p : Parser) : Parser :=
  let p := p.bump.loop (fun p => p.current?.isSome && !p.isAt closer) bump
  if p.isAt closer || closer = .newline then p
  else p.error .missingCommentEnd "Expected comment end delimiter"

/-- What is taken as a remark runs up to its closer, which is taken or missed. -/
theorem remark_skip (closer : TokenKind) (p : Parser) :
    (p.remark closer).skip closer =
      let p := p.bump.loop (fun p => p.current?.isSome && !p.isAt closer) bump
      if p.isAt closer then p.bump
      else if closer = .newline then p
      else p.error .missingCommentEnd "Expected comment end delimiter" := by
  rw [remark]
  generalize p.bump.loop (fun p => p.current?.isSome && !p.isAt closer) bump = q
  dsimp only
  by_cases here : q.isAt closer = true
  · rw [if_pos here, here, Bool.true_or, if_pos rfl, skip_eq, if_pos here]
  · rw [if_neg here, eq_false_of_ne_true here, Bool.false_or]
    by_cases line : closer = .newline
    · rw [if_pos line, decide_eq_true line, if_pos rfl, skip_eq, if_neg here]
    · have unseen : ¬(q.error .missingCommentEnd "Expected comment end delimiter").isAt closer =
          true := by
        rw [isAt, (sees_error q _ _).current?]
        exact here
      rw [if_neg line, decide_eq_false line, if_neg Bool.false_ne_true, skip_eq, if_neg unseen]

/-- The token that closes the comment at the token a parser sees. -/
def commentCloser (p : Parser) : TokenKind :=
  if p.nextMode? = some .lineComment then .newline else .delimiter .commentEnd

/-- A comment is a remark in a node of its own. -/
theorem comment_eq (p : Parser) : p.comment =
    (((p.start .comment).remark p.commentCloser).skip p.commentCloser).finish := by
  have line : (p.commentCloser = .newline) ↔ p.nextMode? = some .lineComment := by
    rw [commentCloser]
    split <;> simp_all
  rw [remark_skip]
  simp only [line]
  rfl

/-- A comment is read up to its closer. -/
theorem approached_remark (at_ : p.AtTag closer)
    (here : p.current? = some (.delimiter .commentStart)) :
    ∃ shapes raised, p.Approached (p.remark closer) closer shapes raised := by
  obtain ⟨reads, raises⟩ := reads_bumps (fun p => p.current?.isSome && !p.isAt closer) p.bump
  have confined (high : Nat) (window : p.stream.Window (p.position + 1) high closer)
      (past : p.position < high) := (confined_bump rfl at_.solid at_.isSome past).upTo window
  have seen (r : Parser) (goes : (r.current?.isSome && !r.isAt closer) = true) := isSome_of_and goes
  have stops := loop_exits seen (fun r _ => past_bump r) p.bump
  rw [remark]
  generalize p.bump.loop (fun p => p.current?.isSome && !p.isAt closer) bump = q
    at reads raises confined stops ⊢
  have arrived : q.current? = some closer ∨ q.current? = none := by
    cases current : q.current? with
    | none => exact .inr rfl
    | some kind =>
      rw [current, Option.isSome_some, Bool.true_and, Bool.not_eq_false'] at stops
      exact .inl (current.symm.trans ((isAt_iff q _).1 stops))
  by_cases quiet : (q.isAt closer || decide (closer = .newline)) = true
  · rw [if_pos quiet]
    refine ⟨_, _, reads, raises, by simp, by simp, by simp, fun _ tag => absurd here tag, arrived,
      fun _ => ?_, confined⟩
    rw [Bool.or_eq_true, decide_eq_true_eq] at quiet
    exact quiet.imp_left (isAt_iff q closer).1
  · rw [if_neg quiet]
    generalize message : "Expected comment end delimiter" = text
    obtain ⟨still, stays⟩ := reads_errorAt q q.offset .missingCommentEnd text
    have told := raises.trans (q.raises_error .missingCommentEnd text)
    refine ⟨_, _, reads.trans still, told, by simp, ?_, by simp, fun _ tag => absurd here tag, ?_,
      fun none => absurd none (by simp), fun high window past => ?_⟩
    · rw [List.nil_append, List.forall_mem_singleton]
      rfl
    · rw [(sees_error q _ _).current?]
      exact arrived
    · obtain ⟨source, after, before, -, grows⟩ := confined high window past
      have position : (q.error .missingCommentEnd text).position = q.position := stays
      exact ⟨still.stream.trans source, position ▸ after, position ▸ before, trivial,
        grows.step (growing_error _ _)⟩

/-- A comment is read into a node. -/
theorem makes_comment (here : p.current? = some (.delimiter .commentStart)) :
    ∃ row raised, p.Makes p.comment .comment row raised := by
  have at_ : (p.start .comment).AtTag p.commentCloser := by
    apply atTag_start
    have seen := here
    rw [current?_eq] at seen
    rw [commentCloser, nextMode?_eq, TokenStream.closerAt?, seen]
  obtain ⟨_, raised, approached⟩ :=
    approached_remark at_ ((current?_start p .comment).trans here)
  obtain ⟨row, reads, raises, tagged⟩ := approached.tagged at_.solid at_.opens
  rw [comment_eq]
  exact ⟨row, raised, makes_of_tagged reads raises tagged⟩

end Parser
end Stencil
