import Stencil.Proofs.Parser.Routine
import Stencil.Proofs.Tree.Nodes
/-!
# What lies inside a tag

Between the delimiters of a tag the parser builds nodes for parts of statements, for expressions and
for what it did not expect, and its reports are about these. `Gathers` says so of two moments of a
parse, and that nothing is skipped or put in without a report. It is kept by the steps that headers
and expressions are made of (`routine_gathers`), so that it holds of all of them.
-/

namespace Stencil

/-- Shapes without placeholders and without characters that fit nowhere. -/
def TokenStream.Clean (stream : TokenStream) (shapes : List Shape) : Prop :=
  (∀ node ∈ Shape.nodesAll shapes, node.1 ≠ .error) ∧
    ∀ index ∈ Shape.leavesAll shapes, stream.kindAt? index ≠ some .badCharacter

/-- Two rows of shapes are clean exactly if each of them is. -/
theorem TokenStream.clean_append {stream : TokenStream} {left right : List Shape} :
    stream.Clean (left ++ right) ↔ stream.Clean left ∧ stream.Clean right := by
  simp only [Clean, Shape.nodesAll_append, Shape.leavesAll_append, List.mem_append, or_imp,
    forall_and]
  exact and_and_and_comm

/-- What a parser passes on the way to the token it sees is white space. -/
theorem TokenStream.kindAt?_before_visible {stream : TokenStream} {start index : Nat}
    (after : start ≤ index) (before : index < stream.visible start) :
    stream.kindAt? index = some .whitespace := by
  by_contra solid
  by_cases first : stream.kindAt? start = some .whitespace
  · have further : start ≠ index := by
      rintro rfl
      exact solid first
    rw [stream.visible_of_space first] at before
    have shorter : stream.visible (start + 1) - (start + 1) < stream.visible start - start := by
      rw [stream.visible_of_space first]
      omega
    exact solid (kindAt?_before_visible (by omega) before)
  · rw [stream.visible_of_not_space first] at before
    omega
termination_by stream.visible start - start

namespace Parser

/-- The parser has read this inside a tag: parts of statements and expressions. Its reports are
about these, and without a report there is nothing out of place. -/
structure Gathers (p q : Parser) (shapes : List Shape) (raised : List Diagnostic) : Prop where
  reads : p.Reads q shapes
  raises : p.Raises q raised
  parts : ∀ node ∈ Shape.nodesAll shapes, node.1.isPart = true ∨ node.1 = .error
  own : ∀ diagnostic ∈ raised, diagnostic.isMismatch = false
  clean : raised = [] → p.stream.Clean shapes

variable {o p q : Parser} {left right shapes : List Shape} {first second raised : List Diagnostic}

/-- Where nothing is read and nothing reported nothing is gathered. -/
theorem gathers_of_still (reads : p.Reads q []) (raises : p.Raises q raised)
    (own : ∀ diagnostic ∈ raised, diagnostic.isMismatch = false) : p.Gathers q [] raised :=
  ⟨reads, raises, by simp, own, fun _ => ⟨by simp, by simp [Shape.leavesAll]⟩⟩

/-- Without a step nothing is gathered. -/
theorem gathers_refl (p : Parser) : p.Gathers p [] [] :=
  gathers_of_still p.reads_refl p.raises_refl (by simp)

/-- What is gathered after one another is gathered together. -/
theorem Gathers.trans (before : o.Gathers p left first) (after : p.Gathers q right second) :
    o.Gathers q (left ++ right) (first ++ second) where
  reads := before.reads.trans after.reads
  raises := before.raises.trans after.raises
  parts node member := by
    rw [Shape.nodesAll_append, List.mem_append] at member
    exact member.elim (before.parts node) (after.parts node)
  own diagnostic member :=
    (List.mem_append.1 member).elim (before.own diagnostic) (after.own diagnostic)
  clean quiet := by
    obtain ⟨calm, also⟩ := List.append_eq_nil_iff.1 quiet
    have later := after.clean also
    rw [before.reads.stream] at later
    exact TokenStream.clean_append.2 ⟨before.clean calm, later⟩

/-- White space is gathered as it is, and nothing is reported of it. -/
theorem gathers_skipSpace (p : Parser) : p.Gathers p.skipSpace
    (Shape.tokens p.position (p.stream.visible p.position - p.position)) [] := by
  refine ⟨p.reads_skipSpace, p.raises_skipSpace, by simp, by simp, fun _ => ⟨by simp, ?_⟩⟩
  intro index member
  rw [Shape.leavesAll_tokens, List.mem_range'_1] at member
  rw [TokenStream.kindAt?_before_visible member.1 (by omega)]
  rintro ⟨⟩

/-- The token that the parser sees is taken, with the white space before it. -/
theorem reads_bump (some : p.current?.isSome) : p.Reads p.bump
    (Shape.tokens p.position (p.stream.visible p.position - p.position) ++
      [.token (p.stream.visible p.position)]) := by
  have solid := p.visible_skipSpace
  have seen : p.skipSpace.current?.isSome := (sees_skipSpace p).current? ▸ some
  have taken := (bump_of_visible solid seen).1
  have same : p.skipSpace.bump = p.bump := by rw [bump, bump, skipSpace_skipSpace]
  rw [same, skipSpace_position] at taken
  exact p.reads_skipSpace.trans taken

/-- A token that fits is gathered with the white space before it, and nothing is reported of it. -/
theorem gathers_bump {kind : TokenKind} (here : p.current? = some kind)
    (fits : kind ≠ .badCharacter) : p.Gathers p.bump
    (Shape.tokens p.position (p.stream.visible p.position - p.position) ++
      [.token (p.stream.visible p.position)]) [] := by
  have spaced := p.gathers_skipSpace
  refine ⟨reads_bump (here ▸ rfl), p.raises_bump, by simp, by simp, fun _ => ?_⟩
  refine TokenStream.clean_append.2 ⟨spaced.clean rfl, by simp, ?_⟩
  intro index member
  rw [Shape.leavesAll_token, List.mem_singleton] at member
  rw [current?_eq] at here
  rw [member, here]
  exact fun bad => fits (Option.some.inj bad)

/-- A report on the tag itself gathers no tokens. -/
theorem gathers_error (p : Parser) {fault : SyntaxFault} {message : String}
    (own : fault.isMismatch message = false) :
    p.Gathers (p.error fault message) [] [⟨p.offset, fault, message⟩] :=
  gathers_of_still (reads_errorAt p _ _ _).1 (p.raises_error fault message) fun _ member => by
    rw [List.mem_singleton.1 member]
    exact own

/-- The reports of the limit on nesting are not about how tags match. -/
theorem isMismatch_of_deep {diagnostic : Diagnostic}
    (deep : diagnostic.fault = .maxRecursionDepth) : diagnostic.isMismatch = false := by
  rw [Diagnostic.isMismatch, deep]
  rfl

/-- A refused level gathers no tokens. -/
theorem gathers_refuse (p : Parser) : ∃ raised, p.Gathers p.refuse [] raised := by
  obtain ⟨raised, raises, -, deep⟩ := p.raises_refuse
  exact ⟨raised, gathers_of_still p.reads_refuse.1 raises fun diagnostic member =>
    isMismatch_of_deep (deep diagnostic member)⟩

/-- A row that is one node, which stands in tags, is gathered if what is in the node is. -/
theorem Gathers.enclose {kind : NodeKind} (inside : p.Gathers q shapes raised)
    (part : kind.isPart = true) (reads : o.Reads q.finish [.node kind shapes])
    (raises : o.Raises q raised) : o.Gathers q.finish [.node kind shapes] raised := by
  have source : o.stream = p.stream :=
    (reads.stream.symm.trans (show q.finish.stream = q.stream from rfl)).trans inside.reads.stream
  have solid : kind ≠ .error := by
    rintro rfl
    contradiction
  have listed : Shape.nodesAll [.node kind shapes] = (kind, shapes) :: Shape.nodesAll shapes := by
    simp
  refine ⟨reads, raises.still rfl rfl rfl, ?_, inside.own, fun quiet => ?_⟩
  · rw [listed, List.forall_mem_cons]
    exact ⟨.inl part, inside.parts⟩
  · rw [TokenStream.Clean, listed, Shape.leavesAll_node, List.forall_mem_cons, source]
    exact ⟨⟨solid, (inside.clean quiet).1⟩, (inside.clean quiet).2⟩

/-- A node is gathered with what is in it. -/
theorem Gathers.node {kind : NodeKind} (inside : (p.start kind).Gathers q shapes raised)
    (part : kind.isPart = true) : p.Gathers q.finish
    (Shape.tokens p.position (p.stream.visible p.position - p.position) ++ [.node kind shapes])
    raised := by
  have still : p.skipSpace.Raises (p.start kind) [] := raises_of_same rfl rfl rfl
  exact p.gathers_skipSpace.trans
    (inside.enclose part (reads_node inside.reads) (still.trans inside.raises))

/-- A node around what was gathered since a checkpoint, and more, is gathered. -/
theorem Gathers.around {kind : NodeKind} (before : o.Gathers p left first)
    (after : (p.startAt o.builder.checkpoint kind).Gathers q right second)
    (part : kind.isPart = true) :
    o.Gathers q.finish [.node kind (left ++ right)] (first ++ second) := by
  have still : p.Raises (p.startAt o.builder.checkpoint kind) [] := raises_of_same rfl rfl rfl
  have raises := before.raises.trans (still.trans after.raises)
  have source : (p.startAt o.builder.checkpoint kind).stream = o.stream := before.reads.stream
  have solid : kind ≠ .error := by
    rintro rfl
    contradiction
  refine ⟨reads_startAt before.reads after.reads, raises.still rfl rfl rfl, ?_, ?_, fun quiet => ?_⟩
  · simp only [Shape.nodesAll_cons, Shape.nodes_node, Shape.nodesAll_nil, List.append_nil,
      Shape.nodesAll_append, List.forall_mem_cons, List.forall_mem_append]
    exact ⟨.inl part, before.parts, after.parts⟩
  · rw [List.forall_mem_append]
    exact ⟨before.own, after.own⟩
  · obtain ⟨calm, also⟩ := List.append_eq_nil_iff.1 quiet
    have later := after.clean also
    rw [source] at later
    have both := TokenStream.clean_append.2 ⟨before.clean calm, later⟩
    refine ⟨?_, ?_⟩
    · rw [Shape.nodesAll_cons, Shape.nodes_node, Shape.nodesAll_nil, List.append_nil,
        List.forall_mem_cons]
      exact ⟨solid, both.1⟩
    · rw [Shape.leavesAll_node]
      exact both.2

/-- What is gathered one level deeper is gathered. -/
theorem Gathers.ascend (inside : p.descend.Gathers q shapes raised) :
    p.Gathers q.ascend shapes raised where
  reads := reads_ascend inside.reads
  raises := by
    have still : p.Raises p.descend [] := raises_of_same rfl rfl rfl
    exact (still.trans inside.raises).still rfl rfl rfl
  parts := inside.parts
  own := inside.own
  clean := inside.clean

/-- Taking tokens one after another reads them, and reports nothing. -/
theorem reads_bumps (test : Parser → Bool) (p : Parser) :
    p.Reads (p.loop test bump)
        (Shape.tokens p.position ((p.loop test bump).position - p.position)) ∧
      p.Raises (p.loop test bump) [] := by
  have round (q : Parser)
      (before : p.Reads q (Shape.tokens p.position (q.position - p.position)) ∧ p.Raises q []) :
      p.Reads q.bump (Shape.tokens p.position (q.bump.position - p.position)) ∧
        p.Raises q.bump [] := by
    obtain ⟨reads, raises⟩ := before
    refine ⟨?_, raises.trans q.raises_bump⟩
    have forward := reads.forward
    have ahead := q.stream.le_visible q.position
    by_cases some : q.current?.isSome = true
    · have taken := reads_bump some
      rw [bump_position, if_pos (q.current?_isSome_iff.1 some)]
      have last := Shape.tokens_meet ahead (Nat.le_succ (q.stream.visible q.position))
      rw [Nat.succ_eq_add_one, Nat.add_sub_cancel_left] at last
      rw [← Shape.tokens_meet forward (Nat.le_succ_of_le ahead), ← last]
      exact reads.trans taken
    · have beyond : ¬q.skipSpace.position < q.skipSpace.stream.size := by
        rw [q.skipSpace_position, q.reads_skipSpace.stream]
        exact fun inside => some (q.current?_isSome_iff.2 inside)
      rw [bump, if_neg beyond, q.skipSpace_position, ← Shape.tokens_meet forward ahead]
      exact reads.trans q.reads_skipSpace
  refine loop_keeps (fun q before _ => round q before) ?_
  rw [Nat.sub_self]
  exact ⟨p.reads_refl, p.raises_refl⟩

/-- A placeholder with some tokens, after a report, is gathered. -/
theorem gathers_blank {fault : SyntaxFault} {message : String} (count : Nat)
    (own : fault.isMismatch message = false)
    (reads : ((p.error fault message).start .error).Reads q
      (Shape.tokens (p.stream.visible p.position) count))
    (raises : ((p.error fault message).start .error).Raises q []) :
    ∃ row raised, p.Gathers q.finish row raised ∧ raised ≠ [] := by
  have told := p.gathers_error own
  generalize p.error fault message = r at reads raises told
  have opened := r.raises_start .error
  have read := told.reads.trans (r.reads_skipSpace.trans (reads_node reads))
  refine ⟨_, _, ⟨read, told.raises.trans ((opened.trans raises).still rfl rfl rfl), ?_, ?_, ?_⟩, ?_⟩
  · simp
  · rw [List.append_nil]
    exact told.own
  · exact fun quiet => absurd quiet (by simp)
  · simp

/-- A placeholder is gathered with a report. -/
theorem gathers_placeholder (p : Parser) :
    ∃ row raised, p.Gathers p.placeholder row raised ∧ raised ≠ [] := by
  have told := sees_error p .expectedExpression "Expected expression"
  have own : SyntaxFault.isMismatch .expectedExpression "Expected expression" = false := rfl
  rw [placeholder]
  by_cases structural : ((p.error .expectedExpression "Expected expression").start
      .error).atStructural = true
  · rw [if_pos structural]
    exact gathers_blank 0 own (reads_refl _) (raises_refl _)
  · rw [if_neg structural]
    generalize quiet : p.error .expectedExpression "Expected expression" = r at told structural
    have some : (r.start .error).current?.isSome :=
      isSome_of_loose (eq_false_of_ne_true structural)
    have solid := r.visible_start .error
    have taken := (bump_of_visible solid some).1
    have at_ : (r.start .error).position = p.stream.visible p.position := by
      rw [← told.visible, ← told.stream]
      exact r.skipSpace_position
    rw [at_] at taken
    subst quiet
    exact gathers_blank 1 own taken (raises_bump _)

/-- The steps that headers and expressions are made of gather what lies inside a tag. -/
theorem routine_gathers : Routine (fun p q => ∃ shapes raised, p.Gathers q shapes raised) where
  refl p := ⟨_, _, p.gathers_refl⟩
  trans := by
    rintro o p q ⟨_, _, before⟩ ⟨_, _, after⟩
    exact ⟨_, _, before.trans after⟩
  skipSpace p := ⟨_, _, p.gathers_skipSpace⟩
  bump here written := ⟨_, _, gathers_bump here (by rintro rfl; contradiction)⟩
  error p _ _ own := ⟨_, _, p.gathers_error own⟩
  refuse p := ⟨_, p.gathers_refuse⟩
  placeholder p := by
    obtain ⟨row, raised, gathers, -⟩ := p.gathers_placeholder
    exact ⟨row, raised, gathers⟩
  node := by
    rintro p q kind part ⟨_, _, inside⟩
    exact ⟨_, _, inside.node part⟩
  around := by
    rintro o p q kind part ⟨_, _, before⟩ ⟨_, _, after⟩
    exact ⟨_, _, before.around after part⟩
  ascend := by
    rintro p q ⟨_, _, inside⟩
    exact ⟨_, _, inside.ascend⟩

end Parser
end Stencil
