import Stencil.Proofs.Grammar.Opening
import Stencil.Proofs.Parser.Repetition
/-!
# Arriving at the end of a phrase

`Parses` says that between two moments of a parse the tokens up to a place were read into given
shapes and nothing was reported. A step is `Complete` for a phrase when it parses whatever the
phrase derives, as long as no token that binds tightly enough follows. The lemmas here carry this
over to the ways in which the parser puts steps together: nodes, nodes around what came before,
chains and lists.
-/

namespace Stencil
namespace Parser

open Grammar (Phrase Operand Ends binding space word token spaced node around)

/-- The later parser has read the tokens of the stream up to a place into shapes, and has reported
nothing. -/
structure Parses (stream : TokenStream) (earlier later : Parser) (stop : Nat)
    (shapes : List Shape) : Prop where
  source : earlier.stream = stream
  reads : earlier.Reads later shapes
  stop : later.position = stop
  diagnostics : later.diagnostics = earlier.diagnostics
  suppressed : later.suppressed = earlier.suppressed
  depthReported : later.depthReported = earlier.depthReported

section

variable {stream : TokenStream} {p q r : Parser} {middle stop : Nat} {left right : List Shape}

/-- Without a step nothing is parsed. -/
theorem parses_refl (source : p.stream = stream) : Parses stream p p p.position [] :=
  ⟨source, p.reads_refl, rfl, rfl, rfl, rfl⟩

/-- The later parser still reads the stream. -/
theorem Parses.later (parses : Parses stream p q stop left) : q.stream = stream :=
  parses.reads.stream.trans parses.source

/-- What is parsed after one another is parsed together. -/
theorem Parses.trans (first : Parses stream p q middle left)
    (second : Parses stream q r stop right) : Parses stream p r stop (left ++ right) :=
  ⟨first.source, first.reads.trans second.reads, second.stop,
    second.diagnostics.trans first.diagnostics, second.suppressed.trans first.suppressed,
    second.depthReported.trans first.depthReported⟩

/-- What the parser sees after a phrase is the token after the phrase. -/
theorem Parses.current? (parses : Parses stream p q stop left) :
    q.current? = stream.kindAt? (stream.visible stop) := by
  rw [current?_eq, parses.later, parses.stop]

/-- The token after that. -/
theorem Parses.next? (parses : Parses stream p q stop left) :
    q.nth? 1 = stream.kindAt? (stream.visible (stream.visible stop + 1)) := by
  rw [nth?_one_eq, parses.later, parses.stop]

/-- The parser is at a kind of token if this comes after the phrase. -/
theorem Parses.isAt_iff (parses : Parses stream p q stop left) (kind : TokenKind) :
    q.isAt kind = true ↔ stream.kindAt? (stream.visible stop) = some kind := by
  rw [Parser.isAt_iff, parses.current?]

/-- A token is one of a kind that is looked for. -/
theorem kindAt?_of_token {kind : TokenKind} {start : Nat} {shapes : List Shape}
    (found : token stream kind start stop shapes) :
    stream.kindAt? (stream.visible start) = some kind := by
  have seen := found.1
  cases here : stream.kindAt? (stream.visible start) with
  | none =>
    rw [here] at seen
    contradiction
  | some other =>
    rw [here] at seen
    rw [of_decide_eq_true seen]

/-- The parser is at a token that comes after the phrase. -/
theorem Parses.at_token {kind : TokenKind} (parses : Parses stream p q middle left)
    (found : token stream kind middle stop right) : q.isAt kind = true :=
  (parses.isAt_iff kind).2 (kindAt?_of_token found)

/-- Taking white space reports nothing. -/
theorem takeSpace_quiet (p : Parser) (among : Nat) :
    (p.takeSpace among).diagnostics = p.diagnostics ∧
      (p.takeSpace among).suppressed = p.suppressed ∧
      (p.takeSpace among).depthReported = p.depthReported := by
  induction among generalizing p with
  | zero => exact ⟨rfl, rfl, rfl⟩
  | succ among ih =>
    rw [takeSpace]
    split
    · exact ih p.take
    · exact ⟨rfl, rfl, rfl⟩

/-- White space is parsed as it is. -/
theorem parses_skipSpace (source : p.stream = stream) :
    Parses stream p p.skipSpace (stream.visible p.position) (space stream p.position) := by
  obtain ⟨diagnostics, suppressed, reported⟩ := p.takeSpace_quiet p.remaining
  have reads := p.reads_skipSpace
  rw [source] at reads
  exact ⟨source, reads, source ▸ p.skipSpace_position, diagnostics, suppressed, reported⟩

/-- A token that comes after the phrase is parsed by taking it. -/
theorem Parses.bump {kinds : TokenKind → Bool} (parses : Parses stream p q middle left)
    (found : word stream kinds middle stop right) :
    Parses stream p q.bump stop (left ++ right) := by
  obtain ⟨seen, rfl, rfl⟩ := found
  apply parses.trans
  have spaced := parses_skipSpace parses.later
  rw [parses.stop] at spaced
  have inside : q.skipSpace.position < q.skipSpace.stream.size := by
    rw [spaced.stop, spaced.later, ← TokenStream.kindAt?_isSome]
    cases here : stream.kindAt? (stream.visible middle) with
    | none =>
      rw [here] at seen
      contradiction
    | some kind => rfl
  have taken : Parses stream q.skipSpace q.skipSpace.take (stream.visible middle + 1)
      [.token (stream.visible middle)] := by
    have reads := reads_take inside
    rw [spaced.stop] at reads
    exact ⟨spaced.later, reads, by rw [take, spaced.stop], rfl, rfl, rfl⟩
  have row := Shape.tokens_append middle (stream.visible middle - middle) 1
  have forward := stream.le_visible middle
  rw [Nat.add_sub_cancel' forward, ← Nat.sub_add_comm forward] at row
  have whole := spaced.trans taken
  rw [Parser.bump, if_pos inside, ← row]
  exact whole

/-- A closing bracket that comes after the phrase is parsed. -/
theorem Parses.expectCloser {closer : TokenKind} (parses : Parses stream p q middle left)
    (found : token stream closer middle stop right) (message : String) :
    Parses stream p (q.expectCloser closer message) stop (left ++ right) := by
  rw [Parser.expectCloser, if_pos (parses.at_token found)]
  exact parses.bump found

/-- A token that may be missing after the phrase is parsed, if it would not be taken otherwise. -/
theorem Parses.skip {kind : TokenKind} (parses : Parses stream p q middle left)
    (found : (token stream kind).optional middle stop right)
    (other : stop = middle → stream.kindAt? (stream.visible stop) ≠ some kind) :
    Parses stream p (q.skip kind) stop (left ++ right) := by
  rw [Parser.skip, eat]
  rcases found with ⟨rfl, rfl⟩ | found
  · have absent : ¬q.isAt kind = true := by
      rw [parses.isAt_iff]
      exact other rfl
    rw [if_neg absent, List.append_nil]
    exact parses
  · rw [if_pos (parses.at_token found)]
    exact parses.bump found

/-! ### Nodes -/

/-- A node is opened at the token that comes next. -/
theorem parses_start (source : p.stream = stream) (kind : NodeKind) :
    Parses stream (p.start kind) (p.start kind) (stream.visible p.position) [] := by
  have spaced := parses_skipSpace source
  have opened : Parses stream (p.start kind) (p.start kind) p.skipSpace.position [] :=
    parses_refl spaced.later
  rw [spaced.stop] at opened
  exact opened

/-- A node whose content is parsed is parsed, after white space. -/
theorem Parses.node {kind : NodeKind} (parses : Parses stream p q middle left)
    (inside : Parses stream (q.start kind) r stop right) :
    Parses stream p r.finish stop (left ++ (space stream middle ++ [.node kind right])) := by
  have spaced := parses_skipSpace parses.later
  rw [parses.stop] at spaced
  refine parses.trans
    (spaced.trans ⟨spaced.later, reads_node inside.reads, inside.stop, ?_, ?_, ?_⟩)
  · exact inside.diagnostics
  · exact inside.suppressed
  · exact inside.depthReported

/-- A node is opened around what was parsed. -/
theorem parses_startAt (parses : Parses stream p q middle left) (checkpoint : Checkpoint)
    (kind : NodeKind) : Parses stream (q.startAt checkpoint kind) (q.startAt checkpoint kind) middle
      [] := by
  have opened : Parses stream (q.startAt checkpoint kind) (q.startAt checkpoint kind) q.position
      [] := parses_refl parses.later
  rw [parses.stop] at opened
  exact opened

/-- A node around what was parsed, with more content, is parsed in its place. -/
theorem Parses.around {kind : NodeKind} (parses : Parses stream p q middle left)
    (inside : Parses stream (q.startAt p.builder.checkpoint kind) r stop right) :
    Parses stream p r.finish stop [.node kind (left ++ right)] where
  source := parses.source
  reads := reads_startAt parses.reads inside.reads
  stop := inside.stop
  diagnostics := inside.diagnostics.trans parses.diagnostics
  suppressed := inside.suppressed.trans parses.suppressed
  depthReported := inside.depthReported.trans parses.depthReported

/-- What is parsed one level deeper is parsed. -/
theorem parses_ascend (inside : Parses stream p.descend q stop right) :
    Parses stream p q.ascend stop right where
  source := inside.source
  reads := reads_ascend inside.reads
  stop := inside.stop
  diagnostics := inside.diagnostics
  suppressed := inside.suppressed
  depthReported := inside.depthReported

end

/-! ### Complete steps -/

variable (stream : TokenStream)

/-- A step parses whatever a phrase derives, if no token that binds as tightly follows. -/
def Complete (step : Step) (phrase : Phrase) (level : Nat) : Prop :=
  ∀ (p : Parser) (stop : Nat) (shapes : List Shape), p.stream = stream →
    phrase p.position stop shapes → Ends stream level stop → Parses stream p (step p) stop shapes

variable {stream}

section

variable {p q : Parser} {middle stop : Nat} {left right : List Shape}

/-- A complete step parses what comes after a phrase. -/
theorem Parses.step {step : Step} {phrase : Phrase} {level : Nat}
    (parses : Parses stream p q middle left) (complete : Complete stream step phrase level)
    (found : phrase middle stop right) (ends : Ends stream level stop) :
    Parses stream p (step q) stop (left ++ right) :=
  parses.trans (complete q stop right parses.later (parses.stop ▸ found) ends)

end

/-- At a token there is no white space before it. -/
theorem space_of_visible {start : Nat} (here : stream.visible start = start) :
    space stream start = [] := by
  rw [space, here, Nat.sub_self]
  rfl

/-- A complete step parses an operand at its first token. -/
theorem Complete.operand {step : Step} {operand : Operand} {level : Nat}
    (complete : Complete stream step (spaced stream operand) level) {p : Parser} {stop : Nat}
    {shape : Shape} (source : p.stream = stream) (here : p.stream.visible p.position = p.position)
    (found : operand p.position stop shape) (ends : Ends stream level stop) :
    Parses stream p (step p) stop [shape] := by
  rw [source] at here
  refine complete p stop _ source ⟨shape, here.symm ▸ found, ?_⟩ ends
  rw [space_of_visible here, List.nil_append]

/-- A step that begins with a checkpoint parses an operand if it does so from its first token. -/
theorem parses_checkpoint {step : Step} {operand : Operand} {p : Parser} {stop : Nat}
    {shapes : List Shape} (skips : step p.skipSpace = step p) (source : p.stream = stream)
    (found : spaced stream operand p.position stop shapes)
    (inside : ∀ shape, p.skipSpace.stream = stream →
      p.skipSpace.stream.visible p.skipSpace.position = p.skipSpace.position →
      operand p.skipSpace.position stop shape →
      Parses stream p.skipSpace (step p.skipSpace) stop [shape]) :
    Parses stream p (step p) stop shapes := by
  obtain ⟨shape, found, rfl⟩ := found
  have spaced := parses_skipSpace source
  rw [← skips]
  refine spaced.trans (inside shape spaced.later ?_ ?_)
  · rw [spaced.later, spaced.stop, stream.visible_visible]
  · rw [spaced.stop]
    exact found

/-- A step that begins with a checkpoint is complete if it is at a token. -/
theorem complete_checkpoint {step : Step} {operand : Operand} {level : Nat}
    (skips : ∀ p : Parser, step p.skipSpace = step p)
    (complete : ∀ (p : Parser) (stop : Nat) (shape : Shape), p.stream = stream →
      p.stream.visible p.position = p.position → operand p.position stop shape →
      Ends stream level stop → Parses stream p (step p) stop [shape]) :
    Complete stream step (spaced stream operand) level := fun p stop _ source found ends =>
  parses_checkpoint (skips p) source found fun shape source here found =>
    complete p.skipSpace stop shape source here found ends

/-- A node whose content is parsed is complete. -/
theorem complete_node (kind : NodeKind) {inside : Step} {phrase : Phrase} {level : Nat}
    (complete : Complete stream inside phrase level) :
    Complete stream (fun p => (inside (p.start kind)).finish)
      (spaced stream (node kind phrase)) level := by
  rintro p stop shapes source ⟨shape, ⟨within, found, rfl⟩, rfl⟩ ends
  have opened := (parses_start source kind).step complete found ends
  exact (parses_refl source).node opened

/-- Taking a token parses it. -/
theorem complete_bump (kinds : TokenKind → Bool) (level : Nat) :
    Complete stream Parser.bump (word stream kinds) level := fun _ _ _ source found _ =>
  (parses_refl source).bump found

/-! ### Chains -/

/-- A loop goes on where its test holds and its body takes a token. -/
theorem loop_of_test {test : Parser → Bool} {body : Step}
    (seen : ∀ q : Parser, test q = true → q.current?.isSome)
    (taken : ∀ q : Parser, test q = true → q.Past (body q)) {q : Parser} (holds : test q = true) :
    q.loop test body = (body q).loop test body := by
  have fewer := (taken q holds).remaining_lt (seen q holds)
  obtain ⟨times, enough⟩ : ∃ times, q.remaining = times + 1 := ⟨q.remaining - 1, by omega⟩
  rw [loop, loop, enough, repeatWhile, if_pos holds]
  exact unhindered_repeatWhile seen taken _ _ _ (by omega) (Nat.le_refl _)

/-- A loop ends where its test does not hold. -/
theorem loop_of_not {test : Parser → Bool} {body : Step} {q : Parser} (fails : test q = false) :
    q.loop test body = q := by
  rw [loop]
  cases q.remaining with
  | zero => rfl
  | succ times => rw [repeatWhile, if_neg (by rw [fails]; exact Bool.false_ne_true)]

/-- Being at a kind is seeing a token of this one kind. -/
theorem isAt_eq_any (q : Parser) (kind : TokenKind) :
    q.isAt kind = q.current?.any fun other => other = kind := by
  rw [isAt]
  cases q.current? with
  | none => rfl
  | some other => simp

/-- A run of tokens of some kinds is parsed by a loop over these kinds. -/
theorem parses_run {kinds : TokenKind → Bool} {test : Parser → Bool}
    (tests : ∀ q : Parser, test q = q.current?.any kinds) {start stop : Nat} {shapes : List Shape}
    (found : Grammar.Repeated (word stream kinds) start stop shapes) {p : Parser}
    (source : p.stream = stream) (begins : p.position = start)
    (beyond : (stream.kindAt? (stream.visible stop)).any kinds = false) :
    Parses stream p (p.loop test Parser.bump) stop shapes := by
  have seen (q : Parser) (holds : test q = true) : q.current?.isSome := by
    rw [tests] at holds
    exact Option.isSome_of_any holds
  have ended {origin q : Parser} {stop : Nat} {shapes : List Shape}
      (parses : Parses stream origin q stop shapes)
      (beyond : (stream.kindAt? (stream.visible stop)).any kinds = false) :
      q.loop test Parser.bump = q := loop_of_not (by rw [tests, parses.current?]; exact beyond)
  have holds {q : Parser} {start stop : Nat} {shapes : List Shape} (source : q.stream = stream)
      (begins : q.position = start) (found : word stream kinds start stop shapes) :
      test q = true := by
    obtain rfl := begins
    rw [tests, (parses_refl source).current?]
    exact found.1
  induction found generalizing p with
  | last only =>
    have here := holds source begins only
    obtain rfl := begins
    have parses := (parses_refl source).bump only
    rw [loop_of_test seen (fun q _ => past_bump q) here, ended parses beyond]
    exact parses
  | more first rest ih =>
    have here := holds source begins first
    obtain rfl := begins
    have parses := (parses_refl source).bump first
    rw [List.nil_append] at parses
    rw [loop_of_test seen (fun q _ => past_bump q) here]
    exact parses.trans (ih parses.later parses.stop beyond)

section

variable (first : Step) (body : Checkpoint → Step) {operand : Operand} {step : Shape → Operand}
  {level : Nat} {kinds : TokenKind → Bool} {test : Parser → Bool}
  (base : Complete stream first (spaced stream operand) (level + 1))
  (tests : ∀ q : Parser, test q = q.current?.any kinds)
  (binds : ∀ kind, kinds kind = true → binding kind = level)
  (next : ∀ inside start stop shape, step inside start stop shape →
    (stream.kindAt? (stream.visible start)).any kinds = true)
  (taken : ∀ (checkpoint : Checkpoint) (q : Parser), test q = true → q.Past (body checkpoint q))
  (grow : ∀ (p q : Parser) (middle stop : Nat) (inside shape : Shape),
    Parses stream p q middle [inside] → step inside middle stop shape →
    Ends stream (level + 1) stop → Parses stream p (body p.builder.checkpoint q) stop [shape])

include base tests binds next taken grow

/-- The loop of a chain comes to the end of what the chain derives, with the rest of the loop
before it. -/
theorem chain_reaches {p : Parser} {start stop : Nat} {shape : Shape} (source : p.stream = stream)
    (here : p.stream.visible p.position = p.position)
    (found : Grammar.Chain operand step start stop shape) (begins : start = p.position)
    (ends : Ends stream (level + 1) stop) : ∃ q, Parses stream p q stop [shape] ∧
      (first p).loop test (body p.builder.checkpoint) =
        q.loop test (body p.builder.checkpoint) := by
  induction found with
  | single whole =>
    rw [begins] at whole
    exact ⟨first p, base.operand source here whole ends, rfl⟩
  | @grow _ middle stop inside shape before further ih =>
    have leads := next _ _ _ _ further
    have between : Ends stream (level + 1) middle := by
      intro kind seen
      rw [seen] at leads
      rw [binds kind leads]
      exact Nat.lt_succ_self _
    obtain ⟨q, parses, same⟩ := ih begins between
    have holds : test q = true := by
      rw [tests, parses.current?]
      exact leads
    have seen (q : Parser) (holds : test q = true) : q.current?.isSome := by
      rw [tests] at holds
      exact Option.isSome_of_any holds
    refine ⟨body p.builder.checkpoint q, grow p q _ _ _ _ parses further ends, ?_⟩
    rw [same, loop_of_test seen (taken _) holds]

/-- An operand with steps after it is parsed if the operand and each step are, and each step begins
with a token that binds just as tightly as the chain. -/
theorem parses_chain {p : Parser} {stop : Nat} {shape : Shape} (source : p.stream = stream)
    (here : p.stream.visible p.position = p.position)
    (found : Grammar.Chain operand step p.position stop shape) (ends : Ends stream level stop) :
    Parses stream p ((first p).loop test (body p.builder.checkpoint)) stop [shape] := by
  obtain ⟨q, parses, same⟩ := chain_reaches first body base tests binds next taken grow source here
    found rfl (ends.mono (Nat.le_succ _))
  have beyond : test q = false := by
    rw [tests, parses.current?]
    exact ends.any fun kind member => Nat.le_of_eq (binds kind member).symm
  rw [same, loop_of_not beyond]
  exact parses

end

/-! ### Lists -/

/-- An operand never begins with a token of a kind. -/
def Avoids (stream : TokenStream) (operand : Operand) (kind : TokenKind) : Prop :=
  ∀ (start stop : Nat) (shape : Shape), stream.visible start = start →
    operand start stop shape → stream.kindAt? start ≠ some kind

/-- After a phrase the parser is not at a kind that the next operand avoids. -/
theorem Parses.not_at {p q : Parser} {middle stop : Nat} {left right : List Shape}
    {operand : Operand} {kind : TokenKind} (parses : Parses stream p q middle left)
    (avoids : Avoids stream operand kind) (found : spaced stream operand middle stop right) :
    ¬q.isAt kind = true := by
  obtain ⟨shape, found, -⟩ := found
  rw [parses.isAt_iff]
  exact avoids _ _ _ (stream.visible_visible _) found

/-- What goes on with a list goes on with a comma. -/
theorem kindAt?_of_further {operand : Operand} {start stop : Nat} {shapes : List Shape}
    (found : Grammar.Further stream operand start stop shapes) :
    stream.kindAt? (stream.visible start) = some (.punctuation .comma) := by
  cases found with
  | trailing only => exact kindAt?_of_token only
  | last only =>
    obtain ⟨_, _, _, separator, -, -⟩ := only
    exact kindAt?_of_token separator
  | more first rest =>
    obtain ⟨_, _, _, separator, -, -⟩ := first
    exact kindAt?_of_token separator

/-- A phrase ends where a token comes that binds less tightly. -/
theorem ends_of_binding {kind : TokenKind} {stop level : Nat}
    (next : stream.kindAt? (stream.visible stop) = some kind) (loose : binding kind < level) :
    Ends stream level stop := by
  intro other seen
  obtain rfl : kind = other := Option.some.inj (next.symm.trans seen)
  exact loose

/-- The same for a token of some kinds that all bind less tightly. -/
theorem ends_of_word {kinds : TokenKind → Bool} {start stop level : Nat} {shapes : List Shape}
    (found : word stream kinds start stop shapes)
    (loose : ∀ kind, kinds kind = true → binding kind < level) : Ends stream level start := by
  intro kind seen
  have member := found.1
  rw [seen] at member
  exact loose kind member

/-- A phrase ends where a token comes that goes on with nothing. -/
theorem ends_of_loose {kind : TokenKind} {stop level : Nat}
    (next : stream.kindAt? (stream.visible stop) = some kind) (loose : binding kind = 0)
    (positive : 0 < level) : Ends stream level stop := ends_of_binding next (loose ▸ positive)

/-- An item after a comma is parsed, and takes a token at least. -/
theorem parses_next {item : Step} {operand : Operand} {level start stop : Nat}
    {shapes : List Shape} (each : Complete stream item (spaced stream operand) level)
    (found : (Grammar.comma stream ++ spaced stream operand) start stop shapes) {p : Parser}
    (source : p.stream = stream) (begins : p.position = start) (ends : Ends stream level stop) :
    p.isAt (.punctuation .comma) = true ∧
      (∃ middle left right, Parses stream p p.bump middle left ∧
        spaced stream operand middle stop right) ∧
      Parses stream p (item p.bump) stop shapes ∧ (item p.bump).remaining < p.remaining := by
  obtain ⟨middle, left, right, separator, next, rfl⟩ := found
  obtain rfl := begins
  have here := (parses_refl source).at_token separator
  have bumped := (parses_refl source).bump separator
  rw [List.nil_append] at bumped
  have whole := bumped.step each next ends
  have inner := each p.bump stop right bumped.later (bumped.stop ▸ next) ends
  have past : p.Past (item p.bump) := inner.reads.grows.ahead
  exact ⟨here, ⟨middle, left, right, bumped, next⟩, whole, past.remaining_lt (isSome_of_isAt here)⟩

section

variable {item : Step} {operand : Operand} {p : Parser} (after : Nat → Step)
  (stops : Option TokenKind → Bool) (each : Complete stream item (spaced stream operand) 1)
  (trails : ∀ (times : Nat) (q : Parser), q.isAt (.punctuation .comma) = true →
    stops q.bump.current? = true → after (times + 1) q = q.bump)
  (goes : ∀ (times : Nat) (q : Parser) (middle stop : Nat) (left right : List Shape),
    Parses stream p q.bump middle left → spaced stream operand middle stop right →
    q.isAt (.punctuation .comma) = true → after (times + 1) q = after times (item q.bump))
  (rests : ∀ (times : Nat) (q : Parser), ¬q.isAt (.punctuation .comma) = true →
    stops q.current? = true → after times q = q)

include each trails goes rests

/-- What goes on with a list is parsed up to where the list stops: a step that takes a comma and,
unless the list stops there, the next item and what goes on after it. -/
theorem parses_further {start stop times : Nat} {shapes before : List Shape}
    (found : Grammar.Further stream operand start stop shapes) {q : Parser}
    (parses : Parses stream p q start before)
    (beyond : stops (stream.kindAt? (stream.visible stop)) = true)
    (noComma : stream.kindAt? (stream.visible stop) ≠ some (.punctuation .comma))
    (ends : Ends stream 1 stop) (enough : q.remaining ≤ times) :
    Parses stream q (after times q) stop shapes := by
  induction found generalizing q before times with
  | trailing only =>
    have here := parses.at_token only
    have bumped := parses.bump only
    have some := (past_bump q).remaining_lt (isSome_of_isAt here)
    cases times with
    | zero => omega
    | succ rest =>
      rw [trails rest q here (by rw [bumped.current?]; exact beyond)]
      have alone := (parses_refl parses.later).bump (parses.stop.symm ▸ only)
      exact alone
  | last only =>
    obtain ⟨here, ⟨_, _, _, bumped, next⟩, whole, fewer⟩ :=
      parses_next each only parses.later parses.stop ends
    cases times with
    | zero => omega
    | succ rest =>
      rw [goes rest q _ _ _ _ (parses.trans bumped) next here, rests rest _
        (by rw [whole.isAt_iff]; exact noComma) (by rw [whole.current?]; exact beyond)]
      exact whole
  | more first rest ih =>
    have goesOn := kindAt?_of_further rest
    obtain ⟨here, ⟨_, _, _, bumped, next⟩, whole, fewer⟩ :=
      parses_next each first parses.later parses.stop (ends_of_loose goesOn rfl Nat.one_pos)
    cases times with
    | zero => omega
    | succ times =>
      rw [goes times q _ _ _ _ (parses.trans bumped) next here]
      exact whole.trans (ih (parses.trans whole) beyond noComma ends (by omega))

/-- A list is its first item and what goes on with it. -/
theorem parses_listing {stop times : Nat} {shapes : List Shape} (source : p.stream = stream)
    (found : Grammar.listing stream operand p.position stop shapes)
    (beyond : stops (stream.kindAt? (stream.visible stop)) = true)
    (noComma : stream.kindAt? (stream.visible stop) ≠ some (.punctuation .comma))
    (ends : Ends stream 1 stop) (enough : p.remaining ≤ times) :
    Parses stream p (after times (item p)) stop shapes := by
  obtain ⟨middle, left, right, first, rest, rfl⟩ := found
  rcases rest with ⟨rfl, rfl⟩ | more
  · have whole := each p _ left source first ends
    rw [List.append_nil, rests times _ (by rw [whole.isAt_iff]; exact noComma)
      (by rw [whole.current?]; exact beyond)]
    exact whole
  · have goesOn := kindAt?_of_further more
    have whole := each p _ left source first (ends_of_loose goesOn rfl Nat.one_pos)
    have fewer := whole.reads.grows.ahead.remaining_le
    exact whole.trans (parses_further after stops each trails goes rests more whole beyond noComma
      ends (by omega))

end

/-- A closing bracket that binds nothing is no comma. -/
theorem ne_comma_of_closed {closer : TokenKind} {place : Nat}
    (closed : stream.kindAt? (stream.visible place) = some closer)
    (bracket : closer ≠ .punctuation .comma) :
    stream.kindAt? (stream.visible place) ≠ some (.punctuation .comma) := by
  rw [closed]
  exact fun same => bracket (Option.some.inj same)

/-- What a list of items between brackets does after an item. -/
def afterItem (item : Step) (closer : TokenKind) (message : String) (times : Nat) (p : Parser) :
    Parser :=
  if p.isAt (.punctuation .comma) then
    if p.bump.isAt closer then p.bump else items item closer message times p.bump
  else if p.isAt closer then p
  else p.error .unclosedGroup message

/-- A list of items is parsed up to the closing bracket. -/
theorem parses_items {item : Step} {operand : Operand} {closer : TokenKind}
    (each : Complete stream item (spaced stream operand) 1)
    (avoids : Avoids stream operand closer) (loose : binding closer = 0) (message : String)
    (bracket : closer ≠ .punctuation .comma) {p : Parser}
    {stop times : Nat} {shapes : List Shape} (source : p.stream = stream)
    (found : Grammar.listing stream operand p.position stop shapes)
    (closed : stream.kindAt? (stream.visible stop) = some closer) (enough : p.remaining < times) :
    Parses stream p (items item closer message times p) stop shapes := by
  cases times with
  | zero => omega
  | succ times =>
    refine parses_listing (afterItem item closer message) (fun seen => seen = some closer) each
      (fun times q here beyond => ?_) (fun times q _ _ _ _ bumped next here => ?_)
      (fun times q noComma beyond => ?_) source found (decide_eq_true closed)
      (ne_comma_of_closed closed bracket) (ends_of_loose closed loose Nat.one_pos) (by omega)
    · rw [afterItem, if_pos here, if_pos ((isAt_iff _ _).2 (of_decide_eq_true beyond))]
    · rw [afterItem, if_pos here, if_neg (bumped.not_at avoids next)]
      rfl
    · rw [afterItem, if_neg noComma, if_pos ((isAt_iff _ _).2 (of_decide_eq_true beyond))]

/-- Further items after commas are parsed up to where the list ends, if each is read by an item. -/
theorem parses_moreItems {item reading : Step} {operand : Operand} {ends : Parser → Bool}
    (stops : Option TokenKind → Bool) (each : Complete stream item (spaced stream operand) 1)
    (tests : ∀ q : Parser, ends q = stops q.current?)
    (going : ∀ (start stop : Nat) (shape : Shape), stream.visible start = start →
      operand start stop shape → stops (stream.kindAt? start) = false)
    {p q : Parser} (same : ∀ (later : Parser) (place : Nat) (read : List Shape),
      Parses stream p later place read → reading later = item later)
    {start stop times : Nat} {shapes before : List Shape}
    (found : Grammar.Further stream operand start stop shapes)
    (parses : Parses stream p q start before)
    (beyond : stops (stream.kindAt? (stream.visible stop)) = true)
    (noComma : stream.kindAt? (stream.visible stop) ≠ some (.punctuation .comma))
    (following : Ends stream 1 stop) (enough : q.remaining ≤ times) :
    Parses stream q (moreItems reading ends times q) stop shapes := by
  refine parses_further (moreItems reading ends) stops each (fun times q here beyond => ?_)
    (fun times q _ _ _ _ bumped next here => ?_) (fun times q noComma _ => ?_) found parses beyond
    noComma following enough
  · rw [moreItems, if_pos here, if_pos ((tests _).trans beyond)]
  · have proceeds : ¬ends q.bump = true := by
      obtain ⟨shape, next, -⟩ := next
      rw [tests, bumped.current?, going _ _ _ (stream.visible_visible _) next]
      exact Bool.false_ne_true
    rw [moreItems, if_pos here, if_neg proceeds, same _ _ _ bumped]
  · cases times with
    | zero => rfl
    | succ times => rw [moreItems, if_neg noComma]

end Parser
end Stencil
