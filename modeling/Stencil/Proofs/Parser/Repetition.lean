import Stencil.Proofs.Parser.Progress
/-!
# Bounds on repetitions make no difference

The repetitions of the parser are written with a bound on the rounds. Each round takes a token, so
a bound above the number of tokens that are left is never used up: two such bounds give the same,
and what the parser does is what the repetition without a bound does. `every_repetition_ends` says
so of all of them.
-/

namespace Stencil
namespace Parser

/-- Bounds that exceed the number of tokens left by `slack` all give the same. -/
def Unhindered {α : Type} (slack : Nat) (bounded : Nat → Parser → α) : Prop :=
  ∀ (p : Parser) (first second : Nat), p.remaining + slack ≤ first → p.remaining + slack ≤ second →
    bounded first p = bounded second p

/-- Where nothing is left there is nothing to see. -/
theorem current?_of_remaining_zero {p : Parser} (nothing : p.remaining = 0) :
    p.current? = none := by
  have ahead := p.stream.le_visible p.position
  rw [remaining] at nothing
  rw [current?_eq, TokenStream.kindAt?_eq_none]
  omega

/-- A repetition is not cut off if what follows a round only depends on the bound where fewer tokens
are left. -/
theorem unhindered_of_round {α : Type} {bounded : Nat → Parser → α}
    (round : ∀ (p : Parser) (first second : Nat),
      (∀ q : Parser, q.remaining < p.remaining → bounded first q = bounded second q) →
      bounded (first + 1) p = bounded (second + 1) p) : Unhindered 1 bounded := by
  intro p first second enough also
  induction first generalizing p second with
  | zero => omega
  | succ first ih =>
    obtain ⟨rest, rfl⟩ : ∃ rest, second = rest + 1 := ⟨second - 1, by omega⟩
    exact round p first rest fun q fewer => ih q rest (by omega) (by omega)

/-- The same without slack, if nothing is done where no token is seen. -/
theorem unhindered_of_idle {α : Type} {bounded : Nat → Parser → α}
    (idle : ∀ (p : Parser) (times : Nat), p.current? = none → bounded (times + 1) p = bounded 0 p)
    (round : ∀ (p : Parser) (first second : Nat), p.current?.isSome →
      (∀ q : Parser, q.remaining < p.remaining → bounded first q = bounded second q) →
      bounded (first + 1) p = bounded (second + 1) p) : Unhindered 0 bounded := by
  intro p first second enough also
  have still (p : Parser) (times : Nat) (nothing : p.current? = none) :
      bounded times p = bounded 0 p := by
    cases times with
    | zero => rfl
    | succ times => exact idle p times nothing
  induction first generalizing p second with
  | zero => exact (still p second (current?_of_remaining_zero (by omega))).symm
  | succ first ih =>
    cases current : p.current? with
    | none => rw [still p _ current, still p second current]
    | some kind =>
      have seen : p.current?.isSome := by rw [current]; rfl
      have left : p.remaining ≠ 0 := by
        intro nothing
        rw [current?_of_remaining_zero nothing] at current
        contradiction
      obtain ⟨rest, rfl⟩ : ∃ rest, second = rest + 1 := ⟨second - 1, by omega⟩
      exact round p first rest seen fun q fewer => ih q rest (by omega) (by omega)

/-- A loop of rounds that take a token each is not cut off. -/
theorem unhindered_repeatWhile {test : Parser → Bool} {body : Step}
    (seen : ∀ q : Parser, test q = true → q.current?.isSome)
    (taken : ∀ q : Parser, test q = true → q.Past (body q)) :
    Unhindered 0 (repeatWhile test body) := by
  refine unhindered_of_idle (fun p times nothing => ?_) fun p first second _ same => ?_
  · apply if_neg
    intro holds
    have token := seen p holds
    rw [nothing] at token
    contradiction
  · rw [repeatWhile, repeatWhile]
    exact ite_congr rfl (fun holds => same _ ((taken p holds).remaining_lt (seen p holds)))
      fun _ => rfl

/-- A token of a kind is a token. -/
theorem isSome_of_isAt {p : Parser} {kind : TokenKind} (here : p.isAt kind = true) :
    p.current?.isSome := by
  rw [(isAt_iff p kind).1 here]
  rfl

/-- Where no token is seen there is none of any kind. -/
theorem not_isAt_of_none {p : Parser} {kind : TokenKind} (nothing : p.current? = none) :
    ¬p.isAt kind = true := by
  rw [isAt_iff, nothing]
  intro impossible
  contradiction

/-- A token of one of some kinds is a token. -/
theorem isSome_of_atAny {p : Parser} {kinds : List TokenKind} (here : p.atAny kinds = true) :
    p.current?.isSome := by
  cases current : p.current? with
  | none => rw [atAny, current] at here; contradiction
  | some kind => rfl

/-- A token that does not belong to the construct around an expression is a token. -/
theorem isSome_of_loose {p : Parser} (loose : p.atStructural = false) : p.current?.isSome := by
  cases current : p.current? with
  | none => rw [atStructural, current] at loose; contradiction
  | some kind => rfl

/-- What is seen at the beginning of a node is what was seen before it. -/
theorem current?_start (p : Parser) (kind : NodeKind) : (p.start kind).current? = p.current? :=
  (sees_start p kind).current?

/-- An opened node does not change the token that is seen. -/
theorem isAt_start (p : Parser) (kind : NodeKind) (token : TokenKind) :
    (p.start kind).isAt token = p.isAt token := by
  rw [isAt, isAt, current?_start]

/-- After a token is taken the parser sees the one after it. -/
theorem current?_bump {p : Parser} (some : p.current?.isSome) : p.bump.current? = p.nth? 1 := by
  have kept : p.bump.stream = p.stream := by
    obtain ⟨_, reads⟩ := growing_bump p
    exact reads.stream
  rw [current?_eq, nth?_one_eq, kept, bump_position, if_pos (p.current?_isSome_iff.1 some)]

/-- The parser is at a kind of token that was the next but one. -/
theorem isAt_bump {p : Parser} {kind next : TokenKind}
    (sees : (p.isAt kind && decide (p.nth? 1 = some next)) = true) : p.bump.isAt next = true := by
  rw [Bool.and_eq_true, decide_eq_true_iff] at sees
  rw [Parser.isAt_iff, current?_bump (isSome_of_isAt sees.1)]
  exact sees.2

/-- What follows an operand and is no attribute and no subscript is a call. -/
theorem isAt_leftParen {p : Parser} (follows : p.atPostfix = true)
    (dot : ¬p.isAt (.punctuation .dot) = true)
    (bracket : ¬p.isAt (.punctuation .leftBracket) = true) :
    p.isAt (.punctuation .leftParen) = true := by
  rw [Parser.isAt_iff] at dot bracket ⊢
  rw [atPostfix, atAny] at follows
  cases current : p.current? with
  | none =>
    rw [current] at follows
    contradiction
  | some kind =>
    rw [current] at follows dot bracket
    simp only [Option.any_some, List.contains_cons, List.contains_nil, Bool.or_false,
      Bool.or_eq_true, beq_iff_eq] at follows
    rcases follows with rfl | rfl | rfl
    · exact absurd rfl dot
    · exact absurd rfl bracket
    · rfl

/-- Further ahead no more tokens are left. -/
theorem Ahead.remaining_le {p q : Parser} (ahead : p.Ahead q) : q.remaining ≤ p.remaining := by
  have further := ahead.position
  rw [remaining, remaining, ahead.stream]
  omega

/-- A round that reads on and then takes a token leaves fewer tokens. -/
theorem remaining_bump_lt {p q : Parser} {kind : TokenKind} (growth : p.Grows q)
    (here : q.isAt kind = true) : q.bump.remaining < p.remaining :=
  Nat.lt_of_lt_of_le ((past_bump q).remaining_lt (isSome_of_isAt here)) growth.ahead.remaining_le

/-! ### Lists -/

/-- A list with separators needs one round more than there are tokens. -/
theorem unhindered_items {item : Step} (each : Growing item) (closer : TokenKind)
    (message : String) : Unhindered 1 (items item closer message) := by
  apply unhindered_of_round
  intro p first second same
  rw [items, items]
  exact ite_congr rfl
    (fun comma => ite_congr rfl (fun _ => rfl) fun _ => same _ (remaining_bump_lt (each p) comma))
    fun _ => rfl

/-- Further items need no more rounds than there are tokens. -/
theorem unhindered_moreItems {item : Step} (each : Growing item) (ends : Parser → Bool) :
    Unhindered 0 (moreItems item ends) := by
  refine unhindered_of_idle (fun p times nothing => ?_) fun p first second _ same => ?_
  · exact if_neg (not_isAt_of_none nothing)
  · rw [moreItems, moreItems]
    refine ite_congr rfl (fun comma => ite_congr rfl (fun _ => rfl) fun _ => same _ ?_) fun _ => rfl
    exact Nat.lt_of_le_of_lt (each p.bump).ahead.remaining_le
      (remaining_bump_lt p.grows_refl comma)

/-- Parameters need one round more than there are tokens. -/
theorem unhindered_parameters {inner : Inner} (nested : ∀ which, Growing (inner which)) :
    Unhindered 1 (parameters inner) := by
  apply unhindered_of_round
  intro p first second same
  rw [parameters, parameters]
  refine ite_congr rfl (fun _ => ite_congr rfl
    (fun comma => ite_congr rfl (fun _ => rfl) fun _ => same _ (remaining_bump_lt ?_ comma))
    fun _ => rfl) fun _ => rfl
  exact grows_node ((growing_bump (p.start .parameter)).trans
    (grows_ite ((growing_bump _).step (nested .expression)) (grows_refl _)))

/-- A chain of attribute names needs no more rounds than there are tokens. -/
theorem unhindered_attributeNames : Unhindered 0 attributeNames := by
  refine unhindered_of_idle (fun p times nothing => ?_) fun p first second _ same => ?_
  · exact if_neg (not_isAt_of_none nothing)
  · rw [attributeNames, attributeNames]
    refine ite_congr rfl (fun dot => ite_congr rfl (fun _ => same _ ?_) fun _ => rfl) fun _ => rfl
    exact Nat.lt_of_le_of_lt (growing_expectName _ p.bump).ahead.remaining_le
      (remaining_bump_lt p.grows_refl dot)

/-- Assignment targets need one round more than there are tokens. -/
theorem unhindered_targets (message : String) : Unhindered 1 (targets message) := by
  apply unhindered_of_round
  intro p first second same
  rw [targets, targets]
  refine ite_congr rfl (fun _ => ite_congr rfl
    (fun comma => same _ (remaining_bump_lt ?_ comma)) fun _ => rfl) fun _ => rfl
  exact (growing_expectName message p).step (growing_attributeNames _)

/-- Arguments in a row need one round more than there are tokens. -/
theorem unhindered_argumentSequence : Unhindered 1 argumentSequence := by
  apply unhindered_of_round
  intro p first second same
  rw [argumentSequence, argumentSequence]
  exact ite_congr rfl (fun _ => rfl) fun _ => ite_congr rfl
    (fun comma => same _ (remaining_bump_lt (growing_argument (growing_nested _) p) comma))
    fun _ => rfl

/-- Imported names need one round more than there are tokens. -/
theorem unhindered_importNames : Unhindered 1 importNames := by
  apply unhindered_of_round
  intro p first second same
  rw [importNames, importNames]
  refine ite_congr rfl (fun _ => ite_congr rfl
    (fun comma => same _ (remaining_bump_lt ?_ comma)) fun _ => rfl) fun _ => rfl
  exact grows_node (Grows.trans (growing_expectName _ (p.start .importName))
    (growing_ifAt growing_alias (.keyword .asKw) _))

/-! ### Bodies -/

section

variable {statement : Step} (each : Growing statement) (taking : ∀ p : Parser, p.Past (statement p))

/-- What gets past a token where none is seen sees none. -/
theorem Past.current?_none {p q : Parser} (past : p.Past q) (nothing : p.current? = none) :
    q.current? = none := by
  rw [current?_eq, TokenStream.kindAt?_eq_none] at nothing
  have ahead := past.position
  have further := q.stream.le_visible q.position
  rw [bump_position, if_neg (by omega)] at ahead
  rw [current?_eq, TokenStream.kindAt?_eq_none, past.ahead.stream] at *
  omega

/-- Where no token is seen a body has no item. -/
theorem body_of_current?_none {p : Parser} (nothing : p.current? = none) (opener closer : Keyword)
    (times : Nat) : body statement opener closer (times + 1) p = (.exhausted, p) := by
  rw [body, bodyStop?, nothing]

include taking in
/-- A body needs one round more than there are tokens. -/
theorem unhindered_body (opener closer : Keyword) :
    Unhindered 1 (body statement opener closer) := by
  apply unhindered_of_round
  intro p first second same
  rw [body, body]
  cases stop : p.bodyStop? opener closer with
  | some stop => rfl
  | none =>
    have seen : p.current?.isSome := by
      cases current : p.current? with
      | none => rw [bodyStop?, current] at stop; contradiction
      | some kind => rfl
    exact same _ ((past_contentItem taking seen).remaining_lt seen)

include each in
/-- The branches of a body need one round more than there are tokens. -/
theorem unhindered_branches (opener closer : Keyword) (stop : BodyStop) :
    Unhindered 1 (fun times => branches statement opener closer times stop) := by
  intro p first second enough also
  induction first generalizing p second stop with
  | zero => omega
  | succ first ih =>
    obtain ⟨rest, rfl⟩ : ∃ rest, second = rest + 1 := ⟨second - 1, by omega⟩
    dsimp only
    cases stop with
    | ended => rfl
    | outer => rfl
    | exhausted => rfl
    | branch keyword =>
      have past := past_tagContents (some (.keyword keyword)) (p.start keyword.node)
      have same := sees_start p keyword.node
      rw [branches, branches]
      generalize tagContents (some (.keyword keyword)) (p.start keyword.node) = q at past ⊢
      dsimp only
      cases current : p.current? with
      | none =>
        rw [body_of_current?_none (past.current?_none (same.current?.trans current))]
        cases first <;> cases rest <;> rfl
      | some kind =>
        have seen : p.current?.isSome := by rw [current]; rfl
        have fewer := (past.of_sees same).remaining_lt seen
        have items : q.Grows (body statement opener closer (q.remaining + 1) q).2 :=
          growing_body each opener closer _ q
        have left : (body statement opener closer (q.remaining + 1) q).2.finish.remaining ≤
          q.remaining := items.ahead.remaining_le
        exact ih _ _ rest (by omega) (by omega)

end

/-! ### All repetitions -/

/-- No repetition of the parser is cut off by its bound. -/
structure Terminating : Prop where
  space : Unhindered 0 takeSpace
  tokensUpTo (terminator : TokenKind) :
    Unhindered 0 (repeatWhile (fun p => p.current?.isSome && !p.isAt terminator) bump)
  text : Unhindered 0 (repeatWhile (fun p => p.current?.isSome && !p.atTagStart) bump)
  strings : Unhindered 0 (repeatWhile (fun p => p.isAt (.literal .string)) bump)
  arguments (levels : Nat) (closer : TokenKind) (message : String) :
    Unhindered 1 (items (argument (nested levels)) closer message)
  elements (levels : Nat) (closer : TokenKind) (message : String) :
    Unhindered 1 (items (nested levels .expression) closer message)
  entries (levels : Nat) (closer : TokenKind) (message : String) :
    Unhindered 1 (items (dictEntry (nested levels)) closer message)
  tupleItems (levels : Nat) (ends : Parser → Bool) :
    Unhindered 0 (moreItems (nested levels .expression) ends)
  tagItems (ends : Parser → Bool) : Unhindered 0 (moreItems expression ends)
  parameters (levels : Nat) : Unhindered 1 (parameters (nested levels))
  postfixes (levels : Nat) (checkpoint : Checkpoint) :
    Unhindered 0 (repeatWhile atPostfix (postfixStep (nested levels) checkpoint))
  filters (levels : Nat) (checkpoint : Checkpoint) :
    Unhindered 0 (repeatWhile (fun p => p.isAt (.operator .pipe))
      (filterStep (nested levels) checkpoint))
  operands (kind : NodeKind) (operators : List TokenKind) (operand : Step)
    (each : Growing operand) (checkpoint : Checkpoint) :
    Unhindered 0 (repeatWhile (fun p => p.atAny operators)
      (fun p => (operand (p.startAt checkpoint kind).bump).finish))
  attributeNames : Unhindered 0 attributeNames
  targets (message : String) : Unhindered 1 (targets message)
  argumentSequence : Unhindered 1 argumentSequence
  importNames : Unhindered 1 importNames
  generic : Unhindered 0 (repeatWhile (fun p => !p.atStructural)
    (fun p => if p.isAt (.punctuation .comma) then p.bump else p.expression))
  body (levels : Nat) (opener closer : Keyword) :
    Unhindered 1 (body (statementWithin levels) opener closer)
  branches (levels : Nat) (opener closer : Keyword) (stop : BodyStop) :
    Unhindered 1 (fun times => branches (statementWithin levels) opener closer times stop)
  template : Unhindered 0 (repeatWhile (fun p => p.current?.isSome) item)

/-- Runs of tokens are taken one by one as long as there are tokens. -/
theorem unhindered_tokens {test : Parser → Bool}
    (seen : ∀ q : Parser, test q = true → q.current?.isSome) :
    Unhindered 0 (repeatWhile test bump) := unhindered_repeatWhile seen fun q _ => past_bump q

/-- A condition that begins with there being a token implies that there is one. -/
theorem isSome_of_and {p : Parser} {also : Bool} (both : (p.current?.isSome && also) = true) :
    p.current?.isSome := (Bool.and_eq_true_iff.1 both).1

/-- White space needs no more rounds than there are tokens. -/
theorem unhindered_takeSpace : Unhindered 0 takeSpace := by
  intro p first second enough also
  have beyond (p : Parser) (nothing : p.remaining = 0) :
      ¬p.stream.kindAt? p.position = some .whitespace := by
    rw [p.stream.kindAt?_eq_none.2 (Nat.sub_eq_zero_iff_le.1 nothing)]
    exact nofun
  induction first generalizing p second with
  | zero =>
    cases second with
    | zero => rfl
    | succ second => exact (if_neg (beyond p (by omega))).symm
  | succ first ih =>
    cases second with
    | zero => exact if_neg (beyond p (by omega))
    | succ second =>
      have left : p.take.remaining = p.remaining - 1 := Nat.sub_add_eq _ _ _
      exact ite_congr rfl (fun _ => ih p.take second (by omega) (by omega)) fun _ => rfl

/-- A tag with no form of its own needs no more rounds than there are tokens. -/
theorem unhindered_generic : Unhindered 0 (repeatWhile (fun p => !p.atStructural)
    (fun p => if p.isAt (.punctuation .comma) then p.bump else p.expression)) := by
  have loose (q : Parser) (holds : (!q.atStructural) = true) : q.atStructural = false := by
    simpa using holds
  exact unhindered_repeatWhile (fun q holds => isSome_of_loose (loose q holds)) fun q holds =>
    ahead_ite (past_bump q) (taking_expression q (loose q holds))

/-- Every repetition of the parser ends by itself. -/
theorem every_repetition_ends : Terminating where
  space := unhindered_takeSpace
  tokensUpTo _ := unhindered_tokens fun _ => isSome_of_and
  text := unhindered_tokens fun _ => isSome_of_and
  strings := unhindered_tokens fun _ => isSome_of_isAt
  arguments levels := unhindered_items (growing_argument (growing_nested levels))
  elements levels := unhindered_items (growing_nested levels .expression)
  entries levels := unhindered_items (growing_dictEntry (growing_nested levels))
  tupleItems levels := unhindered_moreItems (growing_nested levels .expression)
  tagItems := unhindered_moreItems growing_expression
  parameters levels := unhindered_parameters (growing_nested levels)
  postfixes levels checkpoint := unhindered_repeatWhile (fun _ => isSome_of_atAny) fun q _ =>
    past_postfixStep (growing_nested levels) checkpoint q
  filters levels checkpoint := unhindered_repeatWhile (fun _ => isSome_of_isAt) fun q _ =>
    past_filterStep (growing_nested levels) checkpoint q
  operands kind _ _ each checkpoint :=
    unhindered_repeatWhile (fun _ => isSome_of_atAny) fun q _ =>
      past_operator each checkpoint kind q
  attributeNames := unhindered_attributeNames
  targets := unhindered_targets
  argumentSequence := unhindered_argumentSequence
  importNames := unhindered_importNames
  generic := unhindered_generic
  body levels := unhindered_body (past_statementWithin levels)
  branches levels := unhindered_branches (growing_statementWithin levels)
  template := unhindered_repeatWhile (fun _ seen => seen) fun _ seen => past_item seen

end Parser
end Stencil
