import Stencil.Proofs.Coupling.Expression
/-!
# Headers keep parsers coupled

What stands in a tag between its start delimiter and its end takes no token that belongs to the
construct around an expression, like the expressions in it. Where it ends the tag is closed, by a
token that may be another one on both sides (`Closes`).
-/

namespace Stencil
namespace Parser

/-- What a tag is about is its keyword, if it has one. -/
theorem header_eq (first : Option TokenKind) (p : Parser) : header first p =
    match first.bind TokenKind.keyword? with
    | some keyword => keywordHeader keyword p
    | none => p.generic := by
  cases first with
  | none => rfl
  | some kind => cases kind <;> rfl

/-- What stands in a tag depends on its keyword alone. -/
theorem tagContents_congr {first first' : Option TokenKind}
    (same : first'.bind TokenKind.keyword? = first.bind TokenKind.keyword?) (p : Parser) :
    tagContents first' p = tagContents first p := by
  rw [tagContents, tagContents, header_eq, header_eq, same]

namespace InnerCoupling

variable {twin : Parser → Parser → Prop} (c : InnerCoupling twin) {o o' p q r s x y : Parser}

include c

/-! ### Names and arguments -/

/-- Names with attributes keep two parsers linked. -/
theorem keeps_attributeNames (times : Nat) : Keeps twin (attributeNames times) := by
  induction times with
  | zero => exact fun _ _ _ _ both => both
  | succ times ih =>
    intro o o' p q both
    refine c.ifAt both _ rfl (fun dot => ?_) both
    have past := c.take both dot rfl
    have named := c.keeps_expectName "Expected attribute name" past
    exact both_ite (c.expectName_iff past.now _) (fun _ => ih named) fun _ => named

/-- Assignment targets keep two parsers linked. -/
theorem keeps_targets (message : String) (times : Nat) : Keeps twin (targets message times) := by
  induction times with
  | zero => exact fun _ _ _ _ both => both
  | succ times ih =>
    intro o o' p q both
    have named := c.keeps_expectName message both
    have whole : Linked twin o o'
        (attributeNames (p.expectName message).2.remaining (p.expectName message).2)
        (attributeNames (q.expectName message).2.remaining (q.expectName message).2) :=
      linked_of_unhindered unhindered_attributeNames unhindered_attributeNames
        fun times => c.keeps_attributeNames times named
    refine both_ite (c.expectName_iff both.now _) (fun _ => ?_) fun _ => named
    exact c.ifAt whole _ rfl (fun comma => ih (c.take whole comma rfl)) whole

/-- A list of targets keeps two parsers linked. -/
theorem keeps_targetList (message : String) : Keeps twin (fun p => p.targetList message) :=
  fun _ _ _ _ both => c.node .targetList both fun opened =>
    linked_of_unhindered (unhindered_targets message) (unhindered_targets message)
      fun times => c.keeps_targets message times opened

/-- Arguments in a row keep two parsers linked. -/
theorem keeps_argumentSequence (times : Nat) : Keeps twin (argumentSequence times) := by
  induction times with
  | zero => exact fun _ _ _ _ both => both
  | succ times ih =>
    intro o o' p q both
    have first := c.keeps_argument (c.keeps_nested p.levels) both
    rw [argumentSequence, argumentSequence, c.levels both.now]
    exact both_ite (by rw [c.atStructural both.now]) (fun _ => both)
      fun _ => c.ifAt first _ rfl (fun comma => ih (c.take first comma rfl)) first

/-- Arguments up to the end of a tag keep two parsers linked. -/
theorem keeps_argumentSequenceList :
    Keeps twin (fun p => argumentSequence (p.remaining + 1) p) := fun _ _ _ _ both =>
  linked_of_unhindered unhindered_argumentSequence unhindered_argumentSequence
    fun times => c.keeps_argumentSequence times both

/-- What stands after a token of some kind, if one is there. -/
theorem keeps_after {step : Step} (each : Keeps twin step) {kind : TokenKind}
    (loose : kind.isStructural = false) :
    Keeps twin (fun p => if p.isAt kind then step p.bump else p) := fun _ _ _ _ both =>
  c.ifAt both kind loose (fun here => each (c.take both here loose)) both

/-- An alias after a keyword. -/
theorem keeps_alias : Keeps twin (fun p => if p.isAt (.keyword .asKw) then
    (p.bump.expectName "Expected alias name").2 else p) :=
  c.keeps_after (c.keeps_expectName "Expected alias name") rfl

/-- Imported names keep two parsers linked. -/
theorem keeps_importNames (times : Nat) : Keeps twin (importNames times) := by
  induction times with
  | zero => exact fun _ _ _ _ both => both
  | succ times ih =>
    intro o o' p q both
    have same := c.expectName_iff (c.start both.now .importName) "Expected name to import"
    have named := c.keeps_expectName "Expected name to import"
    have plain := c.node .importName both fun opened => named opened
    have whole := c.node .importName both fun opened => c.keeps_alias (named opened)
    refine both_ite same (fun _ => ?_) fun _ => plain
    exact c.ifAt whole _ rfl (fun comma => ih (c.take whole comma rfl)) whole

/-- A list of imported names keeps two parsers linked. -/
theorem keeps_importNameList : Keeps twin (fun p => importNames (p.remaining + 1) p) :=
  fun _ _ _ _ both => linked_of_unhindered unhindered_importNames unhindered_importNames
    fun times => c.keeps_importNames times both

/-- A context modifier keeps two parsers linked. -/
theorem keeps_contextModifier : Keeps twin contextModifier := fun _ _ _ _ both =>
  both_ite (by rw [c.atAny both.now (by decide)])
    (fun marked => c.keeps_expect rfl _ (c.linked_bump both
      (atStructural_of_atAny marked (by decide)))) fun _ => both

/-- Expressions and commas up to the end of a tag. -/
theorem keeps_genericRest :
    Keeps twin (fun p => p.loop (fun p => !p.atStructural) genericRound) := by
  intro o o' p q both
  have loose {r : Parser} (going : (!r.atStructural) = true) : r.atStructural = false := by
    simpa using going
  have past (r : Parser) (going : (!r.atStructural) = true) : r.Past (genericRound r) :=
    ahead_ite (past_bump r) (taking_expression r (loose going))
  have seen (r : Parser) (going : (!r.atStructural) = true) : r.current?.isSome :=
    isSome_of_loose (loose going)
  refine linked_loop both seen seen (fun r s now => ?_) past past fun r s now _ => ?_
  · rw [c.atStructural now]
  · exact c.ifAt now _ rfl (fun comma => c.take now comma rfl) (c.keeps_expression now)

omit c in
/-- Keywords are not structural. -/
theorem loose_of_isKeyword (kind : TokenKind) (keyword : kind.isKeyword = true) :
    kind.isStructural = false := by
  cases kind with
  | keyword k => rfl
  | _ => contradiction

/-- The tokens of a tag that no keyword reads keep two parsers linked. -/
theorem keeps_generic : Keeps twin generic := by
  intro o o' p q both
  exact c.keeps_genericRest (both_ite (by rw [c.any both.now loose_of_isKeyword])
    (fun marked => c.linked_bump both (loose_of_any marked loose_of_isKeyword)) fun _ => both)

/-! ### Headers -/

/-- A condition after a keyword. -/
theorem keeps_condition : Keeps twin (fun p => if p.isAt (.keyword .ifKw) then
    p.bump.expression else p) := c.keeps_after c.keeps_expression rfl

/-- Parameters between parentheses. -/
theorem linked_parameters (both : Linked twin o o' p q)
    (here : p.isAt (.punctuation .leftParen) = true) :
    Linked twin o o' (Parser.parameterList (nested p.levels) p)
      (Parser.parameterList (nested q.levels) q) := by
  rw [c.levels both.now]
  exact c.parameterList (c.keeps_nested p.levels) (growing_nested p.levels) both here

section

-- From the keyword on both sides have taken the same.
variable (bumped : Linked twin o o' p.bump q.bump)

include bumped

/-- The header of a loop keeps two parsers linked. -/
theorem forHeader : Linked twin o o' (keywordHeader .forKw p) (keywordHeader .forKw q) := by
  have targets := c.keeps_targetList "Expected loop variable" bumped
  have loose : TokenKind.isStructural (.keyword .inKw) = false := rfl
  have joined := c.keeps_expect loose "Expected 'in'" targets
  have iterable := c.keeps_orExpression joined
  dsimp only at iterable
  dsimp only [keywordHeader]
  generalize (((p.bump.targetList "Expected loop variable").expect (.keyword .inKw)
    "Expected 'in'").orExpression) = r at iterable ⊢
  generalize (((q.bump.targetList "Expected loop variable").expect (.keyword .inKw)
    "Expected 'in'").orExpression) = s at iterable ⊢
  exact c.keeps_skip rfl (c.keeps_condition iterable)

/-- The header of an assignment keeps two parsers linked. -/
theorem setHeader : Linked twin o o' (keywordHeader .setKw p) (keywordHeader .setKw q) := by
  have targets := c.keeps_targetList "Expected variable name" bumped
  have loose : TokenKind.isStructural (.operator .assign) = false := rfl
  have whole := c.keeps_after c.keeps_tupleOrExpression loose targets
  rw [keywordHeader, keywordHeader]
  exact whole

/-- The header of an include keeps two parsers linked. -/
theorem includeHeader :
    Linked twin o o' (keywordHeader .includeKw p) (keywordHeader .includeKw q) := by
  have loose (word : Keyword) : TokenKind.isStructural (.keyword word) = false := rfl
  have missing := c.keeps_expect (loose .missingKw) "Expected 'missing'"
  have ignored := c.keeps_after missing (loose .ignoreKw) (c.keeps_expression bumped)
  have whole := c.keeps_contextModifier ignored
  rw [keywordHeader, keywordHeader]
  exact whole

/-- The header of an import keeps two parsers linked. -/
theorem importHeader :
    Linked twin o o' (keywordHeader .importKw p) (keywordHeader .importKw q) := by
  have whole := c.keeps_contextModifier (c.keeps_alias (c.keeps_expression bumped))
  rw [keywordHeader, keywordHeader]
  exact whole

/-- The header of an import of names keeps two parsers linked. -/
theorem fromHeader : Linked twin o o' (keywordHeader .fromKw p) (keywordHeader .fromKw q) := by
  have names : Keeps twin (fun r => if r.isAt (.keyword .importKw) then
      importNames (r.bump.remaining + 1) r.bump
      else r.error .unexpectedToken "Expected 'import'") := fun _ _ _ _ now =>
    c.ifAt now _ rfl (fun here => c.keeps_importNameList (c.take now here rfl))
      (c.keeps_error _ (by decide) _ now)
  have whole := c.keeps_contextModifier (names (c.keeps_expression bumped))
  rw [keywordHeader, keywordHeader]
  exact whole

/-- The header of a macro keeps two parsers linked. -/
theorem macroHeader : Linked twin o o' (keywordHeader .macroKw p) (keywordHeader .macroKw q) := by
  have named := c.keeps_expectName "Expected macro name" bumped
  have whole := c.ifAt named (.punctuation .leftParen) rfl (c.linked_parameters named)
    (c.keeps_error .unexpectedToken (by decide) "Expected '('" named)
  rw [keywordHeader, keywordHeader]
  exact whole

/-- The header of a call keeps two parsers linked. -/
theorem callHeader : Linked twin o o' (keywordHeader .callKw p) (keywordHeader .callKw q) := by
  have list := c.ifAt bumped (.punctuation .leftParen) rfl (c.linked_parameters bumped) bumped
  have whole := c.keeps_expression list
  rw [keywordHeader, keywordHeader]
  exact whole

/-- A keyword with no form of its own is taken, and expressions and commas after it unless it is an
end tag. -/
theorem plainHeader {keyword : Keyword} (here : p.current? = some (.keyword keyword))
    (also : q.current? = some (.keyword keyword)) :
    Linked twin o o' (if keyword.isCloser then p.bump else p.generic)
      (if keyword.isCloser then q.bump else q.generic) := by
  have isKeyword {r : Parser} (there : r.current? = some (.keyword keyword)) :
      r.generic = r.bump.loop (fun p => !p.atStructural) genericRound := by
    have marked : r.current?.any TokenKind.isKeyword = true := by
      rw [there]
      rfl
    rw [generic, if_pos marked]
    rfl
  rw [isKeyword here, isKeyword also]
  exact both_ite Iff.rfl (fun _ => bumped) fun _ => c.keeps_genericRest bumped

end

/-- The header of the keyword that both parsers are at. -/
theorem keywordHeader (both : Linked twin o o' p q) {keyword : Keyword}
    (here : p.current? = some (.keyword keyword)) :
    Linked twin o o' (keywordHeader keyword p) (keywordHeader keyword q) := by
  have loose : p.atStructural = false := atStructural_of_current? here
  have also := (c.current?_of_loose both.now loose).trans here
  have bumped := c.linked_bump both loose
  cases keyword with
  | forKw => exact c.forHeader bumped
  | setKw => exact c.setHeader bumped
  | includeKw => exact c.includeHeader bumped
  | importKw => exact c.importHeader bumped
  | fromKw => exact c.fromHeader bumped
  | macroKw => exact c.macroHeader bumped
  | callKw => exact c.callHeader bumped
  | withKw | transKw => exact c.keeps_argumentSequenceList bumped
  | blockKw => exact c.keeps_skip rfl (c.keeps_expectName _ bumped)
  | pluralizeKw => exact c.keeps_skip rfl bumped
  | ifKw | elifKw | extendsKw | filterKw | autoescapeKw => exact c.keeps_expression bumped
  | elseKw | rawKw => exact bumped
  | _ => exact c.plainHeader bumped here also

/-- The keyword of a tag is the one that both parsers are at. -/
theorem header (both : Linked twin o o' p q) {first first' : Option TokenKind}
    (same : first'.bind TokenKind.keyword? = first.bind TokenKind.keyword?)
    (seen : first.bind TokenKind.keyword? = p.current?.bind TokenKind.keyword?) :
    Linked twin o o' (header first p) (header first' q) := by
  rw [header_eq, header_eq, same]
  cases found : first.bind TokenKind.keyword? with
  | none => exact c.keeps_generic both
  | some keyword =>
    obtain ⟨kind, here, is⟩ := Option.bind_eq_some_iff.1 (seen.symm.trans found)
    have named : kind = .keyword keyword := by
      cases kind with
      | keyword k => exact congrArg TokenKind.keyword (Option.some.inj is)
      | _ => contradiction
    exact c.keywordHeader both (named ▸ here)

/-! ### Ends of tags -/

omit c in
/-- Where the token is structural both tags are closed there, or both are open at the end. -/
def Closes (twin : Parser → Parser → Prop) (closer closer' : TokenKind) : Prop :=
  ∀ ⦃p q : Parser⦄, twin p q → p.atStructural = true →
    p.isAt closer = true ∧ q.isAt closer' = true ∨
      closer' = closer ∧ p.current? = none ∧ q.current? = none

section

variable {closer closer' : TokenKind} (closes : Closes twin closer closer')
  (structural : closer.isStructural = true) (structural' : closer'.isStructural = true)

include closes structural structural'

/-- Both parsers are at the end of their tag or neither is. -/
theorem isAt_closer (both : twin p q) : q.isAt closer' = p.isAt closer := by
  have not_at {r : Parser} {kind : TokenKind} (structural : kind.isStructural = true)
      (loose : r.atStructural = false) : r.isAt kind = false := by
    rw [Bool.eq_false_iff]
    intro here
    rw [atStructural_of_isAt here, structural] at loose
    contradiction
  cases state : p.atStructural with
  | false =>
    rw [not_at structural state, not_at structural' ((c.atStructural both).trans state)]
  | true =>
    rcases closes both state with ⟨here, also⟩ | ⟨rfl, none, none'⟩
    · rw [here, also]
    · rw [Parser.isAt, Parser.isAt, none, none']

omit c structural structural' in
/-- A token that does not close the tag is not structural. -/
theorem loose_of_not_closer (both : twin p q)
    (going : (p.current?.isSome && !p.isAt closer) = true) : p.atStructural = false := by
  rw [Bool.and_eq_true, Bool.not_eq_true'] at going
  cases state : p.atStructural with
  | false => rfl
  | true =>
    rcases closes both state with ⟨here, -⟩ | ⟨-, none, -⟩
    · rw [here] at going
      exact going.2
    · rw [none] at going
      exact going.1.symm

/-- Both parsers go on up to the end of their tags. -/
theorem going_iff (both : twin p q) : (q.current?.isSome && !q.isAt closer') =
    (p.current?.isSome && !p.isAt closer) := by
  rw [c.isAt_closer closes structural structural' both]
  cases state : p.atStructural with
  | false => rw [c.current?_of_loose both state]
  | true =>
    rcases closes both state with ⟨here, -⟩ | ⟨-, none, none'⟩
    · rw [here, Bool.not_true, Bool.and_false, Bool.and_false]
    · rw [none, none']

/-- Everything up to the ends of the tags is taken. -/
theorem linked_upTo (both : Linked twin o o' p q) :
    Linked twin o o'
      (p.loop (fun p => p.current?.isSome && !p.isAt closer) Parser.bump)
      (q.loop (fun q => q.current?.isSome && !q.isAt closer') Parser.bump) :=
  linked_loop both (fun _ => isSome_of_and) (fun _ => isSome_of_and)
    (fun _ _ now => c.going_iff closes structural structural' now) (fun r _ => past_bump r)
    (fun r _ => past_bump r) fun _ _ now going =>
      c.linked_bump now (loose_of_not_closer closes now.now going)

/-- What stands before the ends of the tags is skipped with a report, unless nothing does. -/
theorem approach (both : Linked twin o o' p q) (fault : SyntaxFault)
    (own : fault ≠ .maxRecursionDepth) (message : String) :
    Linked twin o o' (approach closer fault message p) (approach closer' fault message q) := by
  have stops (r : Parser) (kind : TokenKind) : (r.current?.isNone || r.isAt kind) =
      !(r.current?.isSome && !r.isAt kind) := by
    rw [Bool.not_and, Option.not_isSome, Bool.not_not]
  have at_ := c.isAt_closer closes structural structural' both.now
  refine both_ite ?_ (fun _ => both) fun _ => ?_
  · rw [at_]
    cases here : p.isAt closer with
    | true => rfl
    | false =>
      cases state : p.atStructural with
      | false =>
        rw [c.current?_of_loose both.now state,
          Option.isNone_eq_false_iff.2 (isSome_of_loose state), Bool.and_false, Bool.and_false]
      | true =>
        rcases closes both.now state with ⟨there, -⟩ | ⟨rfl, none, none'⟩
        · rw [here] at there
          contradiction
        · rw [none, none']
  · have told := c.keeps_error fault own message both
    refine both_ite ?_ (fun _ => told) fun _ => c.node .error told fun opened =>
      c.linked_upTo closes structural structural' opened
    rw [stops, stops, c.going_iff closes structural structural' told.now]

end

end InnerCoupling
end Parser
end Stencil
