import Stencil.Proofs.Containment.Expression
/-!
# Tags are parsed in step

What stands in a tag is read in step like an expression is. The header of a keyword depends on what
comes after the keyword alone, so that the keyword itself may stand where the streams are not
compared.
-/

namespace Stencil
namespace Parser

open Correspondence

variable {c : Correspondence} {o o' p q : Parser}

/-! ### Steps after a token -/

/-- A step that takes a token first is in step from there on. -/
def Onward (step : Step) : Prop :=
  ∀ ⦃c : Correspondence⦄, c.Lawful → ∀ ⦃o o' p q : Parser⦄, c.Follows o o' p.bump q.bump →
    c.Follows o o' (step p) (step q)

/-- A token that is taken first is in step from there on. -/
theorem onward_bump : Onward bump := fun _ _ _ _ _ _ first => first

/-- What comes after a token is in step. -/
theorem Onward.step {one two : Step} (first : Onward one) (next : InStep two) :
    Onward (fun p => two (one p)) := fun _ lawful _ _ _ _ taken =>
  (first lawful taken).step lawful next

/-- A step that is taken at a token of some kind, and none elsewhere, is in step. -/
theorem Onward.ifAt {step : Step} (each : Onward step) {kind : TokenKind}
    (loose : kind.isStructural = false) : InStep (fun p => if p.isAt kind then step p else p) :=
  fun _ lawful _ _ abreast => abreast.refl.ifAt lawful
    (fun here => each lawful (abreast.refl.take lawful here loose)) abreast.refl

/-- One of two steps is in step if the one at a token and the other elsewhere are. -/
theorem Onward.ifAtElse {one two : Step} (yes : Onward one) (no : InStep two) {kind : TokenKind}
    (loose : kind.isStructural = false) :
    InStep (fun p => if p.isAt kind then one p else two p) :=
  fun _ lawful _ _ abreast => abreast.refl.ifAt lawful
    (fun here => yes lawful (abreast.refl.take lawful here loose)) (no lawful abreast)

/-- A report other than that of a refused level is in step. -/
theorem inStep_error {fault : SyntaxFault} (shallow : fault ≠ .maxRecursionDepth)
    (message : String) : InStep (fun p => p.error fault message) :=
  fun _ lawful _ _ abreast => abreast.error lawful shallow message

/-! ### Names and arguments -/

/-- A name is found on both sides or on neither. -/
theorem Correspondence.Abreast.expectName_fst (abreast : c.Abreast p q) (lawful : c.Lawful)
    (message : String) :
    (q.expectName message).1 = true ↔ (p.expectName message).1 = true := by
  rw [expectName_eq, expectName_eq]
  exact abreast.isAt_iff lawful _

/-- Names with attributes are in step. -/
theorem inStep_attributeNames (times : Nat) : InStep (attributeNames times) := by
  induction times with
  | zero => exact fun _ _ _ _ abreast => abreast.refl
  | succ times ih =>
    intro c lawful p q abreast
    refine abreast.refl.ifAt lawful (fun dot => ?_) abreast.refl
    have past := abreast.refl.take lawful dot rfl
    have named := past.step lawful (inStep_expectName "Expected attribute name")
    exact both_ite (past.abreast.expectName_fst lawful _) (fun _ => named.step lawful ih)
      fun _ => named

/-- A list of attribute names is in step. -/
theorem inStep_attributeNameList : InStep (fun p => attributeNames p.remaining p) :=
  fun _ lawful _ _ abreast => follows_of_unhindered unhindered_attributeNames
    unhindered_attributeNames (Nat.le_refl _) (Nat.le_refl _)
    fun times => inStep_attributeNames times lawful abreast

/-- Assignment targets are in step. -/
theorem inStep_targets (message : String) (times : Nat) : InStep (targets message times) := by
  induction times with
  | zero => exact fun _ _ _ _ abreast => abreast.refl
  | succ times ih =>
    intro c lawful p q abreast
    have named := abreast.refl.step lawful (inStep_expectName message)
    refine both_ite (abreast.expectName_fst lawful _) (fun _ => ?_) fun _ => named
    have whole := named.step lawful inStep_attributeNameList
    exact whole.ifAt lawful (fun comma => (whole.take lawful comma rfl).step lawful ih) whole

/-- A list of targets is in step. -/
theorem inStep_targetList (message : String) : InStep (fun p => p.targetList message) := by
  intro c lawful p q abreast
  have free := unhindered_targets message
  exact abreast.node lawful (follows_of_unhindered free free (Nat.le_refl _) (Nat.le_refl _)
    fun times => inStep_targets message times lawful (abreast.start lawful .targetList))

/-- Arguments in a row are in step. -/
theorem inStep_argumentSequence (times : Nat) : InStep (argumentSequence times) := by
  induction times with
  | zero => exact fun _ _ _ _ abreast => abreast.refl
  | succ times ih =>
    intro c lawful p q abreast
    have first := inStep_argument (inStep_nested p.levels) lawful abreast
    rw [argumentSequence, argumentSequence, abreast.levels]
    refine both_ite ?_ (fun _ => abreast.refl) fun _ => first.ifAt lawful
      (fun comma => (first.take lawful comma rfl).step lawful ih) first
    rw [abreast.atStructural lawful]

/-- Arguments up to the end of a tag are in step. -/
theorem inStep_argumentSequenceList : InStep (fun p => argumentSequence (p.remaining + 1) p) :=
  fun _ lawful _ _ abreast => follows_of_unhindered unhindered_argumentSequence
    unhindered_argumentSequence (Nat.le_refl _) (Nat.le_refl _)
    fun times => inStep_argumentSequence times lawful abreast

/-- An alias after a keyword. -/
theorem onward_alias : Onward (fun p => (p.bump.expectName "Expected alias name").2) :=
  onward_bump.step (inStep_expectName _)

/-- Imported names are in step. -/
theorem inStep_importNames (times : Nat) : InStep (importNames times) := by
  induction times with
  | zero => exact fun _ _ _ _ abreast => abreast.refl
  | succ times ih =>
    intro c lawful p q abreast
    have opened := abreast.start lawful .importName
    have named := opened.refl.step lawful (inStep_expectName "Expected name to import")
    refine both_ite (opened.expectName_fst lawful _) (fun _ => ?_)
      fun _ => abreast.node lawful named
    have renamed : InStep (fun p => if p.isAt (.keyword .asKw) then
        (p.bump.expectName "Expected alias name").2 else p) := onward_alias.ifAt rfl
    have whole := abreast.node lawful (named.step lawful renamed)
    exact whole.ifAt lawful (fun comma => (whole.take lawful comma rfl).step lawful ih) whole

/-- Imported names after a keyword are in step from there on. -/
theorem onward_importNames :
    Onward (fun p => importNames (p.bump.remaining + 1) p.bump) := fun _ lawful _ _ _ _ first =>
  follows_of_unhindered unhindered_importNames unhindered_importNames (Nat.le_refl _)
    (Nat.le_refl _) fun times => first.step lawful (inStep_importNames times)

/-- A context modifier is in step. -/
theorem inStep_contextModifier : InStep contextModifier := by
  intro c lawful p q abreast
  refine both_ite ?_ (fun marked => ?_) fun _ => abreast.refl
  · rw [abreast.atAny lawful]
  · have loose := atStructural_of_atAny marked (by decide)
    exact (abreast.bump lawful loose).step lawful (inStep_expect rfl "Expected 'context'")

/-! ### Headers -/

/-- One round in a tag with no form of its own: a comma or an expression. -/
def genericRound (p : Parser) : Parser :=
  if p.isAt (.punctuation .comma) then p.bump else p.expression

/-- A round in a tag with no form of its own is in step. -/
theorem inStep_genericRound : InStep genericRound := onward_bump.ifAtElse inStep_expression rfl

/-- Expressions and commas up to the end of a tag. -/
theorem inStep_genericRest : InStep (fun p => p.loop (fun p => !p.atStructural) genericRound) := by
  intro c lawful p q abreast
  have loose {r : Parser} (going : (!r.atStructural) = true) : r.atStructural = false := by
    simpa using going
  have past (r : Parser) (going : (!r.atStructural) = true) : r.Past (genericRound r) :=
    ahead_ite (past_bump r) (taking_expression r (loose going))
  refine abreast.refl.loop lawful (fun r going => isSome_of_loose (loose going))
    (fun r s same => ?_) past past fun r s both _ => both.step lawful inStep_genericRound
  rw [Parser.atStructural, Parser.atStructural, same]

/-- The tokens of a tag with no form of its own are in step. -/
theorem inStep_generic : InStep generic := by
  have marked : InStep (fun p => if p.current?.any TokenKind.isKeyword then p.bump else p) := by
    intro c lawful p q abreast
    refine both_ite ?_ (fun keyword => ?_) fun _ => abreast.refl
    · rw [abreast.current? lawful]
    · apply abreast.bump lawful
      rw [Option.any_eq_true] at keyword
      obtain ⟨kind, current, keyword⟩ := keyword
      rw [atStructural_of_current? current]
      cases kind with
      | keyword k => rfl
      | _ => contradiction
  exact fun _ lawful _ _ abreast => (marked lawful abreast).step lawful inStep_genericRest

/-- An expression after a keyword. -/
theorem onward_expression : Onward (fun p => p.bump.expression) :=
  onward_bump.step inStep_expression

/-- Parameters between parentheses, if they are there. -/
theorem onward_parameterList (levels : Nat) {p q : Parser} (abreast : c.Abreast p q)
    (lawful : c.Lawful) (here : p.isAt (.punctuation .leftParen) = true) :
    c.Follows p q (parameterList (nested levels) p) (parameterList (nested levels) q) :=
  abreast.parameterList (inStep_nested levels) (growing_nested levels) lawful here

/-- The header of a loop is in step once its keyword is taken. -/
theorem onward_forHeader : Onward (keywordHeader .forKw) := by
  have targets := onward_bump.step (inStep_targetList "Expected loop variable")
  have joins : InStep (fun p => p.expect (.keyword .inKw) "Expected 'in'") := inStep_expect rfl _
  have condition : InStep (fun p => if p.isAt (.keyword .ifKw) then p.bump.expression else p) :=
    onward_expression.ifAt rfl
  have recursive : InStep (fun p => p.skip (.keyword .recursiveKw)) := inStep_skip rfl
  intro c lawful o o' p q first
  have iterable := ((targets.step joins).step inStep_orExpression) lawful first
  dsimp only [keywordHeader] at iterable ⊢
  generalize (((p.bump.targetList "Expected loop variable").expect (.keyword .inKw)
    "Expected 'in'").orExpression) = later at iterable ⊢
  generalize (((q.bump.targetList "Expected loop variable").expect (.keyword .inKw)
    "Expected 'in'").orExpression) = other at iterable ⊢
  exact (iterable.step lawful condition).step lawful recursive

/-- The header of an assignment is in step once its keyword is taken. -/
theorem onward_setHeader : Onward (keywordHeader .setKw) := by
  have targets := onward_bump.step (inStep_targetList "Expected variable name")
  have value : InStep (fun p => if p.isAt (.operator .assign) then p.bump.tupleOrExpression
      else p) := (onward_bump.step inStep_tupleOrExpression).ifAt rfl
  exact targets.step value

/-- The header of an include is in step once its keyword is taken. -/
theorem onward_includeHeader : Onward (keywordHeader .includeKw) := by
  have missing : InStep (fun p => p.expect (.keyword .missingKw) "Expected 'missing'") :=
    inStep_expect rfl _
  have ignore : InStep (fun p => if p.isAt (.keyword .ignoreKw) then
      p.bump.expect (.keyword .missingKw) "Expected 'missing'" else p) :=
    (onward_bump.step missing).ifAt rfl
  exact (onward_expression.step ignore).step inStep_contextModifier

/-- The header of an import is in step once its keyword is taken. -/
theorem onward_importHeader : Onward (keywordHeader .importKw) := by
  have renamed : InStep (fun p => if p.isAt (.keyword .asKw) then
      (p.bump.expectName "Expected alias name").2 else p) := onward_alias.ifAt rfl
  exact (onward_expression.step renamed).step inStep_contextModifier

/-- The header of an import of names is in step once its keyword is taken. -/
theorem onward_fromHeader : Onward (keywordHeader .fromKw) := by
  have names : InStep (fun p => if p.isAt (.keyword .importKw) then
      importNames (p.bump.remaining + 1) p.bump
      else p.error .unexpectedToken "Expected 'import'") :=
    onward_importNames.ifAtElse (inStep_error (by decide) _) rfl
  exact (onward_expression.step names).step inStep_contextModifier

/-- The header of a macro is in step once its keyword is taken. -/
theorem onward_macroHeader : Onward (keywordHeader .macroKw) := by
  have list : InStep (fun p => if p.isAt (.punctuation .leftParen) then
      parameterList (nested p.levels) p else p.error .unexpectedToken "Expected '('") := by
    intro c lawful p q abreast
    dsimp only
    rw [abreast.levels]
    exact abreast.refl.ifAt lawful (onward_parameterList p.levels abreast lawful)
      (abreast.error lawful (by decide) _)
  exact (onward_bump.step (inStep_expectName "Expected macro name")).step list

/-- The header of a call is in step once its keyword is taken. -/
theorem onward_callHeader : Onward (keywordHeader .callKw) := by
  have list : InStep (fun p => if p.isAt (.punctuation .leftParen) then
      parameterList (nested p.levels) p else p) := by
    intro c lawful p q abreast
    dsimp only
    rw [abreast.levels]
    exact abreast.refl.ifAt lawful (onward_parameterList p.levels abreast lawful) abreast.refl
  exact (onward_bump.step list).step inStep_expression

/-- A keyword with no form of its own is taken, and expressions and commas after it unless it is an
end tag. -/
theorem follows_plainHeader {keyword : Keyword} (first : c.Follows o o' p.bump q.bump)
    (lawful : c.Lawful) (here : p.current? = some (.keyword keyword))
    (also : q.current? = some (.keyword keyword)) :
    c.Follows o o' (if keyword.isCloser then p.bump else p.generic)
      (if keyword.isCloser then q.bump else q.generic) := by
  have isKeyword {r : Parser} (there : r.current? = some (.keyword keyword)) :
      r.generic = r.bump.loop (fun p => !p.atStructural) genericRound := by
    have marked : r.current?.any TokenKind.isKeyword = true := by
      rw [there]
      rfl
    rw [generic, if_pos marked]
    rfl
  rw [isKeyword here, isKeyword also]
  exact both_ite Iff.rfl (fun _ => first) fun _ => first.step lawful inStep_genericRest

/-- The header of a keyword is in step from the keyword on. -/
theorem follows_keywordHeader {keyword : Keyword} (first : c.Follows o o' p.bump q.bump)
    (lawful : c.Lawful) (here : p.current? = some (.keyword keyword))
    (also : q.current? = some (.keyword keyword)) :
    c.Follows o o' (keywordHeader keyword p) (keywordHeader keyword q) := by
  cases keyword with
  | forKw => exact onward_forHeader lawful first
  | setKw => exact onward_setHeader lawful first
  | includeKw => exact onward_includeHeader lawful first
  | importKw => exact onward_importHeader lawful first
  | fromKw => exact onward_fromHeader lawful first
  | macroKw => exact onward_macroHeader lawful first
  | callKw => exact onward_callHeader lawful first
  | withKw | transKw => exact first.step lawful inStep_argumentSequenceList
  | blockKw =>
    exact (first.step lawful (inStep_expectName "Expected block name")).step lawful
      (inStep_skip rfl)
  | pluralizeKw => exact first.step lawful (inStep_skip rfl)
  | ifKw | elifKw | extendsKw | filterKw | autoescapeKw =>
    exact onward_expression lawful first
  | elseKw | rawKw => exact first
  | _ => exact follows_plainHeader first lawful here also

/-- What stands in a tag is in step. -/
theorem Correspondence.Abreast.header (abreast : c.Abreast p q) (lawful : c.Lawful) :
    c.Follows p q (header p.current? p) (header p.current? q) := by
  have generic := inStep_generic lawful abreast
  cases here : p.current? with
  | none => exact generic
  | some kind =>
    cases kind with
    | keyword keyword =>
      have also := (abreast.current? lawful).trans here
      have first := abreast.bump lawful (atStructural_of_current? here)
      exact follows_keywordHeader first lawful here also
    | _ => exact generic

/-! ### Ends of tags -/

namespace Correspondence

/-- The only structural tokens that are compared are of a kind. -/
def Only (c : Correspondence) (terminator : TokenKind) : Prop :=
  ∀ ⦃i j : Nat⦄ ⦃kind : TokenKind⦄, c.place i j → c.left.kindAt? i = some kind →
    kind ≠ terminator → kind.isStructural = false

/-- Any other token that is seen is not structural. -/
theorem Only.loose {terminator : TokenKind} (only : c.Only terminator) (abreast : c.Abreast p q)
    (lawful : c.Lawful) (going : (p.current?.isSome && !p.isAt terminator) = true) :
    p.atStructural = false := by
  rw [Bool.and_eq_true, Bool.not_eq_true'] at going
  obtain ⟨kind, current⟩ := Option.isSome_iff_exists.1 going.1
  have other : kind ≠ terminator := by
    rintro rfl
    exact Bool.false_ne_true (going.2.symm.trans ((isAt_iff p kind).2 current))
  have there := current
  rw [current?_eq, abreast.left] at there
  have place := abreast.visible lawful
  rw [abreast.left] at place
  rw [atStructural_of_current? current]
  exact only place there other

/-- A run of tokens up to a terminator is taken. -/
theorem Follows.upTo {terminator : TokenKind} (first : c.Follows o o' p q) (lawful : c.Lawful)
    (only : c.Only terminator) :
    c.Follows o o' (p.loop (fun p => p.current?.isSome && !p.isAt terminator) Parser.bump)
      (q.loop (fun p => p.current?.isSome && !p.isAt terminator) Parser.bump) := by
  refine first.loop lawful (fun r => isSome_of_and) (fun r s same => ?_) (fun r _ => past_bump r)
    (fun r _ => past_bump r) fun r s both going =>
      both.bump lawful (only.loose both.abreast lawful going)
  rw [Parser.isAt, Parser.isAt, same]

/-- Everything up to a terminator is skipped. -/
theorem Follows.skipUntil {terminator : TokenKind} (first : c.Follows o o' p q)
    (lawful : c.Lawful) (only : c.Only terminator) :
    c.Follows o o' (p.skipUntil terminator) (q.skipUntil terminator) := by
  refine both_ite ?_ (fun _ => first) fun _ => first.trans (first.abreast.node lawful
    ((first.abreast.start lawful .error).refl.upTo lawful only))
  rw [first.abreast.current? lawful, first.abreast.isAt lawful]

end Correspondence

/-- What a tag does before its terminator, which is skipped up to with a report. A line statement
may also end with the source. -/
def approach (terminator : TokenKind) (fault : SyntaxFault) (message : String) (p : Parser) :
    Parser :=
  if p.isAt terminator || (terminator = .newline && p.current?.isNone) then p
  else (p.error fault message).skipUntil terminator

/-- What is in the way of the end of a tag is skipped on both sides. -/
theorem Correspondence.Follows.approach {terminator : TokenKind} {fault : SyntaxFault}
    (first : c.Follows o o' p q) (lawful : c.Lawful) (only : c.Only terminator)
    (shallow : fault ≠ .maxRecursionDepth) (message : String) :
    c.Follows o o' (p.approach terminator fault message)
      (q.approach terminator fault message) := by
  refine both_ite ?_ (fun _ => first) fun _ =>
    (first.error lawful shallow message).skipUntil lawful only
  rw [first.abreast.current? lawful, first.abreast.isAt lawful]

/-- A tag ends where its terminator is approached, with the terminator if it is there. -/
theorem terminate_eq (terminator : TokenKind) (p : Parser) : p.terminate terminator =
    (p.approach terminator .missingBlockEnd "Expected block end delimiter").skip terminator := by
  rw [terminate, approach]
  by_cases here : p.isAt terminator = true
  · rw [if_pos here, here, Bool.true_or, if_pos rfl, skip_eq, if_pos here]
  · rw [if_neg here, Bool.eq_false_iff.2 here, Bool.false_or]
    by_cases ended : (decide (terminator = .newline) && p.current?.isNone) = true
    · rw [if_pos ended, if_pos ended, skip_eq, if_neg here]
    · rw [if_neg ended, if_neg ended]

/-- A variable tag ends likewise. -/
theorem variableTag_eq (p : Parser) : p.variableTag =
    (((p.start .variableTag).bump.expression.approach (.delimiter .variableEnd) .missingVariableEnd
      "Expected variable end delimiter").skip (.delimiter .variableEnd)).finish := by
  rw [variableTag]
  generalize (p.start .variableTag).bump.expression = q
  rw [approach]
  have other : decide (TokenKind.delimiter .variableEnd = .newline) = false := rfl
  rw [other, Bool.false_and, Bool.or_false]
  by_cases here : q.isAt (.delimiter .variableEnd) = true
  · rw [if_pos here, if_pos here, skip_eq, if_pos here]
  · rw [if_neg here, if_neg here]

end Parser
end Stencil
