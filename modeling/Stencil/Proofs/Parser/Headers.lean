import Stencil.Proofs.Parser.Lists
/-!
# Headers are parsed as they are derived

What stands in the tag of each keyword is read to its end. The grammar says what may come next at
each place, and that decides that no expression or list goes on where the header does.
`parses_header` has a case for every keyword.
-/

namespace Stencil
namespace Parser

open Grammar (spaced token derives keyword)

variable {stream : TokenStream}

/-! ### Headers -/

/-- What may be missing begins with its keyword. -/
theorem leads_keyword (which : Keyword) :
    Grammar.Leads stream [TokenKind.keyword which].contains (keyword stream which) :=
  Grammar.leads_token (by simp)

/-- A context begins with one of two keywords. -/
theorem leads_context : Grammar.Leads stream
    [TokenKind.keyword .withKw, .keyword .withoutKw].contains (Grammar.context stream) := by
  intro start stop shapes found
  have first := (Grammar.leads_word _).followedBy _ _ _ _ found
  apply Grammar.any_mono first
  intro kind member
  rw [Bool.or_eq_true, decide_eq_true_iff, decide_eq_true_iff] at member
  rcases member with rfl | rfl <;> rfl

section

variable {levels : Nat} {p : Parser} {stop : Nat} {shapes : List Shape}
  (source : p.stream = stream) (same : p.levels = levels) (after : Upcoming stream [] stop)

include source same after

/-- The header of a loop is parsed: its iterable leaves `if` and `recursive` to the loop. -/
theorem parses_forHeader (found : Grammar.header stream levels .forKw p.position stop shapes) :
    Parses stream p (keywordHeader .forKw p) stop shapes := by
  obtain ⟨_, _, _, ⟨_, _, _, ⟨_, _, _, ⟨_, _, _, ⟨_, _, _, opener, targets, rfl⟩, contained, rfl⟩,
    iterable, rfl⟩, condition, rfl⟩, recursive, rfl⟩ := found
  have afterCondition := upcoming_optional (leads_keyword .recursiveKw) recursive after
  have afterIterable := upcoming_optional ((leads_keyword .ifKw).followedBy _) condition
    afterCondition
  have opened := (parses_refl source).bump opener
  have next := kindAt?_of_token contained
  have listed := opened.trans (parses_targetList (opened.stop ▸ targets) opened.later
    (by rw [next]; decide) (by rw [next]; decide) "Expected loop variable")
  have entered := listed.expect contained "Expected 'in'"
  have iterated := entered.step (complete_nested levels .disjunction) iterable
    (afterIterable.ends (by decide) (by decide))
  have tested := iterated.ifAt condition (fun q => q.bump.expression)
    (afterCondition.ne (by decide) rfl) fun between before shapes bumped next =>
      bumped.expression same next (afterCondition.ends (by decide) Nat.one_pos)
  have whole := tested.skip recursive fun _ => after.ne List.not_mem_nil rfl
  rw [keywordHeader, orExpression, entered.levels, same]
  exact whole

/-- A keyword with an expression after it is parsed. -/
theorem parses_expressionHeader {which : Keyword}
    (found : (keyword stream which ++ Grammar.expression stream levels) p.position stop shapes) :
    Parses stream p p.bump.expression stop shapes := by
  obtain ⟨_, _, _, opener, value, rfl⟩ := found
  have opened := (parses_refl source).bump opener
  exact opened.expression same value (after.ends (by simp) Nat.one_pos)

/-- The header of an assignment is parsed. -/
theorem parses_setHeader (found : Grammar.header stream levels .setKw p.position stop shapes) :
    Parses stream p (keywordHeader .setKw p) stop shapes := by
  obtain ⟨_, _, _, ⟨_, _, _, opener, targets, rfl⟩, value, rfl⟩ := found
  have assign : Grammar.Leads stream [TokenKind.operator .assign].contains
      (token stream (.operator .assign) ++
        spaced stream (Grammar.TupleOrExpression stream levels)) :=
    (Grammar.leads_token (by simp)).followedBy _
  have afterTargets := upcoming_optional assign value after
  have opened := (parses_refl source).bump opener
  have listed := opened.trans (parses_targetList (opened.stop ▸ targets) opened.later
    (afterTargets.ne (by decide) rfl) (afterTargets.ne (by decide) rfl) "Expected variable name")
  have whole := listed.ifAt value (fun q => q.bump.tupleOrExpression)
    (after.ne List.not_mem_nil rfl) fun between before shapes bumped next =>
      bumped.trans (parses_tupleOrExpression (bumped.stop.symm ▸ next) bumped.later
        (bumped.levels.trans same) after)
  rw [keywordHeader]
  exact whole

/-- A keyword with arguments after it is parsed. -/
theorem parses_argumentsHeader {which : Keyword}
    (found : (keyword stream which ++
      (Grammar.listing stream (Grammar.Argument stream (derives stream levels))).optional)
      p.position stop shapes) :
    Parses stream p (argumentSequence (p.bump.remaining + 1) p.bump) stop shapes := by
  obtain ⟨_, _, _, opener, arguments, rfl⟩ := found
  have opened := (parses_refl source).bump opener
  exact opened.trans (parses_argumentSequence (opened.stop.symm ▸ arguments) opened.later
    (opened.levels.trans same) after (Nat.lt_succ_self _))

omit same in
/-- The header of a block is parsed. -/
theorem parses_blockHeader (found : Grammar.header stream levels .blockKw p.position stop shapes) :
    Parses stream p (keywordHeader .blockKw p) stop shapes := by
  obtain ⟨_, _, _, ⟨_, _, _, opener, title, rfl⟩, modifier, rfl⟩ := found
  have opened := (parses_refl source).bump opener
  obtain ⟨named, titled⟩ := opened.expectName title "Expected block name"
  have whole := titled.skip modifier fun _ => after.ne List.not_mem_nil rfl
  rw [keywordHeader, named]
  exact whole

/-- The header of an inclusion is parsed. -/
theorem parses_includeHeader
    (found : Grammar.header stream levels .includeKw p.position stop shapes) :
    Parses stream p (keywordHeader .includeKw p) stop shapes := by
  obtain ⟨_, _, _, ⟨_, _, _, ⟨_, _, _, opener, source', rfl⟩, ignored, rfl⟩, modifier, rfl⟩ := found
  have afterIgnored := upcoming_optional leads_context modifier after
  have afterSource :=
    upcoming_optional ((leads_keyword .ignoreKw).followedBy _) ignored afterIgnored
  have opened := (parses_refl source).bump opener
  have read := opened.expression same source' (afterSource.ends (by decide) Nat.one_pos)
  have missing := read.ifAt ignored
    (fun q => q.bump.expect (.keyword .missingKw) "Expected 'missing'")
    (afterIgnored.ne (by decide) rfl) fun between before shapes bumped next =>
      bumped.expect next "Expected 'missing'"
  have whole := missing.contextModifier modifier after
  rw [keywordHeader]
  exact whole

/-- The header of an import is parsed. -/
theorem parses_importHeader
    (found : Grammar.header stream levels .importKw p.position stop shapes) :
    Parses stream p (keywordHeader .importKw p) stop shapes := by
  obtain ⟨_, _, _, ⟨_, _, _, ⟨_, _, _, opener, source', rfl⟩, renamed, rfl⟩, modifier, rfl⟩ := found
  have afterAlias := upcoming_optional leads_context modifier after
  have afterSource := upcoming_optional ((leads_keyword .asKw).followedBy _) renamed afterAlias
  have opened := (parses_refl source).bump opener
  have read := opened.expression same source' (afterSource.ends (by decide) Nat.one_pos)
  have named := read.expectAlias renamed (afterAlias.ne (by decide) rfl)
  have whole := named.contextModifier modifier after
  rw [keywordHeader]
  exact whole

/-- The header of an import of names is parsed. -/
theorem parses_fromHeader (found : Grammar.header stream levels .fromKw p.position stop shapes) :
    Parses stream p (keywordHeader .fromKw p) stop shapes := by
  obtain ⟨_, _, _, ⟨_, _, _, ⟨_, _, _, ⟨_, _, _, opener, source', rfl⟩, mark, rfl⟩, names, rfl⟩,
    modifier, rfl⟩ := found
  have afterNames := upcoming_optional leads_context modifier after
  have opened := (parses_refl source).bump opener
  have read :=
    opened.expression same source' (ends_of_loose (kindAt?_of_token mark) rfl Nat.one_pos)
  have marked := read.bump mark
  have listed := marked.trans (parses_importNames names marked.later marked.stop
    (afterNames.ne (by decide) rfl) (afterNames.ne (by decide) rfl) (Nat.lt_succ_self _))
  have whole := listed.contextModifier modifier after
  rw [keywordHeader, if_pos (read.at_token mark)]
  exact whole

omit after in
/-- The header of a macro is parsed. -/
theorem parses_macroHeader (found : Grammar.header stream levels .macroKw p.position stop shapes)
    : Parses stream p (keywordHeader .macroKw p) stop shapes := by
  obtain ⟨_, _, _, ⟨_, _, _, opener, title, rfl⟩, list, rfl⟩ := found
  have opened := (parses_refl source).bump opener
  obtain ⟨named, titled⟩ := opened.expectName title "Expected macro name"
  have begins : p.bump.bump.isAt (.punctuation .leftParen) = true := by
    rw [titled.isAt_iff]
    exact kindAt?_of_bracketed list
  have whole := titled.trans (complete_parameterList 11 p.bump.bump _ _ titled.later
    (titled.stop.symm ▸ list) Grammar.ends_above)
  rw [keywordHeader, named]
  dsimp only
  rw [if_pos begins, titled.levels, same]
  exact whole

/-- The header of a call is parsed. -/
theorem parses_callHeader (found : Grammar.header stream levels .callKw p.position stop shapes) :
    Parses stream p (keywordHeader .callKw p) stop shapes := by
  obtain ⟨_, _, _, opener, called, rfl⟩ := found
  have opened := (parses_refl source).bump opener
  cases called with
  | parameters both =>
    obtain ⟨_, _, _, list, value, rfl⟩ := both
    have begins : p.bump.isAt (.punctuation .leftParen) = true := by
      rw [opened.isAt_iff]
      exact kindAt?_of_bracketed list
    have listed := opened.trans (complete_parameterList 11 p.bump _ _ opened.later
      (opened.stop.symm ▸ list) Grammar.ends_above)
    have whole := listed.expression same value (after.ends (by simp) Nat.one_pos)
    rw [keywordHeader, if_pos begins, opened.levels, same, ← List.append_assoc]
    exact whole
  | plain only bare =>
    have absent : ¬p.bump.isAt (.punctuation .leftParen) = true := by
      rw [opened.isAt_iff]
      exact bare
    have whole := opened.expression same only (after.ends (by simp) Nat.one_pos)
    rw [keywordHeader, if_neg absent]
    exact whole

/-- What stands in a tag is parsed up to the end of the tag. -/
theorem parses_header (which : Keyword)
    (found : Grammar.header stream levels which p.position stop shapes) :
    Parses stream p (keywordHeader which p) stop shapes := by
  have alone (found : keyword stream which p.position stop shapes) :
      Parses stream p p.bump stop shapes := (parses_refl source).bump found
  have closes (found : which.isCloser = true ∧ keyword stream which p.position stop shapes) :
      Parses stream p (if which.isCloser then p.bump else p.generic) stop shapes := by
    rw [if_pos found.1]
    exact alone found.2
  cases which with
  | forKw => exact parses_forHeader source same after found
  | ifKw | elifKw | extendsKw | filterKw | autoescapeKw =>
    exact parses_expressionHeader source same after found
  | setKw => exact parses_setHeader source same after found
  | withKw | transKw => exact parses_argumentsHeader source same after found
  | blockKw => exact parses_blockHeader source after found
  | includeKw => exact parses_includeHeader source same after found
  | importKw => exact parses_importHeader source same after found
  | fromKw => exact parses_fromHeader source same after found
  | macroKw => exact parses_macroHeader source same found
  | callKw => exact parses_callHeader source same after found
  | pluralizeKw =>
    obtain ⟨_, _, _, opener, title, rfl⟩ := found
    exact ((parses_refl source).bump opener).skip title fun _ => after.ne List.not_mem_nil rfl
  | elseKw | rawKw => exact alone found
  | _ => exact closes found

end

end Parser
end Stencil
