import Stencil.Proofs.Grammar.Document
import Stencil.Proofs.Parser.Operators
/-!
# The parts of headers are parsed as they are derived

`Upcoming` says which tokens may come next at each place of a header; none of them goes on with what
stands before, and so no part of a header takes a token that belongs to another. Names, targets,
arguments and parameters are read up to where their list ends.
-/

namespace Stencil
namespace Parser

open Grammar (Phrase Operand Ends binding space word token spaced node around derives Separated
  keyword name)

variable {stream : TokenStream}

/-! ### What comes next -/

variable (stream) in
/-- Next comes a token of one of some kinds, a delimiter, a line end or nothing. -/
def Upcoming (kinds : List TokenKind) (place : Nat) : Prop :=
  ∀ kind, stream.kindAt? (stream.visible place) = some kind →
    kind ∈ kinds ∨ kind.isStructural = true

section

variable {kinds : List TokenKind} {place : Nat}

/-- Kinds that bind less tightly do not go on. -/
theorem Upcoming.ends (upcoming : Upcoming stream kinds place) {level : Nat}
    (loose : ∀ kind ∈ kinds, binding kind < level) (positive : 0 < level) :
    Ends stream level place := by
  intro kind next
  rcases upcoming kind next with listed | structural
  · exact loose kind listed
  · rw [Grammar.binding_of_isStructural structural]
    exact positive

/-- No other token of a construct comes next. -/
theorem Upcoming.ne (upcoming : Upcoming stream kinds place) {kind : TokenKind}
    (unlisted : kind ∉ kinds) (loose : kind.isStructural = false) :
    stream.kindAt? (stream.visible place) ≠ some kind := by
  intro next
  rcases upcoming kind next with listed | structural
  · exact unlisted listed
  · rw [loose] at structural
    contradiction

/-- Before a phrase that may be missing comes what begins it or what comes after it. -/
theorem upcoming_optional {phrase : Phrase} {more : List TokenKind} {stop : Nat}
    {shapes : List Shape} (leads : Grammar.Leads stream more.contains phrase)
    (found : phrase.optional place stop shapes) (after : Upcoming stream kinds stop) :
    Upcoming stream (more ++ kinds) place := by
  intro kind next
  rcases found with ⟨rfl, -⟩ | found
  · exact (after kind next).imp_left fun listed => List.mem_append.2 (Or.inr listed)
  · have first := leads _ _ _ found
    rw [next] at first
    exact Or.inl (List.mem_append.2 (Or.inl (by simpa using first)))

end

/-! ### Parts of headers -/

section

variable {p q : Parser} {middle stop : Nat} {left right : List Shape}

/-- Nesting is as it was. -/
theorem Parses.levels (parses : Parses stream p q stop left) : q.levels = p.levels := by
  rw [Parser.levels, Parser.levels, parses.reads.limits, parses.reads.depth]

/-- An expression after a phrase is parsed. -/
theorem Parses.expression {levels : Nat} (parses : Parses stream p q middle left)
    (enough : p.levels = levels) (found : Grammar.expression stream levels middle stop right)
    (ends : Ends stream 1 stop) : Parses stream p q.expression stop (left ++ right) :=
  parses.trans (complete_expression levels parses.later (parses.levels.trans enough)
    (parses.stop ▸ found) ends)

/-- What begins with a token of one kind and may be missing is parsed by a step that is taken at
this kind of token. -/
theorem Parses.ifAt {kind : TokenKind} {rest : Phrase}
    (parses : Parses stream p q middle left)
    (found : (token stream kind ++ rest).optional middle stop right) (step : Step)
    (absent : stream.kindAt? (stream.visible stop) ≠ some kind)
    (taken : ∀ between before after, Parses stream p q.bump between before →
      rest between stop after → Parses stream p (step q) stop (before ++ after)) :
    Parses stream p (if q.isAt kind then step q else q) stop (left ++ right) := by
  rcases found with ⟨rfl, rfl⟩ | ⟨between, before, after, first, more, rfl⟩
  · have none : ¬q.isAt kind = true := by
      rw [parses.isAt_iff]
      exact absent
    rw [if_neg none, List.append_nil]
    exact parses
  · rw [if_pos (parses.at_token first), ← List.append_assoc]
    exact taken between _ _ (parses.bump first) more

/-- A name is taken where one is expected. -/
theorem Parses.expectName (parses : Parses stream p q middle left)
    (found : name stream middle stop right) (message : String) :
    q.expectName message = (true, q.bump) ∧ Parses stream p q.bump stop (left ++ right) := by
  rw [Parser.expectName, if_pos (parses.at_token found)]
  exact ⟨rfl, parses.bump found⟩

/-- An expected token is taken. -/
theorem Parses.expect {kind : TokenKind} (parses : Parses stream p q middle left)
    (found : token stream kind middle stop right) (message : String) :
    Parses stream p (q.expect kind message) stop (left ++ right) := by
  rw [Parser.expect, if_pos (parses.at_token found)]
  exact parses.bump found

/-- With or without context, or neither. -/
theorem Parses.contextModifier (parses : Parses stream p q middle left)
    (found : (Grammar.context stream).optional middle stop right)
    (after : Upcoming stream [] stop) : Parses stream p q.contextModifier stop (left ++ right) := by
  have sees : q.atAny [.keyword .withKw, .keyword .withoutKw] =
      (stream.kindAt? (stream.visible middle)).any fun kind =>
        kind = .keyword .withKw || kind = .keyword .withoutKw := by
    rw [atAny, parses.current?]
    congr 1
    funext kind
    simp only [List.contains_cons, List.contains_nil, Bool.or_false, Bool.beq_eq_decide_eq]
  rw [Parser.contextModifier, sees]
  rcases found with ⟨rfl, rfl⟩ | ⟨_, _, _, first, second, rfl⟩
  · have none : (stream.kindAt? (stream.visible stop)).any (fun kind =>
        kind = .keyword .withKw || kind = .keyword .withoutKw) = false := by
      cases next : stream.kindAt? (stream.visible stop) with
      | none => rfl
      | some kind =>
        rcases after kind next with listed | structural
        · contradiction
        · cases kind with
          | delimiter | newline => rfl
          | _ => contradiction
    rw [none, if_neg Bool.false_ne_true, List.append_nil]
    exact parses
  · rw [first.1, if_pos rfl, ← List.append_assoc]
    exact (parses.bump first).expect second _

end

/-! ### Targets and names to import -/

section

variable {p : Parser} {start stop times : Nat} {shapes : List Shape}

/-- A name after a dot is parsed. -/
theorem parses_dotName (found : (token stream (.punctuation .dot) ++ name stream) start stop shapes)
    (source : p.stream = stream) (begins : p.position = start) (message : String) :
    p.isAt (.punctuation .dot) = true ∧ p.bump.expectName message = (true, p.bump.bump) ∧
      Parses stream p p.bump.bump stop shapes ∧ p.bump.bump.remaining < p.remaining := by
  obtain rfl := begins
  obtain ⟨_, _, _, dot, found, rfl⟩ := found
  have here := (parses_refl source).at_token dot
  have bumped := (parses_refl source).bump dot
  rw [List.nil_append] at bumped
  obtain ⟨named, whole⟩ := bumped.expectName found message
  have past : p.Past p.bump.bump := (growing_bump p.bump).ahead
  exact ⟨here, named, whole, past.remaining_lt (isSome_of_isAt here)⟩

/-- Names after dots are parsed, up to where no dot follows. -/
theorem parses_attributeNames
    (found : Grammar.Repeated (token stream (.punctuation .dot) ++ name stream) start stop shapes)
    (source : p.stream = stream) (begins : p.position = start)
    (beyond : stream.kindAt? (stream.visible stop) ≠ some (.punctuation .dot))
    (enough : p.remaining ≤ times) : Parses stream p (attributeNames times p) stop shapes := by
  have idle {origin q : Parser} {stop times : Nat} {shapes : List Shape}
      (parses : Parses stream origin q stop shapes)
      (beyond : stream.kindAt? (stream.visible stop) ≠ some (.punctuation .dot)) :
      attributeNames times q = q := by
    cases times with
    | zero => rfl
    | succ times => rw [attributeNames, if_neg (by rw [parses.isAt_iff]; exact beyond)]
  induction found generalizing p times with
  | last only =>
    obtain ⟨here, named, whole, fewer⟩ := parses_dotName only source begins _
    cases times with
    | zero => omega
    | succ times =>
      rw [attributeNames, if_pos here, named]
      dsimp only
      rw [if_pos rfl, idle whole beyond]
      exact whole
  | more first rest ih =>
    obtain ⟨here, named, whole, fewer⟩ := parses_dotName first source begins _
    cases times with
    | zero => omega
    | succ times =>
      rw [attributeNames, if_pos here, named]
      dsimp only
      rw [if_pos rfl]
      exact whole.trans (ih whole.later whole.stop beyond (by omega))

/-- A name with names after dots is parsed, up to where no dot follows. -/
theorem parses_target (found : Grammar.target stream start stop shapes)
    (source : p.stream = stream) (begins : p.position = start)
    (beyond : stream.kindAt? (stream.visible stop) ≠ some (.punctuation .dot)) (message : String) :
    p.expectName message = (true, p.bump) ∧
      Parses stream p (attributeNames p.bump.remaining p.bump) stop shapes := by
  obtain rfl := begins
  obtain ⟨_, _, _, first, rest, rfl⟩ := found
  obtain ⟨named, whole⟩ := (parses_refl source).expectName first message
  rw [List.nil_append] at whole
  refine ⟨named, ?_⟩
  rcases rest with ⟨rfl, rfl⟩ | rest
  · have none : ¬p.bump.isAt (.punctuation .dot) = true := by
      rw [whole.isAt_iff]
      exact beyond
    rw [List.append_nil]
    cases p.bump.remaining with
    | zero => exact whole
    | succ times =>
      rw [attributeNames, if_neg none]
      exact whole
  · exact whole.trans (parses_attributeNames rest whole.later whole.stop beyond (Nat.le_refl _))

/-- Targets with commas between them are parsed. -/
theorem parses_targets (found : Separated stream (Grammar.target stream) start stop shapes)
    (source : p.stream = stream) (begins : p.position = start)
    (noDot : stream.kindAt? (stream.visible stop) ≠ some (.punctuation .dot))
    (noComma : stream.kindAt? (stream.visible stop) ≠ some (.punctuation .comma))
    (message : String) (enough : p.remaining < times) :
    Parses stream p (targets message times p) stop shapes := by
  induction found generalizing p times with
  | last only =>
    obtain ⟨named, whole⟩ := parses_target only source begins noDot message
    cases times with
    | zero => omega
    | succ times =>
      rw [targets, named]
      dsimp only
      rw [if_pos rfl, if_neg (by rw [whole.isAt_iff]; exact noComma)]
      exact whole
  | more first rest ih =>
    obtain ⟨_, _, _, first, separator, rfl⟩ := first
    have next := kindAt?_of_token separator
    obtain ⟨named, whole⟩ := parses_target first source begins (by rw [next]; decide) message
    cases times with
    | zero => omega
    | succ times =>
      have here := whole.at_token separator
      have fewer := remaining_bump_lt whole.reads.grows here
      have bumped := whole.bump separator
      rw [targets, named]
      dsimp only
      rw [if_pos rfl, if_pos here]
      exact bumped.trans (ih bumped.later bumped.stop noDot noComma (by omega))

/-- The targets of an assignment are parsed. -/
theorem parses_targetList (found : spaced stream (Grammar.targetList stream) p.position stop shapes)
    (source : p.stream = stream)
    (noDot : stream.kindAt? (stream.visible stop) ≠ some (.punctuation .dot))
    (noComma : stream.kindAt? (stream.visible stop) ≠ some (.punctuation .comma))
    (message : String) : Parses stream p (p.targetList message) stop shapes := by
  obtain ⟨_, ⟨_, list, rfl⟩, rfl⟩ := found
  have opened := parses_start source .targetList
  have inside := parses_targets list opened.later opened.stop noDot noComma message
    (Nat.lt_succ_self (p.start .targetList).remaining)
  exact (parses_refl source).node inside

end

section

variable {p : Parser} {start stop times : Nat} {shapes : List Shape}

/-- An alias is parsed where there is one. -/
theorem Parses.expectAlias {q : Parser} {middle : Nat} {left right : List Shape}
    (parses : Parses stream p q middle left)
    (found : (keyword stream .asKw ++ name stream).optional middle stop right)
    (beyond : stream.kindAt? (stream.visible stop) ≠ some (.keyword .asKw)) :
    Parses stream p (if q.isAt (.keyword .asKw) then
      (q.bump.expectName "Expected alias name").2 else q) stop (left ++ right) := by
  apply parses.ifAt found (fun q => (q.bump.expectName "Expected alias name").2) beyond
  intro between before after bumped second
  obtain ⟨same, whole⟩ := bumped.expectName second "Expected alias name"
  exact same ▸ whole

/-- A name to import, with an alias if it has one, is parsed. -/
theorem parses_importName
    (found : spaced stream (Grammar.importName stream) start stop shapes)
    (source : p.stream = stream) (begins : p.position = start)
    (beyond : stream.kindAt? (stream.visible stop) ≠ some (.keyword .asKw)) (message : String) :
    (p.start .importName).expectName message = (true, (p.start .importName).bump) ∧
      Parses stream p (Parser.finish
        (if (p.start .importName).bump.isAt (.keyword .asKw) then
          ((p.start .importName).bump.bump.expectName "Expected alias name").2
        else (p.start .importName).bump)) stop shapes := by
  obtain rfl := begins
  obtain ⟨_, ⟨_, ⟨_, _, _, first, renamed, rfl⟩, rfl⟩, rfl⟩ := found
  obtain ⟨named, inside⟩ := (parses_start source .importName).expectName first message
  rw [List.nil_append] at inside
  have whole := inside.expectAlias renamed beyond
  exact ⟨named, (parses_refl source).node whole⟩

/-- Names to import with commas between them are parsed. -/
theorem parses_importNames
    (found : Separated stream (spaced stream (Grammar.importName stream)) start stop shapes)
    (source : p.stream = stream) (begins : p.position = start)
    (noAlias : stream.kindAt? (stream.visible stop) ≠ some (.keyword .asKw))
    (noComma : stream.kindAt? (stream.visible stop) ≠ some (.punctuation .comma))
    (enough : p.remaining < times) : Parses stream p (importNames times p) stop shapes := by
  induction found generalizing p times with
  | last only =>
    obtain ⟨named, whole⟩ := parses_importName only source begins noAlias "Expected name to import"
    cases times with
    | zero => omega
    | succ times =>
      rw [importNames, named]
      dsimp only
      rw [if_pos rfl, if_neg (by rw [whole.isAt_iff]; exact noComma)]
      exact whole
  | more first rest ih =>
    obtain ⟨_, _, _, first, separator, rfl⟩ := first
    have next := kindAt?_of_token separator
    obtain ⟨named, whole⟩ := parses_importName first source begins (by rw [next]; decide)
      "Expected name to import"
    cases times with
    | zero => omega
    | succ times =>
      have here := whole.at_token separator
      have fewer := remaining_bump_lt whole.reads.grows here
      have bumped := whole.bump separator
      rw [importNames, named]
      dsimp only
      rw [if_pos rfl, if_pos here]
      exact bumped.trans (ih bumped.later bumped.stop noAlias noComma (by omega))

end

/-! ### Arguments, tuples and parameters -/

/-- What grows nests as deeply. -/
theorem Grows.levels {p q : Parser} (growth : p.Grows q) : q.levels = p.levels := by
  obtain ⟨shapes, reading⟩ := growth
  rw [Parser.levels, Parser.levels, reading.limits, reading.depth]

/-- What begins an expression belongs to no construct around. -/
theorem isStructural_of_opensExpression {kind : TokenKind}
    (member : Grammar.opensExpression kind = true) : kind.isStructural = false := by
  cases kind with
  | delimiter | newline => contradiction
  | _ => rfl

/-- Whether the construct around ends at a token, if there is one. -/
def isOver (seen : Option TokenKind) : Bool :=
  match seen with
  | some kind => kind.isStructural
  | none => true

/-- A construct around ends at the current token. -/
theorem atStructural_eq (p : Parser) : p.atStructural = isOver p.current? := rfl

/-- Nothing that may come next but the end of the tag means that it has ended. -/
theorem Upcoming.isOver {place : Nat} (after : Upcoming stream [] place) :
    isOver (stream.kindAt? (stream.visible place)) = true := by
  cases next : stream.kindAt? (stream.visible place) with
  | none => rfl
  | some kind =>
    rcases after kind next with listed | structural
    · contradiction
    · exact structural

/-- A tag goes on where an expression begins. -/
theorem isOver_of_opensExpression {seen : Option TokenKind}
    (first : seen.any Grammar.opensExpression = true) : isOver seen = false := by
  cases seen with
  | none => contradiction
  | some kind => exact isStructural_of_opensExpression first

section

variable {levels : Nat}

/-- An expression, or several with commas, is parsed. -/
theorem parses_tupleOrExpression {p : Parser} {stop : Nat} {shapes : List Shape}
    (found : spaced stream (Grammar.TupleOrExpression stream levels) p.position stop shapes)
    (source : p.stream = stream) (enough : p.levels = levels) (after : Upcoming stream [] stop) :
    Parses stream p p.tupleOrExpression stop shapes := by
  have each := @complete_nested stream levels .expression
  have skipped : p.skipSpace.levels = levels := (growing_skipSpace p).levels.trans enough
  have ends : Ends stream 1 stop := after.ends (by simp) Nat.one_pos
  have noComma : stream.kindAt? (stream.visible stop) ≠ some (.punctuation .comma) :=
    after.ne List.not_mem_nil rfl
  refine parses_checkpoint ?_ source found fun shape source here found => ?_
  · rw [tupleOrExpression, tupleOrExpression, checkpoint_skipSpace]
  rw [tupleOrExpression, checkpoint_of_visible here]
  dsimp only
  rw [expression, skipped]
  cases found with
  | plain only =>
    have whole := each.operand source here only ends
    rw [if_neg (by rw [whole.isAt_iff]; exact noComma)]
    exact whole
  | tuple first rest =>
    obtain ⟨shapes, more, rfl⟩ := rest
    have goesOn := kindAt?_of_further more
    have whole := each.operand source here first (ends_of_loose goesOn rfl Nat.one_pos)
    have opened := parses_startAt whole p.skipSpace.builder.checkpoint .tupleLiteral
    have same (later : Parser) (place : Nat) (read : List Shape)
        (parses : Parses stream ((nested levels .expression p.skipSpace).startAt
          p.skipSpace.builder.checkpoint .tupleLiteral) later place read) :
        later.expression = nested levels .expression later := by
      rw [expression, parses.levels.trans (whole.levels.trans skipped)]
    rw [if_pos ((whole.isAt_iff _).2 goesOn)]
    have begins (start stop : Nat) (shape : Shape) (here : stream.visible start = start)
        (found : derives stream levels .expression start stop shape) :
        isOver (stream.kindAt? start) = false :=
      isOver_of_opensExpression (Grammar.opens_derives levels .expression _ _ _ here found).kind
    exact whole.around (parses_moreItems isOver each (fun q => rfl) begins same more opened
      after.isOver noComma ends (Nat.le_refl _))

/-- What a sequence of arguments does after an argument. -/
def afterArgument (times : Nat) (p : Parser) : Parser :=
  if p.isAt (.punctuation .comma) then argumentSequence times p.bump else p

/-- The arguments in a tag end where the tag does. -/
theorem argumentSequence_of_over {times : Nat} {p : Parser} (beyond : isOver p.current? = true) :
    argumentSequence times p = p := by
  cases times with
  | zero => rfl
  | succ times => rw [argumentSequence, atStructural_eq, if_pos beyond]

/-- Where an argument stands a sequence of arguments is this one and what comes after it. -/
theorem argumentSequence_succ {times : Nat} {p : Parser} {stop : Nat} {shapes : List Shape}
    (source : p.stream = stream) (enough : p.levels = levels)
    (found : spaced stream (Grammar.Argument stream (derives stream levels)) p.position stop
      shapes) :
    argumentSequence (times + 1) p = afterArgument times (argument (nested levels) p) := by
  obtain ⟨shape, found, -⟩ := found
  have goesOn : isOver p.current? = false := by
    have opens := @Grammar.opens_derives stream levels
    rw [(parses_refl source).current?]
    cases found with
    | keyword named =>
      obtain ⟨_, ⟨_, _, _, ⟨_, _, _, first, -, -⟩, -, -⟩, -⟩ := named
      have current := kindAt?_of_token first
      rw [stream.visible_visible] at current
      rw [current]
      rfl
    | value plain =>
      exact
        isOver_of_opensExpression (opens .expression _ _ _ (stream.visible_visible _) plain).kind
  rw [argumentSequence, atStructural_eq, goesOn, if_neg Bool.false_ne_true, enough]
  rfl

/-- Arguments up to the end of the tag, if there are any, are parsed. -/
theorem parses_argumentSequence {p : Parser} {stop times : Nat} {shapes : List Shape}
    (found : (Grammar.listing stream (Grammar.Argument stream (derives stream levels))).optional
      p.position stop shapes)
    (source : p.stream = stream) (same : p.levels = levels) (after : Upcoming stream [] stop)
    (enough : p.remaining < times) : Parses stream p (argumentSequence times p) stop shapes := by
  cases times with
  | zero => omega
  | succ times =>
    rcases found with ⟨rfl, rfl⟩ | found
    · rw [argumentSequence_of_over ((parses_refl source).current? ▸ after.isOver)]
      exact parses_refl source
    · obtain ⟨_, _, _, first, -, -⟩ := id found
      have each := complete_argument (@complete_nested stream levels)
        (Grammar.opens_derives levels)
      rw [argumentSequence_succ source same first]
      refine parses_listing afterArgument isOver each (fun times q here beyond => ?_)
        (fun times q _ _ _ _ bumped next here => ?_) (fun times q noComma _ => ?_) source found
        after.isOver (after.ne List.not_mem_nil rfl) (after.ends (by simp) Nat.one_pos) (by omega)
      · rw [afterArgument, if_pos here, argumentSequence_of_over beyond]
      · rw [afterArgument, if_pos here, argumentSequence_succ bumped.later
          (bumped.levels.trans same) (bumped.stop.symm ▸ next)]
      · rw [afterArgument, if_neg noComma]

/-- One parameter, which may have a default. -/
def oneParameter (inner : Inner) (p : Parser) : Parser :=
  let p := (p.start .parameter).bump
  (if p.isAt (.operator .assign) then inner .expression p.bump else p).finish

/-- What a list of parameters does after a parameter. -/
def afterParameter (inner : Inner) (times : Nat) (p : Parser) : Parser :=
  if p.isAt (.punctuation .comma) then
    if p.bump.isAt (.punctuation .rightParen) then p.bump else parameters inner times p.bump
  else if p.isAt (.punctuation .rightParen) then p
  else p.error .unclosedGroup "Expected ',' or ')'"

/-- A parameter is parsed. -/
theorem complete_parameter :
    Complete stream (oneParameter (nested levels)) (spaced stream (Grammar.parameter stream levels))
      1 := by
  have inside : Complete stream (fun p => if p.bump.isAt (.operator .assign) then
      nested levels .expression p.bump.bump else p.bump)
      (name stream ++ (token stream (.operator .assign) ++
        Grammar.expression stream levels).optional) 1 := by
    rintro p stop _ source ⟨_, _, _, first, value, rfl⟩ ends
    have named := (parses_refl source).bump first
    rw [List.nil_append] at named
    refine named.ifAt value (fun q => nested levels .expression q.bump)
      (ends.ne (Nat.le_refl _)) fun between before shapes bumped next => ?_
    exact bumped.step (complete_nested levels .expression) next ends
  exact complete_node .parameter inside

/-- A parameter begins with its name. -/
theorem isAt_of_parameter {p : Parser} {stop : Nat} {shapes : List Shape}
    (source : p.stream = stream)
    (found : spaced stream (Grammar.parameter stream levels) p.position stop shapes) :
    p.isAt .identifier = true := by
  obtain ⟨_, ⟨_, ⟨_, _, _, first, -, -⟩, -⟩, -⟩ := found
  rw [Parser.isAt_iff]
  exact current?_of_token source first

/-- Where a parameter stands a list of parameters is this one and what comes after it. -/
theorem parameters_succ {inner : Inner} {times : Nat} {p : Parser} {stop : Nat}
    {shapes : List Shape} (source : p.stream = stream)
    (found : spaced stream (Grammar.parameter stream levels) p.position stop shapes) :
    parameters inner (times + 1) p = afterParameter inner times (oneParameter inner p) := by
  rw [parameters, if_pos (isAt_of_parameter source found)]
  rfl

/-- Parameters between parentheses are parsed. -/
theorem complete_parameterList (level : Nat) : Complete stream (parameterList (nested levels))
    (spaced stream (Grammar.parameterList stream levels)) level := by
  have avoids : Avoids stream (Grammar.parameter stream levels) (.punctuation .rightParen) := by
    rintro start stop shape here ⟨_, ⟨_, _, _, first, -, -⟩, -⟩
    have current := kindAt?_of_token first
    rw [here] at current
    rw [current]
    decide
  have lists (p : Parser) (stop : Nat) (shapes : List Shape) (source : p.stream = stream)
      (found : Grammar.listing stream (Grammar.parameter stream levels) p.position stop shapes)
      (closed : stream.kindAt? (stream.visible stop) = some (.punctuation .rightParen)) :
      Parses stream p (parameters (nested levels) (p.remaining + 1) p) stop shapes := by
    obtain ⟨_, _, _, first, -, -⟩ := id found
    rw [parameters_succ source first]
    refine parses_listing (afterParameter (nested levels))
      (fun seen => seen = some (.punctuation .rightParen)) complete_parameter
      (fun times q here beyond => ?_) (fun times q _ _ _ _ bumped next here => ?_)
      (fun times q noComma beyond => ?_) source found (decide_eq_true closed)
      (ne_comma_of_closed closed (by decide)) (ends_of_loose closed rfl Nat.one_pos) (Nat.le_refl _)
    · rw [afterParameter, if_pos here, if_pos ((isAt_iff _ _).2 (of_decide_eq_true beyond))]
    · rw [afterParameter, if_pos here, if_neg (bumped.not_at avoids next),
        parameters_succ bumped.later (bumped.stop.symm ▸ next)]
    · rw [afterParameter, if_neg noComma, if_pos ((isAt_iff _ _).2 (of_decide_eq_true beyond))]
  intro p stop shapes source found ends
  have inside := complete_brackets .leftParen avoids lists "Expected ')'" level
  have whole := complete_node .parameterList inside p stop shapes source found ends
  rw [parameterList]
  exact whole

end

end Parser
end Stencil
