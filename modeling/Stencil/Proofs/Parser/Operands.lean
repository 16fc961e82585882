import Stencil.Proofs.Parser.Arrival
/-!
# Operands are parsed as they are derived

Groups, atoms, and what stands after them: each production is complete for its phrases, given that
the nested productions one level further down are. It reads exactly the tokens of a derivation into
the tree of that derivation and reports nothing.
-/

namespace Stencil
namespace Parser

open Grammar (Phrase Operand Ends binding space word token spaced node around derives tightness)

variable {stream : TokenStream}

/-! ### Groups -/

/-- Brackets around a list are parsed if the list is parsed up to the closing one. -/
theorem complete_brackets {list : Step} {operand : Operand} (opener : Punctuation)
    {closer : Punctuation} (avoids : Avoids stream operand (.punctuation closer))
    (lists : ∀ (p : Parser) (stop : Nat) (shapes : List Shape), p.stream = stream →
      Grammar.listing stream operand p.position stop shapes →
      stream.kindAt? (stream.visible stop) = some (.punctuation closer) →
      Parses stream p (list p) stop shapes) (message : String) (level : Nat) :
    Complete stream (fun p => expectCloser
        (if p.bump.isAt (.punctuation closer) then p.bump else list p.bump)
        (.punctuation closer) message)
      (token stream (.punctuation opener) ++ (Grammar.listing stream operand).optional ++
        token stream (.punctuation closer)) level := by
  rintro p stop _ source ⟨_, _, _, ⟨_, _, _, opening, found, rfl⟩, closing, rfl⟩ -
  have opened := (parses_refl source).bump opening
  rw [List.nil_append] at opened
  refine Parses.expectCloser ?_ closing message
  rcases found with ⟨rfl, rfl⟩ | found
  · rw [if_pos (opened.at_token closing), List.append_nil]
    exact opened
  · obtain ⟨_, _, _, first, -, -⟩ := id found
    rw [if_neg (opened.not_at avoids first)]
    exact opened.trans (lists p.bump _ _ opened.later (opened.stop ▸ found)
      (kindAt?_of_token closing))

/-- A group of brackets is parsed. -/
theorem complete_group (kind : NodeKind) {item : Step} {operand : Operand}
    {opener closer : Punctuation} (each : Complete stream item (spaced stream operand) 1)
    (avoids : Avoids stream operand (.punctuation closer))
    (loose : binding (.punctuation closer) = 0) (bracket : closer ≠ .comma)
    (separator message : String) (level : Nat) :
    Complete stream (group kind item closer separator message)
      (spaced stream (Grammar.bracketed stream kind opener closer operand)) level := by
  intro p stop shapes source found ends
  have comma : TokenKind.punctuation closer ≠ .punctuation .comma := fun same =>
    bracket (TokenKind.punctuation.inj same)
  have lists (p : Parser) (stop : Nat) (shapes : List Shape) (source : p.stream = stream)
      (found : Grammar.listing stream operand p.position stop shapes)
      (closed : stream.kindAt? (stream.visible stop) = some (.punctuation closer)) :
      Parses stream p (items item (.punctuation closer) separator (p.remaining + 1) p) stop
        shapes :=
    parses_items each avoids loose separator comma source found closed (Nat.lt_succ_self _)
  have inside := complete_brackets opener avoids lists message level
  have whole := complete_node kind inside p stop shapes source found ends
  rw [group]
  exact whole

section

variable {inner : Inner} {below : Nested → Operand}
  (complete : ∀ which,
    Complete stream (inner which) (spaced stream (below which)) (tightness which))
  (opens : ∀ which, Grammar.Opens stream (Grammar.opening which) (below which))

include opens in
/-- An expression never begins with a token of a kind that no expression begins with. -/
theorem avoids_expression {kind : TokenKind} (other : Grammar.opensExpression kind = false) :
    Avoids stream (below .expression) kind := fun _ _ _ here found =>
  Grammar.ne_of_any (opens .expression _ _ _ here found).kind other

include complete opens

/-- Parentheses around nothing, an expression or several are parsed. -/
theorem complete_parenthesized (level : Nat) :
    Complete stream (parenthesized inner)
      (spaced stream (Grammar.Parenthesized stream below)) level := by
  refine complete_checkpoint (fun p => ?_) fun p stop shape source here found _ => ?_
  · rw [parenthesized, parenthesized, checkpoint_skipSpace]
  rw [parenthesized, checkpoint_of_visible here]
  dsimp only
  cases found with
  | empty pair =>
    obtain ⟨_, ⟨middle, left, right, opening, closing, rfl⟩, rfl⟩ := pair
    have opened := (parses_refl source).bump opening
    rw [List.nil_append] at opened
    have inside := (parses_startAt opened p.builder.checkpoint .tupleLiteral).bump closing
    rw [if_pos (opened.at_token closing)]
    exact opened.around inside
  | single group =>
    obtain ⟨_, ⟨middle, _, right, ⟨_, left, value, opening, plain, rfl⟩, closing, rfl⟩, rfl⟩ :=
      group
    have opened := (parses_refl source).bump opening
    rw [List.nil_append] at opened
    have closed := kindAt?_of_token closing
    have whole := opened.step (complete .expression) plain (ends_of_loose closed rfl Nat.one_pos)
    have noCloser : Avoids stream (below .expression) (.punctuation .rightParen) :=
      avoids_expression opens rfl
    rw [if_neg (opened.not_at noCloser plain)]
    have noComma : ¬(inner .expression p.bump).isAt (.punctuation .comma) = true := by
      rw [whole.isAt_iff, closed]
      decide
    rw [if_neg noComma]
    exact whole.around ((parses_startAt whole p.builder.checkpoint _).expectCloser closing _)
  | tuple group =>
    obtain ⟨_, ⟨middle, _, _, ⟨_, _, list, ⟨_, _, _, opening, plain, rfl⟩, more, rfl⟩, closing,
      rfl⟩, rfl⟩ := group
    have opened := (parses_refl source).bump opening
    rw [List.nil_append] at opened
    have goesOn := kindAt?_of_further more
    have closed := kindAt?_of_token closing
    have whole := opened.step (complete .expression) plain (ends_of_loose goesOn rfl Nat.one_pos)
    have noCloser : Avoids stream (below .expression) (.punctuation .rightParen) :=
      avoids_expression opens rfl
    have tuple := parses_startAt whole p.builder.checkpoint .tupleLiteral
    have items : Parses stream _ (moreItems (inner .expression)
        (fun p => p.isAt (.punctuation .rightParen))
        ((inner .expression p.bump).startAt p.builder.checkpoint .tupleLiteral).remaining
        ((inner .expression p.bump).startAt p.builder.checkpoint .tupleLiteral)) middle list :=
      parses_moreItems (fun found => found = some (.punctuation .rightParen))
        (complete .expression) (fun q => rfl)
        (fun start stop shape here found => decide_eq_false (noCloser start stop shape here found))
        (fun later place read parses => rfl) more tuple (decide_eq_true closed)
        (by rw [closed]; decide) (ends_of_loose closed rfl Nat.one_pos) (Nat.le_refl _)
    rw [if_neg (opened.not_at noCloser plain), if_pos ((whole.isAt_iff _).2 goesOn)]
    have inside := items.expectCloser closing "Expected ')'"
    have node := whole.around inside
    rw [List.append_assoc]
    exact node

/-- An argument with a name is told from an expression by the sign after the name. -/
theorem complete_argument :
    Complete stream (argument inner) (spaced stream (Grammar.Argument stream below)) 1 := by
  rintro p stop shapes source ⟨shape, found, rfl⟩ ends
  have same := parses_refl source
  cases found with
  | keyword named =>
    obtain ⟨_, ⟨_, _, _, ⟨_, _, _, name, assign, rfl⟩, value, rfl⟩, rfl⟩ := named
    have current := kindAt?_of_token name
    have next := kindAt?_of_token assign
    rw [stream.visible_visible] at current
    have sees : (p.isAt .identifier && p.nth? 1 = some (.operator .assign)) = true := by
      rw [Bool.and_eq_true]
      refine ⟨(same.isAt_iff _).2 current, decide_eq_true ?_⟩
      rw [same.next?, ← next, name.2.1, stream.visible_visible]
    rw [argument, if_pos sees]
    exact same.node (((parses_start source .keywordArgument).bump name).bump assign |>.step
      (complete .expression) value ends)
  | value plain =>
    have starts := opens .expression _ _ _ (stream.visible_visible _) plain
    have other : ¬(p.isAt .identifier && p.nth? 1 = some (.operator .assign)) = true := by
      rw [Bool.and_eq_true, same.isAt_iff, decide_eq_true_iff, same.next?]
      rintro ⟨current, next⟩
      rcases starts.name current with rfl | different
      · exact ends.ne (Nat.le_refl _) next
      · exact different next
    rw [argument, if_neg other]
    exact complete .expression p stop _ source ⟨shape, plain, rfl⟩ ends

omit complete in
/-- An argument begins with a name or with what an expression begins with. -/
theorem avoids_argument {kind : TokenKind} (other : Grammar.opensExpression kind = false) :
    Avoids stream (Grammar.Argument stream below) kind := by
  intro start stop shape here found
  cases found with
  | keyword named =>
    obtain ⟨_, ⟨_, _, _, ⟨_, _, _, name, -, -⟩, -, -⟩, -⟩ := named
    have current := kindAt?_of_token name
    rw [here] at current
    rw [current]
    intro same
    obtain rfl := Option.some.inj same
    contradiction
  | value plain => exact avoids_expression opens other _ _ _ here plain

/-- A list of arguments is parsed wherever one is derived. -/
theorem complete_argumentList (level : Nat) : Complete stream (argumentList inner)
    (spaced stream (Grammar.argumentList stream below)) level := by
  have noCloser : Avoids stream (Grammar.Argument stream below) (.punctuation .rightParen) :=
    avoids_argument opens rfl
  exact complete_group .argumentList (complete_argument complete opens) noCloser rfl (by decide)
    "Expected ',' or ')'" "Expected ')'" level

omit opens in
/-- A key, a colon and a value are parsed. -/
theorem complete_dictEntry : Complete stream (dictEntry inner)
    (spaced stream (Grammar.dictEntry stream below)) 1 := by
  have inside : Complete stream (fun p =>
      if (inner .expression p).isAt (.punctuation .colon) then
        inner .expression (inner .expression p).bump
      else (inner .expression p).error .unexpectedToken "Expected ':'")
      (Grammar.subexpression stream below ++ token stream (.punctuation .colon) ++
        Grammar.subexpression stream below) 1 := by
    rintro p stop _ source ⟨_, _, _, ⟨_, _, _, key, colon, rfl⟩, value, rfl⟩ ends
    have goesOn := kindAt?_of_token colon
    have first := (parses_refl source).step (complete .expression) key
      (ends_of_loose goesOn rfl Nat.one_pos)
    rw [List.nil_append] at first
    dsimp only
    rw [if_pos (first.at_token colon)]
    exact (first.bump colon).step (complete .expression) value ends
  intro p stop shapes source found ends
  have whole := complete_node .dictEntry inside p stop shapes source found ends
  rw [dictEntry]
  exact whole

omit complete in
/-- An entry begins with what its key begins with. -/
theorem avoids_dictEntry {kind : TokenKind} (other : Grammar.opensExpression kind = false) :
    Avoids stream (Grammar.dictEntry stream below) kind := by
  rintro start stop shape here ⟨_, ⟨_, _, _, ⟨_, _, _, ⟨inside, key, -⟩, -, -⟩, -, -⟩, -⟩
  rw [here] at key
  exact avoids_expression opens other _ _ _ here key

omit complete opens in
/-- A node of one token is parsed. -/
theorem complete_single (kind : NodeKind) (kinds : TokenKind → Bool) (level : Nat) :
    Complete stream (fun p => p.single kind) (spaced stream (node kind (word stream kinds)))
      level :=
  complete_node kind (complete_bump kinds level)

omit complete opens in
/-- String literals one after another are parsed, if no other follows. -/
theorem complete_strings : Complete stream strings
    (spaced stream (node .stringLiteral (token stream (.literal .string)).repeated)) 10 := by
  have inside : Complete stream (loop (fun p => p.isAt (.literal .string)) Parser.bump)
      (token stream (.literal .string)).repeated 10 := by
    intro p stop shapes source found ends
    refine parses_run (fun q => q.isAt_eq_any _) found source rfl (ends.any fun kind same => ?_)
    rw [of_decide_eq_true same]
    exact Nat.le_refl _
  exact complete_node .stringLiteral inside

omit complete opens in
/-- An atom is told by its first token. -/
theorem atom_fst {p : Parser} (seen : p.current?.any Grammar.opensAtom = true) :
    (atom inner p).1 = true := by
  cases current : p.current? with
  | none =>
    rw [current] at seen
    contradiction
  | some kind =>
    rw [current] at seen
    simp only [atom, current]
    cases kind with
    | identifier => rfl
    | literal l => cases l <;> rfl
    | punctuation mark => cases mark <;> first | rfl | contradiction
    | _ => contradiction

omit complete opens in
/-- At a token of some kinds the parser sees one of them. -/
theorem current?_of_word {kinds : TokenKind → Bool} {p : Parser} {stop : Nat}
    {shapes : List Shape} (source : p.stream = stream)
    (found : word stream kinds (stream.visible p.position) stop shapes) :
    ∃ kind, p.current? = some kind ∧ kinds kind = true := by
  have seen := found.1
  rw [stream.visible_visible, ← (parses_refl source).current?] at seen
  cases current : p.current? with
  | none =>
    rw [current] at seen
    contradiction
  | some kind =>
    rw [current] at seen
    exact ⟨kind, rfl, seen⟩

omit complete opens in
/-- The same for a token of one kind. -/
theorem current?_of_token {kind : TokenKind} {p : Parser} {stop : Nat} {shapes : List Shape}
    (source : p.stream = stream)
    (found : token stream kind (stream.visible p.position) stop shapes) :
    p.current? = some kind := by
  obtain ⟨other, current, same⟩ := current?_of_word source found
  rw [current, of_decide_eq_true same]

omit complete opens in
/-- Atoms of one form are parsed, if the production for them is chosen at the tokens they may begin
with. -/
theorem complete_of_opens {step : Step} {operand : Operand} {first : TokenKind → Bool}
    {level : Nat} (whole : Complete stream step (spaced stream operand) level)
    (begins : Grammar.Opens stream first operand)
    (same : ∀ p kind, p.current? = some kind → first kind = true → (atom inner p).2 = step p) :
    Complete stream (fun p => (atom inner p).2) (spaced stream operand) level := by
  rintro p stop _ source ⟨shape, found, rfl⟩ ends
  have seen := (begins _ _ _ (stream.visible_visible _) found).kind
  rw [← (parses_refl source).current?, Option.any_eq_true] at seen
  obtain ⟨kind, current, member⟩ := seen
  dsimp only
  rw [same p kind current member]
  exact whole p stop _ source ⟨shape, found, rfl⟩ ends

omit complete opens in
/-- The same for atoms that begin with a token of one kind. -/
theorem complete_of_first {step : Step} {operand : Operand} {level : Nat} (kind : TokenKind)
    (whole : Complete stream step (spaced stream operand) level)
    (begins : Grammar.Opens stream (fun other => other = kind) operand)
    (same : ∀ p, p.current? = some kind → (atom inner p).2 = step p) :
    Complete stream (fun p => (atom inner p).2) (spaced stream operand) level := by
  refine complete_of_opens whole begins fun p seen current member => same p ?_
  rw [current, of_decide_eq_true member]

/-- Names, literals and groups are parsed. -/
theorem complete_atom :
    Complete stream (fun p => (atom inner p).2) (spaced stream (Grammar.Atom stream below)) 10 := by
  rintro p stop _ source ⟨shape, found, rfl⟩ ends
  cases found with
  | name one =>
    refine complete_of_first .identifier (complete_single _ _ 10)
      (Grammar.opens_name (decide_eq_true rfl) _) (fun q current => ?_) p stop _ source
      ⟨shape, one, rfl⟩ ends
    simp only [atom, current]
  | string some =>
    refine complete_of_first (.literal .string) complete_strings
      (Grammar.opens_token _ _ (decide_eq_true rfl) (by decide) (Grammar.leads_word _).repeated)
      (fun q current => ?_) p stop _ source ⟨shape, some, rfl⟩ ends
    simp only [atom, current]
  | number one =>
    refine complete_of_opens (complete_single _ _ 10)
      (Grammar.opens_node _ (Grammar.leads_word _) (fun _ => id) rfl)
      (fun q kind current member => ?_) p stop _ source ⟨shape, one, rfl⟩ ends
    rw [Grammar.isNumber, Bool.or_eq_true, decide_eq_true_iff, decide_eq_true_iff] at member
    rcases member with rfl | rfl <;> simp only [atom, current]
  | truth one =>
    refine complete_of_opens (complete_single _ _ 10)
      (Grammar.opens_node _ (Grammar.leads_word _) (fun _ => id) rfl)
      (fun q kind current member => ?_) p stop _ source ⟨shape, one, rfl⟩ ends
    rw [Grammar.isTruth, Bool.or_eq_true, decide_eq_true_iff, decide_eq_true_iff] at member
    rcases member with rfl | rfl <;> simp only [atom, current]
  | none one =>
    refine complete_of_first (.literal .none) (complete_single _ _ 10)
      (Grammar.opens_token _ _ (decide_eq_true rfl) (by decide) (Grammar.leads_word _))
      (fun q current => ?_) p stop _ source ⟨shape, one, rfl⟩ ends
    simp only [atom, current]
  | parenthesized group =>
    refine complete_of_first (.punctuation .leftParen) (complete_parenthesized complete opens 10)
      (Grammar.opens_parenthesized (decide_eq_true rfl)) (fun q current => ?_) p stop _ source
      ⟨shape, group, rfl⟩ ends
    simp only [atom, current]
  | list group =>
    have noCloser : Avoids stream (below .expression) (.punctuation .rightBracket) :=
      avoids_expression opens rfl
    refine complete_of_first (.punctuation .leftBracket)
      (complete_group .listLiteral (complete .expression) noCloser rfl (by decide)
        "Expected ',' or ']'" "Expected ']'" 10)
      (Grammar.opens_bracketed (decide_eq_true rfl) _ _ _) (fun q current => ?_) p stop _ source
      ⟨shape, group, rfl⟩ ends
    simp only [atom, current]
  | dict group =>
    have noCloser : Avoids stream (Grammar.dictEntry stream below) (.punctuation .rightBrace) :=
      avoids_dictEntry opens rfl
    refine complete_of_first (.punctuation .leftBrace)
      (complete_group .dictLiteral (complete_dictEntry complete) noCloser rfl (by decide)
        "Expected ',' or '\x7d'" "Expected '\x7d'" 10)
      (Grammar.opens_bracketed (decide_eq_true rfl) _ _ _) (fun q current => ?_) p stop _ source
      ⟨shape, group, rfl⟩ ends
    simp only [atom, current]

/-! ### What stands after an operand -/

omit complete opens in
/-- A group of brackets begins with the opening one. -/
theorem kindAt?_of_bracketed {kind : NodeKind} {opener closer : Punctuation} {item : Operand}
    {start stop : Nat} {shapes : List Shape}
    (list : spaced stream (Grammar.bracketed stream kind opener closer item) start stop shapes) :
    stream.kindAt? (stream.visible start) = some (.punctuation opener) := by
  obtain ⟨_, ⟨_, ⟨_, _, _, ⟨_, _, _, opening, -, -⟩, -, -⟩, -⟩, -⟩ := list
  have seen := kindAt?_of_token opening
  rw [stream.visible_visible] at seen
  exact seen

variable (growing : ∀ which, Growing (inner which))

/-- An attribute, a subscript or a call is parsed into a node around what it stands after. -/
theorem parses_postfixStep {p q : Parser} {middle stop : Nat} {inside shape : Shape}
    (parses : Parses stream p q middle [inside])
    (found : Grammar.Postfix stream below inside middle stop shape) (ends : Ends stream 10 stop) :
    Parses stream p (postfixStep inner p.builder.checkpoint q) stop [shape] := by
  have other (mark : Punctuation) {kind : TokenKind}
      (next : stream.kindAt? (stream.visible middle) = some kind)
      (different : kind ≠ .punctuation mark) :
      ¬q.isAt (.punctuation mark) = true := by
    rw [parses.isAt_iff, next]
    exact fun same => different (Option.some.inj same)
  cases found with
  | «attribute» name =>
    obtain ⟨_, ⟨_, left, right, dot, name, rfl⟩, rfl⟩ := name
    have member := (parses_startAt parses p.builder.checkpoint .attributeAccess).bump dot
    have named : (q.startAt p.builder.checkpoint .attributeAccess).bump.current?.any
        isAttributeName = true := by
      rw [member.current?]
      exact name.1
    rw [postfixStep, if_pos (parses.at_token dot)]
    dsimp only
    rw [if_pos named]
    exact parses.around (member.bump name)
  | subscript index =>
    obtain ⟨_, ⟨_, _, right, ⟨_, left, value, bracket, plain, rfl⟩, closing, rfl⟩, rfl⟩ := index
    have next := kindAt?_of_token bracket
    have closed := kindAt?_of_token closing
    have opened := (parses_startAt parses p.builder.checkpoint .subscriptAccess).bump bracket
    have whole := opened.step (complete .expression) plain (ends_of_loose closed rfl Nat.one_pos)
    rw [postfixStep, if_neg (other .dot next (by decide)), if_pos (parses.at_token bracket)]
    exact parses.around (whole.expectCloser closing _)
  | call arguments =>
    obtain ⟨_, list, rfl⟩ := arguments
    have next := kindAt?_of_bracketed list
    have opened := parses_startAt parses p.builder.checkpoint .functionCall
    rw [postfixStep, if_neg (other .dot next (by decide)),
      if_neg (other .leftBracket next (by decide))]
    exact parses.around (opened.step (complete_argumentList complete opens 10) list ends)

omit opens complete in
/-- Attributes, subscripts and calls bind tightest but for strings. -/
theorem binding_of_postfix (kind : TokenKind) (member : [TokenKind.punctuation .dot,
    .punctuation .leftBracket, .punctuation .leftParen].contains kind = true) :
    binding kind = 9 := by
  simp only [List.contains_cons, List.contains_nil, Bool.or_false, Bool.or_eq_true,
    beq_iff_eq] at member
  rcases member with rfl | rfl | rfl <;> rfl

include growing in
/-- An atom with the attributes, subscripts and calls after it is parsed. -/
theorem complete_primary :
    Complete stream (primary inner) (spaced stream (Grammar.primary stream below)) 9 := by
  refine complete_checkpoint (fun p => ?_) fun p stop shape source here found ends => ?_
  · rw [primary, primary, checkpoint_skipSpace]
  have isAtom : (atom inner p).1 = true := by
    apply atom_fst
    have starts := Grammar.opens_primary p.position stop shape (source ▸ here) found
    rw [current?_eq, here, source]
    exact starts.kind
  rw [primary, checkpoint_of_visible here]
  dsimp only
  rw [if_pos isAtom]
  exact parses_chain (fun p => (atom inner p).2) (postfixStep inner)
    (complete_atom complete opens) (fun q => rfl) binding_of_postfix
    (fun inside start stop shape => Grammar.kind_of_postfix_step)
    (fun checkpoint q _ => past_postfixStep growing checkpoint q)
    (fun p q middle stop inside shape parses found ends =>
      parses_postfixStep complete opens parses found ends) source here found ends

/-- A filter is parsed into a node around what it stands after. -/
theorem parses_filterStep {p q : Parser} {middle stop : Nat} {inside shape : Shape}
    (parses : Parses stream p q middle [inside])
    (found : around .filterExpression (token stream (.operator .pipe) ++
      token stream .identifier ++ (spaced stream (Grammar.argumentList stream below)).optional)
      inside middle stop shape) (ends : Ends stream 9 stop) :
    Parses stream p (filterStep inner p.builder.checkpoint q) stop [shape] := by
  obtain ⟨_, ⟨_, _, right, ⟨_, left, value, pipe, name, rfl⟩, arguments, rfl⟩, rfl⟩ := found
  have opened := (parses_startAt parses p.builder.checkpoint .filterExpression).bump pipe
  have named := opened.bump name
  rw [filterStep]
  dsimp only
  rw [if_pos (opened.at_token name)]
  rcases arguments with ⟨rfl, rfl⟩ | list
  · have none : ¬(q.startAt p.builder.checkpoint .filterExpression).bump.bump.isAt
        (.punctuation .leftParen) = true := by
      rw [named.isAt_iff]
      exact ends.ne (Nat.le_refl _)
    rw [if_neg none, List.append_nil]
    exact parses.around named
  · rw [if_pos ((named.isAt_iff _).2 (kindAt?_of_bracketed list))]
    exact parses.around (named.step (complete_argumentList complete opens 9) list ends)

include growing in
/-- A primary with the filters after it is parsed. -/
theorem complete_filtered :
    Complete stream (filtered inner) (spaced stream (Grammar.filtered stream below)) 8 := by
  refine complete_checkpoint (fun p => ?_) fun p stop shape source here found ends => ?_
  · rw [filtered, filtered, checkpoint_skipSpace]
  rw [filtered, checkpoint_of_visible here]
  dsimp only
  refine parses_chain (primary inner) (filterStep inner) (complete_primary complete opens growing)
    (fun q => q.isAt_eq_any (.operator .pipe)) (fun kind same => ?_)
    (fun inside start stop shape => ?_) (fun checkpoint q _ => past_filterStep growing checkpoint q)
    (fun p q middle stop inside shape parses found ends =>
      parses_filterStep complete opens parses found ends) source here found ends
  · rw [of_decide_eq_true same]
    rfl
  · rintro ⟨_, ⟨_, _, _, ⟨_, _, _, pipe, -, -⟩, -, -⟩, -⟩
    exact pipe.1

end

end Parser
end Stencil
