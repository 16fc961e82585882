import Stencil.Proofs.Grammar.Expression
/-!
# First and next tokens

What a production begins with, and what may not follow it. `binding` says how tightly a token goes
on with what stands before it; a phrase of some tightness `Ends` where no token as tight follows.
`opens_derives` says which tokens a nested production begins with, and that a name at its beginning
is never followed by the sign of a keyword argument.
-/

namespace Stencil
namespace Grammar

open Stencil.Parser (Nested)

/-- How tightly a token goes on with what stands before it; nothing goes on with a token that
belongs to the construct around. -/
def binding : TokenKind → Nat
  | .literal .string => 10
  | .punctuation .dot | .punctuation .leftBracket | .punctuation .leftParen => 9
  | .operator .pipe => 8
  | .operator .power => 7
  | .operator .multiply | .operator .divide | .operator .floorDivide | .operator .modulo => 6
  | .operator .plus | .operator .minus | .operator .tilde => 5
  | .operator .eq | .operator .ne | .operator .lt | .operator .gt | .operator .le
  | .operator .ge | .keyword .inKw | .keyword .notKw | .keyword .isKw => 4
  | .keyword .andKw => 3
  | .keyword .orKw => 2
  | .keyword .ifKw | .keyword .elseKw | .operator .assign => 1
  | _ => 0

/-- The tightness of a nested production: it takes every token that binds as tightly. -/
def tightness : Nested → Nat
  | .expression => 1
  | .disjunction => 2
  | .negation => 4
  | .factor => 7

/-- Delimiters and line ends never go on with an expression. -/
theorem binding_of_isStructural {kind : TokenKind} (structural : kind.isStructural = true) :
    binding kind = 0 := by
  cases kind with
  | delimiter | newline => rfl
  | _ => contradiction

variable (stream : TokenStream)

/-- No token that binds as tightly as a level comes next. -/
def Ends (level stop : Nat) : Prop :=
  ∀ kind, stream.kindAt? (stream.visible stop) = some kind → binding kind < level

variable {stream}

/-- Nothing binds more tightly than a string with another before it. -/
theorem ends_above {stop : Nat} : Ends stream 11 stop := by
  intro kind _
  unfold binding
  split <;> omega

/-- A looser phrase ends where a tighter one does not go on. -/
theorem Ends.mono {level tighter stop : Nat} (ends : Ends stream level stop)
    (order : level ≤ tighter) : Ends stream tighter stop := fun kind next =>
  Nat.lt_of_lt_of_le (ends kind next) order

/-- The token after the end of a phrase is none that binds as tightly. -/
theorem Ends.ne {level stop : Nat} (ends : Ends stream level stop) {kind : TokenKind}
    (tight : level ≤ binding kind) : stream.kindAt? (stream.visible stop) ≠ some kind := by
  intro next
  have loose := ends kind next
  omega

/-- The token after the end of a phrase is of none of the kinds that bind as tightly. -/
theorem Ends.any {level stop : Nat} (ends : Ends stream level stop) {kinds : TokenKind → Bool}
    (tight : ∀ kind, kinds kind = true → level ≤ binding kind) :
    (stream.kindAt? (stream.visible stop)).any kinds = false := by
  cases seen : stream.kindAt? (stream.visible stop) with
  | none => rfl
  | some kind =>
    rw [Option.any_some, Bool.eq_false_iff]
    intro member
    exact absurd (ends kind seen) (Nat.not_lt_of_le (tight kind member))

/-- A token that belongs to one class and not to another differs from those of the other. -/
theorem ne_of_any {found : Option TokenKind} {kinds : TokenKind → Bool} {kind : TokenKind}
    (member : found.any kinds = true) (other : kinds kind = false) : found ≠ some kind := by
  rintro rfl
  rw [Option.any_some, other] at member
  contradiction

/-- A token of some kinds is of one of more. -/
theorem any_mono {found : Option TokenKind} {kinds more : TokenKind → Bool}
    (member : found.any kinds = true) (wider : ∀ kind, kinds kind = true → more kind = true) :
    found.any more = true := by
  cases found with
  | none => contradiction
  | some kind => exact wider kind member

variable (stream)

/-- A phrase begins with a token of some kinds. -/
def Leads (kinds : TokenKind → Bool) (phrase : Phrase) : Prop :=
  ∀ (start stop : Nat) (shapes : List Shape), phrase start stop shapes →
    (stream.kindAt? (stream.visible start)).any kinds = true

variable {stream} {kinds : TokenKind → Bool}

/-- A word begins with a token of its kinds. -/
theorem leads_word (kinds : TokenKind → Bool) : Leads stream kinds (word stream kinds) :=
  fun _ _ _ found => found.1

/-- A token begins with itself. -/
theorem leads_token {kind : TokenKind} (member : kinds kind = true) :
    Leads stream kinds (token stream kind) := by
  intro start stop shapes found
  have seen := found.1
  cases here : stream.kindAt? (stream.visible start) with
  | none =>
    rw [here] at seen
    contradiction
  | some other =>
    rw [here] at seen
    obtain rfl : other = kind := by simpa using seen
    exact member

/-- A sequence begins with what its first part begins with. -/
theorem Leads.followedBy {first : Phrase} (leads : Leads stream kinds first) (second : Phrase) :
    Leads stream kinds (first ++ second) := by
  rintro start stop shapes ⟨middle, left, right, found, -, -⟩
  exact leads _ _ _ found

/-- A repeated phrase begins with what the phrase begins with. -/
theorem Leads.repeated {phrase : Phrase} (leads : Leads stream kinds phrase) :
    Leads stream kinds phrase.repeated := by
  intro start stop shapes found
  cases found with
  | last only => exact leads _ _ _ only
  | more first rest => exact leads _ _ _ first

variable (stream)

/-- What starts at a place starts with a token of some kinds; if that is a name, it is not followed
by the sign of a keyword argument. -/
structure Starts (first : TokenKind → Bool) (start stop : Nat) : Prop where
  kind : (stream.kindAt? start).any first = true
  name : stream.kindAt? start = some .identifier → stop = start + 1 ∨
    stream.kindAt? (stream.visible (start + 1)) ≠ some (.operator .assign)

/-- An operand starts with a token of some kinds wherever it stands. -/
def Opens (first : TokenKind → Bool) (operand : Operand) : Prop :=
  ∀ (start stop : Nat) (shape : Shape), stream.visible start = start →
    operand start stop shape → Starts stream first start stop

variable {stream} {first : TokenKind → Bool}

/-- What follows and is not the sign of a keyword argument changes nothing at the start. -/
theorem Starts.extend {start middle : Nat} (starts : Starts stream first start middle)
    (next : stream.kindAt? (stream.visible middle) ≠ some (.operator .assign)) (stop : Nat) :
    Starts stream first start stop where
  kind := starts.kind
  name here := by
    rcases starts.name here with rfl | other
    · exact Or.inr next
    · exact Or.inr other

/-- Fewer kinds are kinds of more. -/
theorem Opens.mono {operand : Operand} (opens : Opens stream first operand)
    {more : TokenKind → Bool} (wider : ∀ kind, first kind = true → more kind = true) :
    Opens stream more operand := by
  intro start stop shape here found
  have starts := opens _ _ _ here found
  exact ⟨any_mono starts.kind wider, starts.name⟩

/-- A node begins with what its content begins with, if that is no name. -/
theorem opens_node {phrase : Phrase} (kind : NodeKind) (leads : Leads stream kinds phrase)
    (among : ∀ kind, kinds kind = true → first kind = true)
    (nameless : kinds .identifier = false) : Opens stream first (node kind phrase) := by
  rintro start stop shape here ⟨shapes, found, -⟩
  have seen := leads _ _ _ found
  rw [here] at seen
  exact ⟨any_mono seen among, fun name => absurd name (ne_of_any seen nameless)⟩

/-- A chain begins as its operand does. -/
theorem opens_chain {operand : Operand} {step : Shape → Operand}
    (opens : Opens stream first operand)
    (next : ∀ inside start stop shape, step inside start stop shape →
      stream.kindAt? (stream.visible start) ≠ some (.operator .assign)) :
    Opens stream first (Chain operand step) := by
  intro start stop shape here found
  induction found with
  | single whole => exact opens _ _ _ here whole
  | grow before further ih => exact (ih here).extend (next _ _ _ _ further) _

/-- What stands around a shape begins with what follows the shape. -/
theorem next_of_around {phrase : Phrase} {kind : NodeKind} (leads : Leads stream kinds phrase)
    (other : kinds (.operator .assign) = false) {inside : Shape} {start stop : Nat} {shape : Shape}
    (found : around kind phrase inside start stop shape) :
    stream.kindAt? (stream.visible start) ≠ some (.operator .assign) := by
  obtain ⟨shapes, within, -⟩ := found
  exact ne_of_any (leads _ _ _ within) other

/-- Operands with operators between them start as the first of them does. -/
theorem opens_leftGrouped {operand : Operand} (opens : Opens stream first operand)
    (kind : NodeKind) {operators : TokenKind → Bool}
    (other : operators (.operator .assign) = false) :
    Opens stream first (leftGrouped stream kind operators operand) :=
  opens_chain opens fun _ _ _ _ further =>
    next_of_around ((leads_word operators).followedBy _) other further

/-! ### Expressions -/

/-- The tokens an atom begins with. -/
def opensAtom : TokenKind → Bool
  | .identifier | .literal _ => true
  | .punctuation .leftParen | .punctuation .leftBracket | .punctuation .leftBrace => true
  | _ => false

/-- The tokens a factor begins with. -/
def opensFactor (kind : TokenKind) : Bool := opensAtom kind || isSign kind

/-- The tokens an expression begins with. -/
def opensExpression (kind : TokenKind) : Bool := opensFactor kind || kind = .keyword .notKw

/-- The tokens a nested production begins with. -/
def opening : Nested → TokenKind → Bool
  | .factor => opensFactor
  | _ => opensExpression

/-- What starts an atom starts a factor. -/
theorem opensFactor_of_opensAtom (kind : TokenKind) (member : opensAtom kind = true) :
    opensFactor kind = true := by rw [opensFactor, member, Bool.true_or]

/-- What starts a factor starts an expression. -/
theorem opensExpression_of_opensFactor (kind : TokenKind) (member : opensFactor kind = true) :
    opensExpression kind = true := by rw [opensExpression, member, Bool.true_or]

/-- What begins with a token of one kind begins with one of the kinds that this is among. -/
theorem opens_token (kind : TokenKind) {phrase : Phrase} (node' : NodeKind)
    (member : first kind = true) (nameless : kind ≠ .identifier)
    (leads : Leads stream (fun other => other = kind) phrase) :
    Opens stream first (node node' phrase) := by
  refine opens_node node' leads (fun other same => ?_) (decide_eq_false nameless.symm)
  obtain rfl := of_decide_eq_true same
  exact member

/-- The operators of a comparison bind alike. -/
theorem binding_of_comparesAlone {kind : TokenKind} (member : comparesAlone kind = true) :
    binding kind = 4 := by
  cases kind with
  | operator o => cases o <;> first | rfl | contradiction
  | keyword k => cases k <;> first | rfl | contradiction
  | _ => contradiction

/-- A sign begins no atom. -/
theorem opensAtom_of_isSign {kind : TokenKind} (sign : isSign kind = true) :
    opensAtom kind = false := by
  cases kind with
  | operator o => rfl
  | _ => contradiction

/-- A group of brackets begins with the opening one. -/
theorem opens_bracketed {opener : Punctuation} (member : first (.punctuation opener) = true)
    (kind : NodeKind) (closer : Punctuation) (item : Operand) :
    Opens stream first (bracketed stream kind opener closer item) :=
  opens_token (.punctuation opener) kind member nofun (((leads_word _).followedBy _).followedBy _)

section

variable {inner : Nested → Operand}

/-- An expression in parentheses starts with the parenthesis. -/
theorem opens_parenthesized (member : first (.punctuation .leftParen) = true) :
    Opens stream first (Parenthesized stream inner) := by
  intro start stop shape here found
  have leads : Leads stream (fun other => other = .punctuation .leftParen)
      (token stream (.punctuation .leftParen)) := leads_word _
  have opens {phrase : Phrase} {kind : NodeKind}
      (leads : Leads stream (fun other => other = .punctuation .leftParen) phrase) :
      Opens stream first (node kind phrase) :=
    opens_token (.punctuation .leftParen) kind member (by decide) leads
  cases found with
  | empty pair => exact opens (leads.followedBy _) _ _ _ here pair
  | single group => exact opens ((leads.followedBy _).followedBy _) _ _ _ here group
  | tuple group => exact opens (((leads.followedBy _).followedBy _).followedBy _) _ _ _ here group

/-- A single name starts and ends with itself. -/
theorem opens_name (member : first .identifier = true) (kind : NodeKind) :
    Opens stream first (node kind (token stream .identifier)) := by
  rintro start stop shape here ⟨shapes, ⟨seen, ends, -⟩, -⟩
  rw [here] at seen ends
  refine ⟨any_mono seen fun kind same => ?_, fun _ => Or.inl ends⟩
  obtain rfl := of_decide_eq_true same
  exact member

/-- Names, literals and opening brackets start an atom. -/
theorem opens_atom : Opens stream opensAtom (Atom stream inner) := by
  intro start stop shape here found
  have number (kind : TokenKind) (member : isNumber kind = true) : opensAtom kind = true := by
    cases kind with
    | literal => rfl
    | _ => contradiction
  have truth (kind : TokenKind) (member : isTruth kind = true) : opensAtom kind = true := by
    cases kind with
    | literal => rfl
    | _ => contradiction
  cases found with
  | name one => exact opens_name rfl _ _ _ _ here one
  | string some =>
    exact opens_token (.literal .string) _ rfl (by decide) (leads_word _).repeated _ _ _ here some
  | number one => exact opens_node _ (leads_word _) number rfl _ _ _ here one
  | truth one => exact opens_node _ (leads_word _) truth rfl _ _ _ here one
  | none one => exact opens_token (.literal .none) _ rfl (by decide) (leads_word _) _ _ _ here one
  | parenthesized group => exact opens_parenthesized rfl _ _ _ here group
  | list group => exact opens_bracketed rfl _ _ _ _ _ _ here group
  | dict group => exact opens_bracketed rfl _ _ _ _ _ _ here group

/-- The list of arguments begins with a parenthesis. -/
theorem leads_argumentList :
    Leads stream (fun kind => kind = .punctuation .leftParen)
      (spaced stream (argumentList stream inner)) := by
  rintro start stop shapes ⟨shape, ⟨within, found, -⟩, -⟩
  have seen := ((leads_word _).followedBy _).followedBy _ _ _ _ found
  rw [stream.visible_visible] at seen
  exact seen

/-- An attribute, a subscript or a call begins with a token that binds like one. -/
theorem kind_of_postfix_step {inside : Shape} {start stop : Nat} {shape : Shape}
    (found : Postfix stream inner inside start stop shape) :
    (stream.kindAt? (stream.visible start)).any
      [TokenKind.punctuation .dot, .punctuation .leftBracket, .punctuation .leftParen].contains =
        true := by
  have among {kind : TokenKind} {phrase : Phrase} {node : NodeKind}
      (leads : Leads stream (fun other => other = kind) phrase)
      (member : [TokenKind.punctuation .dot, .punctuation .leftBracket,
        .punctuation .leftParen].contains kind = true)
      (within : around node phrase inside start stop shape) :
      (stream.kindAt? (stream.visible start)).any
        [TokenKind.punctuation .dot, .punctuation .leftBracket, .punctuation .leftParen].contains =
          true := by
    obtain ⟨shapes, within, -⟩ := within
    apply any_mono (leads _ _ _ within)
    intro other same
    obtain rfl := of_decide_eq_true same
    exact member
  cases found with
  | «attribute» name => exact among ((leads_word _).followedBy _) rfl name
  | subscript index => exact among (((leads_word _).followedBy _).followedBy _) rfl index
  | call arguments => exact among leads_argumentList rfl arguments

/-- A primary expression starts as an atom does. -/
theorem opens_primary : Opens stream opensAtom (primary stream inner) :=
  opens_chain opens_atom fun _ _ _ _ further => ne_of_any (kind_of_postfix_step further) rfl

/-- An operand with filters starts as an atom does. -/
theorem opens_filtered : Opens stream opensAtom (filtered stream inner) :=
  opens_chain opens_primary fun _ _ _ _ further =>
    next_of_around (((leads_word _).followedBy _).followedBy _) rfl further

/-- A factor starts with a sign or as an atom does. -/
theorem opens_factor : Opens stream opensFactor (Factor stream inner) := by
  intro start stop shape here found
  have base : Opens stream opensAtom (filtered stream inner) := opens_filtered
  cases found with
  | signed sign =>
    refine opens_node _ ((leads_word isSign).followedBy _) (fun kind member => ?_) rfl _ _ _ here
      sign
    rw [opensFactor, member, Bool.or_true]
  | plain only => exact base.mono opensFactor_of_opensAtom _ _ _ here only
  | power left exponent =>
    exact (base.mono opensFactor_of_opensAtom _ _ _ here left).extend
      (next_of_around ((leads_word _).followedBy _) rfl exponent) _

variable (opens : Opens stream opensFactor (inner .factor))

include opens

/-- A product starts as a factor does. -/
theorem opens_product : Opens stream opensFactor (product stream inner) :=
  opens_leftGrouped opens _ rfl

/-- A sum starts as a factor does. -/
theorem opens_sum : Opens stream opensFactor (sum stream inner) :=
  opens_leftGrouped (opens_product opens) _ rfl

/-- A comparison starts as a factor does. -/
theorem opens_comparison : Opens stream opensFactor (Comparison stream inner) := by
  intro start stop shape here found
  have left := opens_sum opens
  cases found with
  | plain only => exact left _ _ _ here only
  | compared side right =>
    exact (left _ _ _ here side).extend
      (next_of_around ((leads_word comparesAlone).followedBy _) rfl right) _
  | excluded side right =>
    exact (left _ _ _ here side).extend
      (next_of_around (((leads_word _).followedBy _).followedBy _) rfl right) _
  | tested side right =>
    exact (left _ _ _ here side).extend
      (next_of_around (((leads_word _).followedBy _).followedBy _) rfl right) _

/-- A negation starts with its word or as a factor does. -/
theorem opens_negation : Opens stream opensExpression (Negation stream inner) := by
  intro start stop shape here found
  cases found with
  | negated operand =>
    exact opens_token (.keyword .notKw) _ rfl (by decide) ((leads_word _).followedBy _) _ _ _ here
      operand
  | plain only =>
    exact (opens_comparison opens).mono opensExpression_of_opensFactor _ _ _ here only

/-- A conjunction starts as a negation does. -/
theorem opens_conjunction : Opens stream opensExpression (conjunction stream inner) :=
  opens_leftGrouped (opens_negation opens) _ rfl

/-- A disjunction starts as a negation does. -/
theorem opens_disjunction : Opens stream opensExpression (disjunction stream inner) :=
  opens_leftGrouped (opens_conjunction opens) _ rfl

/-- A conditional expression starts as a disjunction does. -/
theorem opens_conditional : Opens stream opensExpression (Conditional stream inner) := by
  intro start stop shape here found
  cases found with
  | plain only => exact opens_disjunction opens _ _ _ here only
  | condition value rest =>
    exact (opens_disjunction opens _ _ _ here value).extend
      (next_of_around (((leads_word _).followedBy _).followedBy _) rfl rest) _

end

/-- The nested productions begin with their tokens at any level. -/
theorem opens_derives (levels : Nat) (which : Nested) :
    Opens stream (opening which) (derives stream levels which) := by
  induction levels generalizing which with
  | zero => exact fun _ _ _ _ found => absurd found id
  | succ levels ih =>
    cases which with
    | expression => exact opens_conditional (ih .factor)
    | disjunction => exact opens_disjunction (ih .factor)
    | negation => exact opens_negation (ih .factor)
    | factor => exact opens_factor

/-! ### Every derivation is a node -/

/-- An operand becomes a node and never a token alone. -/
def Nodes (operand : Operand) : Prop :=
  ∀ (start stop : Nat) (shape : Shape), operand start stop shape →
    ∃ kind children, shape = .node kind children

/-- What a node is put around becomes a node. -/
theorem nodes_node (kind : NodeKind) (phrase : Phrase) : Nodes (node kind phrase) := by
  rintro start stop shape ⟨shapes, -, rfl⟩
  exact ⟨kind, shapes, rfl⟩

/-- What a node is put around with earlier children becomes a node. -/
theorem nodes_around (kind : NodeKind) (phrase : Phrase) (inside : Shape) :
    Nodes (around kind phrase inside) := by
  rintro start stop shape ⟨shapes, -, rfl⟩
  exact ⟨kind, inside :: shapes, rfl⟩

/-- A chain becomes a node if its operand and its steps do. -/
theorem nodes_chain {operand : Operand} {step : Shape → Operand} (base : Nodes operand)
    (grow : ∀ inside, Nodes (step inside)) : Nodes (Chain operand step) := by
  intro start stop shape found
  cases found with
  | single whole => exact base _ _ _ whole
  | grow before next => exact grow _ _ _ _ next

section

variable {inner : Nested → Operand}

/-- An atom becomes a node. -/
theorem nodes_atom : Nodes (Atom stream inner) := by
  intro start stop shape found
  cases found with
  | name one => exact nodes_node _ _ _ _ _ one
  | string some => exact nodes_node _ _ _ _ _ some
  | number one => exact nodes_node _ _ _ _ _ one
  | truth one => exact nodes_node _ _ _ _ _ one
  | none one => exact nodes_node _ _ _ _ _ one
  | parenthesized group =>
    cases group with
    | empty pair => exact nodes_node _ _ _ _ _ pair
    | single group => exact nodes_node _ _ _ _ _ group
    | tuple group => exact nodes_node _ _ _ _ _ group
  | list group => exact nodes_node _ _ _ _ _ group
  | dict group => exact nodes_node _ _ _ _ _ group

/-- Calls, attributes and filters become nodes. -/
theorem nodes_postfix (inside : Shape) : Nodes (Postfix stream inner inside) := by
  intro start stop shape found
  cases found with
  | «attribute» name => exact nodes_around _ _ _ _ _ _ name
  | subscript index => exact nodes_around _ _ _ _ _ _ index
  | call arguments => exact nodes_around _ _ _ _ _ _ arguments

/-- A factor becomes a node. -/
theorem nodes_factor : Nodes (Factor stream inner) := by
  intro start stop shape found
  cases found with
  | signed sign => exact nodes_node _ _ _ _ _ sign
  | plain base =>
    exact nodes_chain (nodes_chain nodes_atom nodes_postfix) (nodes_around _ _) _ _ _ base
  | power base exponent => exact nodes_around _ _ _ _ _ _ exponent

variable (factor : Nodes (inner .factor))

include factor

/-- A negation becomes a node. -/
theorem nodes_negation : Nodes (Negation stream inner) := by
  intro start stop shape found
  cases found with
  | negated operand => exact nodes_node _ _ _ _ _ operand
  | plain only =>
    cases only with
    | plain only =>
      exact nodes_chain (nodes_chain factor (nodes_around _ _)) (nodes_around _ _) _ _ _ only
    | compared left right => exact nodes_around _ _ _ _ _ _ right
    | excluded left right => exact nodes_around _ _ _ _ _ _ right
    | tested left right => exact nodes_around _ _ _ _ _ _ right

/-- A disjunction becomes a node. -/
theorem nodes_disjunction : Nodes (disjunction stream inner) :=
  nodes_chain (nodes_chain (nodes_negation factor) (nodes_around _ _)) (nodes_around _ _)

/-- A conditional expression becomes a node. -/
theorem nodes_conditional : Nodes (Conditional stream inner) := by
  intro start stop shape found
  cases found with
  | plain only => exact nodes_disjunction factor _ _ _ only
  | condition value rest => exact nodes_around _ _ _ _ _ _ rest

end

/-- What a nested production derives is a node. -/
theorem nodes_derives (levels : Nat) (which : Nested) : Nodes (derives stream levels which) := by
  induction levels generalizing which with
  | zero => exact fun _ _ _ found => absurd found id
  | succ levels ih =>
    cases which with
    | expression => exact nodes_conditional (ih .factor)
    | disjunction => exact nodes_disjunction (ih .factor)
    | negation => exact nodes_negation (ih .factor)
    | factor => exact nodes_factor

end Grammar
end Stencil
