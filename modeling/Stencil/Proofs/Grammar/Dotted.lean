import Stencil.Proofs.Outline.Inside
/-!
# Names behind dots

Wherever the grammar of expressions derives a dot it derives a name or a whole number behind it
(`dotted_derives`): no production but that of attributes has a dot.
-/

namespace Stencil

/-- Behind every dot from a place up to another stands a name, or what may be one. -/
def TokenStream.NamesDots (stream : TokenStream) (start stop : Nat) : Prop :=
  ∀ index, start ≤ index → index < stop → stream.kindAt? index = some (.punctuation .dot) →
    (stream.kindAt? (stream.visible (index + 1))).any Parser.isAttributeName = true

/-- Dots followed by names on both sides of a place are so throughout. -/
theorem TokenStream.NamesDots.trans {stream : TokenStream} {start middle stop : Nat}
    (one : stream.NamesDots start middle) (two : stream.NamesDots middle stop) :
    stream.NamesDots start stop := by
  intro index after before
  by_cases early : index < middle
  · exact one index after early
  · exact two index (Nat.le_of_not_lt early) before

namespace Grammar

open Stencil.Parser (Nested)

variable (stream : TokenStream)

/-- Behind every dot in what is derived stands a name. -/
def Dotted {α : Type} (derived : Nat → Nat → α → Prop) : Prop :=
  ∀ (start stop : Nat) (result : α), derived start stop result → stream.NamesDots start stop

variable {stream} {first second : Phrase} {operand : Operand} {step : Shape → Operand}

/-! ### Phrases -/

/-- There is no dot in white space. -/
theorem namesDots_space (start : Nat) : stream.NamesDots start (stream.visible start) := by
  intro index after before dot
  rw [TokenStream.kindAt?_before_visible after before] at dot
  contradiction

/-- There is no dot in a token of other kinds. -/
theorem dotted_word {kinds : TokenKind → Bool} (other : kinds (.punctuation .dot) = false) :
    Dotted stream (word stream kinds) := by
  rintro start stop _ ⟨seen, rfl, -⟩
  refine (namesDots_space start).trans fun index after before dot => ?_
  rw [show stream.visible start = index by omega, dot, Option.any_some, other] at seen
  contradiction

/-- A token other than a dot has no dots. -/
theorem dotted_token {kind : TokenKind} (other : kind ≠ .punctuation .dot) :
    Dotted stream (token stream kind) := dotted_word (decide_eq_false other.symm)

/-- Behind the dot of an attribute stands its name. -/
theorem dotted_attribute : Dotted stream
    (token stream (.punctuation .dot) ++ word stream Parser.isAttributeName) := by
  rintro start stop _ ⟨_, _, _, ⟨-, rfl, -⟩, name, -⟩
  refine ((namesDots_space start).trans fun index after before _ => ?_).trans
    (dotted_word rfl _ _ _ name)
  rw [show index = stream.visible start by omega]
  exact name.1

/-- Where names stand behind the dots of two phrases, they do so in both together. -/
theorem Dotted.append (one : Dotted stream first) (two : Dotted stream second) :
    Dotted stream (first ++ second) := by
  rintro start stop _ ⟨middle, left, right, before, behind, -⟩
  exact (one _ _ _ before).trans (two _ _ _ behind)

/-- Where names stand behind the dots of a phrase, they do so if it may be missing. -/
theorem Dotted.optional (some : Dotted stream first) : Dotted stream first.optional := by
  rintro start stop shapes (⟨rfl, -⟩ | found)
  · exact fun index after before => absurd before (Nat.not_lt_of_le after)
  · exact some _ _ _ found

/-- Where names stand behind the dots of a phrase, they do so when it is repeated. -/
theorem Dotted.repeated (each : Dotted stream first) : Dotted stream first.repeated := by
  intro start stop shapes found
  induction found with
  | last only => exact each _ _ _ only
  | more one _ ih => exact (each _ _ _ one).trans ih

/-- White space before an operand has no dots. -/
theorem Dotted.spaced (each : Dotted stream operand) : Dotted stream (spaced stream operand) := by
  rintro start stop _ ⟨shape, found, -⟩
  exact (namesDots_space start).trans (each _ _ _ found)

/-- A node has the dots of what is in it. -/
theorem Dotted.node (inside : Dotted stream first) (kind : NodeKind) :
    Dotted stream (node kind first) := by
  rintro start stop _ ⟨shapes, found, -⟩
  exact inside _ _ _ found

/-- A node around earlier children has the dots of what is behind them. -/
theorem Dotted.around (behind : Dotted stream first) (kind : NodeKind) (inside : Shape) :
    Dotted stream (around kind first inside) := by
  rintro start stop _ ⟨shapes, found, -⟩
  exact behind _ _ _ found

/-- A chain has the dots of its base and of its steps. -/
theorem Dotted.chain (base : Dotted stream operand) (grow : ∀ inside, Dotted stream (step inside)) :
    Dotted stream (Chain operand step) := by
  intro start stop shape found
  induction found with
  | single whole => exact base _ _ _ whole
  | grow _ next ih => exact ih.trans (grow _ _ _ _ next)

/-- Further operands have the dots of each of them. -/
theorem Dotted.further (each : Dotted stream operand) : Dotted stream (further stream operand) := by
  have comma : Dotted stream (comma stream) := dotted_token (by decide)
  intro start stop shapes found
  induction found with
  | trailing only => exact comma _ _ _ only
  | last only => exact comma.append each.spaced _ _ _ only
  | more one _ ih => exact (comma.append each.spaced _ _ _ one).trans ih

/-- Operands in brackets have the dots of each of them. -/
theorem Dotted.bracketed (each : Dotted stream operand) (kind : NodeKind)
    {opener closer : Punctuation} (opens : opener ≠ .dot) (closes : closer ≠ .dot) :
    Dotted stream (bracketed stream kind opener closer operand) := by
  have bracket {mark : Punctuation} (other : mark ≠ .dot) :
      Dotted stream (token stream (.punctuation mark)) :=
    dotted_token fun same => other (TokenKind.punctuation.inj same)
  exact (((bracket opens).append (each.spaced.append each.further.optional).optional).append
    (bracket closes)).node kind

/-- Operands with operators between them have the dots of each operand. -/
theorem Dotted.leftGrouped (each : Dotted stream operand) (kind : NodeKind)
    {operators : TokenKind → Bool} (other : operators (.punctuation .dot) = false) :
    Dotted stream (leftGrouped stream kind operators operand) :=
  each.chain (((dotted_word other).append each.spaced).around kind)

/-! ### Expressions -/

section

variable {inner : Nested → Operand} (below : ∀ which, Dotted stream (inner which))

include below

/-- In an argument a name stands behind every dot. -/
theorem dotted_argument : Dotted stream (Argument stream inner) := by
  intro start stop shape found
  cases found with
  | keyword named =>
    exact (((dotted_token (by decide)).append (dotted_token (by decide))).append
      (below .expression).spaced).node _ _ _ _ named
  | value plain => exact below .expression _ _ _ plain

/-- In a list of arguments a name stands behind every dot. -/
theorem dotted_argumentList : Dotted stream (argumentList stream inner) :=
  (dotted_argument below).bracketed _ (by decide) (by decide)

/-- In an entry of a dictionary a name stands behind every dot. -/
theorem dotted_dictEntry : Dotted stream (dictEntry stream inner) :=
  (((below .expression).spaced.append (dotted_token (by decide))).append
    (below .expression).spaced).node _

/-- In parentheses a name stands behind every dot. -/
theorem dotted_parenthesized : Dotted stream (Parenthesized stream inner) := by
  have opens : Dotted stream (token stream (.punctuation .leftParen)) := dotted_token (by decide)
  have closes : Dotted stream (token stream (.punctuation .rightParen)) := dotted_token (by decide)
  have first := opens.append (below .expression).spaced
  intro start stop shape found
  cases found with
  | empty pair => exact (opens.append closes).node _ _ _ _ pair
  | single group => exact (first.append closes).node _ _ _ _ group
  | tuple group =>
    exact ((first.append (below .expression).further).append closes).node _ _ _ _ group

/-- In an atom a name stands behind every dot. -/
theorem dotted_atom : Dotted stream (Atom stream inner) := by
  intro start stop shape found
  cases found with
  | name one => exact (dotted_token (by decide)).node _ _ _ _ one
  | string some => exact (dotted_token (by decide)).repeated.node _ _ _ _ some
  | number one => exact (dotted_word rfl).node _ _ _ _ one
  | truth one => exact (dotted_word rfl).node _ _ _ _ one
  | none one => exact (dotted_token (by decide)).node _ _ _ _ one
  | parenthesized group => exact dotted_parenthesized below _ _ _ group
  | list group => exact (below .expression).bracketed _ (by decide) (by decide) _ _ _ group
  | dict group => exact (dotted_dictEntry below).bracketed _ (by decide) (by decide) _ _ _ group

/-- Only here a dot is derived. -/
theorem dotted_trailing (inside : Shape) : Dotted stream (Postfix stream inner inside) := by
  intro start stop shape found
  cases found with
  | «attribute» name => exact dotted_attribute.around _ _ _ _ _ name
  | subscript index =>
    exact (((dotted_token (by decide)).append (below .expression).spaced).append
      (dotted_token (by decide))).around _ _ _ _ _ index
  | call arguments => exact (dotted_argumentList below).spaced.around _ _ _ _ _ arguments

/-- In an operand with filters a name stands behind every dot. -/
theorem dotted_filtered : Dotted stream (filtered stream inner) :=
  ((dotted_atom below).chain (dotted_trailing below)).chain
    ((((dotted_token (by decide)).append (dotted_token (by decide))).append
      (dotted_argumentList below).spaced.optional).around _)

/-- In a factor a name stands behind every dot. -/
theorem dotted_factor : Dotted stream (Factor stream inner) := by
  intro start stop shape found
  cases found with
  | signed sign => exact ((dotted_word rfl).append (below .factor).spaced).node _ _ _ _ sign
  | plain base => exact dotted_filtered below _ _ _ base
  | power base exponent =>
    exact (dotted_filtered below _ _ _ base).trans
      (((dotted_token (by decide)).append (below .factor).spaced).around _ _ _ _ _ exponent)

/-- In a sum a name stands behind every dot. -/
theorem dotted_sum : Dotted stream (sum stream inner) :=
  ((below .factor).leftGrouped _ rfl).leftGrouped _ rfl

/-- In a comparison a name stands behind every dot. -/
theorem dotted_comparison : Dotted stream (Comparison stream inner) := by
  have each := dotted_sum below
  have negated : Dotted stream (token stream (.keyword .notKw)) := dotted_token (by decide)
  intro start stop shape found
  cases found with
  | plain only => exact each _ _ _ only
  | compared left right =>
    exact (each _ _ _ left).trans (((dotted_word rfl).append each.spaced).around _ _ _ _ _ right)
  | excluded left right =>
    exact (each _ _ _ left).trans
      (((negated.append (dotted_token (by decide))).append each.spaced).around _ _ _ _ _ right)
  | tested left right =>
    exact (each _ _ _ left).trans
      ((((dotted_token (by decide)).append negated.optional).append
        each.spaced).around _ _ _ _ _ right)

/-- In a negation a name stands behind every dot. -/
theorem dotted_negation : Dotted stream (Negation stream inner) := by
  intro start stop shape found
  cases found with
  | negated operand =>
    exact ((dotted_token (by decide)).append (below .negation).spaced).node _ _ _ _ operand
  | plain only => exact dotted_comparison below _ _ _ only

/-- In a disjunction a name stands behind every dot. -/
theorem dotted_disjunction : Dotted stream (disjunction stream inner) :=
  ((dotted_negation below).leftGrouped _ rfl).leftGrouped _ rfl

/-- In a conditional expression a name stands behind every dot. -/
theorem dotted_conditional : Dotted stream (Conditional stream inner) := by
  have each := dotted_disjunction below
  have alternative : Dotted stream (token stream (.keyword .elseKw)) := dotted_token (by decide)
  intro start stop shape found
  cases found with
  | plain only => exact each _ _ _ only
  | condition value rest =>
    exact (each _ _ _ value).trans
      ((((dotted_token (by decide)).append each.spaced).append
        (alternative.append (below .expression).spaced).optional).around _ _ _ _ _ rest)

end

/-- Behind every dot in an expression stands a name, or what may be one. -/
theorem dotted_derives (levels : Nat) (which : Nested) :
    Dotted stream (derives stream levels which) := by
  induction levels generalizing which with
  | zero => exact fun _ _ _ found => absurd found id
  | succ levels ih =>
    cases which with
    | expression => exact dotted_conditional ih
    | disjunction => exact dotted_disjunction ih
    | negation => exact dotted_negation ih
    | factor => exact dotted_factor ih

end Grammar
end Stencil
