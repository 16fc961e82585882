import Stencil.Proofs.Parser.Bodies
import Stencil.Proofs.Parser.Coverage
/-!
# Templates are parsed as they are derived

By induction on the levels of nesting every statement is parsed, and so is every template:
`parse_derives` says that nothing is reported and that the tree is the one that the grammar derives.
-/

namespace Stencil
namespace Parser

open Grammar (Operand spaced node)

variable {stream : TokenStream}

/-! ### Statements -/

section

variable {levels : Nat} {p : Parser} {stop : Nat} {shapes : List Shape}

/-- A statement without a body is parsed. -/
theorem parses_plainStatement
    (found : spaced stream (Grammar.plainStatement stream levels) p.position stop shapes)
    (source : p.stream = stream) (same : p.levels = levels) :
    p.opensBody? = none ∧ Parses stream p (plainStatement (p.nth? 1) p) stop shapes := by
  obtain ⟨shape, ⟨which, bodiless, outer, unsplit, found⟩, rfl⟩ := found
  have marks := marks_of_node ⟨shape, found, rfl⟩
  have next := (parses_refl source).next?.trans marks.2
  have whole := parses_tag ⟨shape, found, rfl⟩ source same
  constructor
  · simp only [opensBody?, next, bodiless, Option.map_none]
  · simp only [plainStatement, next, outer, unsplit, Bool.false_eq_true, if_false]
    exact whole

/-- A statement with a body begins with the tag that opens it. -/
theorem marks_of_bodyStatement {operand : Operand} {opener closer : Keyword} {start : Nat}
    (found : spaced stream (node opener.node (Grammar.tag stream levels opener ++
      Grammar.items stream levels operand ++ Grammar.branches stream levels operand opener ++
      spaced stream (node .endTag (Grammar.tag stream levels closer)))) start stop shapes) :
    Marks stream opener start := by
  obtain ⟨_, ⟨_, ⟨_, _, _, ⟨_, _, _, ⟨_, _, _, tag, -⟩, -⟩, -⟩, -⟩, -⟩ := found
  exact marks_of_visible (marks_of_tag tag)

/-- A statement begins with the tag of a keyword that closes nothing and splits nothing. -/
theorem marks_of_statement {start : Nat}
    (found : spaced stream (Grammar.statements stream levels) start stop shapes) :
    ∃ which : Keyword, Marks stream which start ∧ which.isCloser = false ∧
      which.isBranch = false := by
  obtain ⟨shape, found, rfl⟩ := found
  have plain {levels : Nat}
      (found : Grammar.plainStatement stream levels (stream.visible start) stop shape) :
      ∃ which : Keyword, Marks stream which start ∧ which.isCloser = false ∧
        which.isBranch = false := by
    obtain ⟨which, -, outer, unsplit, found⟩ := found
    exact ⟨which, marks_of_node ⟨shape, found, rfl⟩, outer, unsplit⟩
  cases levels with
  | zero => exact plain found
  | succ levels =>
    rcases found with found | ⟨opener, closer, paired, found⟩
    · exact plain found
    · exact ⟨opener, marks_of_bodyStatement ⟨shape, found, rfl⟩, not_isCloser_of_closer? paired⟩

/-- Statements are parsed with as many levels left as they nest. -/
theorem stating_statementWithin (levels : Nat) :
    Stating stream levels (statementWithin levels) (Grammar.statements stream levels) := by
  induction levels with
  | zero =>
    refine ⟨fun p stop shapes source same found => ?_, past_statementWithin 0,
      fun start stop shapes => marks_of_statement⟩
    obtain ⟨bodiless, whole⟩ := parses_plainStatement found source same
    rw [statementWithin, bodiless]
    exact whole
  | succ levels ih =>
    refine ⟨fun p stop shapes source same found => ?_, past_statementWithin (levels + 1),
      fun start stop shapes => marks_of_statement⟩
    obtain ⟨shape, found | ⟨opener, closer, paired, found⟩, rfl⟩ := found
    · obtain ⟨bodiless, whole⟩ := parses_plainStatement ⟨shape, found, rfl⟩ source same
      rw [statementWithin, bodiless]
      exact whole
    · have deeper : p.descend.levels = levels := by
        rw [Parser.levels] at same
        simp only [Parser.levels, descend]
        omega
      have marks := marks_of_bodyStatement ⟨shape, found, rfl⟩
      have opens : p.opensBody? = some (opener, closer) := by
        have next := (parses_refl source).next?.trans marks.2
        simp only [opensBody?, next, paired, Option.map_some]
      have inside := @parses_bodyStatement stream levels _ _ ih p.descend stop _ opener closer
        paired ⟨shape, found, rfl⟩ source deeper
      rw [statementWithin, opens]
      exact parses_ascend inside

end

/-- Every statement is parsed at whatever level it stands. -/
theorem stating_statement (levels : Nat) :
    Stating stream levels statement (Grammar.statements stream levels) where
  parses p stop shapes source same found := by
    rw [statement, same]
    exact (stating_statementWithin levels).parses p stop shapes source same found
  past := past_statement
  marks _ _ _ := marks_of_statement

/-! ### Templates -/

section

variable {levels : Nat} {p : Parser} {start stop : Nat} {shapes : List Shape}

/-- The items of a template, one at least, are parsed up to its end. -/
theorem parses_templateItems (found : Grammar.Repeated (spaced stream
      (Grammar.Item stream levels (Grammar.statements stream levels))) start stop shapes)
    (source : p.stream = stream) (begins : p.position = start) (same : p.levels = levels)
    (beyond : stream.kindAt? (stream.visible stop) = none) :
    Parses stream p (p.loop (fun p => p.current?.isSome) item) stop shapes := by
  have stating := @stating_statement stream levels
  have next {start stop : Nat} {shapes : List Shape} {q : Parser} (source : q.stream = stream)
      (begins : q.position = start) (same : q.levels = levels) (found : spaced stream
        (Grammar.Item stream levels (Grammar.statements stream levels)) start stop shapes) :
      q.loop (fun p => p.current?.isSome) item = q.item.loop (fun p => p.current?.isSome) item ∧
        Parses stream q q.item stop shapes := by
    obtain rfl := begins
    exact ⟨loop_of_test (fun q seen => seen) (fun q seen => past_item seen)
      (isSome_of_item stating found source), parses_contentItem stating found source same⟩
  induction found generalizing p with
  | last only =>
    obtain ⟨goesOn, whole⟩ := next source begins same only
    have ended : p.item.loop (fun p => p.current?.isSome) item = p.item :=
      loop_of_not (by rw [whole.current?, beyond]; rfl)
    rw [goesOn, ended]
    exact whole
  | more first rest ih =>
    obtain ⟨goesOn, whole⟩ := next source begins same first
    rw [goesOn]
    exact whole.trans (ih whole.later whole.stop (whole.levels.trans same) beyond)

end

end Parser

/-- Every template that the grammar derives within the levels of nesting is parsed into the tree of
its derivation, and nothing is reported. -/
theorem TokenStream.parse_derives {stream : TokenStream} {limits : ParseLimits}
    {shapes : List Shape} (derivation : Grammar.Template stream limits.depth shapes) :
    (stream.parse limits).diagnostics = #[] ∧ (stream.parse limits).statistics.suppressed = 0 ∧
      Draws (stream.parse limits).tree.nodes (.node (stream.parse limits).tree.root)
        (.node .template shapes) := by
  obtain ⟨stop, inside, found, beyond, rfl⟩ := derivation
  let p := Parser.ofStream stream limits
  have opened := @Parser.parses_start stream p rfl .template
  have same : (p.start .template).levels = limits.depth := (Parser.growing_skipSpace p).levels
  obtain ⟨diagnostics, suppressed, -⟩ := p.takeSpace_quiet p.remaining
  have read : Parser.Parses stream (p.start .template)
      ((p.start .template).loop (fun p => p.current?.isSome) Parser.item) stop inside := by
    rcases found with ⟨rfl, rfl⟩ | found
    · have idle : (p.start .template).loop (fun p => p.current?.isSome) Parser.item =
          p.start .template := Parser.loop_of_not (by rw [opened.current?]; exact beyond ▸ rfl)
      rw [idle]
      exact opened
    · exact Parser.parses_templateItems found opened.later opened.stop same beyond
  have whole := read.trans (read.stop ▸ Parser.parses_skipSpace read.later)
  have ended := Parser.remaining_skipSpace_of_current?_none (read.current?.trans beyond)
  have drawn := Parser.draws_of_reads whole.reads ended
  have still (q : Parser) (ended : q.remaining = 0) : q.finish.close.diagnostics = q.diagnostics ∧
      q.finish.close.statistics.suppressed = q.suppressed := by
    rw [Parser.close_of_ended (show q.finish.remaining = 0 from ended)]
    exact ⟨rfl, rfl⟩
  obtain ⟨recorded, counted⟩ := still _ ended
  exact ⟨recorded.trans (whole.diagnostics.trans diagnostics),
    counted.trans (whole.suppressed.trans suppressed), drawn.1⟩

/-- A condition with an alternative that is empty, read with just the levels that it takes: one for
its body, and two for the name that is its condition. -/
theorem TokenStream.parse_derives_alternative :
    let stream : TokenStream := ⟨"\x7b% if a%\x7dx\x7b%else%\x7d\x7b%endif%\x7d",
      #[⟨.delimiter .blockStart, 0, 2⟩, ⟨.whitespace, 2, 3⟩, ⟨.keyword .ifKw, 3, 5⟩,
        ⟨.whitespace, 5, 6⟩, ⟨.identifier, 6, 7⟩, ⟨.delimiter .blockEnd, 7, 9⟩, ⟨.text, 9, 10⟩,
        ⟨.delimiter .blockStart, 10, 12⟩, ⟨.keyword .elseKw, 12, 16⟩,
        ⟨.delimiter .blockEnd, 16, 18⟩, ⟨.delimiter .blockStart, 18, 20⟩,
        ⟨.keyword .endIf, 20, 25⟩, ⟨.delimiter .blockEnd, 25, 27⟩],
      #[.template, .blockTag, .blockTag, .blockTag, .blockTag, .blockTag, .template, .template,
        .blockTag, .blockTag, .template, .blockTag, .blockTag], .template⟩
    let shape : Shape := .node .ifBlock [.token 0, .token 1, .token 2, .token 3,
      .node .variableReference [.token 4], .token 5, .node .text [.token 6],
      .node .elseBlock [.token 7, .token 8, .token 9],
      .node .endTag [.token 10, .token 11, .token 12]]
    Grammar.Template stream 3 [shape] ∧ (stream.parse ⟨3, 1⟩).diagnostics = #[] ∧
      Draws (stream.parse ⟨3, 1⟩).tree.nodes (.node (stream.parse ⟨3, 1⟩).tree.root)
        (.node .template [shape]) := by
  intro stream shape
  have value : Grammar.expression stream 2 3 5
      [.token 3, .node .variableReference [.token 4]] := by
    refine ⟨.node .variableReference [.token 4], ?_, rfl⟩
    have name : Grammar.filtered stream (Grammar.derives stream 0) 4 5
        (.node .variableReference [.token 4]) :=
      .single (.single (.name ⟨_, ⟨by decide, by decide, rfl⟩, rfl⟩))
    exact .plain (.single (.single (.plain (.plain (.single (.single (.plain name)))))))
  have opening : Grammar.tag stream 2 .ifKw 0 6 [.token 0, .token 1, .token 2, .token 3,
      .node .variableReference [.token 4], .token 5] :=
    ⟨5, _, _, ⟨1, _, _, ⟨by decide, by decide, rfl⟩,
      ⟨3, _, _, ⟨by decide, by decide, rfl⟩, value, rfl⟩, rfl⟩,
      .block (by decide) ⟨by decide, by decide, rfl⟩, rfl⟩
  have alternative : Grammar.tag stream 2 .elseKw 7 10 [.token 7, .token 8, .token 9] :=
    ⟨9, _, _, ⟨8, _, _, ⟨by decide, by decide, rfl⟩, ⟨by decide, by decide, rfl⟩, rfl⟩,
      .block (by decide) ⟨by decide, by decide, rfl⟩, rfl⟩
  have closing : Grammar.tag stream 2 .endIf 10 13 [.token 10, .token 11, .token 12] :=
    ⟨12, _, _, ⟨11, _, _, ⟨by decide, by decide, rfl⟩, ⟨rfl, by decide, by decide, rfl⟩, rfl⟩,
      .block (by decide) ⟨by decide, by decide, rfl⟩, rfl⟩
  have content : Grammar.items stream 2 (Grammar.statements stream 2) 6 7
      [.node .text [.token 6]] :=
    .inr (.last ⟨_, .text ⟨⟨_, .last ⟨by decide, by decide, rfl⟩, rfl⟩, by decide⟩, rfl⟩)
  have allowed : Keyword.elseKw ∈ Keyword.ifKw.branches := by decide
  have branch : Grammar.spaced stream (Grammar.node Keyword.elseKw.node
      (Grammar.tag stream 2 .elseKw ++ Grammar.items stream 2 (Grammar.statements stream 2))) 7 10
      [.node .elseBlock [.token 7, .token 8, .token 9]] :=
    ⟨_, ⟨_, ⟨10, _, _, alternative, .inl ⟨rfl, rfl⟩, rfl⟩, rfl⟩, rfl⟩
  have split : Grammar.branches stream 2 (Grammar.statements stream 2) .ifKw 7 10
      [.node .elseBlock [.token 7, .token 8, .token 9]] :=
    Grammar.Branches.more allowed branch .none
  have whole : Grammar.statements stream 3 0 13 shape :=
    .inr ⟨.ifKw, .endIf, rfl, _, ⟨10, _, _, ⟨7, _, _, ⟨6, _, _, opening, content, rfl⟩, split, rfl⟩,
      ⟨_, ⟨_, closing, rfl⟩, rfl⟩, rfl⟩, rfl⟩
  have derivation : Grammar.Template stream 3 [shape] :=
    ⟨13, [shape], .inr (.last ⟨shape, .statement whole, rfl⟩), by decide, rfl⟩
  have parsed := @TokenStream.parse_derives stream ⟨3, 1⟩ [shape] derivation
  exact ⟨derivation, parsed.1, parsed.2.2⟩

end Stencil
