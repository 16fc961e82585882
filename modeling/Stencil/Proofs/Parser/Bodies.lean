import Stencil.Proofs.Parser.Headers
/-!
# Bodies are parsed as they are derived

A body is read item by item up to the tag that ends it or splits it, which no item begins with, and
its branches and its own end tag are found where the grammar puts them. `Stating` is what is assumed
of the statements in a body; `parses_bodyStatement` is what follows for a statement with a body.
-/

namespace Stencil
namespace Parser

open Grammar (Operand Leads space word token spaced node keyword)

variable {stream : TokenStream}

/-! ### Tags -/

variable (stream) in
/-- A tag of a keyword begins at a place. -/
def Marks (which : Keyword) (place : Nat) : Prop :=
  stream.kindAt? (stream.visible place) = some (.delimiter .blockStart) ∧
    stream.kindAt? (stream.visible (stream.visible place + 1)) = some (.keyword which)

section

variable {levels : Nat} {p q : Parser} {start middle stop : Nat} {shapes left right : List Shape}

/-- A header begins with its keyword. -/
theorem kindAt?_of_header {which : Keyword}
    (found : Grammar.header stream levels which start stop shapes) :
    stream.kindAt? (stream.visible start) = some (.keyword which) := by
  have first (which : Keyword) :
      Leads stream (fun other => other = .keyword which) (keyword stream which) :=
    Grammar.leads_word _
  have leads : Leads stream (fun other => other = .keyword which)
      (Grammar.header stream levels which) := by
    cases which with
    | forKw =>
      exact (((((first _).followedBy _).followedBy _).followedBy _).followedBy _).followedBy _
    | ifKw | elifKw | extendsKw | filterKw | autoescapeKw => exact (first _).followedBy _
    | setKw | blockKw | macroKw => exact ((first _).followedBy _).followedBy _
    | withKw | transKw | callKw | pluralizeKw => exact (first _).followedBy _
    | includeKw | importKw => exact (((first _).followedBy _).followedBy _).followedBy _
    | fromKw => exact ((((first _).followedBy _).followedBy _).followedBy _).followedBy _
    | elseKw | rawKw => exact first _
    | _ => exact fun start stop shapes found => first _ start stop shapes found.2
  have seen := leads start stop shapes found
  cases here : stream.kindAt? (stream.visible start) with
  | none =>
    rw [here] at seen
    contradiction
  | some kind =>
    rw [here] at seen
    rw [of_decide_eq_true seen]

/-- A tag begins with its start delimiter and its keyword. -/
theorem marks_of_tag {which : Keyword}
    (found : Grammar.tag stream levels which start stop shapes) : Marks stream which start := by
  obtain ⟨_, _, _, ⟨_, _, _, opener, inside, -⟩, -, -⟩ := found
  have next := kindAt?_of_header inside
  rw [opener.2.1] at next
  exact ⟨kindAt?_of_token opener, next⟩

/-- White space may stand before a tag. -/
theorem marks_of_visible {which : Keyword} (marks : Marks stream which (stream.visible start)) :
    Marks stream which start := by
  rw [Marks, stream.visible_visible] at marks
  exact marks

/-- A node that is a tag begins with it. -/
theorem marks_of_node {kind : NodeKind} {which : Keyword}
    (found : spaced stream (node kind (Grammar.tag stream levels which)) start stop shapes) :
    Marks stream which start := by
  obtain ⟨_, ⟨_, tag, -⟩, -⟩ := found
  exact marks_of_visible (marks_of_tag tag)

/-- The end of a tag belongs to no expression. -/
theorem upcoming_of_terminator {line : Bool}
    (found : Grammar.terminator stream line start stop shapes) : Upcoming stream [] start := by
  intro kind next
  cases found with
  | block tag closed =>
    rw [kindAt?_of_token closed] at next
    obtain rfl := Option.some.inj next
    exact Or.inr rfl
  | newline statement closed =>
    rw [kindAt?_of_token closed] at next
    obtain rfl := Option.some.inj next
    exact Or.inr rfl
  | exhausted statement beyond =>
    rw [beyond] at next
    contradiction

/-- The end of a tag is parsed. -/
theorem Parses.terminate {line : Bool} (parses : Parses stream p q middle left)
    (found : Grammar.terminator stream line middle stop right) :
    Parses stream p (q.terminate (if line then .newline else .delimiter .blockEnd)) stop
      (left ++ right) := by
  cases found with
  | block tag closed =>
    rw [tag, if_neg Bool.false_ne_true, Parser.terminate, if_pos (parses.at_token closed)]
    exact parses.bump closed
  | newline statement closed =>
    rw [statement, if_pos rfl, Parser.terminate, if_pos (parses.at_token closed)]
    exact parses.bump closed
  | exhausted statement beyond =>
    have nothing : q.current? = none := parses.current?.trans beyond
    have absent : ¬q.isAt .newline = true := not_isAt_of_none nothing
    rw [statement, if_pos rfl, Parser.terminate, if_neg absent, nothing, List.append_nil]
    exact parses

/-- A tag is parsed from its start delimiter to its end. -/
theorem parses_tagContents {which : Keyword}
    (found : Grammar.tag stream levels which p.position stop shapes) (source : p.stream = stream)
    (same : p.levels = levels) :
    Parses stream p (tagContents (some (.keyword which)) p) stop shapes := by
  obtain ⟨_, _, _, ⟨_, _, _, opener, inside, rfl⟩, closed, rfl⟩ := found
  have after := upcoming_of_terminator closed
  have opened := (parses_refl source).bump opener
  have headed := opened.trans (parses_header opened.later (opened.levels.trans same) after which
    (opened.stop.symm ▸ inside))
  have whole := headed.terminate closed
  have sees : p.nextMode? = stream.modeAfter? (stream.visible p.position) := by
    rw [nextMode?_eq, source]
  simp only [decide_eq_true_eq] at whole
  rw [tagContents, sees]
  exact whole

/-- A node that is a tag is parsed. -/
theorem parses_tag {which : Keyword} {kind : NodeKind}
    (found : spaced stream (node kind (Grammar.tag stream levels which)) p.position stop shapes)
    (source : p.stream = stream) (same : p.levels = levels) :
    Parses stream p (tag kind (some (.keyword which)) p) stop shapes := by
  obtain ⟨_, ⟨_, inside, rfl⟩, rfl⟩ := found
  have opened := parses_start source kind
  have entered : (p.start kind).levels = levels := (growing_skipSpace p).levels.trans same
  have whole := parses_tagContents (opened.stop.symm ▸ inside) opened.later entered
  exact (parses_refl source).node whole

/-! ### Text, comments and variable tags -/

/-- A run of text is parsed up to the next tag or comment. -/
theorem parses_text (found : spaced stream (Grammar.text stream) p.position stop shapes)
    (source : p.stream = stream) : Parses stream p p.text stop shapes := by
  obtain ⟨_, ⟨⟨_, inside, rfl⟩, beyond⟩, rfl⟩ := found
  have tests (q : Parser) :
      (q.current?.isSome && !q.atTagStart) = q.current?.any Grammar.isPlain := by
    rw [atTagStart, atAny]
    cases q.current? with
    | none => rfl
    | some kind => rfl
  have opened := parses_start source .text
  have whole := parses_run tests inside opened.later opened.stop beyond
  exact (parses_refl source).node whole

/-- Tokens are parsed up to one of a kind or to the end of the input. -/
theorem Parses.upTo {closer : TokenKind} (parses : Parses stream p q middle left)
    (found : (word stream fun kind => kind ≠ closer).repeated.optional middle stop right)
    (beyond : (stream.kindAt? (stream.visible stop)).any (fun kind => kind ≠ closer) = false) :
    Parses stream p (q.loop (fun q => q.current?.isSome && !q.isAt closer) Parser.bump) stop
      (left ++ right) := by
  have tests (q : Parser) : (q.current?.isSome && !q.isAt closer) =
      q.current?.any fun kind => kind ≠ closer := by
    rw [isAt]
    cases q.current? with
    | none => rfl
    | some kind => simp
  rcases found with ⟨rfl, rfl⟩ | found
  · rw [loop_of_not (by rw [tests, parses.current?]; exact beyond), List.append_nil]
    exact parses
  · exact parses.trans (parses_run tests found parses.later parses.stop beyond)

/-- A comment is parsed up to its end. -/
theorem parses_comment (found : spaced stream (Grammar.Comment stream) p.position stop shapes)
    (source : p.stream = stream) : Parses stream p p.comment stop shapes := by
  obtain ⟨_, found, rfl⟩ := found
  have sees : p.nextMode? = stream.modeAfter? (stream.visible p.position) := by
    rw [nextMode?_eq, source]
  have opens := parses_start source .comment
  rw [comment, sees]
  cases found with
  | block form closed =>
    obtain ⟨_, ⟨_, _, _, ⟨_, _, _, opener, inside, rfl⟩, closed, rfl⟩, rfl⟩ := closed
    have next := kindAt?_of_token closed
    have read := (opens.bump opener).upTo inside (by rw [next]; simp)
    have whole := (parses_refl source).node (read.bump closed)
    simp only [form, if_false]
    rw [if_pos (read.at_token closed)]
    exact whole
  | line form closed =>
    obtain ⟨_, ⟨_, _, _, ⟨_, _, _, opener, inside, rfl⟩, closed, rfl⟩, rfl⟩ := closed
    have next := kindAt?_of_token closed
    have read := (opens.bump opener).upTo inside (by rw [next]; simp)
    have whole := (parses_refl source).node (read.bump closed)
    simp only [form, if_true]
    rw [if_pos (read.at_token closed)]
    exact whole
  | lastLine form unclosed beyond =>
    obtain ⟨_, ⟨_, _, _, opener, inside, rfl⟩, rfl⟩ := unclosed
    have read := (opens.bump opener).upTo inside (by rw [beyond]; rfl)
    have whole := (parses_refl source).node read
    simp only [form, if_true]
    rw [if_neg (not_isAt_of_none (read.current?.trans beyond))]
    exact whole

/-- A variable tag is parsed. -/
theorem parses_variableTag
    (found : spaced stream (Grammar.variableTag stream levels) p.position stop shapes)
    (source : p.stream = stream) (same : p.levels = levels) :
    Parses stream p p.variableTag stop shapes := by
  obtain ⟨_, ⟨_, ⟨_, _, _, ⟨_, _, _, opener, value, rfl⟩, closed, rfl⟩, rfl⟩, rfl⟩ := found
  have entered : (p.start .variableTag).levels = levels := (growing_skipSpace p).levels.trans same
  have opened := (parses_start source .variableTag).bump opener
  have read := opened.expression entered value (ends_of_loose (kindAt?_of_token closed) rfl
    Nat.one_pos)
  have whole := (parses_refl source).node (read.bump closed)
  rw [Parser.variableTag, if_pos (read.at_token closed)]
  exact whole

/-- At text the parser sees what begins no tag. -/
theorem current?_of_text {shape : Shape} (source : p.stream = stream)
    (run : Grammar.text stream (stream.visible p.position) stop shape) :
    p.current?.any Grammar.isPlain = true := by
  obtain ⟨⟨_, inside, -⟩, -⟩ := run
  have first := (Grammar.leads_word _).repeated _ _ _ inside
  rw [stream.visible_visible] at first
  rw [(parses_refl source).current?]
  exact first

/-- At a comment the parser sees where it starts. -/
theorem current?_of_comment {shape : Shape} (source : p.stream = stream)
    (note : Grammar.Comment stream (stream.visible p.position) stop shape) :
    p.current? = some (.delimiter .commentStart) := by
  cases note with
  | block form closed =>
    obtain ⟨_, ⟨_, _, _, ⟨_, _, _, first, -, -⟩, -, -⟩, -⟩ := closed
    exact current?_of_token source first
  | line form closed =>
    obtain ⟨_, ⟨_, _, _, ⟨_, _, _, first, -, -⟩, -, -⟩, -⟩ := closed
    exact current?_of_token source first
  | lastLine form unclosed beyond =>
    obtain ⟨_, ⟨_, _, _, first, -, -⟩, -⟩ := unclosed
    exact current?_of_token source first

/-- At a variable tag the parser sees its start delimiter. -/
theorem current?_of_variableTag {shape : Shape} (source : p.stream = stream)
    (output : Grammar.variableTag stream levels (stream.visible p.position) stop shape) :
    p.current? = some (.delimiter .variableStart) := by
  obtain ⟨_, ⟨_, _, _, ⟨_, _, _, first, -, -⟩, -, -⟩, -⟩ := output
  exact current?_of_token source first

end

/-! ### Bodies -/

/-- A keyword with a body closes none and splits none. -/
theorem not_isCloser_of_closer? {opener closer : Keyword} (paired : opener.closer? = some closer) :
    opener.isCloser = false ∧ opener.isBranch = false := by
  cases opener <;> first | exact ⟨rfl, rfl⟩ | contradiction

/-- The keyword that closes a body is a closer. -/
theorem isCloser_of_closer? {opener closer : Keyword} (paired : opener.closer? = some closer) :
    closer.isCloser = true := by
  rw [Keyword.isCloser, (Keyword.opener?_eq_some_iff opener closer).2 paired]
  rfl

/-- What may split a body is a branch, and closes nothing. -/
theorem isBranch_of_mem {opener which : Keyword} (allowed : which ∈ opener.branches) :
    which.isBranch = true ∧ which.isCloser = false := by
  cases opener <;> simp [Keyword.branches] at allowed
  case ifKw => rcases allowed with rfl | rfl <;> exact ⟨rfl, rfl⟩
  all_goals
    obtain rfl := allowed
    exact ⟨rfl, rfl⟩

section

variable {p q : Parser} {start stop : Nat} {shapes : List Shape}

/-- At its own end tag a body has ended. -/
theorem bodyStop?_of_closer (opener : Keyword) {closer : Keyword}
    (marks : Marks stream closer start) (source : q.stream = stream) (begins : q.position = start) :
    q.bodyStop? opener closer = some .ended := by
  obtain rfl := begins
  have current := (parses_refl source).current?.trans marks.1
  have next := (parses_refl source).next?.trans marks.2
  simp only [bodyStop?, current, next, if_true]

/-- At a tag that may split it a body stops for the branch. -/
theorem bodyStop?_of_branch {opener closer which : Keyword} (paired : opener.closer? = some closer)
    (allowed : which ∈ opener.branches) (marks : Marks stream which start)
    (source : q.stream = stream) (begins : q.position = start) :
    q.bodyStop? opener closer = some (.branch which) := by
  obtain rfl := begins
  have current := (parses_refl source).current?.trans marks.1
  have next := (parses_refl source).next?.trans marks.2
  have other : which ≠ closer := by
    rintro rfl
    have closes := isCloser_of_closer? paired
    rw [(isBranch_of_mem allowed).2] at closes
    contradiction
  have splits : opener.branches.contains which = true := List.contains_iff_mem.2 allowed
  simp only [bodyStop?, current, next, if_neg other, splits, if_true]

/-- What is parsed while one more end tag is awaited is parsed. -/
theorem parses_closeBody {closer : TokenKind} (inside : Parses stream (p.openBody closer) q stop
    shapes) : Parses stream p q.closeBody stop shapes where
  source := inside.source
  reads := reads_closeBody inside.reads
  stop := inside.stop
  diagnostics := inside.diagnostics
  suppressed := inside.suppressed
  depthReported := inside.depthReported

end

variable (stream) in
/-- A step parses the statements at the tags of keywords that neither close nor split a body, where
so many levels of nesting are left. -/
structure Stating (levels : Nat) (statement : Step) (operand : Operand) : Prop where
  parses : ∀ (p : Parser) (stop : Nat) (shapes : List Shape), p.stream = stream →
    p.levels = levels → spaced stream operand p.position stop shapes →
    Parses stream p (statement p) stop shapes
  past : ∀ p : Parser, p.Past (statement p)
  marks : ∀ (start stop : Nat) (shapes : List Shape), spaced stream operand start stop shapes →
    ∃ which : Keyword, Marks stream which start ∧ which.isCloser = false ∧ which.isBranch = false

section

variable {levels : Nat} {statement : Step} {operand : Operand}
  (stating : Stating stream levels statement operand) {p q : Parser} {start middle stop : Nat}
  {shapes left right : List Shape}

include stating

/-- Every item is parsed. -/
theorem parses_contentItem
    (found : spaced stream (Grammar.Item stream levels operand) p.position stop shapes)
    (source : p.stream = stream) (same : p.levels = levels) :
    Parses stream p (contentItem statement p) stop shapes := by
  obtain ⟨shape, found, rfl⟩ := found
  cases found with
  | text run =>
    have current := current?_of_text source run
    have whole := parses_text ⟨shape, run, rfl⟩ source
    cases seen : p.current? with
    | none =>
      rw [seen] at current
      contradiction
    | some kind =>
      rw [seen] at current
      have chosen : contentItem statement p = p.text := by
        simp only [contentItem, seen]
        cases kind with
        | delimiter mark => cases mark <;> first | contradiction | rfl
        | _ => rfl
      rw [chosen]
      exact whole
  | comment note =>
    have whole := parses_comment ⟨shape, note, rfl⟩ source
    simp only [contentItem, current?_of_comment source note]
    exact whole
  | «variable» output =>
    have whole := parses_variableTag ⟨shape, output, rfl⟩ source same
    simp only [contentItem, current?_of_variableTag source output]
    exact whole
  | statement tag =>
    obtain ⟨which, marks, -⟩ := stating.marks _ _ _ ⟨shape, tag, rfl⟩
    have current := (parses_refl source).current?.trans marks.1
    simp only [contentItem, current]
    exact stating.parses p stop _ source same ⟨shape, tag, rfl⟩

/-- No item begins where a body stops. -/
theorem bodyStop?_of_item {opener closer : Keyword} (paired : opener.closer? = some closer)
    (found : spaced stream (Grammar.Item stream levels operand) p.position stop shapes)
    (source : p.stream = stream) : p.bodyStop? opener closer = none := by
  obtain ⟨shape, found, rfl⟩ := found
  cases found with
  | text run =>
    have current := current?_of_text source run
    cases seen : p.current? with
    | none =>
      rw [seen] at current
      contradiction
    | some kind =>
      rw [seen] at current
      simp only [bodyStop?, seen]
      cases kind with
      | delimiter mark => cases mark <;> first | contradiction | rfl
      | _ => rfl
  | comment note => simp only [bodyStop?, current?_of_comment source note]
  | «variable» output => simp only [bodyStop?, current?_of_variableTag source output]
  | statement tag =>
    obtain ⟨which, marks, opens, plain⟩ := stating.marks _ _ _ ⟨shape, tag, rfl⟩
    have current := (parses_refl source).current?.trans marks.1
    have next := (parses_refl source).next?.trans marks.2
    have other : which ≠ closer := by
      rintro rfl
      rw [isCloser_of_closer? paired] at opens
      contradiction
    have unsplit : opener.branches.contains which = false := by
      rw [Bool.eq_false_iff]
      intro allowed
      rw [(isBranch_of_mem (List.contains_iff_mem.1 allowed)).1] at plain
      contradiction
    simp only [bodyStop?, current, next, if_neg other, unsplit, opens, Bool.false_and,
      Bool.false_eq_true, if_false]

/-- Where an item begins there is a token. -/
theorem isSome_of_item
    (found : spaced stream (Grammar.Item stream levels operand) p.position stop shapes)
    (source : p.stream = stream) : p.current?.isSome := by
  obtain ⟨shape, found, rfl⟩ := found
  cases found with
  | text run => exact Option.isSome_of_any (current?_of_text source run)
  | comment note =>
    rw [current?_of_comment source note]
    rfl
  | «variable» output =>
    rw [current?_of_variableTag source output]
    rfl
  | statement tag =>
    obtain ⟨which, marks, -⟩ := stating.marks _ _ _ ⟨shape, tag, rfl⟩
    rw [(parses_refl source).current?, marks.1]
    rfl

section

variable {opener closer : Keyword} {reason : BodyStop} {times : Nat} {before : List Shape}
  (paired : opener.closer? = some closer) (same : p.levels = levels)
  (stops : ∀ q : Parser, q.stream = stream → q.position = stop →
    q.bodyStop? opener closer = some reason)

omit stating in
include stops in
/-- A body ends where it stops. -/
theorem body_of_stop (parses : Parses stream p q stop before) (enough : q.remaining < times) :
    body statement opener closer times q = (reason, q) := by
  cases times with
  | zero => omega
  | succ times =>
    rw [body, stops q parses.later parses.stop]

include paired same

/-- A body goes on after an item, with fewer tokens left. -/
theorem body_of_item (parses : Parses stream p q start before)
    (found : spaced stream (Grammar.Item stream levels operand) start middle shapes)
    (enough : q.remaining < times + 1) :
    body statement opener closer (times + 1) q =
        body statement opener closer times (contentItem statement q) ∧
      Parses stream q (contentItem statement q) middle shapes ∧
      (contentItem statement q).remaining < times := by
  have here := parses.stop.symm ▸ found
  have whole := parses_contentItem stating here parses.later (parses.levels.trans same)
  have past : q.Past (contentItem statement q) :=
    past_contentItem stating.past (isSome_of_item stating here parses.later)
  have fewer := past.remaining_lt (isSome_of_item stating here parses.later)
  rw [body, bodyStop?_of_item stating paired here parses.later]
  exact ⟨rfl, whole, by omega⟩

include stops

/-- The items of a body, one at least, are parsed up to where the body stops. -/
theorem parses_bodyItems
    (found :
      Grammar.Repeated (spaced stream (Grammar.Item stream levels operand)) start stop shapes)
    (parses : Parses stream p q start before) (enough : q.remaining < times) :
    ∃ r, body statement opener closer times q = (reason, r) ∧ Parses stream q r stop shapes := by
  induction found generalizing q before times with
  | last only =>
    cases times with
    | zero => omega
    | succ times =>
      obtain ⟨next, whole, fewer⟩ := body_of_item stating paired same parses only enough
      exact ⟨_, next.trans (body_of_stop stops (parses.trans whole) fewer), whole⟩
  | more first rest ih =>
    cases times with
    | zero => omega
    | succ times =>
      obtain ⟨next, whole, fewer⟩ := body_of_item stating paired same parses first enough
      obtain ⟨r, later, after⟩ := ih stops (parses.trans whole) fewer
      exact ⟨r, next.trans later, whole.trans after⟩

/-- The items of a body, if there are any, are parsed up to where the body stops. -/
theorem parses_body (found : Grammar.items stream levels operand p.position stop shapes)
    (source : p.stream = stream) (enough : p.remaining < times) :
    ∃ q, body statement opener closer times p = (reason, q) ∧ Parses stream p q stop shapes := by
  rcases found with ⟨rfl, rfl⟩ | found
  · exact ⟨p, body_of_stop stops (parses_refl source) enough, parses_refl source⟩
  · exact parses_bodyItems stating paired same stops found (parses_refl source) enough

end

/-! ### Branches -/

omit stating in
/-- A branch begins with its tag. -/
theorem marks_of_branch {which : Keyword} (found : spaced stream (node which.node
    (Grammar.tag stream levels which ++ Grammar.items stream levels operand)) start stop shapes) :
    Marks stream which start := by
  obtain ⟨_, ⟨_, ⟨_, _, _, tag, -⟩, -⟩, -⟩ := found
  exact marks_of_visible (marks_of_tag tag)

/-- One branch is parsed, with fewer tokens left. -/
theorem parses_branch {opener closer which : Keyword} {reason : BodyStop}
    (paired : opener.closer? = some closer)
    (stops : ∀ q : Parser, q.stream = stream → q.position = stop →
      q.bodyStop? opener closer = some reason)
    (found : spaced stream (node which.node (Grammar.tag stream levels which ++
      Grammar.items stream levels operand)) p.position stop shapes)
    (source : p.stream = stream) (same : p.levels = levels) :
    ∃ q, body statement opener closer
        ((tagContents (some (.keyword which)) (p.start which.node)).remaining + 1)
        (tagContents (some (.keyword which)) (p.start which.node)) = (reason, q) ∧
      Parses stream p q.finish stop shapes ∧ q.remaining < p.remaining := by
  have marks := marks_of_branch found
  have current : p.current?.isSome := by
    rw [(parses_refl source).current?, marks.1]
    rfl
  obtain ⟨_, ⟨_, ⟨_, _, _, tag, items, rfl⟩, rfl⟩, rfl⟩ := found
  have opened := parses_start source which.node
  have entered : (p.start which.node).levels = levels := (growing_skipSpace p).levels.trans same
  have tagged := parses_tagContents (opened.stop.symm ▸ tag) opened.later entered
  obtain ⟨q, stopped, inside⟩ := parses_body stating paired (tagged.levels.trans entered) stops
    (tagged.stop.symm ▸ items) tagged.later (Nat.lt_succ_self _)
  have past : p.Past q.finish := past_node which.node
    ((past_tagContents (some (.keyword which)) (p.start which.node)).trans inside.reads.grows.ahead)
  exact ⟨q, stopped, (parses_refl source).node (tagged.trans inside), past.remaining_lt current⟩

/-- What splits a body is parsed up to the end tag of the body. -/
theorem parses_branches {opener closer : Keyword} (paired : opener.closer? = some closer)
    (found : Grammar.branches stream levels operand opener start stop shapes)
    (closes : Marks stream closer stop) :
    ∃ reason, (∀ q : Parser, q.stream = stream → q.position = start →
        q.bodyStop? opener closer = some reason) ∧
      ∀ (p : Parser) (times : Nat), p.stream = stream → p.levels = levels → p.position = start →
        p.remaining < times → ∃ q, branches statement opener closer times reason p = (.ended, q) ∧
          Parses stream p q stop shapes := by
  induction found with
  | none =>
    refine ⟨.ended, fun q => bodyStop?_of_closer opener closes, fun p times source _ begins _ => ?_⟩
    obtain rfl := begins
    refine ⟨p, ?_, parses_refl source⟩
    cases times <;> rfl
  | @more _ _ _ _ _ which allowed first rest ih =>
    obtain ⟨reason, stops, later⟩ := ih closes
    refine ⟨.branch which, fun q => bodyStop?_of_branch paired allowed (marks_of_branch first),
      fun p times source same begins enough => ?_⟩
    obtain rfl := begins
    cases times with
    | zero => omega
    | succ times =>
      obtain ⟨q, stopped, whole, fewer⟩ := parses_branch stating paired stops first source same
      have less : q.finish.remaining < times := by
        have : q.finish.remaining = q.remaining := rfl
        omega
      obtain ⟨r, ended, after⟩ := later q.finish times whole.later (whole.levels.trans same)
        whole.stop less
      refine ⟨r, ?_, whole.trans after⟩
      rw [branches, stopped]
      exact ended

/-- A statement with a body is parsed. -/
theorem parses_bodyStatement {opener closer : Keyword} (paired : opener.closer? = some closer)
    (found : spaced stream (node opener.node (Grammar.tag stream levels opener ++
      Grammar.items stream levels operand ++ Grammar.branches stream levels operand opener ++
      spaced stream (node .endTag (Grammar.tag stream levels closer)))) p.position stop shapes)
    (source : p.stream = stream) (same : p.levels = levels) :
    Parses stream p (bodyStatement statement opener closer p) stop shapes := by
  obtain ⟨_, ⟨_, ⟨_, _, _, ⟨_, _, _, ⟨_, _, _, tag, items, rfl⟩, more, rfl⟩, last, rfl⟩, rfl⟩,
    rfl⟩ := found
  have closes := marks_of_node last
  have opened := parses_start source opener.node
  have entered : (p.start opener.node).levels = levels := (growing_skipSpace p).levels.trans same
  have tagged := parses_tagContents (opened.stop.symm ▸ tag) opened.later entered
  have within : ((tagContents (some (.keyword opener)) (p.start opener.node)).openBody
      (.keyword closer)).levels = levels := tagged.levels.trans entered
  obtain ⟨reason, stops, later⟩ := parses_branches stating paired more closes
  obtain ⟨q, stopped, inside⟩ := parses_body stating paired within stops
    (show Grammar.items stream levels operand _ _ _ from tagged.stop.symm ▸ items) tagged.later
    (Nat.lt_succ_self _)
  obtain ⟨r, ended, rest⟩ := later q (q.remaining + 1) inside.later (inside.levels.trans within)
    inside.stop (Nat.lt_succ_self _)
  have closed := tagged.trans (parses_closeBody (inside.trans rest))
  have ending := closed.trans (parses_tag (closed.stop.symm ▸ last) closed.later
    (closed.levels.trans entered))
  have whole := (parses_refl source).node ending
  rw [bodyStatement, stopped]
  dsimp only
  rw [ended, endTag, if_pos rfl]
  simpa only [List.append_assoc, List.nil_append] using whole

end

end Parser
end Stencil
