import Stencil.Proofs.Grammar.Dotted
import Stencil.Proofs.Lexer.Accesses
import Stencil.Proofs.Outline.Content
import Stencil.Proofs.Parser.Soundness
/-!
# Names with accesses are parsed

A variable tag with a name and accesses after it is parsed into the nodes of the accesses, each
around all before, if no item stands directly after an item.
-/

namespace Stencil

open Grammar (Operand Chain space token spaced node around)

/-! ### Tokens in a row -/

namespace TokenStream

variable {stream : TokenStream} {place : Nat} {kind : TokenKind} {kinds more : List TokenKind}

/-- From a place on the tokens are of these kinds. -/
def Shows (stream : TokenStream) (place : Nat) (kinds : List TokenKind) : Prop :=
  ∀ ahead kind, kinds[ahead]? = some kind → stream.kindAt? (place + ahead) = some kind

/-- The first of the kinds is that of the token at the place. -/
theorem Shows.head (shows : stream.Shows place (kind :: kinds)) :
    stream.kindAt? place = some kind := shows 0 kind rfl

/-- The kinds after the first are those of the tokens behind it. -/
theorem Shows.tail (shows : stream.Shows place (kind :: kinds)) :
    stream.Shows (place + 1) kinds := by
  intro ahead other listed
  rw [Nat.add_assoc, Nat.add_comm 1]
  exact shows (ahead + 1) other listed

/-- No token of a row has a kind that is none of its kinds. -/
theorem Shows.kindAt?_ne (shows : stream.Shows place kinds) (other : ∀ each ∈ kinds, each ≠ kind)
    {index : Nat} (after : place ≤ index) (before : index < place + kinds.length) :
    stream.kindAt? index ≠ some kind := by
  obtain ⟨ahead, rfl⟩ := Nat.exists_eq_add_of_le after
  have inside : ahead < kinds.length := by omega
  rw [shows ahead kinds[ahead] (List.getElem?_eq_getElem inside)]
  exact fun same => other _ (List.getElem_mem inside) (Option.some.inj same)

/-- The second part of a row stands behind the first. -/
theorem Shows.right (shows : stream.Shows place (kinds ++ more)) :
    stream.Shows (place + kinds.length) more := by
  intro ahead other listed
  rw [Nat.add_assoc]
  refine shows _ other ?_
  rw [List.getElem?_append_right (Nat.le_add_right _ _), Nat.add_sub_cancel_left]
  exact listed

/-- The first part of a row stands where the row does. -/
theorem Shows.left (shows : stream.Shows place (kinds ++ more)) : stream.Shows place kinds := by
  intro ahead other listed
  refine shows _ other ?_
  rw [List.getElem?_append_left (List.getElem?_eq_some_iff.1 listed).1]
  exact listed

/-- A token that is no white space is visible from its place. -/
theorem visible_of_kindAt? (here : stream.kindAt? place = some kind) (solid : kind ≠ .whitespace) :
    stream.visible place = place :=
  stream.visible_of_not_space fun blank => solid (Option.some.inj (here.symm.trans blank))

/-- Behind white space the next token is visible. -/
theorem visible_of_blank (blank : stream.kindAt? place = some .whitespace)
    (here : stream.kindAt? (place + 1) = some kind) (solid : kind ≠ .whitespace) :
    stream.visible place = place + 1 :=
  (stream.visible_of_space blank).trans (stream.visible_of_kindAt? here solid)

end TokenStream

/-! ### Derivations -/

namespace Grammar

variable {stream : TokenStream} {place : Nat} {kind : TokenKind}

/-- A token at its place is derived by its kinds. -/
theorem word_of_kindAt? {kinds : TokenKind → Bool} (here : stream.kindAt? place = some kind)
    (solid : kind ≠ .whitespace) (among : kinds kind = true) :
    word stream kinds place (place + 1) [.token place] := by
  have seen := stream.visible_of_kindAt? here solid
  refine ⟨?_, by rw [seen], by rw [Nat.add_sub_cancel_left]; rfl⟩
  rw [seen, here]
  exact among

/-- A token other than white space is derived as the token of its kind. -/
theorem token_of_kindAt? (here : stream.kindAt? place = some kind) (solid : kind ≠ .whitespace) :
    token stream kind place (place + 1) [.token place] :=
  word_of_kindAt? here solid (decide_eq_true rfl)

/-- An operand that begins at its place. -/
theorem spaced_of_visible {operand : Operand} {stop : Nat} {shape : Shape}
    (seen : stream.visible place = place) (found : operand place stop shape) :
    spaced stream operand place stop [shape] := by
  refine ⟨shape, by rwa [seen], ?_⟩
  rw [space, seen, Nat.sub_self]
  rfl

/-- A primary is an expression, two levels further up. -/
theorem expression_of_primary {levels start stop : Nat} {shape : Shape}
    (found : primary stream (derives stream levels) start stop shape) :
    derives stream (levels + 2) .expression start stop shape :=
  .plain (.single (.single (.plain (.plain (.single (.single (.plain (.single found))))))))

/-- A whole number is an expression. -/
theorem expression_of_integer {levels : Nat}
    (here : stream.kindAt? place = some (.literal .integer)) :
    subexpression stream (derives stream (levels + 2)) place (place + 1)
      [.node .numberLiteral [.token place]] :=
  spaced_of_visible (stream.visible_of_kindAt? here nofun) (expression_of_primary
    (.single (.number ⟨_, word_of_kindAt? here nofun rfl, rfl⟩)))

end Grammar

namespace Access

/-- The node of an access whose tokens begin at a place. -/
def shape (place : Nat) (inside : Shape) : Access → Shape
  | .member _ | .item _ => .node .attributeAccess [inside, .token place, .token (place + 1)]
  | .subscript _ => .node .subscriptAccess
      [inside, .token place, .node .numberLiteral [.token (place + 1)], .token (place + 2)]
  | .call => .node .functionCall
      [inside, .node .argumentList [.token place, .token (place + 1)]]

/-- The nodes of accesses, each around those before. -/
def nested (place : Nat) (inside : Shape) : List Access → Shape
  | [] => inside
  | step :: steps => nested (place + step.tokens.length) (step.shape place inside) steps

variable {stream : TokenStream} {levels place start : Nat} {inside : Shape}

/-- Every access is derived where its tokens stand. -/
theorem postfix_of_shows (step : Access) (shows : stream.Shows place (step.tokens.map (·.1))) :
    Grammar.Postfix stream (Grammar.derives stream (levels + 2)) inside place
      (place + step.tokens.length) (step.shape place inside) := by
  cases step with
  | member name =>
    exact .attribute ⟨_, ⟨_, _, _, Grammar.token_of_kindAt? shows.head nofun,
      Grammar.word_of_kindAt? shows.tail.head nofun rfl, rfl⟩, rfl⟩
  | item index =>
    exact .attribute ⟨_, ⟨_, _, _, Grammar.token_of_kindAt? shows.head nofun,
      Grammar.word_of_kindAt? shows.tail.head nofun rfl, rfl⟩, rfl⟩
  | subscript index =>
    exact .subscript ⟨_, ⟨_, _, _, ⟨_, _, _, Grammar.token_of_kindAt? shows.head nofun,
      Grammar.expression_of_integer shows.tail.head, rfl⟩,
      Grammar.token_of_kindAt? shows.tail.tail.head nofun, rfl⟩, rfl⟩
  | call =>
    refine .call ⟨_, ?_, rfl⟩
    refine Grammar.spaced_of_visible (stream.visible_of_kindAt? shows.head nofun) ⟨_, ?_, rfl⟩
    exact ⟨_, _, _, ⟨_, _, _, Grammar.token_of_kindAt? shows.head nofun, .inl ⟨rfl, rfl⟩, rfl⟩,
      Grammar.token_of_kindAt? shows.tail.head nofun, rfl⟩

/-- Accesses are derived one around another. -/
theorem chain_of_shows (steps : List Access)
    (before : Grammar.primary stream (Grammar.derives stream (levels + 2)) start place inside)
    (shows : stream.Shows place ((steps.flatMap tokens).map (·.1))) :
    Grammar.primary stream (Grammar.derives stream (levels + 2)) start
      (place + (steps.flatMap tokens).length) (nested place inside steps) := by
  induction steps generalizing place inside with
  | nil => exact before
  | cons step steps ih =>
    rw [List.flatMap_cons, List.map_append] at shows
    have further := ih (.grow before (postfix_of_shows step shows.left))
      (by rw [← List.length_map]; exact shows.right)
    rw [List.flatMap_cons, List.length_append, ← Nat.add_assoc]
    exact further

/-- The number of tokens of accesses that are apart. -/
def width (steps : List Access) : Nat := (steps.flatMap tokens).length

/-- The tree of a variable tag with a name and accesses after it. -/
def tag (steps : List Access) : Shape :=
  .node .variableTag [.token 0, .token 1, nested 3 (.node .variableReference [.token 2]) steps,
    .token (3 + width steps), .token (3 + width steps + 1)]

/-- Such a tag is an item of a template. -/
theorem item_of_shows (name : Identifier) {steps : List Access} (apart : Apart steps)
    (shows : stream.Shows 0 ((whole name steps).map (·.1))) {statement : Operand} :
    Grammar.Item stream (levels + 4) statement 0 (3 + width steps + 2) (tag steps) := by
  rw [whole, inside, row_of_apart apart, List.map_cons, List.cons_append, List.map_cons,
    List.cons_append, List.map_cons, List.append_assoc, List.map_append] at shows
  have opening := shows.head
  have blank := shows.tail.head
  have first := shows.tail.tail.head
  have accesses := shows.tail.tail.tail
  have behind := accesses.right
  rw [List.length_map] at behind
  have name : Grammar.primary stream (Grammar.derives stream (levels + 2)) 2 3
      (.node .variableReference [.token 2]) :=
    .single (.name ⟨_, Grammar.token_of_kindAt? first (by decide), rfl⟩)
  have value : Grammar.expression stream (levels + 4) 1 (3 + width steps)
      [.token 1, nested 3 (.node .variableReference [.token 2]) steps] := by
    have solid : TokenKind.identifier ≠ .whitespace := by decide
    have seen := stream.visible_of_blank blank first solid
    refine ⟨_, ?_, by rw [space, seen]; rfl⟩
    rw [seen]
    exact Grammar.expression_of_primary (chain_of_shows steps name accesses.left)
  have closing : token stream (.delimiter .variableEnd) (3 + width steps) (3 + width steps + 2)
      [.token (3 + width steps), .token (3 + width steps + 1)] := by
    have seen := stream.visible_of_blank behind.head behind.tail.head (by decide)
    refine ⟨?_, by rw [width, seen], by rw [Nat.add_sub_cancel_left]; rfl⟩
    rw [width, seen, behind.tail.head]
    rfl
  exact .variable ⟨_, ⟨_, _, _, ⟨_, _, _, Grammar.token_of_kindAt? opening (by decide), value, rfl⟩,
    closing, rfl⟩, rfl⟩

end Access

/-- A stream that is one item is parsed into a template with it, and nothing is reported. -/
theorem TokenStream.parse_of_item {stream : TokenStream} {limits : ParseLimits} {stop : Nat}
    {shape : Shape} (found : Grammar.Item stream limits.depth
      (Grammar.statements stream limits.depth) 0 stop shape) (begins : stream.visible 0 = 0)
    (ends : stream.size = stop) :
    (stream.parse limits).diagnostics = #[] ∧ (stream.parse limits).statistics.suppressed = 0 ∧
      Draws (stream.parse limits).tree.nodes (.node (stream.parse limits).tree.root)
        (.node .template [shape]) := by
  have opened := @Parser.parses_start stream (Parser.ofStream stream limits) rfl .template
  have same := (Parser.growing_skipSpace (Parser.ofStream stream limits)).levels
  obtain ⟨diagnostics, suppressed, -⟩ :=
    (Parser.ofStream stream limits).takeSpace_quiet (Parser.ofStream stream limits).remaining
  have beyond : stream.kindAt? stop = none := stream.kindAt?_eq_none.2 (Nat.le_of_eq ends)
  have last : stream.visible stop = stop := stream.visible_of_not_space (by rw [beyond]; nofun)
  have only : Grammar.Repeated (spaced stream (Grammar.Item stream limits.depth
      (Grammar.statements stream limits.depth))) 0 stop [shape] :=
    .last (Grammar.spaced_of_visible begins found)
  have read := Parser.parses_templateItems only opened.later (opened.stop.trans begins) same
    (by rw [last]; exact beyond)
  have rest := Parser.parses_skipSpace read.later
  rw [read.stop, last, space, last, Nat.sub_self] at rest
  have whole := read.trans rest
  obtain ⟨drawn, recorded, counted⟩ := TokenStream.parse_of_reads whole.reads
  exact ⟨recorded.trans (whole.diagnostics.trans diagnostics),
    counted.trans (whole.suppressed.trans suppressed), drawn⟩

/-! ### What no report means -/

namespace Parser

variable {p : Parser}

/-- Taking tokens reports nothing. -/
theorem reports_loop_bump (test : Parser → Bool) (p : Parser) :
    (p.loop test bump).reports = p.reports :=
  loop_keeps (fun q same _ => (reports_bump q).trans same) rfl

/-- An optional token reports nothing. -/
theorem reports_skip (kind : TokenKind) (p : Parser) : (p.skip kind).reports = p.reports := by
  rw [Parser.skip, eat]
  split
  · exact reports_bump p
  · rfl

/-- Tokens that are skipped report nothing. -/
theorem reports_skipUntil (closer : TokenKind) (p : Parser) :
    (p.skipUntil closer).reports = p.reports := by
  rw [skipUntil]
  split
  · rfl
  · rw [reports_finish, reports_loop_bump, reports_start]

/-- If nothing is reported of a variable tag, its expression is derived up to the closing
delimiter. -/
theorem derives_of_silent {stream : TokenStream} (source : p.stream = stream)
    (begins : stream.kindAt? p.position = some (.delimiter .variableStart))
    (silent : p.variableTag.reports = 0) :
    ∃ levels stop shapes, Grammar.expression stream levels (p.position + 1) stop shapes ∧
      stream.kindAt? (stream.visible stop) = some (.delimiter .variableEnd) := by
  have seen := stream.visible_of_kindAt? begins nofun
  have opened := parses_start source .variableTag
  rw [seen] at opened
  have bumped := opened.bump (Grammar.token_of_kindAt? begins nofun)
  obtain ⟨-, -, answer⟩ := sound_nested (p.start .variableTag).bump.levels .expression
    (p.start .variableTag).bump bumped.later
  rw [← expression] at answer
  rw [variableTag] at silent
  generalize (p.start .variableTag).bump.expression = q at answer silent
  by_cases closed : q.isAt (.delimiter .variableEnd) = true
  · rw [if_pos closed, reports_finish, reports_bump] at silent
    obtain ⟨shapes, found, parses⟩ := answer.resolve_left (by omega)
    rw [bumped.stop] at found
    exact ⟨_, _, shapes, found, (parses.isAt_iff _).1 closed⟩
  · rw [if_neg closed, reports_finish, reports_skip, reports_skipUntil, reports_error] at silent
    exact absurd silent (Nat.succ_ne_zero _)

/-- If nothing is reported of a stream, nothing is reported of its first item. -/
theorem reports_item_of_quiet {stream : TokenStream} {limits : ParseLimits}
    (kept : 0 < limits.diagnostics) (quiet : (stream.parse limits).diagnostics = #[])
    (some : stream.kindAt? (stream.visible 0) ≠ none) :
    ((ofStream stream limits).start .template).item.reports = 0 := by
  let p := ofStream stream limits
  let first := p.start .template
  have opened := @parses_start stream p rfl .template
  have inside : first.Inside first.levels [] :=
    ⟨p.reads_skipSpace.awaited, p.reads_skipSpace.depth, rfl⟩
  have told : first.Told [] := (p.raises_start .template) [] (told_ofStream stream limits)
  obtain ⟨shapes, raised, reads, holds, -⟩ := outlined_item first inside _ told
  have rest : first.item.Outlined first.levels .items []
      (first.item.loop (fun p => p.current?.isSome) item).skipSpace :=
    (loop_keeps (fun q before _ => before.trans (outlined_item q))
      (outlined_refl first.item)).trans (outlined_skipSpace _)
  obtain ⟨more, further, reads', holds', -⟩ := rest (inside.of_reads reads) _ holds
  have goesOn : first.loop (fun p => p.current?.isSome) item =
      first.item.loop (fun p => p.current?.isSome) item :=
    loop_of_test (fun q seen => seen) (fun q seen => past_item seen) (by
      rw [opened.current?, stream.visible_visible]
      exact Option.isSome_iff_ne_none.2 some)
  rw [← goesOn] at reads' holds'
  obtain ⟨-, recorded, -⟩ := TokenStream.parse_of_reads (reads.trans reads')
  have limited := (reads.trans reads').limits.trans p.reads_skipSpace.limits
  have none := holds'.kept
  rw [← recorded, quiet, limited, List.nil_eq, List.take_eq_nil_iff] at none
  obtain ⟨rfl, -⟩ := List.append_eq_nil_iff.1 (none.resolve_left (Nat.ne_of_gt kept))
  have calm : first.item.Told [] := holds
  have counted := calm.counted
  have listed := calm.kept
  rw [List.take_nil, Array.toList_eq_nil_iff] at listed
  rw [List.length_nil, Nat.zero_sub] at counted
  change first.item.diagnostics.size + first.item.suppressed = 0
  rw [listed, counted]
  rfl

end Parser

namespace TokenStream

variable {stream : TokenStream} {limits : ParseLimits}

/-- If nothing is reported of a stream that begins with a variable tag, names stand behind all dots
up to the closing delimiter. -/
theorem namesDots_of_quiet (kept : 0 < limits.diagnostics)
    (quiet : (stream.parse limits).diagnostics = #[])
    (begins : stream.kindAt? 0 = some (.delimiter .variableStart)) :
    ∃ stop, stream.NamesDots 1 stop ∧
      stream.kindAt? (stream.visible stop) = some (.delimiter .variableEnd) := by
  have seen := stream.visible_of_kindAt? begins nofun
  have opened := @Parser.parses_start stream (Parser.ofStream stream limits) rfl .template
  have position : ((Parser.ofStream stream limits).start .template).position = 0 :=
    opened.stop.trans seen
  have silent := Parser.reports_item_of_quiet kept quiet (by rw [seen, begins]; nofun)
  have current : ((Parser.ofStream stream limits).start .template).current? =
      some (.delimiter .variableStart) := by
    rw [opened.current?, stream.visible_visible]
    exact (congrArg _ seen).trans begins
  rw [Parser.item, Parser.contentItem, current] at silent
  obtain ⟨levels, stop, shapes, found, closed⟩ :=
    Parser.derives_of_silent opened.later (by rw [position]; exact begins) silent
  rw [position] at found
  exact ⟨stop, (Grammar.dotted_derives levels .expression).spaced _ _ _ found, closed⟩

/-- The tokens of a row are those of these kinds. -/
theorem shows_of_spelled {source : String} {row : List Spelled}
    (same : stream.tokens.toList.map (Token.spelled · source) = row) :
    stream.Shows 0 (row.map (·.1)) ∧ stream.size = row.length := by
  subst same
  constructor
  · intro ahead kind listed
    rw [Nat.zero_add, kindAt?, ← Array.getElem?_toList, ← listed, List.getElem?_map,
      List.getElem?_map, Option.map_map]
    rfl
  · rw [List.length_map, Array.length_toList, size]

end TokenStream

namespace Access

/-- No delimiter ends a tag before its end. -/
theorem row_loose (steps : List Access) :
    ∀ token ∈ row steps, token.1 ≠ .delimiter .variableEnd := by
  fun_induction row steps with
  | case1 one two steps ih =>
    have point : TokenKind.punctuation .dot ≠ .delimiter .variableEnd := by decide
    have number : TokenKind.literal .float ≠ .delimiter .variableEnd := by decide
    rw [List.forall_mem_cons, List.forall_mem_cons]
    exact ⟨point, number, ih⟩
  | case2 step steps _ ih =>
    rw [List.forall_mem_append]
    refine ⟨?_, ih⟩
    cases step <;> simp [tokens, Identifier.token, Numeral.token]
  | case3 => exact fun _ listed => absurd listed List.not_mem_nil

variable {stream : TokenStream} {name : Identifier} {steps : List Access}

/-- If names stand behind all dots of the tag, no item stands directly after an item. -/
theorem apart_of_namesDots (shows : stream.Shows 0 ((whole name steps).map (·.1))) {stop : Nat}
    (names : stream.NamesDots 1 stop)
    (closed : stream.kindAt? (stream.visible stop) = some (.delimiter .variableEnd)) :
    Apart steps := by
  by_contra close
  obtain ⟨before, after, number, split⟩ := exists_pointed close
  have loose : ∀ kind ∈ [.delimiter .variableStart, .whitespace, .identifier] ++
      (row steps).map (·.1), kind ≠ .delimiter .variableEnd := by
    rw [List.forall_mem_append, List.forall_mem_map]
    exact ⟨by decide, row_loose steps⟩
  have front : stream.Shows 0 ([.delimiter .variableStart, .whitespace, .identifier] ++
      (row steps).map (·.1)) := by
    refine @TokenStream.Shows.left stream 0 _ [.whitespace, .delimiter .variableEnd] ?_
    simpa [whole, inside, Identifier.token, TagForm.space] using shows
  have behind := front.right
  rw [split, List.map_append] at behind
  have dot : stream.kindAt? (3 + before.length) = some (.punctuation .dot) := by
    simpa using behind.right.head
  have float : stream.kindAt? (3 + before.length + 1) = some (.literal .float) := by
    simpa using behind.right.tail.head
  have early : 3 + before.length < stop := by
    by_contra late
    have reach : stream.visible stop ≤ 3 + before.length := by
      by_contra beyond
      have blank :=
        TokenStream.kindAt?_before_visible (Nat.le_of_not_lt late) (Nat.lt_of_not_le beyond)
      rw [blank] at dot
      contradiction
    refine front.kindAt?_ne loose (Nat.zero_le _) ?_ closed
    simp only [split, List.length_append, List.length_map, List.length_cons, List.length_nil]
    omega
  have named := names (3 + before.length) (by omega) early dot
  rw [stream.visible_of_kindAt? float (by decide), float] at named
  contradiction

/-- The tag is parsed into its tree if no item stands directly after an item. -/
theorem parse_of_apart (apart : Apart steps)
    (shows : stream.Shows 0 ((whole name steps).map (·.1)))
    (size : stream.size = (whole name steps).length) {limits : ParseLimits}
    (deep : 4 ≤ limits.depth) :
    (stream.parse limits).diagnostics = #[] ∧ (stream.parse limits).statistics.suppressed = 0 ∧
      Draws (stream.parse limits).tree.nodes (.node (stream.parse limits).tree.root)
        (.node .template [tag steps]) := by
  obtain ⟨levels, depth⟩ := Nat.exists_eq_add_of_le' deep
  have found := @item_of_shows stream levels name steps apart shows
    (Grammar.statements stream limits.depth)
  rw [← depth] at found
  refine TokenStream.parse_of_item found (stream.visible_of_kindAt? shows.head nofun) ?_
  rw [size, whole, inside, row_of_apart apart, width]
  simp only [List.length_cons, List.length_append, List.length_nil]
  omega

end Access

/-- A variable tag with a name and accesses after it, written without spaces between them, is parsed
without a report exactly if no item stands directly after an item: the lexer takes the numbers of
two such items for one with a point. Then the tree has a node for every access, each around all
before, and the reference to the name innermost. -/
theorem TokenStream.parse_accesses (name : Identifier) (steps : List Access) {limit : Nat}
    {limits : ParseLimits} (few : (Access.whole name steps).length ≤ limit)
    (deep : 4 ≤ limits.depth) (kept : 0 < limits.diagnostics) :
    ∃ stream, ofSource (Access.source name steps) {} limit = .ok stream ∧
      stream.tokens.toList.map (Token.spelled · (Access.source name steps)) =
        Access.whole name steps ∧
      ((stream.parse limits).diagnostics = #[] ↔ Access.Apart steps) ∧
      (Access.Apart steps → Draws (stream.parse limits).tree.nodes
        (.node (stream.parse limits).tree.root) (.node .template [Access.tag steps])) := by
  obtain ⟨last, reads, ended⟩ := Access.reads_source name steps
  obtain ⟨stream, read, -, spelled⟩ := ofSource_of_reads reads ended few
  obtain ⟨shows, size⟩ := shows_of_spelled spelled
  refine ⟨stream, read, spelled, ⟨fun quiet => ?_, fun apart => ?_⟩, fun apart => ?_⟩
  · obtain ⟨stop, names, closed⟩ := namesDots_of_quiet kept quiet shows.head
    exact Access.apart_of_namesDots shows names closed
  · exact (Access.parse_of_apart apart shows size deep).1
  · exact (Access.parse_of_apart apart shows size deep).2.2

/-- A member by its name, one by its number, a subscript and a call. -/
theorem TokenStream.parse_accesses_call :
    let a : Identifier := ⟨'a', [], by decide, nofun, by decide⟩
    let b : Identifier := ⟨'b', [], by decide, nofun, by decide⟩
    let zero : Numeral := ⟨['0'], List.cons_ne_nil _ _, List.all_eq_true.1 rfl⟩
    let steps : List Access := [.member b, .item zero, .subscript zero, .call]
    let limits : ParseLimits := {}
    (Access.whole a steps).length ≤ 14 ∧ 4 ≤ limits.depth ∧ 0 < limits.diagnostics ∧
      Access.source a steps = "\x7b\x7b a.b.0[0]() \x7d\x7d" ∧
      ∃ stream, ofSource "\x7b\x7b a.b.0[0]() \x7d\x7d" {} 14 = .ok stream ∧
        (stream.parse limits).diagnostics = #[] ∧
        Draws (stream.parse limits).tree.nodes (.node (stream.parse limits).tree.root)
          (.node .template [.node .variableTag [.token 0, .token 1,
            .node .functionCall
              [.node .subscriptAccess
                [.node .attributeAccess
                  [.node .attributeAccess
                    [.node .variableReference [.token 2], .token 3, .token 4], .token 5, .token 6],
                  .token 7, .node .numberLiteral [.token 8], .token 9],
                .node .argumentList [.token 10, .token 11]],
            .token 12, .token 13]]) := by
  intro a b zero steps limits
  have few : (Access.whole a steps).length ≤ 14 := by decide
  have apart : Access.Apart steps := by decide
  have source : Access.source a steps = "\x7b\x7b a.b.0[0]() \x7d\x7d" := by decide
  obtain ⟨stream, read, -, quiet, drawn⟩ :=
    @TokenStream.parse_accesses a steps 14 limits few (by decide) (by decide)
  rw [source] at read
  exact ⟨few, by decide, by decide, source, stream, read, quiet.2 apart, drawn apart⟩

/-- Two members by their numbers, one of the other: their numbers are read as one with a point,
which is no name. -/
theorem TokenStream.parse_items_fused :
    let a : Identifier := ⟨'a', [], by decide, nofun, by decide⟩
    let one : Numeral := ⟨['1'], List.cons_ne_nil _ _, List.all_eq_true.1 rfl⟩
    let two : Numeral := ⟨['2'], List.cons_ne_nil _ _, List.all_eq_true.1 rfl⟩
    let stream : TokenStream := ⟨"\x7b\x7b a.1.2 \x7d\x7d",
      #[⟨.delimiter .variableStart, 0, 2⟩, ⟨.whitespace, 2, 3⟩, ⟨.identifier, 3, 4⟩,
        ⟨.punctuation .dot, 4, 5⟩, ⟨.literal .float, 5, 8⟩, ⟨.whitespace, 8, 9⟩,
        ⟨.delimiter .variableEnd, 9, 11⟩],
      #[.template, .variableTag, .variableTag, .variableTag, .variableTag, .variableTag,
        .variableTag], .template⟩
    Access.source a [.item one, .item two] = stream.source ∧
      ofSource stream.source {} = .ok stream ∧
      stream.parse.diagnostics = #[⟨5, .expectedName, "Expected attribute name"⟩,
        ⟨5, .missingVariableEnd, "Expected variable end delimiter"⟩] := by
  intro a one two stream
  exact ⟨by decide +kernel, ofSource_of_isFresh (by decide +kernel), by decide +kernel⟩

end Stencil
