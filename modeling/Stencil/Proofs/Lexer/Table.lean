import Stencil.Proofs.Lexer.Delimited
/-!
# The table of modes

Which token may be read in which mode, and the mode it leads to (`Mode.Gives`). The table leaves
three things open that a stream decides: a start delimiter is a line form only where a line starts,
a block tag leads to raw content only if the word `raw` stands in it, and text runs up to the next
mark, so that no two texts stand side by side. `TokenStream.ofSource_ruled` states all of this for
every stream that is read from a source.

The lexer knows two of these from flags that it carries along. `Lexer.Tracked` says what they
recall, and holds in every state of a lexer that starts at the start of a source.
-/

namespace Stencil

/-- Kinds of tokens inside a tag: neither delimiters nor newlines nor text. -/
def TokenKind.inTag (kind : TokenKind) : Bool := !kind.isStructural && kind ≠ .text

/-- In a mode, a token of a kind may be read and leads to a mode. -/
inductive Mode.Gives : Mode → TokenKind → Mode → Prop where
  | text : Gives .template .text .template
  | newline : Gives .template .newline .template
  | variableStart : Gives .template (.delimiter .variableStart) .variableTag
  | blockStart : Gives .template (.delimiter .blockStart) .blockTag
  | lineStatement : Gives .template (.delimiter .blockStart) .lineStatement
  | commentStart : Gives .template (.delimiter .commentStart) .comment
  | lineComment : Gives .template (.delimiter .commentStart) .lineComment
  | within {kind : TokenKind} {tag : Mode} (inside : kind.inTag = true)
      (among : tag = .blockTag ∨ tag = .variableTag ∨ tag = .lineStatement) : Gives tag kind tag
  | blockEnd : Gives .blockTag (.delimiter .blockEnd) .template
  | rawTag : Gives .blockTag (.delimiter .blockEnd) .raw
  | variableEnd : Gives .variableTag (.delimiter .variableEnd) .template
  | statementEnd : Gives .lineStatement .newline .template
  | commentText : Gives .comment .text .comment
  | commentEnd : Gives .comment (.delimiter .commentEnd) .template
  | remark : Gives .lineComment .text .lineComment
  | remarkEnd : Gives .lineComment .newline .template
  | rawText : Gives .raw .text .raw
  | endRaw : Gives .raw (.delimiter .blockStart) .blockTag

/-- What is read in tags only is read in the mode of a tag. -/
theorem Mode.Gives.among {before after : Mode} {kind : TokenKind} (gives : before.Gives kind after)
    (inTag : kind.inTag = true) :
    before = .blockTag ∨ before = .variableTag ∨ before = .lineStatement := by
  cases gives with
  | within _ among => exact among
  | _ => contradiction

/-! ### One scan -/

namespace Scan

/-- The expression language has no text. -/
theorem expression_ne_text (mode : Mode) (rawPending : Bool) (rest : List UInt8) :
    (expression mode rawPending rest).kind ≠ .text := by
  have words : ∀ entry ∈ TokenKind.words, entry.2 ≠ .text := by decide
  unfold expression
  split
  · rintro ⟨⟩
  · split
    · rintro ⟨⟩
    split
    · rintro ⟨⟩
    split
    next found =>
      intro text
      subst text
      unfold TokenKind.ofMark? at found
      split at found <;> contradiction
    split
    · rintro ⟨⟩
    split
    · unfold number
      dsimp only
      split
      · split <;> rintro ⟨⟩
      · rintro ⟨⟩
    split
    · rw [word]
      dsimp only
      cases found : TokenKind.ofWord? (asciiText (List.takeWhile inWord _)) with
      | none => rintro ⟨⟩
      | some kind =>
        obtain ⟨entry, listed, rfl⟩ := Option.map_eq_some_iff.1 found
        exact words entry (List.mem_of_find?_eq_some listed)
    · rintro ⟨⟩

/-- What is scanned inside a tag is a token of a tag. -/
theorem expression_inTag (mode : Mode) (rawPending : Bool) (rest : List UInt8) :
    (expression mode rawPending rest).kind.inTag = true := by
  rw [TokenKind.inTag, expression_loose, Bool.not_false, Bool.true_and, decide_eq_true_eq]
  exact expression_ne_text mode rawPending rest

/-- Raw content is announced by the word `raw` in a block tag and by nothing else. -/
theorem expression_announces (mode : Mode) (rawPending : Bool) (rest : List UInt8) :
    (expression mode rawPending rest).rawPending = (rawPending ||
      ((expression mode rawPending rest).kind = .keyword .rawKw && mode = .blockTag)) := by
  have number : ∃ literal, (number mode rawPending rest).kind = .literal literal ∧
      (Scan.number mode rawPending rest).rawPending = rawPending := by
    unfold Scan.number
    dsimp only
    split
    · split <;> exact ⟨_, rfl, rfl⟩
    · exact ⟨_, rfl, rfl⟩
  unfold expression
  split
  · simp
  · split
    · simp
    split
    · simp
    split
    next kind found =>
      have other : kind ≠ .keyword .rawKw := by
        rintro rfl
        unfold TokenKind.ofMark? at found
        split at found <;> contradiction
      simp [other]
    split
    · simp
    split
    · obtain ⟨literal, kind, pending⟩ := number
      simp [kind, pending]
    split
    · rfl
    · simp

end Scan

/-- Where text stops in a mode that has text: at a mark of the mode. -/
def Mode.textStop? (m : Marks) : Mode → Option (List UInt8 → Bool)
  | .template => some fun rest => Scan.atLineFeed rest || Scan.atStart m rest
  | .comment => some (Scan.leads m.commentEnd)
  | .lineComment => some Scan.atLineFeed
  | .raw => some (Scan.atEndRaw m)
  | .blockTag | .variableTag | .lineStatement => none

namespace Scan

/-- What is read in a mode at the start of some bytes, with the condition for it. -/
inductive Rule (m : Marks) (rest : List UInt8) : Mode → (lineStart rawPending : Bool) → Scan → Prop
  | lineStatement {rawPending : Bool} (leading : leads m.lineStatement rest = true) :
    Rule m rest .template true rawPending
      ⟨.delimiter .blockStart, m.lineStatement.length, .lineStatement, false⟩
  | lineComment {rawPending : Bool} (leading : leads m.lineComment rest = true) :
    Rule m rest .template true rawPending
      ⟨.delimiter .commentStart, m.lineComment.length, .lineComment, false⟩
  | blockStart {lineStart rawPending : Bool} : Rule m rest .template lineStart rawPending
      ⟨.delimiter .blockStart, m.blockStart.length, .blockTag, false⟩
  | variableStart {lineStart rawPending : Bool} : Rule m rest .template lineStart rawPending
      ⟨.delimiter .variableStart, m.variableStart.length, .variableTag, false⟩
  | commentStart {lineStart rawPending : Bool} : Rule m rest .template lineStart rawPending
      ⟨.delimiter .commentStart, m.commentStart.length, .comment, false⟩
  | newline {mode : Mode} {lineStart rawPending : Bool} (feed : atLineFeed rest = true)
      (ends : mode = .template ∨ mode = .lineStatement ∨ mode = .lineComment) :
    Rule m rest mode lineStart rawPending ⟨.newline, 1, .template, false⟩
  | text {mode : Mode} {lineStart rawPending : Bool} {stop : List UInt8 → Bool}
      (stops : mode.textStop? m = some stop) (goes : stop rest = false) :
    Rule m rest mode lineStart rawPending ⟨.text, run stop rest, mode, false⟩
  | blockEnd {lineStart rawPending : Bool} : Rule m rest .blockTag lineStart rawPending
      ⟨.delimiter .blockEnd, m.blockEnd.length, if rawPending then .raw else .template, false⟩
  | variableEnd {lineStart rawPending : Bool} : Rule m rest .variableTag lineStart rawPending
      ⟨.delimiter .variableEnd, m.variableEnd.length, .template, false⟩
  | commentEnd {lineStart rawPending : Bool} : Rule m rest .comment lineStart rawPending
      ⟨.delimiter .commentEnd, m.commentEnd.length, .template, false⟩
  | endRaw {lineStart rawPending : Bool} : Rule m rest .raw lineStart rawPending
      ⟨.delimiter .blockStart, m.blockStart.length, .blockTag, false⟩
  | within {tag : Mode} {lineStart rawPending : Bool} {kind : TokenKind} {width : Nat}
      {pending : Bool} (inside : kind.inTag = true)
      (among : tag = .blockTag ∨ tag = .variableTag ∨ tag = .lineStatement)
      (announces : tag = .blockTag → pending = (rawPending || kind = .keyword .rawKw)) :
    Rule m rest tag lineStart rawPending ⟨kind, width, tag, pending⟩

/-- Inside a tag a token of an expression is read and the tag goes on. -/
theorem expression_rule {m : Marks} {tag : Mode} {lineStart rawPending pending : Bool}
    {rest : List UInt8} (among : tag = .blockTag ∨ tag = .variableTag ∨ tag = .lineStatement)
    (same : tag = .blockTag → pending = rawPending) :
    Rule m rest tag lineStart rawPending (expression tag pending rest) := by
  have inside := expression_inTag tag pending rest
  have stays := expression_mode tag pending rest
  have announces := expression_announces tag pending rest
  generalize expression tag pending rest = scan at inside stays announces ⊢
  obtain ⟨kind, width, mode, announced⟩ := scan
  obtain rfl : mode = tag := stays
  refine .within inside among fun block => ?_
  rw [decide_eq_true block, Bool.and_true, same block] at announces
  exact announces

/-- Outside tags a tag is opened, a line ends or text is read. -/
theorem template_rule (m : Marks) (lineStart rawPending : Bool) (rest : List UInt8) :
    Rule m rest .template lineStart rawPending (template m lineStart rest) := by
  rw [template]
  split
  next line =>
    rw [Bool.and_eq_true] at line
    obtain ⟨rfl, leading⟩ := line
    exact .lineStatement leading
  split
  next line =>
    rw [Bool.and_eq_true] at line
    obtain ⟨rfl, leading⟩ := line
    exact .lineComment leading
  split
  · exact .blockStart
  next noBlock =>
    split
    · exact .variableStart
    next noValue =>
      split
      · exact .commentStart
      next noComment =>
        split
        next feed => exact .newline feed (.inl rfl)
        next noFeed =>
          refine .text rfl ?_
          rw [atStart, Bool.or_eq_false_iff, Bool.or_eq_false_iff, Bool.or_eq_false_iff]
          exact ⟨eq_false_of_ne_true noFeed, ⟨eq_false_of_ne_true noBlock,
            eq_false_of_ne_true noValue⟩, eq_false_of_ne_true noComment⟩

/-- Every scan follows a rule. -/
theorem next_rule (m : Marks) (mode : Mode) (lineStart rawPending : Bool) (rest : List UInt8) :
    Rule m rest mode lineStart rawPending (next m mode lineStart rawPending rest) := by
  cases mode with
  | template => exact template_rule m lineStart rawPending rest
  | blockTag =>
    rw [next, blockTag]
    split
    · exact .blockEnd
    · exact expression_rule (.inl rfl) fun _ => rfl
  | variableTag =>
    rw [next, variableTag]
    split
    · exact .variableEnd
    · exact expression_rule (.inr (.inl rfl)) (by rintro ⟨⟩)
  | comment =>
    rw [next, comment]
    split
    · exact .commentEnd
    next goes => exact .text rfl (eq_false_of_ne_true goes)
  | raw =>
    rw [next, raw]
    split
    · exact .endRaw
    next goes => exact .text rfl (eq_false_of_ne_true goes)
  | lineStatement =>
    rw [next, lineStatement]
    split
    next feed => exact .newline feed (.inr (.inl rfl))
    · exact expression_rule (.inr (.inr rfl)) (by rintro ⟨⟩)
  | lineComment =>
    rw [next, lineComment]
    split
    next feed => exact .newline feed (.inr (.inr rfl))
    next goes => exact .text rfl (eq_false_of_ne_true goes)

variable {m : Marks} {rest : List UInt8} {mode : Mode} {lineStart rawPending : Bool} {scan : Scan}

/-- A rule is a row of the table. -/
theorem Rule.gives (rule : Rule m rest mode lineStart rawPending scan) :
    mode.Gives scan.kind scan.mode := by
  cases rule with
  | lineStatement => exact .lineStatement
  | lineComment => exact .lineComment
  | blockStart => exact .blockStart
  | variableStart => exact .variableStart
  | commentStart => exact .commentStart
  | newline feed ends =>
    rcases ends with rfl | rfl | rfl
    · exact .newline
    · exact .statementEnd
    · exact .remarkEnd
  | text stops =>
    cases mode with
    | template => exact .text
    | comment => exact .commentText
    | lineComment => exact .remark
    | raw => exact .rawText
    | _ => contradiction
  | blockEnd =>
    cases rawPending
    · exact .blockEnd
    · exact .rawTag
  | variableEnd => exact .variableEnd
  | commentEnd => exact .commentEnd
  | endRaw => exact .endRaw
  | within inside among => exact .within inside among

/-- A line statement begins with its prefix, and where a line starts. -/
theorem Rule.lineStatement_inv (rule : Rule m rest .template lineStart rawPending scan)
    (after : scan.mode = .lineStatement) : lineStart = true ∧
      leads m.lineStatement rest = true ∧ scan.width = m.lineStatement.length := by
  cases rule with
  | lineStatement leading => exact ⟨rfl, leading, rfl⟩
  | within inside among => simp at among
  | _ => contradiction

/-- A line comment begins with its prefix, and where a line starts. -/
theorem Rule.lineComment_inv (rule : Rule m rest .template lineStart rawPending scan)
    (after : scan.mode = .lineComment) : lineStart = true ∧
      leads m.lineComment rest = true ∧ scan.width = m.lineComment.length := by
  cases rule with
  | lineComment leading => exact ⟨rfl, leading, rfl⟩
  | within inside among => simp at among
  | _ => contradiction

/-- The end of a block tag is read in one, and leads to raw content if that was announced. -/
theorem Rule.blockEnd_inv (rule : Rule m rest mode lineStart rawPending scan)
    (ends : scan.kind = .delimiter .blockEnd) :
    mode = .blockTag ∧ (scan.mode = .raw ↔ rawPending = true) := by
  cases rule with
  | blockEnd => cases rawPending <;> simp
  | within inside =>
    obtain rfl : _ = TokenKind.delimiter .blockEnd := ends
    contradiction
  | _ => cases ends

/-- After text comes no text: it goes on up to a mark or to the end. -/
theorem Rule.text_apart (rule : Rule m rest mode lineStart rawPending scan)
    (text : scan.kind = .text) (more : rest.drop scan.width ≠ []) {next : Scan}
    {lineStart' rawPending' : Bool}
    (after : Rule m (rest.drop scan.width) scan.mode lineStart' rawPending' next) :
    next.kind ≠ .text := by
  intro again
  have stopped : ∃ stop, scan.mode.textStop? m = some stop ∧ scan.width = run stop rest := by
    cases rule with
    | text stops => exact ⟨_, stops, rfl⟩
    | within inside =>
      obtain rfl : _ = TokenKind.text := text
      contradiction
    | _ => contradiction
  obtain ⟨stop, stops, width⟩ := stopped
  generalize scan.mode = onward at stops after
  have goes : stop (rest.drop scan.width) = false := by
    cases after with
    | text also goes =>
      obtain rfl := Option.some.inj (stops.symm.trans also)
      exact goes
    | within inside =>
      obtain rfl : _ = TokenKind.text := again
      contradiction
    | _ => contradiction
  rw [width] at more goes
  rcases stop_drop_run stop rest with empty | stops
  · exact more empty
  · rw [stops] at goes
    contradiction

end Scan

/-! ### What the flags recall -/

/-- A line starts at an offset of a source. -/
def Text.LineAt (source : List UInt8) (offset : Nat) : Prop :=
  offset = 0 ∨ source[offset - 1]? = some Scan.lineFeed

namespace Lexer

/-- What is left of a source is what comes after the offset, and a line is taken to start only
between tags and where the source starts one. -/
structure Tracked (source : List UInt8) (lexer : Lexer) : Prop where
  rest : lexer.rest = source.drop lexer.offset
  lineStart : lexer.lineStart = true → lexer.mode = .template ∧ Text.LineAt source lexer.offset

variable {source : List UInt8} {lexer : Lexer}

/-- What is read next follows a rule. -/
theorem scan_rule (lexer : Lexer) : Scan.Rule lexer.marks lexer.rest lexer.mode lexer.lineStart
    lexer.rawPending lexer.scan := Scan.next_rule _ _ _ _ _

/-- A step keeps track of the source. -/
theorem Tracked.step (tracked : lexer.Tracked source) : lexer.step.Tracked source := by
  by_cases empty : lexer.rest = []
  · rw [Lexer.step, if_pos (List.isEmpty_iff.2 empty)]
    exact tracked
  rw [step_of_some empty]
  refine ⟨?_, fun starts => ?_⟩
  · simp only [after, tracked.rest, List.drop_drop]
  · have rule := lexer.scan_rule
    have up := tracked.lineStart
    simp only [after] at starts ⊢
    generalize lexer.scan = scan at rule starts ⊢
    generalize lexer.mode = mode, lexer.lineStart = lineStart, lexer.rawPending = rawPending
      at rule up starts
    cases rule with
    | newline feed =>
      refine ⟨rfl, .inr ?_⟩
      rw [Scan.atLineFeed, decide_eq_true_eq, tracked.rest, List.head?_drop] at feed
      exact feed
    | within inside among =>
      -- Only space keeps the flag, and inside a tag it is not up.
      have kept : lineStart = true := by
        unfold lineStartAfter at starts
        split at starts
        next newline =>
          obtain rfl : _ = TokenKind.newline := newline
          contradiction
        · exact starts
        · contradiction
      rw [(up kept).1] at among
      simp at among
    | _ => contradiction

/-- The flags recall the same all the way. -/
theorem Tracked.ahead (tracked : lexer.Tracked source) (count : Nat) :
    (lexer.ahead count).Tracked source := by
  induction count with
  | zero => exact tracked
  | succ count ih => exact ih.step

/-- At the start of a source nothing has been read, and a line starts. -/
theorem tracked_ofSource (source : String) (d : Delimiters) :
    (ofSource source d).Tracked (Text.bytes source) := by
  have size := Text.length_bytes source
  refine ⟨?_, fun _ => ⟨rfl, .inl (Nat.zero_min _)⟩⟩
  simp only [ofSource, ofRange, Nat.min_self, Nat.zero_min, Nat.sub_zero, List.drop_zero]
  exact List.take_of_length_le (by omega)

end Lexer

namespace TokenStream

/-- A block tag that begins at `opening` reaches up to `place`. -/
structure BlockUpTo (stream : TokenStream) (opening place : Nat) : Prop where
  before : opening < place
  opens : stream.kindAt? opening = some (.delimiter .blockStart)
  within : ∀ between, opening < between → between ≤ place → stream.modes[between]? = some .blockTag

/-- The word `raw` stands between two places of a stream. -/
def SaysRaw (stream : TokenStream) (opening place : Nat) : Prop :=
  ∃ word, opening < word ∧ word < place ∧ stream.kindAt? word = some (.keyword .rawKw)

variable {stream : TokenStream} {lexer : Lexer}

/-- In a block tag raw content is pending exactly if the tag has said so. -/
theorem blockUpTo_of_fills (fills : lexer.Fills stream) (outside : lexer.mode ≠ .blockTag)
    {place : Nat} (inside : place < stream.size)
    (block : (lexer.ahead place).mode = .blockTag) :
    ∃ opening, stream.BlockUpTo opening place ∧
      ((lexer.ahead place).rawPending = true ↔ stream.SaysRaw opening place) := by
  induction place with
  | zero => exact absurd block outside
  | succ place ih =>
    have earlier : place < stream.size := by omega
    have some := (fills.lt_size_iff place).1 earlier
    have kind := fills.kindAt?_eq earlier
    have mode := fills.getElem?_modes inside
    have rule := (lexer.ahead place).scan_rule
    rw [block] at mode
    simp only [Lexer.ahead, Lexer.step_of_some some, Lexer.after] at block ⊢
    generalize (lexer.ahead place).scan = scan at rule block kind ⊢
    -- A tag begins here, or goes on.
    have begins (opens : scan.kind = .delimiter .blockStart) (quiet : scan.rawPending = false) :
        ∃ opening, stream.BlockUpTo opening (place + 1) ∧
          (scan.rawPending = true ↔ stream.SaysRaw opening (place + 1)) := by
      refine ⟨place, ⟨Nat.lt_succ_self _, by rw [kind, opens], fun between after upTo => ?_⟩, ?_⟩
      · obtain rfl : between = place + 1 := by omega
        exact mode
      · rw [quiet]
        refine iff_of_false Bool.false_ne_true ?_
        rintro ⟨word, after, before, -⟩
        omega
    generalize (lexer.ahead place).lineStart = lineStart at rule
    generalize pending : (lexer.ahead place).rawPending = rawPending at rule
    generalize here : (lexer.ahead place).mode = tag at rule
    cases rule with
    | blockStart => exact begins rfl rfl
    | endRaw => exact begins rfl rfl
    | text stops =>
      obtain rfl : tag = .blockTag := block
      contradiction
    | blockEnd => cases rawPending <;> contradiction
    | within inside among announces =>
      obtain ⟨opening, upTo, recalls⟩ := ih earlier (here.trans block)
      rw [pending] at recalls
      have before := upTo.before
      refine ⟨opening, ⟨by omega, upTo.opens, fun between after last => ?_⟩, ?_⟩
      · rcases Nat.lt_or_ge place between with past | within
        · obtain rfl : between = place + 1 := by omega
          exact mode
        · exact upTo.within between after within
      · rw [announces block, Bool.or_eq_true, recalls, decide_eq_true_eq]
        constructor
        · rintro (⟨word, after, earlier, said⟩ | spelled)
          · exact ⟨word, after, by omega, said⟩
          · exact ⟨place, before, Nat.lt_succ_self _, by rw [kind, spelled]⟩
        · rintro ⟨word, after, earlier, said⟩
          rcases Nat.lt_or_ge word place with past | at_
          · exact .inl ⟨word, after, past, said⟩
          · obtain rfl : word = place := by omega
            exact .inr (Option.some.inj (kind.symm.trans said))
    | _ => contradiction

/-- In the mode of a tag there is a start delimiter before, and between them nothing ends the
tag. -/
theorem opening_of_fills (fills : lexer.Fills stream) (start : lexer.mode = .template)
    {place : Nat} (inside : place ≤ stream.size)
    (among : (lexer.ahead place).mode = .blockTag ∨ (lexer.ahead place).mode = .variableTag ∨
      (lexer.ahead place).mode = .lineStatement) :
    ∃ opening, opening < place ∧ stream.Loose (opening + 1) place ∧
      (stream.kindAt? opening = some (.delimiter .blockStart) ∨
        stream.kindAt? opening = some (.delimiter .variableStart)) := by
  induction place with
  | zero =>
    rw [Lexer.ahead, start] at among
    simp at among
  | succ place ih =>
    have some := (fills.lt_size_iff place).1 inside
    have kind := fills.kindAt?_eq inside
    have gives := (lexer.ahead place).scan_rule.gives
    simp only [Lexer.ahead, Lexer.step_of_some some, Lexer.after] at among
    generalize (lexer.ahead place).scan.kind = found at kind gives
    generalize (lexer.ahead place).scan.mode = later at among gives
    generalize (lexer.ahead place).mode = before at ih gives
    have begins : stream.Loose (place + 1) (place + 1) := fun index after before => by omega
    cases gives with
    | blockStart | lineStatement | endRaw => exact ⟨place, Nat.lt_succ_self _, begins, .inl kind⟩
    | variableStart => exact ⟨place, Nat.lt_succ_self _, begins, .inr kind⟩
    | within inside' _ =>
      obtain ⟨opening, before, loose, opens⟩ := ih (by omega) among
      refine ⟨opening, by omega, fun index after upTo => ?_, opens⟩
      rcases Nat.lt_or_ge index place with early | late
      · exact loose index after early
      · obtain rfl : index = place := by omega
        rw [TokenKind.inTag, Bool.and_eq_true] at inside'
        rw [kind]
        exact inside'.1
    | _ => simp at among

/-- In the stream of a source, what is read in tags only stands in a tag. -/
theorem opening_of_inTag {source : String} {d : Delimiters} {limit index : Nat} {kind : TokenKind}
    (read : ofSource source d limit = .ok stream) (here : stream.kindAt? index = some kind)
    (inTag : kind.inTag = true) : ∃ opening, opening < index ∧ stream.Loose (opening + 1) index ∧
      (stream.kindAt? opening = some (.delimiter .blockStart) ∨
        stream.kindAt? opening = some (.delimiter .variableStart)) := by
  obtain ⟨-, -, fills⟩ := (ofRange_eq_ok_iff (Nat.zero_le _) (Nat.le_refl _)).1 read
  have inside : index < stream.size := by
    obtain ⟨_, listed, -⟩ := Option.map_eq_some_iff.1 here
    exact (Array.getElem?_eq_some_iff.1 listed).1
  refine opening_of_fills fills rfl (Nat.le_of_lt inside) ?_
  rw [fills.kindAt?_eq inside] at here
  exact (Lexer.scan_rule _).gives.among (Option.some.inj here ▸ inTag)

/-- A line starts at a token. -/
def StartsLine (stream : TokenStream) (index : Nat) : Prop :=
  ∃ token, stream.tokens[index]? = some token ∧
    Text.LineAt (Text.bytes stream.source) token.start

/-- A token of a kind, with the modes before and after it, is where the table and what the table
leaves open allow it. -/
structure Ruled (d : Delimiters) (stream : TokenStream) (index : Nat) (before : Mode)
    (kind : TokenKind) (after : Mode) : Prop where
  gives : before.Gives kind after
  first : index = 0 → before = .template
  /-- A line statement begins with its prefix where a line starts. -/
  lineStatement : before = .template → after = .lineStatement →
    stream.textAt index = d.lineStatement ∧ stream.StartsLine index
  /-- So does a line comment. -/
  lineComment : before = .template → after = .lineComment →
    stream.textAt index = d.lineComment ∧ stream.StartsLine index
  /-- A block tag leads to raw content exactly if the word `raw` stands in it. -/
  raw : kind = .delimiter .blockEnd → ∃ opening, stream.BlockUpTo opening index ∧
    (after = .raw ↔ stream.SaysRaw opening index)
  apart : kind = .text → stream.kindAt? (index + 1) ≠ some .text

variable {source : String} {d : Delimiters} {limit : Nat}

/-- In the stream of a source every token, with the mode it was read in and the mode after it,
follows the table of modes: line forms begin where lines do, raw content follows on a tag that says
so, and no two texts stand side by side. -/
theorem ofSource_ruled (read : ofSource source d limit = .ok stream) {index : Nat}
    (inside : index < stream.size) :
    ∃ before kind after, stream.modes[index]? = some before ∧ stream.kindAt? index = some kind ∧
      stream.modeAfter? index = some after ∧ stream.Ruled d index before kind after := by
  obtain ⟨same, -, fills⟩ := (ofRange_eq_ok_iff (Nat.zero_le _) (Nat.le_refl _)).1 read
  have tracked := (Lexer.tracked_ofSource source d).ahead index
  have marks : ((Lexer.ofSource source d).ahead index).marks = d.marks := Lexer.marks_ahead index
  have start : (Lexer.ofSource source d).mode = .template := rfl
  change (Lexer.ofSource source d).Fills stream at fills
  generalize Lexer.ofSource source d = lexer at fills tracked marks start
  have some := (fills.lt_size_iff index).1 inside
  have rule := (lexer.ahead index).scan_rule
  have onward : (lexer.ahead (index + 1)).mode = (lexer.ahead index).scan.mode := by
    rw [Lexer.ahead, Lexer.step_of_some some, Lexer.after]
  have token := fills.getElem?_tokens inside
  have further : (lexer.ahead (index + 1)).offset =
      (lexer.ahead index).offset + (lexer.ahead index).scan.width := by
    rw [Lexer.ahead, Lexer.step_of_some some, Lexer.after]
  -- A line form is spelled as its prefix, since the prefix leads what is left.
  have line {spelled : String} (leading : Scan.leads (Text.bytes spelled) (lexer.ahead index).rest)
      (width : (lexer.ahead index).scan.width = (Text.bytes spelled).length)
      (starts : (lexer.ahead index).lineStart = true) :
      stream.textAt index = spelled ∧ stream.StartsLine index := by
    refine ⟨?_, _, token, ?_⟩
    · simp only [Scan.leads, Bool.and_eq_true, Bool.not_eq_true', List.isEmpty_eq_false_iff,
        List.isPrefixOf_iff_prefix, ne_eq, Text.bytes_eq_nil_iff, tracked.rest] at leading
      rw [textAt, token, Option.map_some, Option.getD_some, Token.text, further, width, same]
      exact Text.slice_of_bytes leading.1 leading.2
    · rw [same]
      exact (tracked.lineStart starts).2
  refine ⟨_, _, _, fills.getElem?_modes inside, fills.kindAt?_eq inside,
    fills.modeAfter?_eq inside, ?_⟩
  rw [onward]
  refine ⟨rule.gives, ?_, ?_, ?_, ?_, ?_⟩
  · rintro rfl
    exact start
  · intro before after
    obtain ⟨starts, leading, width⟩ := (before ▸ rule).lineStatement_inv after
    rw [marks] at leading width
    exact line leading width starts
  · intro before after
    obtain ⟨starts, leading, width⟩ := (before ▸ rule).lineComment_inv after
    rw [marks] at leading width
    exact line leading width starts
  · intro ends
    obtain ⟨block, announced⟩ := rule.blockEnd_inv ends
    have outside : lexer.mode ≠ .blockTag := by
      rw [start]
      rintro ⟨⟩
    obtain ⟨opening, upTo, recalls⟩ := blockUpTo_of_fills fills outside inside block
    exact ⟨opening, upTo, announced.trans recalls⟩
  · intro text next
    have inside : index + 1 < stream.size := by
      obtain ⟨_, listed, _⟩ := Option.map_eq_some_iff.1 next
      exact (Array.getElem?_eq_some_iff.1 listed).1
    have more := (fills.lt_size_iff (index + 1)).1 inside
    have after := (lexer.ahead (index + 1)).scan_rule
    rw [fills.kindAt?_eq inside] at next
    rw [Lexer.ahead, Lexer.step_of_some some] at more after next
    exact rule.text_apart text more after (Option.some.inj next)

/-- A line statement and the tag of a raw block. -/
theorem ofSource_ruled_raw :
    let d : Delimiters := { lineStatement := "#" }
    let stream : TokenStream := ⟨"#a\n\x7b%raw%\x7db",
      #[⟨.delimiter .blockStart, 0, 1⟩, ⟨.identifier, 1, 2⟩, ⟨.newline, 2, 3⟩,
        ⟨.delimiter .blockStart, 3, 5⟩, ⟨.keyword .rawKw, 5, 8⟩, ⟨.delimiter .blockEnd, 8, 10⟩,
        ⟨.text, 10, 11⟩],
      #[.template, .lineStatement, .lineStatement, .template, .blockTag, .blockTag, .raw], .raw⟩
    ofSource stream.source d = .ok stream ∧
      stream.Ruled d 0 .template (.delimiter .blockStart) .lineStatement ∧
      stream.Ruled d 5 .blockTag (.delimiter .blockEnd) .raw := by
  intro d stream
  have read : ofSource stream.source d = .ok stream := ofSource_of_isFresh (by decide +kernel)
  refine ⟨read, ?_, ?_⟩
  · obtain ⟨before, kind, after, mode, kindAt, onward, ruled⟩ :=
      ofSource_ruled read (show 0 < stream.size by decide)
    obtain rfl : Mode.template = before := Option.some.inj mode
    obtain rfl : TokenKind.delimiter .blockStart = kind := Option.some.inj kindAt
    obtain rfl : Mode.lineStatement = after := Option.some.inj onward
    exact ruled
  · obtain ⟨before, kind, after, mode, kindAt, onward, ruled⟩ :=
      ofSource_ruled read (show 5 < stream.size by decide)
    obtain rfl : Mode.blockTag = before := Option.some.inj mode
    obtain rfl : TokenKind.delimiter .blockEnd = kind := Option.some.inj kindAt
    obtain rfl : Mode.raw = after := Option.some.inj onward
    exact ruled

end TokenStream
end Stencil
