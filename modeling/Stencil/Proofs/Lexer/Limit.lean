import Stencil.Proofs.Lexer.Delimited
import Stencil.Proofs.Lexer.Relex
/-!
# The number of tokens

A range with more tokens than the limit is not read. Reading again after an edit counts only the
tokens that it reads, so that the limit grows by one limit with every edit (`relexAll_bounded`) and
a stream with too many tokens can be reached (`relex_exceeds`). With delimiters that are told apart
this happens exactly if the new text as a whole is beyond the limit.
-/

namespace Stencil
namespace Lexer

variable {lexer : Lexer} {stream : TokenStream}

/-- A stream is within a limit if its lexer has no token at that number. -/
theorem Fills.size_le_iff (fills : lexer.Fills stream) {limit : Nat} :
    stream.size ≤ limit ↔ lexer.token? limit = none := by
  rw [token?_eq_none_iff, ← Nat.not_lt, fills.lt_size_iff, not_not]

end Lexer

namespace TokenStream

variable {d : Delimiters} {limit : Nat} {source text : String} {stream next : TokenStream}

/-! ### Any delimiters, any edits -/

/-- A chain of edits succeeds edit by edit. -/
theorem relexAll_cons_eq_ok {edit : Edit} {edits : List Edit} {streams : List TokenStream}
    (chain : stream.relexAll d limit (edit :: edits) = .ok streams) :
    ∃ first rest, stream.relex edit.text edit.offset d limit = .ok first ∧
      first.relexAll d limit edits = .ok rest ∧ streams = first :: rest := by
  rw [relexAll] at chain
  cases again : stream.relex edit.text edit.offset d limit with
  | error fault =>
    rw [again] at chain
    contradiction
  | ok first =>
    rw [again] at chain
    simp only [bind, Except.bind] at chain
    cases onward : first.relexAll d limit edits with
    | error fault =>
      rw [onward] at chain
      contradiction
    | ok rest =>
      rw [onward] at chain
      exact ⟨first, rest, rfl, onward, (Except.ok.inj chain).symm⟩

/-- Reading can resume only where a token starts. -/
theorem exists_token_of_restartPoint {index offset : Nat} {mode : Mode}
    (point : stream.restartPoint index = .ok (offset, mode)) :
    ∃ token ∈ stream.tokens.toList, token.start = offset := by
  rw [restartPoint] at point
  split at point
  · cases start : stream.restartIndex index with
    | error fault =>
      rw [start] at point
      contradiction
    | ok place =>
      rw [start] at point
      simp only [bind, Except.bind] at point
      split at point
      next token recorded listed found =>
        obtain ⟨rfl, -⟩ := Prod.mk.inj (Except.ok.inj point)
        exact ⟨token, Array.mem_toList_iff.2 (Array.mem_of_getElem? listed), rfl⟩
      · contradiction
  · contradiction

/-- Reading again after an edit resumes where a token starts. -/
theorem exists_token_of_relexPoint? {edit offset : Nat} {mode : Mode}
    (point : stream.relexPoint? edit = some (offset, mode)) :
    ∃ token ∈ stream.tokens.toList, token.start = offset := by
  have resumes {index : Nat} (found : (stream.restartPoint index).toOption = some (offset, mode)) :
      ∃ token ∈ stream.tokens.toList, token.start = offset := by
    cases restart : stream.restartPoint index with
    | error fault =>
      rw [restart] at found
      contradiction
    | ok place =>
      rw [restart] at found
      obtain rfl := Option.some.inj found
      exact exists_token_of_restartPoint restart
  simp only [relexPoint?, Option.bind_eq_bind, Option.bind_eq_some_iff] at point
  obtain ⟨touched, -, first, restart, same⟩ := point
  have chosen := Option.some.inj same
  split at chosen
  · exact resumes (restart.trans (congrArg some chosen))
  next kept _ =>
    cases earlier : (stream.restartPoint kept).toOption with
    | none =>
      rw [earlier] at chosen
      exact resumes (restart.trans (congrArg some chosen))
    | some before =>
      rw [earlier] at chosen
      exact resumes (earlier.trans (congrArg some chosen))

/-- Reading again after an edit is reading the new text, or keeping what starts before a place and
reading the rest of the new text from there. -/
theorem relex_cases {edit : Nat} (again : stream.relex text edit d limit = .ok next) :
    stream.relexPoint? edit = none ∧ ofSource text d limit = .ok next ∨
      ∃ offset mode tail, stream.relexPoint? edit = some (offset, mode) ∧
        ofRange text offset text.utf8ByteSize mode d limit = .ok tail ∧
        next = { source := text
                 tokens := stream.tokens.take (stream.keptBefore offset) ++ tail.tokens
                 modes := stream.modes.take (stream.keptBefore offset) ++ tail.modes
                 endMode := tail.endMode } := by
  rw [relex] at again
  split at again
  next point => exact .inl ⟨point, again⟩
  next offset mode point =>
    cases read : ofRange text offset text.utf8ByteSize mode d limit with
    | error fault =>
      rw [read] at again
      contradiction
    | ok tail =>
      rw [read] at again
      exact .inr ⟨offset, mode, tail, point, read, (Except.ok.inj again).symm⟩

/-- It gives a stream of the new text. -/
theorem source_relex {edit : Nat} (again : stream.relex text edit d limit = .ok next) :
    next.source = text := by
  obtain ⟨-, read⟩ | ⟨_, _, _, -, -, rfl⟩ := relex_cases again
  · exact (ofSource_eq_ok_iff.1 read).1
  · rfl

/-- Its tokens tile the text, and there are at most a limit more than there were. -/
theorem relex_tiled {edit : Nat} (tiled : stream.Tiled)
    (again : stream.relex text edit d limit = .ok next) :
    next.Tiled ∧ next.size ≤ stream.size + limit := by
  obtain ⟨-, read⟩ | ⟨offset, mode, tail, point, read, rfl⟩ := relex_cases again
  · obtain ⟨-, short, fills⟩ := ofSource_eq_ok_iff.1 read
    exact ⟨(delimited_ofSource read).2,
      Nat.le_trans (fills.size_le_iff.2 short) (Nat.le_add_left _ _)⟩
  · obtain ⟨forward, -⟩ := range_of_ofRange read
    obtain ⟨-, short, fills⟩ := (ofRange_eq_ok_iff forward (Nat.le_refl _)).1 read
    obtain ⟨token, member, rfl⟩ := exists_token_of_relexPoint? point
    have kept : (stream.tokens.take (stream.keptBefore token.start)).toList =
        stream.tokens.toList.takeWhile fun earlier => earlier.start < token.start := by
      rw [keptBefore, Array.take_eq_extract, Array.toList_extract, List.extract_eq_take_drop,
        List.drop_zero, Nat.sub_zero]
      exact (List.prefix_iff_eq_take.1 (List.takeWhile_prefix _)).symm
    have few : (stream.tokens.take (stream.keptBefore token.start)).size ≤ stream.size := by
      rw [Array.take_eq_extract, Array.size_extract]
      exact Nat.le_trans (Nat.sub_le _ _) (Nat.min_le_right _ _)
    constructor
    · rw [Tiled, Array.toList_append, kept]
      exact tiled.join member (tiles_ofRange forward (Nat.le_refl _) fills)
    · rw [size, Array.size_append]
      exact Nat.add_le_add few (fills.size_le_iff.2 short)

/-- Edit after edit reading again gives streams of the new texts, with one limit more at each. -/
theorem relexAll_tiled {bound : Nat} (tiled : stream.Tiled) (small : stream.size ≤ bound)
    {edits : List Edit} {streams : List TokenStream}
    (chain : stream.relexAll d limit edits = .ok streams) {step : Nat}
    (listed : streams[step]? = some next) :
    ∃ edit, edits[step]? = some edit ∧ next.source = edit.text ∧ next.Tiled ∧
      next.size ≤ bound + (step + 1) * limit := by
  induction edits generalizing stream streams bound step with
  | nil =>
    obtain rfl := Except.ok.inj chain
    contradiction
  | cons edit edits ih =>
    obtain ⟨first, rest, again, onward, rfl⟩ := relexAll_cons_eq_ok chain
    obtain ⟨tiles, few⟩ := relex_tiled tiled again
    cases step with
    | zero =>
      obtain rfl := Option.some.inj listed
      exact ⟨edit, rfl, source_relex again, tiles, by omega⟩
    | succ step =>
      obtain ⟨later, found, same, tiles, size⟩ := ih tiles
        (Nat.le_trans few (Nat.add_le_add_right small limit)) onward listed
      refine ⟨later, found, same, tiles, ?_⟩
      rw [Nat.add_one_mul]
      omega

/-! ### Delimiters that are told apart -/

/-- A range that is within a limit is within a greater one. -/
theorem ofRange_mono {start stop more : Nat} {mode : Mode}
    (read : ofRange source start stop mode d limit = .ok stream) (grows : limit ≤ more) :
    ofRange source start stop mode d more = .ok stream := by
  obtain ⟨forward, inside⟩ := range_of_ofRange read
  obtain ⟨same, short, fills⟩ := (ofRange_eq_ok_iff forward inside).1 read
  exact (ofRange_eq_ok_iff forward inside).2 ⟨same, Lexer.token?_mono short grows, fills⟩

/-- Reading again within a limit gives the same within a greater one. -/
theorem relex_mono {edit more : Nat} (again : stream.relex text edit d limit = .ok next)
    (grows : limit ≤ more) : stream.relex text edit d more = .ok next := by
  obtain ⟨point, read⟩ | ⟨offset, mode, tail, point, read, rfl⟩ := relex_cases again
  · rw [relex, point]
    exact ofRange_mono read grows
  · rw [relex, point]
    dsimp only
    rw [ofRange_mono read grows]
    rfl

/-- A source has no more tokens than bytes. -/
theorem token?_ofSource_utf8ByteSize (source : String) (d : Delimiters) :
    (Lexer.ofSource source d).token? source.utf8ByteSize = none := by
  have length : (Lexer.ofSource source d).rest.length = source.utf8ByteSize := by
    rw [Lexer.ofSource, Lexer.length_rest_ofRange, Nat.min_self, Nat.zero_min, Nat.sub_zero]
  have nothing := ((Lexer.ofSource source d).read_tiles (Nat.le_of_eq length)).2
  rw [Lexer.read_snd] at nothing
  exact Lexer.token?_eq_none_iff.2 nothing

/-- What reading again gives, if it does, is what the lexer of the new text reads, whatever the
limit is. -/
theorem fills_relex (steady : d.marks.Steady)
    (fills : (Lexer.ofSource stream.source d).Fills stream) {edit : Nat}
    (agree : Scan.Agree edit (Text.bytes stream.source) (Text.bytes text))
    (again : stream.relex text edit d limit = .ok next) :
    (Lexer.ofSource text d).Fills next := by
  -- A limit beyond both texts hinders neither.
  let more := limit + stream.source.utf8ByteSize + text.utf8ByteSize
  have old : ofSource stream.source d more = .ok stream := ofSource_eq_ok_iff.2
    ⟨rfl, Lexer.token?_mono (token?_ofSource_utf8ByteSize _ d) (by omega), fills⟩
  have short : (Lexer.ofSource text d).token? more = none :=
    Lexer.token?_mono (token?_ofSource_utf8ByteSize text d) (by omega)
  have fresh : ofSource text d more = .ok _ :=
    ofSource_eq_ok_iff.2 ⟨rfl, short, fills_ofReading short⟩
  have whole := relex_eq_ok steady old agree fresh
  rw [relex_mono again (show limit ≤ more by omega)] at whole
  obtain rfl := Except.ok.inj whole
  exact fills_ofReading short

/-- So edit after edit the streams are what the lexers of their texts read. -/
theorem fills_relexAll (steady : d.marks.Steady)
    (fills : (Lexer.ofSource stream.source d).Fills stream) {edits : List Edit}
    (agreeing : Agreeing stream.source edits) {streams : List TokenStream}
    (chain : stream.relexAll d limit edits = .ok streams) (member : next ∈ streams) :
    (Lexer.ofSource next.source d).Fills next := by
  induction edits generalizing stream streams with
  | nil =>
    obtain rfl := Except.ok.inj chain
    contradiction
  | cons edit edits ih =>
    obtain ⟨first, rest, again, onward, rfl⟩ := relexAll_cons_eq_ok chain
    have filled := fills_relex steady fills agreeing.1 again
    have source := source_relex again
    rw [← source] at filled
    rcases List.mem_cons.1 member with rfl | later
    · exact filled
    · exact ih filled (source ▸ agreeing.2) onward later

/-- Three line feeds. -/
def threeLines : TokenStream :=
  ⟨"\n\n\n", #[⟨.newline, 0, 1⟩, ⟨.newline, 1, 2⟩, ⟨.newline, 2, 3⟩],
    #[.template, .template, .template], .template⟩

/-- After any edits a stream has tokens that tile its text, and at most one limit more at each edit.
With delimiters that are told apart, and edits that leave the bytes before them as they were, it is
within the limit exactly if its text could have been read anew. -/
theorem relexAll_bounded (read : ofSource source d limit = .ok stream) {edits : List Edit}
    {streams : List TokenStream} (chain : stream.relexAll d limit edits = .ok streams) {step : Nat}
    (listed : streams[step]? = some next) :
    ∃ edit, edits[step]? = some edit ∧ next.source = edit.text ∧ next.Tiled ∧
      next.size ≤ edit.text.utf8ByteSize ∧ next.size ≤ (step + 2) * limit ∧
      (d.marks.Steady → Agreeing source edits →
        (next.size ≤ limit ↔ (ofSource edit.text d limit).isOk = true)) := by
  obtain ⟨rfl, short, fills⟩ := ofSource_eq_ok_iff.1 read
  obtain ⟨edit, found, same, tiled, few⟩ :=
    relexAll_tiled (delimited_ofSource read).2 (fills.size_le_iff.2 short) chain listed
  refine ⟨edit, found, same, tiled, ?_, ?_, fun steady agreeing => ?_⟩
  · have bytes := tiled.length_le
    rw [Nat.zero_add, Array.length_toList, same] at bytes
    exact bytes
  · rw [show step + 2 = step + 1 + 1 from rfl, Nat.add_one_mul, Nat.add_comm]
    exact few
  · have filled := fills_relexAll steady fills agreeing chain (List.mem_of_getElem? listed)
    rw [same] at filled
    rw [filled.size_le_iff]
    constructor
    · intro within
      rw [ofSource_eq_ok_iff.2 ⟨same, within, filled⟩]
      rfl
    · intro within
      obtain ⟨fresh, ok⟩ := ofSource_of_isOk within
      exact (ofSource_eq_ok_iff.1 ok).2.1

/-- One line feed more than was there is beyond a limit that one token is kept under. -/
theorem relexAll_bounded_beyond :
    let next : TokenStream := ⟨"\n\n\n\n",
      #[⟨.newline, 0, 1⟩, ⟨.newline, 1, 2⟩, ⟨.newline, 2, 3⟩, ⟨.newline, 3, 4⟩],
      #[.template, .template, .template, .template], .template⟩
    let d := Delimiters.stock "" ""
    ofSource "\n\n\n" d 3 = .ok threeLines ∧ d.marks.Steady ∧
      threeLines.relexAll d 3 [⟨"\n\n\n\n", 3⟩] = .ok [next] ∧ next.size ≤ (0 + 2) * 3 ∧
      (next.size ≤ 3 ↔ (ofSource "\n\n\n\n" d 3).isOk = true) := by
  intro next d
  have read : ofSource "\n\n\n" d 3 = .ok threeLines := by decide +kernel
  have steady : d.marks.Steady := Delimiters.marks_stock (by decide) (by decide) (by decide)
  have chain : threeLines.relexAll d 3 [⟨"\n\n\n\n", 3⟩] = .ok [next] := by decide +kernel
  obtain ⟨edit, found, -, -, -, few, exactly⟩ :=
    relexAll_bounded read chain (show [next][0]? = some next from rfl)
  obtain rfl := Option.some.inj found
  exact ⟨read, steady, chain, few, exactly steady ⟨by decide +kernel, trivial⟩⟩

end TokenStream

/-! ### Line feeds -/

/-- The bytes of a text of line feeds. -/
theorem Text.bytes_replicate_lineFeed (count : Nat) :
    bytes (String.ofList (List.replicate count '\n')) = List.replicate count Scan.lineFeed := by
  have single : String.utf8EncodeChar '\n' = [Scan.lineFeed] := by decide
  rw [bytes_eq, String.toList_ofList]
  induction count with
  | zero => rfl
  | succ count ih => rw [List.replicate_succ, List.flatMap_cons, ih, single]; rfl

/-- Where no mark begins with a line feed, a line feed between tags is a token. -/
theorem Scan.template_of_feed {m : Marks}
    (plain : ∀ opener ∈ m.openers, opener.head? ≠ some lineFeed) (lineStart : Bool)
    (rest : List UInt8) :
    template m lineStart (lineFeed :: rest) = ⟨.newline, 1, .template, false⟩ := by
  have none {opener : List UInt8} (listed : opener ∈ m.openers) :
      leads opener (lineFeed :: rest) = false := leads_of_head (plain opener listed) rest
  rw [template, none (show m.lineStatement ∈ m.openers by simp [Marks.openers]),
    none (show m.lineComment ∈ m.openers by simp [Marks.openers]),
    none (show m.blockStart ∈ m.openers by simp [Marks.openers]),
    none (show m.variableStart ∈ m.openers by simp [Marks.openers]),
    none (show m.commentStart ∈ m.openers by simp [Marks.openers])]
  simp [atLineFeed]

namespace Lexer

variable {lexer : Lexer}

/-- Line feeds between tags are read one by one. -/
theorem ahead_lineFeeds (plain : ∀ opener ∈ lexer.marks.openers, opener.head? ≠ some Scan.lineFeed)
    (mode : lexer.mode = .template) {count : Nat}
    (rest : lexer.rest = List.replicate count Scan.lineFeed) (place : Nat) :
    (lexer.ahead place).mode = .template ∧
      (lexer.ahead place).rest = List.replicate (count - place) Scan.lineFeed := by
  induction place with
  | zero => exact ⟨mode, rest⟩
  | succ place ih =>
    obtain ⟨stays, left⟩ := ih
    cases more : count - place with
    | zero =>
      rw [more] at left
      have same : lexer.ahead (place + 1) = lexer.ahead place := by
        rw [ahead, step, if_pos (List.isEmpty_iff.2 left)]
      rw [same, show count - (place + 1) = 0 by omega]
      exact ⟨stays, left⟩
    | succ fewer =>
      rw [more, List.replicate_succ] at left
      have scanned : (lexer.ahead place).scan = ⟨.newline, 1, .template, false⟩ := by
        rw [scan, stays, Scan.next, left, marks_ahead]
        exact Scan.template_of_feed plain _ _
      rw [ahead, step_of_some (by rw [left]; exact List.cons_ne_nil _ _), scanned, after, left,
        show count - (place + 1) = fewer by omega]
      exact ⟨rfl, rfl⟩

/-- A stream of line feeds has a token for each. -/
theorem Fills.size_lineFeeds {stream : TokenStream} (fills : lexer.Fills stream)
    (plain : ∀ opener ∈ lexer.marks.openers, opener.head? ≠ some Scan.lineFeed)
    (mode : lexer.mode = .template) {count : Nat}
    (rest : lexer.rest = List.replicate count Scan.lineFeed) : stream.size = count := by
  have within (place : Nat) : place < stream.size ↔ place < count := by
    rw [fills.lt_size_iff, (ahead_lineFeeds plain mode rest place).2, ne_eq,
      List.replicate_eq_nil_iff]
    omega
  exact Nat.le_antisymm (Nat.le_of_not_lt fun more => Nat.lt_irrefl _ ((within count).1 more))
    (Nat.le_of_not_lt fun more => Nat.lt_irrefl _ ((within stream.size).2 more))

end Lexer

namespace TokenStream

/-- A text of line feeds is read from any place if there are no more of them than the limit. -/
theorem ofRange_lineFeeds {d : Delimiters}
    (plain : ∀ opener ∈ d.marks.openers, opener.head? ≠ some Scan.lineFeed) {count start : Nat}
    {text : String} (spelled : text = String.ofList (List.replicate count '\n'))
    (inside : start ≤ count) (limit : Nat) :
    (ofRange text start text.utf8ByteSize .template d limit).toOption.map size =
      if count - start ≤ limit then some (count - start) else none := by
  have bytes : Text.bytes text = List.replicate count Scan.lineFeed :=
    spelled ▸ Text.bytes_replicate_lineFeed count
  have length : text.utf8ByteSize = count := by
    rw [← Text.length_bytes, bytes, List.length_replicate]
  have forward : start ≤ text.utf8ByteSize := Nat.le_trans inside (Nat.le_of_eq length.symm)
  have rest : (Lexer.ofRange text start text.utf8ByteSize .template d).rest =
      List.replicate (count - start) Scan.lineFeed := by
    rw [Lexer.ofRange, Nat.min_self, Nat.min_eq_left forward, bytes, length, List.drop_replicate,
      List.take_replicate, Nat.min_self]
  have left := (Lexer.ahead_lineFeeds plain rfl rest limit).2
  split
  next few =>
    have short : (Lexer.ofRange text start text.utf8ByteSize .template d).token? limit = none := by
      rw [Lexer.token?_eq_none_iff, left, Nat.sub_eq_zero_of_le few]
      rfl
    have fills := fills_ofReading short
    rw [(ofRange_eq_ok_iff forward (Nat.le_refl _)).2 ⟨rfl, short, fills⟩]
    exact congrArg some (fills.size_lineFeeds plain rfl rest)
  next many =>
    cases read : ofRange text start text.utf8ByteSize .template d limit with
    | error fault => rfl
    | ok stream =>
      obtain ⟨-, short, -⟩ := (ofRange_eq_ok_iff forward (Nat.le_refl _)).1 read
      rw [Lexer.token?_eq_none_iff, left, List.replicate_eq_nil_iff] at short
      exact absurd (Nat.sub_eq_zero_iff_le.1 short) many

/-- Whatever the limit is, when more line feeds come in so that there is one more than the limit,
reading the text anew is refused. Reading it again keeps the first token and reads the others, which
are as many as the limit. -/
theorem relex_lineFeeds {limit : Nat} (some : 2 ≤ limit) {text : String}
    (spelled : text = String.ofList (List.replicate (limit + 1) '\n')) :
    Scan.Agree 3 (Text.bytes threeLines.source) (Text.bytes text) ∧
      (∃ next, threeLines.relex text 3 {} limit = .ok next ∧ next.size = limit + 1) ∧
      (ofSource text {} limit).isOk = false := by
  have plain : ∀ opener ∈ ({} : Delimiters).marks.openers, opener.head? ≠ .some Scan.lineFeed := by
    decide +kernel
  have point : threeLines.relexPoint? 3 = .some (1, .template) := by decide +kernel
  have kept : threeLines.keptBefore 1 = 1 := by decide
  refine ⟨?_, ?_, ?_⟩
  · rw [Scan.Agree, spelled, Text.bytes_replicate_lineFeed, List.take_replicate,
      Nat.min_eq_left (Nat.succ_le_succ some)]
    decide +kernel
  · have tail := ofRange_lineFeeds plain spelled (Nat.le_add_left 1 limit) limit
    rw [Nat.add_sub_cancel, if_pos (Nat.le_refl limit)] at tail
    cases read : ofRange text 1 text.utf8ByteSize .template {} limit with
    | error fault =>
      rw [read] at tail
      contradiction
    | ok more =>
      rw [read] at tail
      have count : more.tokens.size = limit := Option.some.inj tail
      refine ⟨⟨text, threeLines.tokens.take 1 ++ more.tokens, threeLines.modes.take 1 ++ more.modes,
        more.endMode⟩, ?_, ?_⟩
      · rw [relex, point]
        dsimp only
        rw [kept, read]
        rfl
      · rw [size, Array.size_append, count]
        exact Nat.add_comm 1 limit
  · have whole := ofRange_lineFeeds plain spelled (Nat.zero_le (limit + 1)) limit
    rw [Nat.sub_zero, if_neg (Nat.not_succ_le_self limit), ← ofSource] at whole
    cases read : ofSource text {} limit with
    | error fault => rfl
    | ok fresh =>
      rw [read] at whole
      contradiction

/-- So the limit on the number of tokens does not hold of what is read again. -/
theorem relex_exceeds :
    let text := String.ofList (List.replicate (Limits.maxTokenCount + 1) '\n')
    ofSource threeLines.source {} = .ok threeLines ∧
      Scan.Agree 3 (Text.bytes threeLines.source) (Text.bytes text) ∧
      (∃ next, threeLines.relex text 3 {} = .ok next ∧ Limits.maxTokenCount < next.size) ∧
      (ofSource text {}).isOk = false := by
  intro text
  have some : 2 ≤ Limits.maxTokenCount := by decide
  have spelled : text = String.ofList (List.replicate (Limits.maxTokenCount + 1) '\n') := rfl
  obtain ⟨agree, ⟨next, again, count⟩, refused⟩ := relex_lineFeeds some spelled
  exact ⟨by decide +kernel, agree,
    ⟨next, again, Nat.lt_of_lt_of_eq (Nat.lt_succ_self _) count.symm⟩, refused⟩

end TokenStream
end Stencil
