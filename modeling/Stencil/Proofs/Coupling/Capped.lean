import Stencil.Proofs.Coupling.Template
import Stencil.Proofs.Parser.Coverage
import Stencil.Proofs.Parser.History
/-!
# The cap on diagnostics

A parser never looks at what it has reported, so that two parses that differ only in how many
diagnostics they may keep take the same steps and have the same to report (`Capped`). Each keeps the
first ones of that and counts the rest (`parse_capped`). The limit on nesting is reported once at
most, also where that report is only counted, and every report is about the place of a token or the
end of the source.
-/

namespace Stencil

/-- A place that can be reported: where a token starts that is not white space, or the end. -/
def TokenStream.Starts (stream : TokenStream) (offset : Nat) : Prop :=
  (∃ token ∈ stream.tokens, token.kind ≠ .whitespace ∧ token.start = offset) ∨
    offset = stream.source.utf8ByteSize

namespace Parser

/-- A parser that has reported nothing and may keep no report. -/
def silent (p : Parser) : Parser :=
  { p with limits := ⟨p.limits.depth, 0⟩, diagnostics := #[], suppressed := 0 }

/-- What a parser over a stream has reported: the limit on nesting once, if it was met, and all of
it about places of the stream. -/
structure Reported (stream : TokenStream) (deep : Bool) (told : List Diagnostic) : Prop where
  once : told.countP (·.fault = .maxRecursionDepth) ≤ deep.toNat
  places : ∀ diagnostic ∈ told, stream.Starts diagnostic.offset

/-- Parsers over a stream that differ only in how many reports they may keep, and have made the
same reports. -/
structure Capped (stream : TokenStream) (p q : Parser) : Prop where
  source : p.stream = stream
  same : q.silent = p.silent
  within : p.builder.opened ≠ []
  told : ∃ told, p.Told told ∧ q.Told told ∧ Reported stream p.depthReported told

variable {stream : TokenStream} {o o' p q r s : Parser}

/-! ### Steps of a silent parser -/

/-- White space is passed over alike by a parser that keeps no reports. -/
theorem silent_skipSpace (p : Parser) : p.skipSpace.silent = p.silent.skipSpace := by
  have spaced (among : Nat) (p : Parser) :
      (p.takeSpace among).silent = p.silent.takeSpace among := by
    induction among generalizing p with
    | zero => rfl
    | succ among ih =>
      rw [takeSpace, takeSpace]
      split
      next blank =>
        rw [if_pos (show p.silent.stream.kindAt? p.silent.position = _ from blank)]
        exact ih p.take
      next solid => rw [if_neg (show ¬p.silent.stream.kindAt? p.silent.position = _ from solid)]
  exact spaced _ p

/-- A token is taken alike by a parser that keeps no reports. -/
theorem silent_bump (p : Parser) : p.bump.silent = p.silent.bump := by
  have spaced := p.silent_skipSpace
  rw [bump, bump, ← spaced]
  exact apply_ite silent _ _ _

/-- A node is opened alike by a parser that keeps no reports. -/
theorem silent_start (p : Parser) (kind : NodeKind) :
    (p.start kind).silent = p.silent.start kind := by
  rw [start, start, ← silent_skipSpace]
  rfl

/-- Of a report a parser that keeps none has nothing. -/
theorem silent_errorAt (p : Parser) (offset : Nat) (fault : SyntaxFault) (message : String) :
    (p.errorAt offset fault message).silent = p.silent := by
  rw [errorAt]
  split
  · rfl
  · rfl

/-- At a refused level a parser that keeps no reports only notes that there was one. -/
theorem silent_refuse (p : Parser) :
    p.refuse.silent = silent { p with depthReported := true } := by
  cases before : p.depthReported with
  | true =>
    rw [refuse_of_reported before]
    exact congrArg (fun deep => { p.silent with depthReported := deep }) before
  | false =>
    rw [refuse, before, if_neg Bool.false_ne_true]
    exact silent_errorAt _ _ _ _

/-- What depends on anything but reports is the same where all but the reports is. -/
theorem eq_of_silent {α : Type} (view : Parser → α) (blind : ∀ r : Parser, view r.silent = view r)
    (same : q.silent = p.silent) : view q = view p := by rw [← blind q, same, blind p]

/-- A parser is where a token starts that is not white space, or at the end. -/
theorem starts_offset (p : Parser) : p.stream.Starts p.offset := by
  rw [offset_eq, TokenStream.offsetAt]
  have solid := p.stream.kindAt?_visible p.position
  rw [TokenStream.kindAt?] at solid
  cases found : p.stream.tokens[p.stream.visible p.position]? with
  | none => exact .inr rfl
  | some token =>
    rw [found] at solid
    exact .inl ⟨token, Array.mem_of_getElem? found, fun blank => solid (congrArg some blank), rfl⟩

/-! ### Reports -/

namespace Reported

variable {deep : Bool} {told : List Diagnostic}

/-- Where nothing is reported, nothing is wrong with it. -/
theorem empty : Reported stream false [] := ⟨Nat.le_refl 0, nofun⟩

/-- One report more, that is not about the limit on nesting. -/
theorem concat (reported : Reported stream deep told) {diagnostic : Diagnostic}
    (own : diagnostic.fault ≠ .maxRecursionDepth) (place : stream.Starts diagnostic.offset) :
    Reported stream deep (told ++ [diagnostic]) where
  once := by
    rw [List.countP_append, List.countP_singleton, if_neg (by simpa using own), Nat.add_zero]
    exact reported.once
  places := List.forall_mem_append.2 ⟨reported.places, List.forall_mem_singleton.2 place⟩

/-- The limit on nesting is reported if it has not been. -/
theorem deepest (reported : Reported stream false told) {diagnostic : Diagnostic}
    (place : stream.Starts diagnostic.offset) : Reported stream true (told ++ [diagnostic]) where
  once := by
    rw [List.countP_append, Nat.le_zero.1 reported.once, Nat.zero_add]
    exact List.countP_le_length
  places := List.forall_mem_append.2 ⟨reported.places, List.forall_mem_singleton.2 place⟩

end Reported

namespace Capped

variable (both : Capped stream p q)

include both

/-- A step that changes and reports nothing but what a silent parser does keeps parsers alike. -/
theorem quiet (source : r.stream = p.stream) (same : s.silent = r.silent)
    (within : r.builder.opened ≠ []) (deep : r.depthReported = p.depthReported)
    (left : p.Raises r []) (right : q.Raises s []) : Capped stream r s := by
  obtain ⟨told, one, two, reported⟩ := both.told
  refine ⟨source.trans both.source, same, within, told, ?_, ?_, deep ▸ reported⟩
  · exact List.append_nil told ▸ left told one
  · exact List.append_nil told ▸ right told two

/-- Parsers that make the same report more are alike. -/
theorem report {diagnostic : Diagnostic} (source : r.stream = p.stream) (same : s.silent = r.silent)
    (within : r.builder.opened ≠ []) (left : p.Raises r [diagnostic])
    (right : q.Raises s [diagnostic])
    (further : ∀ told, Reported stream p.depthReported told →
      Reported stream r.depthReported (told ++ [diagnostic])) : Capped stream r s := by
  obtain ⟨told, one, two, reported⟩ := both.told
  exact ⟨source.trans both.source, same, within, _, left told one, right told two,
    further told reported⟩

/-- A report other than that of a refused level goes to both lists, as far as the caps allow. -/
theorem errorAt (origin : Capped stream o o') {fault : SyntaxFault}
    (own : fault ≠ .maxRecursionDepth) (message : String) :
    Capped stream (p.errorAt o.offset fault message) (q.errorAt o'.offset fault message) := by
  have place := o.starts_offset
  rw [origin.source] at place
  have silent := p.silent_errorAt o.offset fault message
  have deep := eq_of_silent depthReported (fun _ => rfl) silent
  have tree := eq_of_silent builder (fun _ => rfl) silent
  rw [eq_of_silent offset (fun _ => rfl) origin.same]
  refine both.report (eq_of_silent Parser.stream (fun _ => rfl) silent) ?_ (tree ▸ both.within)
    (p.raises_errorAt _ _ _) (q.raises_errorAt _ _ _) fun told reported => ?_
  · rw [silent, silent_errorAt, both.same]
  · rw [deep]
    exact reported.concat own place

/-- A refused level is reported once, in both lists, as far as the caps allow. -/
theorem refuse : Capped stream p.refuse q.refuse := by
  have also := eq_of_silent depthReported (fun _ => rfl) both.same
  cases before : p.depthReported with
  | true =>
    rw [refuse_of_reported before, refuse_of_reported (also.trans before)]
    exact both
  | false =>
    have place := p.starts_offset
    rw [both.source] at place
    have silent := p.silent_refuse
    have deep := eq_of_silent depthReported (fun _ => rfl) silent
    have tree := eq_of_silent builder (fun _ => rfl) silent
    have right := raises_refuse_of_fresh (also.trans before)
    rw [eq_of_silent offset (fun _ => rfl) both.same,
      eq_of_silent (·.limits.depth) (fun _ => rfl) both.same] at right
    have source := eq_of_silent Parser.stream (fun _ => rfl) silent
    refine both.report source ?_ (tree ▸ both.within) (raises_refuse_of_fresh before) right
      fun told reported => ?_
    · rw [silent, silent_refuse]
      exact congrArg (fun r : Parser => { r with depthReported := true }) both.same
    · rw [before] at reported
      rw [deep]
      exact reported.deepest place

end Capped

/-- Parsers that differ only in how many reports they may keep go on in the same way. -/
theorem coupling_capped (stream : TokenStream) : Coupling (Capped stream) where
  current? both := eq_of_silent current? (fun _ => rfl) both.same
  next? both := eq_of_silent (·.nth? 1) (fun _ => rfl) both.same
  nextMode? both := eq_of_silent nextMode? (fun _ => rfl) both.same
  levels both := eq_of_silent levels (fun _ => rfl) both.same
  awaited both := eq_of_silent awaited (fun _ => rfl) both.same
  within both := both.within
  skipSpace {p q} both :=
    both.quiet p.reads_skipSpace.stream (by rw [silent_skipSpace, silent_skipSpace, both.same])
      ((growing_skipSpace p).opened_ne_nil both.within) p.depthReported_skipSpace
      p.raises_skipSpace q.raises_skipSpace
  bump {p q} both := by
    obtain ⟨shapes, reads⟩ := growing_bump p
    exact both.quiet reads.stream (by rw [silent_bump, silent_bump, both.same])
      ((growing_bump p).opened_ne_nil both.within) p.depthReported_bump p.raises_bump q.raises_bump
  start {p q} both kind :=
    both.quiet p.reads_skipSpace.stream (by rw [silent_start, silent_start, both.same])
      (List.cons_ne_nil _ _) p.depthReported_skipSpace (p.raises_start kind) (q.raises_start kind)
  startAt {o o' p q} origin both _ _ _ _ kind := by
    have length := p.length_opened_startAt o.builder.checkpoint kind
    rw [eq_of_silent builder (fun _ => rfl) origin.same]
    exact both.quiet rfl (congrArg (·.startAt o.builder.checkpoint kind) both.same)
      (List.ne_nil_of_length_eq_add_one length) rfl (raises_of_same rfl rfl rfl)
      (raises_of_same rfl rfl rfl)
  finish both inner := both.quiet rfl (congrArg finish both.same) (opened_finish_ne_nil inner) rfl
    (raises_of_same rfl rfl rfl) (raises_of_same rfl rfl rfl)
  errorAt origin both _ own message := both.errorAt origin own message
  refuse both := both.refuse
  descend both := both.quiet rfl (congrArg descend both.same) both.within rfl
    (raises_of_same rfl rfl rfl) (raises_of_same rfl rfl rfl)
  ascend both := both.quiet rfl (congrArg ascend both.same) both.within rfl
    (raises_of_same rfl rfl rfl) (raises_of_same rfl rfl rfl)
  openBody both closer := both.quiet rfl (congrArg (·.openBody closer) both.same) both.within rfl
    (raises_of_same rfl rfl rfl) (raises_of_same rfl rfl rfl)
  closeBody both := both.quiet rfl (congrArg closeBody both.same) both.within rfl
    (raises_of_same rfl rfl rfl) (raises_of_same rfl rfl rfl)

/-- Once all tokens are read, what has been told is handed over with the tree. -/
theorem Told.close {told : List Diagnostic} (has : p.Told told) (ended : p.finish.remaining = 0) :
    p.finish.close.diagnostics.toList = told.take p.limits.diagnostics ∧
      p.finish.close.statistics.suppressed = told.length - p.limits.diagnostics := by
  rw [close_of_ended ended]
  exact ⟨has.kept, has.counted⟩

/-- Alike parsers hand over the same tree and depth. -/
theorem Capped.close (both : Capped stream p q) (ended : p.finish.remaining = 0)
    (also : q.finish.remaining = 0) : q.finish.close.tree = p.finish.close.tree ∧
      q.finish.close.statistics.maxDepth = p.finish.close.statistics.maxDepth := by
  have same : q.finish.silent = p.finish.silent := congrArg finish both.same
  rw [close_of_ended ended, close_of_ended also]
  exact ⟨eq_of_silent (·.builder.finish) (fun _ => rfl) same,
    eq_of_silent maxDepth (fun _ => rfl) same⟩

end Parser

namespace TokenStream

/-- The statistics count the nodes of the tree and the diagnostics that are handed over. -/
theorem parse_counts (stream : TokenStream) (limits : ParseLimits) :
    (stream.parse limits).statistics.nodeCount = (stream.parse limits).tree.size ∧
      (stream.parse limits).statistics.recorded = (stream.parse limits).diagnostics.size := by
  rw [parse, Parser.parse, Parser.close]
  generalize (Parser.ofStream stream limits).template.takeAll _ = p
  exact ⟨rfl, rfl⟩

/-- Two parses that differ only in how many reports they may keep build the same and have the same
to report. -/
theorem exists_told (stream : TokenStream) (depth cap other : Nat) :
    let one := stream.parse ⟨depth, cap⟩
    let two := stream.parse ⟨depth, other⟩
    (two.tree = one.tree ∧ two.statistics.maxDepth = one.statistics.maxDepth) ∧
    ∃ told, (one.diagnostics.toList = told.take cap ∧
        one.statistics.suppressed = told.length - cap) ∧
      (two.diagnostics.toList = told.take other ∧
        two.statistics.suppressed = told.length - other) ∧
      ∃ deep, Parser.Reported stream deep told := by
  let p := Parser.ofStream stream ⟨depth, cap⟩
  let q := Parser.ofStream stream ⟨depth, other⟩
  have begun : Parser.Capped stream (p.start .template) (q.start .template) := by
    refine ⟨p.reads_skipSpace.stream, ?_, List.cons_ne_nil _ _, [], ?_, ?_, ?_⟩
    · rw [Parser.silent_start, Parser.silent_start]
      rfl
    · exact p.raises_start .template [] (Parser.told_ofStream _ _)
    · exact q.raises_start .template [] (Parser.told_ofStream _ _)
    · have fresh : (p.start .template).depthReported = false := p.depthReported_skipSpace
      rw [fresh]
      exact Parser.Reported.empty
  obtain ⟨-, both, ⟨_, left⟩, ⟨_, right⟩⟩ :=
    (Parser.coupling_capped stream).outer.keeps_items_of_template (Parser.linked begun)
  obtain ⟨told, has, also, reported⟩ := both.told
  have first := has.close p.remaining_template
  have second := also.close q.remaining_template
  rw [left.limits, show (p.start .template).limits = _ from p.reads_skipSpace.limits] at first
  rw [right.limits, show (q.start .template).limits = _ from q.reads_skipSpace.limits] at second
  exact ⟨both.close p.remaining_template q.remaining_template, told, first, second, _, reported⟩

/-- Whatever the tokens are, there is one list of reports of which every parse keeps the first ones,
as many as it may, and counts the rest; the tree and the depth are the same in all of them. The
limit on nesting is reported once at most, and every report is about the start of a token that is
not white space or the end of the source. -/
theorem parse_capped (stream : TokenStream) (depth : Nat) :
    ∃ raised : List Diagnostic,
      (∀ cap, let parsed := stream.parse ⟨depth, cap⟩
        parsed.diagnostics.toList = raised.take cap ∧
        parsed.statistics.recorded = (raised.take cap).length ∧
        parsed.statistics.suppressed = (raised.drop cap).length) ∧
      (∀ cap other, let parsed := stream.parse ⟨depth, cap⟩
        let also := stream.parse ⟨depth, other⟩
        also.tree = parsed.tree ∧ also.statistics.nodeCount = parsed.statistics.nodeCount ∧
        also.statistics.maxDepth = parsed.statistics.maxDepth) ∧
      raised.countP (·.fault = .maxRecursionDepth) ≤ 1 ∧
      ∀ diagnostic ∈ raised, stream.Starts diagnostic.offset := by
  -- A parse that may keep nothing counts what there is to report, and one that may keep as many
  -- keeps all of it.
  obtain ⟨count, counted⟩ : ∃ count, (stream.parse ⟨depth, 0⟩).statistics.suppressed = count :=
    ⟨_, rfl⟩
  obtain ⟨-, raised, ⟨-, more⟩, ⟨kept, rest⟩, deep, reported⟩ := stream.exists_told depth 0 count
  obtain rfl : raised.length = count := more.symm.trans counted
  rw [List.take_length] at kept
  rw [Nat.sub_self] at rest
  have every (cap : Nat) : (stream.parse ⟨depth, cap⟩).diagnostics.toList = raised.take cap ∧
      (stream.parse ⟨depth, cap⟩).statistics.suppressed = raised.length - cap := by
    obtain ⟨-, told, ⟨first, beyond⟩, also, -⟩ := stream.exists_told depth raised.length cap
    rw [rest] at beyond
    rw [kept, List.take_of_length_le (by omega)] at first
    exact first ▸ also
  refine ⟨raised, fun cap => ⟨(every cap).1, ?_, ?_⟩, fun cap other => ?_,
    Nat.le_trans reported.once deep.toNat_le, reported.places⟩
  · rw [← (every cap).1, Array.length_toList]
    exact (stream.parse_counts _).2
  · rw [List.length_drop]
    exact (every cap).2
  · obtain ⟨⟨tree, deepest⟩, -⟩ := stream.exists_told depth cap other
    refine ⟨tree, ?_, deepest⟩
    rw [(stream.parse_counts _).1, (stream.parse_counts _).1, tree]

end TokenStream
end Stencil
