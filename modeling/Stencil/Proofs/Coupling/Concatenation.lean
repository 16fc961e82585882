import Stencil.Proofs.Coupling.Front
import Stencil.Proofs.Coupling.Ranges
import Stencil.Proofs.Lexer.Concatenation
import Stencil.Proofs.Outline.Content
import Stencil.Proofs.Parser.Ranges
/-!
# Templates in a row

A template that is read without a report and ends with a delimiter that closes a tag or a comment
leaves no trace: a template after it is read as if it stood alone, behind the items of the first
one (`TokenStream.parse_append`). The parser of the first stream and that of both together come out
of every tag at the same place until the first stream ends; from there the second stream is read as
part of the whole.
-/

namespace Stencil

/-- A diagnostic so many bytes further on. -/
def Diagnostic.shift (size : Nat) (diagnostic : Diagnostic) : Diagnostic :=
  { diagnostic with offset := diagnostic.offset + size }

namespace TokenStream

variable {one two : TokenStream} {index : Nat}

/-- Two streams one after the other have as many tokens as both. -/
theorem size_append : (one.append two).size = one.size + two.size := by
  rw [size, append, Array.size_append, Array.size_map]
  rfl

/-- Before the joint are the tokens of the first stream. -/
theorem tokens_append_left (before : index < one.size) :
    (one.append two).tokens[index]? = one.tokens[index]? := Array.getElem?_append_left before

/-- From the joint on are the tokens of the second stream, shifted by the first source. -/
theorem tokens_append_right (one two : TokenStream) (index : Nat) :
    (one.append two).tokens[index + one.size]? =
      two.tokens[index]?.map (·.shift one.source.utf8ByteSize) := by
  rw [append, size, Array.getElem?_append_right (Nat.le_add_left _ _), Array.getElem?_map,
    Nat.add_sub_cancel]

/-- Tokens of the second stream keep their kinds. -/
theorem kindAt?_append_right (one two : TokenStream) (index : Nat) :
    (one.append two).kindAt? (index + one.size) = two.kindAt? index := by
  rw [kindAt?, kindAt?, tokens_append_right, Option.map_map]
  rfl

section

variable (modes : one.modes.size = one.size)

include modes

/-- Before the joint the modes are those of the first stream. -/
theorem modeAfter?_append_left (before : index + 1 < one.size) :
    (one.append two).modeAfter? index = one.modeAfter? index := by
  have inside : index < (one.append two).size := by
    rw [size_append]
    omega
  rw [modeAfter?, modeAfter?, if_pos inside, if_pos (Nat.lt_of_succ_lt before), append,
    Array.getElem?_append_left (modes ▸ before), Array.getElem?_eq_getElem (modes ▸ before)]
  rfl

/-- From the joint on the modes are those of the second stream. -/
theorem modeAfter?_append_right (index : Nat) :
    (one.append two).modeAfter? (index + one.size) = two.modeAfter? index := by
  have place : index + one.size + 1 = index + 1 + one.modes.size := by
    rw [modes, Nat.add_right_comm]
  rw [modeAfter?, modeAfter?, size_append, place, append,
    Array.getElem?_append_right (Nat.le_add_left _ _), Nat.add_sub_cancel]
  simp only [Nat.add_comm index, Nat.add_lt_add_iff_left]

end

/-- Offsets in the second stream are shifted by the first source. -/
theorem offsetAt_append_right (one two : TokenStream) (index : Nat) :
    (one.append two).offsetAt (index + one.size) =
      two.offsetAt index + one.source.utf8ByteSize := by
  rw [offsetAt, offsetAt, tokens_append_right]
  cases two.tokens[index]? with
  | none =>
    exact (String.utf8ByteSize_append).trans (Nat.add_comm _ _)
  | some token => rfl

/-- Offsets up to the joint are those of the first stream. -/
theorem offsetAt_append_left (tiled : two.Tiled) (upTo : index ≤ one.size) :
    (one.append two).offsetAt index = one.offsetAt index := by
  rcases Nat.lt_or_eq_of_le upTo with before | rfl
  · rw [offsetAt, offsetAt, tokens_append_left before, Array.getElem?_eq_getElem before]
    rfl
  · have first := offsetAt_append_right one two 0
    rw [Nat.zero_add, tiled.offsetAt_zero, Nat.zero_add] at first
    rw [first, offsetAt_of_size_le (Nat.le_refl _)]

variable {source more : String} {d : Delimiters} {limit : Nat}

/-- A stream that ends with a delimiter after a tag or a comment is in front of another one. -/
theorem fronts_append (first : ofSource source d limit = .ok one) {last : Delimiter}
    (closes : last = .blockEnd ∨ last = .variableEnd ∨ last = .commentEnd)
    (ends : one.kindAt? (one.size - 1) = some (.delimiter last))
    (second : ofSource more d limit = .ok two) : one.Fronts (one.append two) := by
  obtain ⟨-, -, fills⟩ := ofSource_eq_ok_iff.1 first
  exact {
    closed := closed_of_fills fills closes ends rfl
    tokens := tokens_append_left
    modes := modeAfter?_append_left fills.size_modes
    solid := by
      have next := kindAt?_append_right one two 0
      rw [Nat.zero_add] at next
      rw [next]
      exact ofSource_kindAt?_zero second
    offsets := offsetAt_append_left (delimited_ofSource second).2 }

end TokenStream

/-- When only the outermost node is open it becomes the root. -/
theorem TreeBuilder.finish_of_opened {builder : TreeBuilder} {node : OpenNode}
    (opened : builder.opened = [node]) : ∃ root, root.children = node.children ∧
      builder.finishNode.finish = ⟨builder.nodes.push root, builder.nodes.size⟩ := by
  obtain ⟨_, _, _, _⟩ := builder
  obtain rfl := opened
  exact ⟨_, rfl, rfl⟩

namespace Parser

/-- The parser of a stream when it has read the items of the template. -/
def afterItems (stream : TokenStream) (limits : ParseLimits) : Parser :=
  ((ofStream stream limits).start .template).loop (fun p => p.current?.isSome) item

variable {stream : TokenStream} {limits : ParseLimits}

/-- A template is its items, the white space after them and the end of the root. -/
theorem template_eq_afterItems (stream : TokenStream) (limits : ParseLimits) :
    (ofStream stream limits).template = (afterItems stream limits).skipSpace.finish := rfl

/-- What a parse gives is what there is after the items. -/
theorem parse_afterItems (stream : TokenStream) (limits : ParseLimits) :
    let last := (afterItems stream limits).skipSpace.finish
    (stream.parse limits).tree = last.builder.finish ∧
      (stream.parse limits).diagnostics = last.diagnostics ∧
      (stream.parse limits).statistics.suppressed = last.suppressed := by
  have ended := (ofStream stream limits).remaining_template
  rw [TokenStream.parse, Parser.parse]
  rw [template_eq_afterItems] at ended ⊢
  generalize (afterItems stream limits).skipSpace.finish = last at ended ⊢
  rw [close_of_ended ended]
  exact ⟨rfl, rfl, rfl⟩

/-- While a template is read nothing but its own node is open around what is read. -/
theorem opened_of_grows {p : Parser} (growth : ((ofStream stream limits).start .template).Grows p) :
    p.builder.tokens = stream.tokens ∧
      ∃ children offset, p.builder.opened = [⟨.template, children, offset⟩] := by
  obtain ⟨shapes, reads⟩ := growth
  have built := builder_start stream limits
  obtain ⟨_, _, tokens, -, opened, -, -⟩ := reads.builder _ _ (congrArg TreeBuilder.opened built)
  exact ⟨tokens.trans (congrArg TreeBuilder.tokens built), _, _, opened⟩

/-- After the items there is nothing left. -/
theorem current?_afterItems (stream : TokenStream) (limits : ParseLimits) :
    (afterItems stream limits).current? = none := by
  simpa [afterItems] using loop_exits (fun _ seen => seen) (fun _ seen => past_item seen)
    ((ofStream stream limits).start .template)

/-- If nothing was reported, neither was the limit on nesting. -/
theorem depthReported_afterItems (silent : (afterItems stream limits).reports = 0) :
    (afterItems stream limits).depthReported = false := by
  have passes := (ofStream stream limits).passes_skipSpace
  have begun : ((ofStream stream limits).start .template).builder.opened ≠ [] :=
    List.cons_ne_nil _ _
  have deep := (since_refl begun).items.deep
  refine eq_false_of_ne_true fun reported => ?_
  rcases deep reported with before | more
  · exact Bool.false_ne_true (passes.depthReported.symm.trans before)
  · exact Nat.not_lt_zero _ (silent ▸ more)

/-- If some diagnostic would be kept and none is, nothing was reported. -/
theorem silent_afterItems (records : 0 < limits.diagnostics)
    (quiet : (stream.parse limits).diagnostics = #[]) : (afterItems stream limits).reports = 0 := by
  obtain ⟨_, raised, -, -, -, kept, counted, -⟩ := stream.parse_outlined limits
  have nothing : raised = [] := by
    rw [quiet] at kept
    exact (List.take_eq_nil_iff.1 kept.symm).resolve_left (Nat.ne_of_gt records)
  have none : (stream.parse limits).statistics.suppressed = 0 := by
    rw [counted, nothing]
    exact Nat.zero_sub _
  obtain ⟨-, told, suppressed⟩ := parse_afterItems stream limits
  rw [told] at quiet
  rw [suppressed] at none
  rw [← reports_skipSpace, reports]
  generalize (afterItems stream limits).skipSpace = last at quiet none ⊢
  exact Nat.add_eq_zero_iff.2 ⟨Array.size_eq_zero_iff.2 quiet, none⟩

end Parser

open Stencil.Parser

/-- A stream behind another one, whose parser has read it into these children of the root. -/
def Embedding.behind (one two : TokenStream) (p : Parser) (children : Array Child) : Embedding where
  tokens := one.size
  nodes := p.builder.nodes
  children := children
  offsets start start' := start' = start + one.source.utf8ByteSize
  left := two
  right := one.append two
  depth := p.maxDepth

namespace TokenStream

variable {one two : TokenStream} {limits : ParseLimits}

/-- When nothing is reported, the parser of both streams comes to where the second one begins. -/
theorem Fronts.comes (fronts : one.Fronts (one.append two))
    (solid : two.kindAt? 0 ≠ some .whitespace) (silent : (afterItems one limits).reports = 0) :
    ∃ children offset s,
      (afterItems one limits).builder.opened = [⟨.template, children, offset⟩] ∧
      (afterItems one limits).skipSpace = afterItems one limits ∧
      afterItems (one.append two) limits = s.loop (fun p => p.current?.isSome) item ∧
      (Embedding.behind one two (afterItems one limits) children).Comes limits s := by
  have begun := fronts.between_start limits
  obtain ⟨s, both, goes⟩ := fronts.leading.exists_linked_items (linked begun) silent
  have deep := depthReported_afterItems silent
  have ended := current?_afterItems one limits
  change Linked _ _ _ (afterItems one limits) s at both
  generalize afterItems one limits = p at both ended silent deep
  have read := both.now.inside.beside
  have passes := (ofStream one limits).passes_skipSpace
  obtain ⟨shapes, reads⟩ := both.left
  -- the first stream has been read to its end
  have position : p.position = one.size := by
    have upTo := both.now.inside.upTo
    rw [(fronts.current?_eq both.now).1, one.kindAt?_eq_none] at ended
    exact Nat.le_antisymm upTo ended
  have unmoved : p.skipSpace = p := by
    apply skipSpace_of_visible
    rw [read.first]
    exact Fronts.visible_eq both.now
  obtain ⟨-, children, offset, opened⟩ := opened_of_grows both.left
  obtain ⟨tokens', children', offset', opened'⟩ := opened_of_grows both.right
  obtain ⟨untold, uncounted⟩ := Nat.add_eq_zero_iff.1 silent
  refine ⟨children, offset, s, opened, unmoved, goes, ?_⟩
  exact {
    stream := read.second
    position := by
      have first : two.visible 0 = 0 := two.visible_of_not_space solid
      have at_ : s.position = p.position + 0 := read.position
      exact at_.trans (position.trans (first.symm ▸ (Nat.zero_add _).symm))
    tokens := fun {index token} found => by
      have listed := tokens_append_right one two index
      rw [show two.tokens[index]? = some token from found] at listed
      exact ⟨token.shift one.source.utf8ByteSize, by rw [tokens']; exact listed, rfl, rfl⟩
    nodes := Embedding.nodes_front read
    opened := by
      have carried := read.carries.opened
      rw [opened, opened'] at carried
      have same : children' = children := Embedding.children_front carried
      exact ⟨offset', by rw [opened', same]; rfl⟩
    limits := read.limits.trans (reads.limits.trans passes.limits)
    depth := read.depth.trans (reads.depth.trans passes.depth)
    maxDepth := read.maxDepth.trans (Nat.zero_max _)
    depthReported := read.depthReported.trans deep
    awaited := read.awaited.trans (reads.awaited.trans passes.awaited)
    suppressed := read.suppressed.trans uncounted
    told := by
      have told := read.told
      rw [Array.size_eq_zero_iff.1 untold, List.forall₂_nil_left_iff] at told
      exact Array.toList_inj.1 told }

/-- The second of two streams is read behind the first one as if it stood alone. -/
theorem coupling_behind (modes : one.modes.size = one.size) (p : Parser) (children : Array Child) :
    Coupling (Embedding.behind one two p children).Throughout :=
  Embedding.coupling_throughout (kindAt?_append_right one two) (modeAfter?_append_right modes)
    fun index _ => offsetAt_append_right one two index

/-- The root comes last and covers the source. -/
theorem root_of_parse {source : String} {d : Delimiters} {limit : Nat}
    (read : ofSource source d limit = .ok one) {nodes : Array Node} {root : Node}
    (tree : (one.parse limits).tree = ⟨nodes.push root, nodes.size⟩) :
    root.start = 0 ∧ root.stop = source.utf8ByteSize := by
  obtain ⟨⟨node, found, start, stop⟩, -⟩ := parse_ranges read limits
  rw [tree, SyntaxTree.node?, Array.getElem?_push_size] at found
  obtain rfl := Option.some.inj found
  exact ⟨start, stop⟩

/-- What is told of the second stream is told of it behind the first one. -/
theorem shift_of_carries {p : Parser} {children : Array Child} {told told' : Array Diagnostic}
    (carries : List.Forall₂ (Embedding.behind one two p children).CarriesDiagnostic told.toList
      told'.toList) : told' = told.map (·.shift one.source.utf8ByteSize) := by
  apply Array.toList_inj.1
  rw [Array.toList_map, ← List.forall₂_eq_eq_eq, List.forall₂_map_right_iff]
  refine carries.flip.imp fun after before same => ?_
  obtain ⟨fault, message, index, -, place, place'⟩ := same
  have further : after.offset = before.offset + one.source.utf8ByteSize := by
    rw [place, place']
    exact offsetAt_append_right one two index
  obtain ⟨_, _, _⟩ := after
  rw [Diagnostic.shift, ← further, ← fault, ← message]

variable {source more : String} {d : Delimiters} {limit : Nat}

/-- The tree of two streams in a row joins their trees. -/
theorem joins_of_carries (first : ofSource source d limit = .ok one)
    (second : ofSource more d limit = .ok two)
    (read : ofSource (source ++ more) d limit = .ok (one.append two)) {children : Array Child}
    {offset : Nat}
    (opened : (afterItems one limits).builder.opened = [⟨.template, children, offset⟩])
    (unmoved : (afterItems one limits).skipSpace = afterItems one limits)
    (carried : (Embedding.behind one two (afterItems one limits) children).CarriesTree
      (two.parse limits).tree ((one.append two).parse limits).tree) :
    SyntaxTree.Joins one.size source.utf8ByteSize (one.parse limits).tree
      (two.parse limits).tree ((one.append two).parse limits).tree := by
  obtain ⟨rfl, -, -⟩ := ofSource_eq_ok_iff.1 first
  obtain ⟨root, inside, tree⟩ := TreeBuilder.finish_of_opened opened
  have finished : (one.parse limits).tree = ⟨(afterItems one limits).builder.nodes.push root,
      (afterItems one limits).builder.nodes.size⟩ := by
    rw [(parse_afterItems one limits).1, unmoved]
    exact tree
  have starts := root_of_parse first finished
  rw [finished]
  generalize alone : (two.parse limits).tree = after at carried ⊢
  generalize together : ((one.append two).parse limits).tree = joined at carried ⊢
  cases carried with
  | @mk inner later root' top nodes kind children' =>
    have stops := root_of_parse second alone
    have covers := root_of_parse read together
    refine TreeEmbedding.joins_of_carries (fun place => place) nodes kind children' inside.symm
      ?_ ?_
    · rw [covers.1, starts.1]
    · rw [covers.2, stops.2, String.utf8ByteSize_append, Nat.add_comm]

/-- A source that is read without a report, up to a delimiter that closes a tag or a comment, leaves
no trace. With another one behind it the tokens are those of both in a row, the tree joins the trees
of both, and what is told is what is told of the other one, further on. -/
theorem parse_append (punctuated : d.Punctuated) (first : ofSource source d limit = .ok one)
    (template : one.endMode = .template) {last : Delimiter}
    (closes : last = .blockEnd ∨ last = .variableEnd ∨ last = .commentEnd)
    (ends : one.kindAt? (one.size - 1) = some (.delimiter last))
    (second : ofSource more d limit = .ok two) (within : one.size + two.size ≤ limit)
    (records : 0 < limits.diagnostics) (quiet : (one.parse limits).diagnostics = #[]) :
    ofSource (source ++ more) d limit = .ok (one.append two) ∧
      SyntaxTree.Joins one.size source.utf8ByteSize (one.parse limits).tree
        (two.parse limits).tree ((one.append two).parse limits).tree ∧
      ((one.append two).parse limits).diagnostics =
        (two.parse limits).diagnostics.map (·.shift source.utf8ByteSize) ∧
      ((one.append two).parse limits).statistics.suppressed =
        (two.parse limits).statistics.suppressed := by
  obtain ⟨same, -, fills⟩ := ofSource_eq_ok_iff.1 first
  have read := ofSource_append punctuated first template closes ends second within
  have fronts := fronts_append first closes ends second
  obtain ⟨children, offset, s, opened, unmoved, goes, comes⟩ :=
    fronts.comes (ofSource_kindAt?_zero second) (silent_afterItems records quiet)
  have both := comes.template (coupling_behind fills.size_modes _ _).outer
  rw [← goes, template_eq_afterItems] at both
  obtain ⟨carried, told, -, suppressed⟩ := both
  obtain ⟨tree, kept, counted⟩ := parse_afterItems two limits
  obtain ⟨tree', kept', counted'⟩ := parse_afterItems (one.append two) limits
  refine ⟨read, ?_, ?_, ?_⟩
  · refine joins_of_carries first second read opened unmoved ?_
    rw [tree, tree']
    exact carried
  · rw [← same, kept, kept']
    exact shift_of_carries told
  · rw [counted, counted']
    exact suppressed

/-- Behind a tag with its operand a tag without one is told of as if it stood alone. -/
theorem parse_append_variable :
    let one : TokenStream := ⟨"{{a}}",
      #[⟨.delimiter .variableStart, 0, 2⟩, ⟨.identifier, 2, 3⟩, ⟨.delimiter .variableEnd, 3, 5⟩],
      #[.template, .variableTag, .variableTag], .template⟩
    let two : TokenStream := ⟨"b{{}}",
      #[⟨.text, 0, 1⟩, ⟨.delimiter .variableStart, 1, 3⟩, ⟨.delimiter .variableEnd, 3, 5⟩],
      #[.template, .template, .variableTag], .template⟩
    Delimiters.Punctuated {} ∧ ofSource one.source {} = .ok one ∧ one.endMode = .template ∧
      one.kindAt? (one.size - 1) = some (.delimiter .variableEnd) ∧
      ofSource two.source {} = .ok two ∧ one.size + two.size ≤ Limits.maxTokenCount ∧
      (one.parse ⟨8, 8⟩).diagnostics = #[] ∧
      ofSource (one.source ++ two.source) {} = .ok (one.append two) ∧
      SyntaxTree.Joins 3 5 (one.parse ⟨8, 8⟩).tree (two.parse ⟨8, 8⟩).tree
        ((one.append two).parse ⟨8, 8⟩).tree ∧
      ((one.append two).parse ⟨8, 8⟩).diagnostics =
        (two.parse ⟨8, 8⟩).diagnostics.map (·.shift 5) ∧
      ((one.append two).parse ⟨8, 8⟩).statistics.suppressed =
        (two.parse ⟨8, 8⟩).statistics.suppressed ∧
      (two.parse ⟨8, 8⟩).diagnostics.map (·.offset) = #[3] := by
  intro one two
  have punctuated : Delimiters.Punctuated {} :=
    ⟨by decide, ⟨rfl, rfl⟩, fun which => by cases which <;> decide,
      fun which => by cases which <;> decide⟩
  have first : ofSource one.source {} = .ok one := ofSource_of_isFresh (by decide +kernel)
  have second : ofSource two.source {} = .ok two := ofSource_of_isFresh (by decide +kernel)
  have quiet : (one.parse ⟨8, 8⟩).diagnostics = #[] := by decide
  obtain ⟨whole, joined, told, suppressed⟩ :=
    parse_append punctuated first rfl (.inr (.inl rfl)) rfl second (by decide) (by decide) quiet
  exact ⟨punctuated, first, rfl, rfl, second, by decide, quiet, whole, joined, told, suppressed,
    by decide +kernel⟩

end TokenStream
end Stencil
