import Stencil.Proofs.Lexer.Table
import Stencil.Proofs.Outline.Matching
import Stencil.Proofs.Outline.Pairing
/-!
# Raw text and raw blocks

The lexer reads raw text after a block tag if the word `raw` stands anywhere in the tag. The parser
makes a raw block of a tag that begins with the word. Where the tag begins with it the two agree, as
long as there is a level left for the body (`TokenStream.parse_raw_text`); where the word stands
elsewhere in the tag they do not (`TokenStream.raw_text_of_attribute`).
-/

namespace Stencil

/-- The nodes of statements with a body that have a token beneath them. -/
def SyntaxTree.bodiesOver (tree : SyntaxTree) (token : Nat) : List Nat :=
  (tree.root :: tree.descendants tree.root).filter fun id =>
    (tree.kind? id).any NodeKind.hasBody && (tree.tokensOf id).contains token

/-- The number of statements with a body among shapes that have a token beneath them. -/
def Shape.bodiesOver (shapes : List Shape) (token : Nat) : Nat :=
  (nodesAll shapes).countP fun node => node.1.hasBody && (leavesAll node.2).contains token

/-- As many bodies lie over a token in two rows of shapes as in the one and in the other. -/
@[simp]
theorem Shape.bodiesOver_append (left right : List Shape) (token : Nat) :
    bodiesOver (left ++ right) token = bodiesOver left token + bodiesOver right token := by
  rw [bodiesOver, nodesAll_append, List.countP_append, bodiesOver, bodiesOver]

/-- A node has over a token what its children have, and itself if it has a body. -/
theorem Shape.bodiesOver_node (kind : NodeKind) (row : List Shape) (token : Nat) :
    bodiesOver [.node kind row] token = bodiesOver row token +
      if (kind.hasBody && (leavesAll row).contains token) = true then 1 else 0 := by
  rw [bodiesOver, nodesAll_cons, nodes_node, nodesAll_nil, List.append_nil, List.countP_cons,
    bodiesOver]

/-- Among shapes there is a raw block that a token begins, and it has a further token beneath it
unless there are too many bodies, with those above the shapes, over the first. -/
def Shape.HoldsRaw (shapes : List Shape) (opening after above depth : Nat) : Prop :=
  ∃ row, (.rawBlock, .token opening :: row) ∈ nodesAll shapes ∧
    (above + bodiesOver shapes opening ≤ depth → after ∈ leavesAll (.token opening :: row))

namespace Shape

variable {left right row : List Shape} {kind : NodeKind} {opening after above depth : Nat}

/-- A raw block in the first of two rows of shapes is in both together. -/
theorem HoldsRaw.append_left (holds : HoldsRaw left opening after above depth)
    (right : List Shape) : HoldsRaw (left ++ right) opening after above depth := by
  obtain ⟨row, member, beneath⟩ := holds
  refine ⟨row, nodesAll_append left right ▸ List.mem_append_left _ member, fun room => ?_⟩
  rw [bodiesOver_append] at room
  exact beneath (by omega)

/-- A raw block in the second of two rows of shapes is in both together. -/
theorem HoldsRaw.append_right (holds : HoldsRaw right opening after above depth)
    (left : List Shape) : HoldsRaw (left ++ right) opening after above depth := by
  obtain ⟨row, member, beneath⟩ := holds
  refine ⟨row, nodesAll_append left right ▸ List.mem_append_right _ member, fun room => ?_⟩
  rw [bodiesOver_append] at room
  exact beneath (by omega)

/-- In a node there is one more body above, if the node has one. -/
theorem HoldsRaw.node (holds : HoldsRaw row opening after
      (above + if kind.hasBody = true then 1 else 0) depth) (member : opening ∈ leavesAll row) :
    HoldsRaw [.node kind row] opening after above depth := by
  obtain ⟨inner, among, beneath⟩ := holds
  refine ⟨inner, ?_, fun room => beneath ?_⟩
  · rw [nodesAll_cons, nodes_node]
    exact List.mem_append_left _ (List.mem_cons_of_mem _ among)
  · rw [bodiesOver_node, List.contains_iff_mem.2 member, Bool.and_true] at room
    omega

end Shape

/-- In a tree there are as many bodies over a token as in its shape. -/
theorem SyntaxTree.length_bodiesOver (tree : SyntaxTree) {kind : NodeKind} {shapes : List Shape}
    (drawn : Draws tree.nodes (.node tree.root) (.node kind shapes))
    (enough : (Shape.node kind shapes).places ≤ tree.childCount) (token : Nat) :
    (tree.bodiesOver token).length = Shape.bodiesOver [.node kind shapes] token := by
  have each := tree.descendants_drawn drawn enough
  have below : ∀ node ∈ (Shape.node kind shapes).nodes,
      (Shape.node node.1 node.2).places ≤ tree.childCount := fun node member =>
    Nat.le_trans (Shape.places_le_of_mem _ member) enough
  rw [bodiesOver, Shape.bodiesOver, Shape.nodesAll_cons, Shape.nodesAll_nil, List.append_nil,
    ← List.countP_eq_length_filter]
  generalize tree.root :: tree.descendants tree.root = ids at each
  generalize (Shape.node kind shapes).nodes = nodes at each below
  induction each with
  | nil => rfl
  | cons here _ ih =>
    rw [List.forall_mem_cons] at below
    rw [List.countP_cons, List.countP_cons, ih below.2, tree.kind?_of_draws here,
      tree.tokensOf_eq_leaves here below.1, Option.any_some, Shape.leaves]

namespace TokenStream

variable {stream : TokenStream} {source : String} {d : Delimiters} {limit index opening closing
  start stop depth : Nat}

/-! ### The tag before raw text -/

/-- Between the ends of a block tag nothing closes it. -/
theorem BlockUpTo.closes (upTo : stream.BlockUpTo opening closing)
    (read : ofSource source d limit = .ok stream)
    (ends : stream.kindAt? closing = some (.delimiter .blockEnd)) :
    stream.Closes opening closing := by
  have inside : closing < stream.size := by
    obtain ⟨_, listed, -⟩ := Option.map_eq_some_iff.1 ends
    exact (Array.getElem?_eq_some_iff.1 listed).1
  have stays {place : Nat} (after : opening ≤ place) (before : place < closing) :
      stream.modeAfter? place = some .blockTag := by
    rw [modeAfter?, if_pos (by omega), upTo.within (place + 1) (by omega) (by omega)]
    rfl
  have closer : stream.closerAt? opening = some (.delimiter .blockEnd) := by
    rw [closerAt?, upTo.opens, stays (Nat.le_refl _) upTo.before]
    rfl
  refine ⟨upTo.before, ends.trans closer.symm, fun between after before same => ?_⟩
  obtain ⟨_, kind, mode, -, here, onward, ruled⟩ :=
    ofSource_ruled read (show between < stream.size by omega)
  rw [same, closer] at here
  obtain rfl := Option.some.inj here
  rw [stays (by omega) before] at onward
  obtain rfl := Option.some.inj onward
  cases ruled.gives with
  | within inTag => contradiction

/-- Raw text comes right after a block tag in which the word `raw` stands. -/
theorem exists_tag_of_raw (read : ofSource source d limit = .ok stream)
    (raw : stream.modes[index]? = some .raw) (text : stream.kindAt? index = some .text) :
    ∃ opening closing, closing + 1 = index ∧ stream.BlockUpTo opening closing ∧
      stream.kindAt? closing = some (.delimiter .blockEnd) ∧ stream.SaysRaw opening closing := by
  have inside : index < stream.size := by
    obtain ⟨_, listed, -⟩ := Option.map_eq_some_iff.1 text
    exact (Array.getElem?_eq_some_iff.1 listed).1
  cases index with
  | zero =>
    obtain ⟨before, _, _, mode, -, -, ruled⟩ := ofSource_ruled read inside
    rw [ruled.first rfl, raw] at mode
    contradiction
  | succ closing =>
    obtain ⟨before, kind, after, -, here, onward, ruled⟩ :=
      ofSource_ruled read (show closing < stream.size by omega)
    rw [modeAfter?, if_pos (by omega), raw, Option.getD_some] at onward
    obtain rfl := Option.some.inj onward
    have gives := ruled.gives
    cases gives with
    | within _ among => simp at among
    | rawText => exact absurd text (ruled.apart rfl)
    | rawTag =>
      obtain ⟨opening, upTo, announces⟩ := ruled.raw rfl
      exact ⟨opening, closing, rfl, upTo, here, announces.1 rfl⟩

/-! ### The tag of a raw block -/

variable {stack outer : List Keyword} {told raised rest : List Diagnostic} {part : Part}
  {row later shapes tail : List Shape} {middle : Nat} {opener closer : Keyword}

/-- A tag without a body opens none for lack of levels, if it begins with the word `raw`. -/
theorem Plain.full_of_raw {offset : Nat} {kind : NodeKind} {reports : List Diagnostic}
    (plain : Plain depth stack offset told (some (.keyword .rawKw)) kind reports) :
    kind = .rawBlock ∧ depth ≤ stack.length := by
  cases plain with
  | statement opens => contradiction
  | other free => exact absurd rfl (free _)
  | stray closes => contradiction
  | misplaced branch => contradiction
  | refused _ full => exact ⟨rfl, full⟩

/-- A body goes on after the tag that opens it, if text comes there. -/
theorem Ending.lt_stop (ending : stream.Ending outer opener closer opening start stop tail raised)
    (text : stream.kindAt? start = some .text) : start < stop := by
  cases ending with
  | closed _ tagged => exact Nat.lt_of_le_of_lt (stream.le_visible start) tagged.forward
  | missing halts =>
    rw [Halts, stream.visible_of_not_space (by rw [text]; rintro ⟨⟩), text] at halts
    rcases halts with nothing | ⟨keyword, block, -⟩
    · contradiction
    · rw [BlockAt.opens block] at text
      contradiction

/-- The tag that ends a body begins with no opener. -/
theorem Ending.opener_not_mem
    (ending : stream.Ending outer opener closer opening start stop tail raised)
    (delimited : stream.Delimited) (paired : opener.closer? = some closer) {place : Nat}
    (block : stream.BlockAt place (some (.keyword .rawKw))) : place ∉ Shape.leavesAll tail := by
  cases ending with
  | missing => exact List.not_mem_nil
  | closed own tagged =>
    rw [Shape.leavesAll_append, Shape.leavesAll_tokens, Shape.leavesAll_node, List.mem_append,
      List.mem_range'_1]
    rintro (⟨after, before⟩ | within)
    · have opens := block.opens
      rw [kindAt?_before_visible after (by omega)] at opens
      contradiction
    · have opens : (stream.closerAt? place).isSome := by rw [closerAt?, block.opens]; rfl
      obtain rfl := tagged.opening_of_leaf delimited within opens
      have same := own.same block
      obtain rfl : closer = .rawKw := TokenKind.keyword.inj (Option.some.inj same)
      cases opener <;> contradiction

/-- A raw block that goes on after the tag it begins with has the next token beneath it. -/
theorem Tagged.holdsRaw (tagged : stream.Tagged opening middle row raised)
    (spans : Shape.Spans (row ++ later) opening stop) (more : middle < stop) (above : Nat) :
    Shape.HoldsRaw [.node .rawBlock (row ++ later)] opening middle above depth := by
  obtain ⟨inside, rfl⟩ := tagged.begins
  have forward := tagged.forward
  refine ⟨inside ++ later, List.mem_cons_self, fun _ => ?_⟩
  change middle ∈ Shape.leavesAll (.token opening :: inside ++ later)
  rw [spans.2, List.mem_range'_1]
  omega

/-- Of a raw block that stands where all levels are taken nothing is asked. -/
theorem Tagged.holdsRaw_of_full (tagged : stream.Tagged opening stop row raised) {above : Nat}
    (full : depth ≤ above) (after : Nat) :
    Shape.HoldsRaw [.node .rawBlock row] opening after above depth := by
  obtain ⟨inside, rfl⟩ := tagged.begins
  have own : opening ∈ Shape.leavesAll (.token opening :: inside) := List.mem_cons_self
  refine ⟨inside, List.mem_cons_self, fun room => ?_⟩
  have bodied : (NodeKind.rawBlock.hasBody && true) = true := rfl
  rw [Shape.bodiesOver_node, List.contains_iff_mem.2 own, if_pos bodied] at room
  omega

/-- In an outline a tag that begins with the word `raw`, and that text follows, begins a raw block,
which has the text beneath it if there is a level left for its body. -/
theorem Outline.holdsRaw (outline : stream.Outline depth part stack start stop told shapes raised)
    (delimited : stream.Delimited) (member : opening ∈ Shape.leavesAll shapes)
    (block : stream.BlockAt opening (some (.keyword .rawKw)))
    (closes : stream.Closes opening closing)
    (text : stream.kindAt? (closing + 1) = some .text) :
    Shape.HoldsRaw shapes opening (closing + 1) stack.length depth := by
  have opens : (stream.closerAt? opening).isSome := by rw [closerAt?, block.opens]; rfl
  induction outline with
  | nil => exact absurd member List.not_mem_nil
  | append _ _ one two =>
    rw [Shape.leavesAll_append, List.mem_append] at member
    rcases member with before | after
    · exact (one before).append_left _
    · exact (two after).append_right _
  | @space _ _ start =>
    rw [Shape.leavesAll_tokens, List.mem_range'_1] at member
    have blank : stream.kindAt? opening = some .whitespace :=
      kindAt?_before_visible member.1 (by omega)
    rw [block.opens] at blank
    contradiction
  | @text _ start stop _ _ plain =>
    rw [Shape.leavesAll_node, Shape.leavesAll_tokens, List.mem_range'_1] at member
    rw [plain opening member.1 (by omega)] at opens
    contradiction
  | inline inlined tagged =>
    rw [Shape.leavesAll_node] at member
    obtain rfl := tagged.opening_of_leaf delimited member opens
    rw [block.opens] at inlined
    contradiction
  | plain own plain tagged =>
    rw [Shape.leavesAll_node] at member
    obtain rfl := tagged.opening_of_leaf delimited member opens
    obtain rfl := own.same block
    obtain ⟨rfl, full⟩ := plain.full_of_raw
    exact tagged.holdsRaw_of_full full _
  | @body stack start middle late final stop _ _ _ _ _ row inside branches tail opener closer paired
      room own tagged items splits ending inner later =>
    rw [Shape.leavesAll_node] at member
    have bodied : opener.node.hasBody = true := by rw [(node_kind opener).2.2, paired]; rfl
    -- Beneath the body there is one more body above.
    have deeper (holds : Shape.HoldsRaw (row ++ inside ++ branches ++ tail) opening (closing + 1)
        (stack.length + 1) depth) : Shape.HoldsRaw
        [.node opener.node (row ++ inside ++ branches ++ tail)] opening (closing + 1) stack.length
        depth := by
      refine Shape.HoldsRaw.node ?_ member
      rw [if_pos bodied]
      exact holds
    have parts := member
    rw [Shape.leavesAll_append, Shape.leavesAll_append, Shape.leavesAll_append, List.mem_append,
      List.mem_append, List.mem_append] at parts
    rcases parts with ((first | among) | among) | last
    · obtain rfl := tagged.opening_of_leaf delimited first opens
      obtain rfl := TokenKind.keyword.inj (Option.some.inj (own.same block))
      obtain ⟨-, rfl⟩ := tagged.of_closes delimited opens closes
      have behind := (items.spans.append splits.spans).append ending.spans
      have more : closing + 1 < stop := by
        have one := items.spans.1
        have two := splits.spans.1
        have three := ending.spans.1
        by_cases empty : final = closing + 1
        · rw [empty] at ending
          exact ending.lt_stop text
        · omega
      rw [List.append_assoc, List.append_assoc, ← List.append_assoc inside]
      exact tagged.holdsRaw (tagged.spans.append behind) more _
    · exact deeper (((inner among).append_right row).append_left branches |>.append_left tail)
    · exact deeper ((later among).append_right (row ++ inside) |>.append_left tail)
    · exact absurd last (ending.opener_not_mem delimited paired block)
  | @branch stack _ _ _ _ _ _ row inside opener keyword allowed own tagged items inner =>
    rw [Shape.leavesAll_node] at member
    have bodiless := hasBody_of_isBranch (Parser.isBranch_of_mem allowed).1
    have parts := member
    rw [Shape.leavesAll_append, List.mem_append] at parts
    rcases parts with first | among
    · obtain rfl := tagged.opening_of_leaf delimited first opens
      obtain rfl := TokenKind.keyword.inj (Option.some.inj (own.same block))
      cases opener <;> contradiction
    · refine Shape.HoldsRaw.node ?_ member
      rw [if_neg (Bool.eq_false_iff.1 bodiless)]
      exact (inner among).append_right row

/-- In the tree of a source raw text comes right after the end of a block tag in which the word
`raw` stands. Where the tag begins with the word it begins a raw block, and the text lies beneath it
if no more bodies are over the tag than levels are allowed. -/
theorem parse_raw_text (read : ofSource source d limit = .ok stream) (limits : ParseLimits)
    (raw : stream.modes[index]? = some .raw) (text : stream.kindAt? index = some .text) :
    let tree := (stream.parse limits).tree
    ∃ opening closing, closing + 1 = index ∧ stream.BlockUpTo opening closing ∧
      stream.kindAt? closing = some (.delimiter .blockEnd) ∧ stream.SaysRaw opening closing ∧
      (stream.kindAt? (stream.visible (opening + 1)) = some (.keyword .rawKw) →
        ∃ id ∈ tree.findAll .rawBlock, (tree.children id).head? = some (.token opening) ∧
          ((tree.bodiesOver opening).length ≤ limits.depth → index ∈ tree.tokensOf id)) := by
  intro tree
  obtain ⟨opening, closing, rfl, upTo, ends, announced⟩ := exists_tag_of_raw read raw text
  refine ⟨opening, closing, rfl, upTo, ends, announced, fun first => ?_⟩
  obtain ⟨delimited, -⟩ := delimited_ofSource read
  obtain ⟨shapes, raised, drawn, places, leaves, -, -, outline⟩ := stream.parse_outlined limits
  have enough := Nat.le_of_eq places.symm
  have begins := upTo.opens
  have inside := (Array.getElem?_eq_some_iff.1 (Option.map_eq_some_iff.1 begins).choose_spec.1).1
  have member : opening ∈ Shape.leavesAll shapes := by
    rw [leaves, stream.visible_of_not_space (ofSource_kindAt?_zero read), List.mem_range'_1]
    change opening < stream.size at inside
    omega
  obtain ⟨row, among, beneath⟩ := outline.holdsRaw delimited member ⟨begins, first⟩
    (upTo.closes read ends) text
  have below : (.rawBlock, .token opening :: row) ∈ (Shape.node .template shapes).nodes :=
    List.mem_cons_of_mem _ among
  obtain ⟨id, listed, here⟩ := tree.exists_id drawn enough below
  refine ⟨id, List.mem_filter.2 ⟨listed, decide_eq_true (tree.kind?_of_draws here)⟩,
    (tree.children_drawn here).head, fun room => ?_⟩
  rw [tree.length_bodiesOver drawn enough, Shape.bodiesOver_node] at room
  rw [tree.tokensOf_eq_leaves here (Nat.le_trans (Shape.places_le_of_mem _ below) enough)]
  exact beneath (by rw [List.length_nil]; omega)

/-- A raw block in a condition, with as many levels as it takes. -/
theorem parse_raw_text_nested :
    let stream : TokenStream := ⟨
      "\x7b%if a%\x7d\x7b%raw%\x7d\x7b\x7b\x7b%endraw%\x7d\x7b%endif%\x7d",
      #[⟨.delimiter .blockStart, 0, 2⟩, ⟨.keyword .ifKw, 2, 4⟩, ⟨.whitespace, 4, 5⟩,
        ⟨.identifier, 5, 6⟩, ⟨.delimiter .blockEnd, 6, 8⟩, ⟨.delimiter .blockStart, 8, 10⟩,
        ⟨.keyword .rawKw, 10, 13⟩, ⟨.delimiter .blockEnd, 13, 15⟩, ⟨.text, 15, 17⟩,
        ⟨.delimiter .blockStart, 17, 19⟩, ⟨.keyword .endRaw, 19, 25⟩,
        ⟨.delimiter .blockEnd, 25, 27⟩, ⟨.delimiter .blockStart, 27, 29⟩,
        ⟨.keyword .endIf, 29, 34⟩, ⟨.delimiter .blockEnd, 34, 36⟩],
      #[.template, .blockTag, .blockTag, .blockTag, .blockTag, .template, .blockTag, .blockTag,
        .raw, .raw, .blockTag, .blockTag, .template, .blockTag, .blockTag], .template⟩
    let tree := (stream.parse ⟨2, 8⟩).tree
    ofSource stream.source {} = .ok stream ∧ stream.modes[8]? = some .raw ∧
      stream.kindAt? 8 = some .text ∧ stream.SaysRaw 5 7 ∧ (tree.bodiesOver 5).length = 2 ∧
      ∃ id ∈ tree.findAll .rawBlock, 8 ∈ tree.tokensOf id := by
  intro stream tree
  have read : ofSource stream.source {} = .ok stream := ofSource_of_isFresh (by decide +kernel)
  have bodies : (tree.bodiesOver 5).length = 2 := by decide +kernel
  obtain ⟨opening, closing, next, upTo, -, announced, block⟩ :=
    parse_raw_text read ⟨2, 8⟩ (show stream.modes[8]? = some .raw by decide) (by decide)
  obtain rfl : closing = 7 := by omega
  -- The tag in which the word stands is the inner one.
  have late : 5 ≤ opening := by
    by_contra early
    exact absurd (upTo.within 5 (by omega) (by omega)) (by decide)
  have other : opening ≠ 6 := by
    rintro rfl
    exact absurd upTo.opens (by decide)
  have before := upTo.before
  obtain rfl : opening = 5 := by omega
  obtain ⟨id, listed, -, beneath⟩ := block (by decide)
  exact ⟨read, by decide, by decide, announced, bodies, id, listed, beneath (Nat.le_of_eq bodies)⟩

/-- The word `raw` as the name of an attribute makes raw text of what comes after the tag, and there
is no raw block. -/
theorem raw_text_of_attribute :
    let stream : TokenStream := ⟨"\x7b%if x.raw%\x7d\x7b\x7by\x7d\x7d\x7b%endif%\x7d",
      #[⟨.delimiter .blockStart, 0, 2⟩, ⟨.keyword .ifKw, 2, 4⟩, ⟨.whitespace, 4, 5⟩,
        ⟨.identifier, 5, 6⟩, ⟨.punctuation .dot, 6, 7⟩, ⟨.keyword .rawKw, 7, 10⟩,
        ⟨.delimiter .blockEnd, 10, 12⟩, ⟨.text, 12, 26⟩],
      #[.template, .blockTag, .blockTag, .blockTag, .blockTag, .blockTag, .blockTag, .raw], .raw⟩
    let tree := stream.parse.tree
    ({} : Delimiters).isValid = true ∧ ofSource stream.source {} = .ok stream ∧
      stream.modes[7]? = some .raw ∧ stream.kindAt? 7 = some .text ∧
      ¬∃ id ∈ tree.findAll .rawBlock, 7 ∈ tree.tokensOf id := by
  intro stream tree
  have read : ofSource stream.source {} = .ok stream := ofSource_of_isFresh (by decide +kernel)
  have none : tree.findAll .rawBlock = [] := by decide +kernel
  refine ⟨by decide +kernel, read, by decide, by decide, ?_⟩
  rw [none]
  rintro ⟨id, listed, -⟩
  exact List.not_mem_nil listed

end TokenStream
end Stencil
