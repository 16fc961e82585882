import Stencil.Proofs.Outline.Sites
/-!
# Blocks are matched as by a stack

With the stack of the bodies around it every tag finds its place: an end tag closes the innermost
body if that awaits it and is stray if none does, a branch splits the innermost body if it may, and
a body that is not closed gives way to the end of the input or to an end tag that a body around it
awaits. What does not find its place is reported once, and nothing else is reported about how tags
match. No start delimiter is passed over, unless it stands in a tag. `TokenStream.parse_matched`
says so of every stream.
-/

namespace Stencil
namespace TokenStream

variable {stream : TokenStream} {depth : Nat} {kind : NodeKind}
  {above : List (NodeKind × List Shape)} {stack outer : List Keyword}
  {row rest shapes : List Shape} {one told raised later : List Diagnostic}
  {opening start stop : Nat} {first : Option TokenKind} {opener closer keyword : Keyword}
  {part : Part}

/-! ### Tags -/

/-- A report of something unexpected is about how tags match. -/
theorem isMismatch_unexpected (offset : Nat) (text : String) :
    Diagnostic.isMismatch ⟨offset, .unexpectedToken, "Unexpected '" ++ text⟩ = true := by
  simp [Diagnostic.isMismatch, SyntaxFault.isMismatch]

/-- A stray end tag is a mismatch. -/
theorem isMismatch_stray (offset : Nat) (keyword : Keyword) :
    (Diagnostic.stray offset keyword).isMismatch = true := by
  rw [Diagnostic.stray, String.append_assoc]
  exact isMismatch_unexpected _ _

/-- A branch tag out of place is a mismatch. -/
theorem isMismatch_misplaced (offset : Nat) (keyword : Keyword) :
    (Diagnostic.misplaced offset keyword).isMismatch = true := by
  rw [Diagnostic.misplaced, String.append_assoc]
  exact isMismatch_unexpected _ _

/-- A body without its end tag is a mismatch. -/
theorem isMismatch_unclosed (offset : Nat) (opener closer : Keyword) :
    (Diagnostic.unclosed offset opener closer).isMismatch = true := rfl

/-- The node of a keyword is a statement, and no end tag; it has a body if the keyword opens one. -/
theorem node_kind (keyword : Keyword) : keyword.node.isStatement = true ∧
    keyword.node ≠ .endTag ∧ keyword.node.hasBody = keyword.closer?.isSome := by
  cases keyword <;> decide

/-- A keyword that closes a body is not one of a branch. -/
theorem isBranch_of_isCloser (closes : keyword.isCloser = true) : keyword.isBranch = false := by
  cases keyword <;> first | rfl | contradiction

/-- A keyword of a branch does not close a body. -/
theorem isCloser_of_isBranch (branch : keyword.isBranch = true) : keyword.isCloser = false := by
  cases keyword <;> first | rfl | contradiction

/-- A keyword that splits a body is one of a branch and closes nothing. -/
theorem isBranch_of_splits (splits : Splits stack keyword) :
    keyword.isBranch = true ∧ keyword.isCloser = false := by
  obtain ⟨opener, -, allowed⟩ := splits
  exact Parser.isBranch_of_mem allowed

/-- What is reported of a tag depends on its keyword. -/
theorem mismatch?_of_tagged (depth : Nat) (above : List (NodeKind × List Shape))
    (rest : List Shape) (tagged : stream.Tagged opening stop row raised)
    (block : stream.BlockAt opening (some (.keyword keyword))) (statement : kind.isStatement = true)
    (other : kind ≠ .endTag) : stream.mismatch? depth ⟨above, kind, row ++ rest⟩ =
      keyword.mismatch? (stream.bodies above) depth (stream.offsetAt opening)
        ((row ++ rest).any Shape.isEndTag) := by
  have tells : stream.keyword? (row ++ rest) = some keyword := tagged.keyword? block rest
  obtain ⟨inside, begins⟩ := tagged.begins
  have first : (row ++ rest).head?.bind Shape.token? = some opening := by
    rw [begins]
    rfl
  simp only [mismatch?, tells, first, statement, other, Bool.not_true, Bool.false_or, decide_false,
    Bool.false_eq_true, if_false]

/-- Nothing is reported of how a tag without a keyword matches. -/
theorem mismatch?_of_other (tells : stream.keyword? row = none) :
    stream.mismatch? depth ⟨above, kind, row⟩ = none := by
  rw [mismatch?, tells]
  cases row.head?.bind Shape.token? <;> rfl

/-- A block tag is one, whatever comes after it. -/
theorem BlockAt.opens_row (block : stream.BlockAt opening first)
    (tagged : stream.Tagged opening stop row raised) (rest : List Shape) :
    ∃ opening inside, row ++ rest = .token opening :: inside ∧
      stream.kindAt? opening = some (.delimiter .blockStart) := by
  obtain ⟨inside, rfl⟩ := tagged.begins
  exact ⟨opening, inside ++ rest, rfl, block.opens⟩

/-- A tag matches that neither closes a body nor splits one, if it does as a body. -/
theorem matched_of_loose (block : stream.BlockAt opening (some (.keyword keyword)))
    (tagged : stream.Tagged opening stop row raised) (rest : List Shape)
    (closes : keyword.isCloser = false) (splits : keyword.isBranch = false)
    (body : ∀ closer, keyword.closer? = some closer →
      if (stream.bodies above).length < depth then
        stream.Divided keyword (row ++ rest) ∧
          ((row ++ rest).any Shape.isEndTag = false → ∃ start count,
            Shape.leavesAll (row ++ rest) = List.range' start count ∧
            stream.Halts (stream.bodies above) (start + count) ∧
            ¬stream.BlockAt (stream.visible (start + count)) (some (.keyword closer)))
      else Shape.Bare (row ++ rest)) :
    stream.Matched depth ⟨above, keyword.node, row ++ rest⟩ := by
  have tells : stream.keyword? (row ++ rest) = some keyword := tagged.keyword? block rest
  obtain ⟨-, other, has⟩ := node_kind keyword
  refine ⟨fun _ => block.opens_row tagged rest, fun ends => absurd ends other,
    fun _ which found closing => ?_, fun _ which found branch => ?_, fun hasBody => ?_⟩
  · obtain rfl := Option.some.inj (found.symm.trans tells)
    exact absurd (closes.symm.trans closing) Bool.false_ne_true
  · obtain rfl := Option.some.inj (found.symm.trans tells)
    exact absurd (splits.symm.trans branch) Bool.false_ne_true
  · obtain ⟨closer, paired⟩ := Option.isSome_iff_exists.1 (has.symm.trans hasBody)
    exact ⟨keyword, closer, rfl, tells, paired, body closer paired⟩

/-- A branch matches if it splits the innermost body as its child, or may not and has no items. -/
theorem matched_of_isBranch (depth : Nat)
    (block : stream.BlockAt opening (some (.keyword keyword)))
    (tagged : stream.Tagged opening stop row raised) (rest : List Shape)
    (branch : keyword.isBranch = true)
    (placed : (Splits (stream.bodies above) keyword ∧ ∃ opener children further,
        above = (opener.node, children) :: further ∧ stream.keyword? children = some opener ∧
          keyword ∈ opener.branches) ∨
      (¬Splits (stream.bodies above) keyword ∧ Shape.Bare (row ++ rest))) :
    stream.Matched depth ⟨above, keyword.node, row ++ rest⟩ := by
  have tells : stream.keyword? (row ++ rest) = some keyword := tagged.keyword? block rest
  have closes := isCloser_of_isBranch branch
  refine ⟨fun _ => block.opens_row tagged rest, fun ends => absurd ends (node_kind keyword).2.1,
    fun _ which found closing => ?_, fun _ which found _ => ?_, fun hasBody => ?_⟩
  · obtain rfl := Option.some.inj (found.symm.trans tells)
    exact absurd (closes.symm.trans closing) Bool.false_ne_true
  · obtain rfl := Option.some.inj (found.symm.trans tells)
    exact ⟨rfl, placed⟩
  · exact absurd ((hasBody_of_isBranch branch).symm.trans hasBody) Bool.false_ne_true

/-- A tag without a keyword matches. -/
theorem matched_of_other (depth : Nat) (block : stream.BlockAt opening first)
    (tagged : stream.Tagged opening stop row raised) (rest : List Shape)
    (tells : stream.keyword? (row ++ rest) = none) :
    stream.Matched depth ⟨above, .genericBlock, row ++ rest⟩ := by
  have never {which : Prop} (keyword : Keyword)
      (found : stream.keyword? (row ++ rest) = some keyword) : which :=
    Option.noConfusion rfl (heq_of_eq (tells.symm.trans found))
  exact ⟨fun _ => block.opens_row tagged rest, by rintro ⟨⟩,
    fun _ keyword found => never keyword found, fun _ keyword found => never keyword found,
    fun body => absurd body Bool.false_ne_true⟩

/-- A tag that closes a body matches as a stray one if no body awaits it. -/
theorem matched_of_stray (depth : Nat) (block : stream.BlockAt opening (some (.keyword keyword)))
    (tagged : stream.Tagged opening stop row raised) (rest : List Shape)
    (closes : keyword.isCloser = true) (unawaited : ¬AwaitedBy (stream.bodies above) keyword) :
    stream.Matched depth ⟨above, .genericBlock, row ++ rest⟩ := by
  have tells : stream.keyword? (row ++ rest) = some keyword := tagged.keyword? block rest
  refine ⟨fun _ => block.opens_row tagged rest, by rintro ⟨⟩, fun _ which found _ => ?_,
    fun _ which found branch => ?_, fun body => absurd body Bool.false_ne_true⟩
  · obtain rfl := Option.some.inj (found.symm.trans tells)
    exact .inr ⟨rfl, unawaited⟩
  · obtain rfl := Option.some.inj (found.symm.trans tells)
    exact absurd ((isBranch_of_isCloser closes).symm.trans branch) Bool.false_ne_true

/-- A tag without a body matches, and is reported if it has no place where it stands. -/
theorem Plain.matched (plain : Plain depth (stream.bodies above) (stream.offsetAt opening) told
      first kind one) (block : stream.BlockAt opening first)
    (tagged : stream.Tagged opening stop row raised) :
    stream.Matched depth ⟨above, kind, row⟩ ∧
      one.filter Diagnostic.isMismatch = (stream.mismatch? depth ⟨above, kind, row⟩).toList := by
  rw [← List.append_nil row]
  have tells : stream.keyword? (row ++ []) = first.bind TokenKind.keyword? :=
    tagged.keyword? block []
  have bare : Shape.Bare (row ++ []) := by
    rw [List.append_nil]
    exact tagged.parts
  cases plain with
  | @statement keyword opens closes splits =>
    obtain ⟨statement, other, -⟩ := node_kind keyword
    refine ⟨matched_of_loose block tagged [] closes splits fun closer paired => ?_, ?_⟩
    · rw [opens] at paired
      contradiction
    · rw [mismatch?_of_tagged depth above [] tagged block statement other, Keyword.mismatch?,
        closes, splits, opens]
      rfl
  | other free =>
    have none : stream.keyword? (row ++ []) = none := by
      rw [tells, Option.bind_eq_none_iff]
      intro token here
      cases token with
      | keyword keyword => exact absurd here (free keyword)
      | _ => rfl
    refine ⟨matched_of_other depth block tagged [] none, ?_⟩
    rw [mismatch?_of_other none]
    rfl
  | @stray keyword closes unawaited =>
    refine ⟨matched_of_stray depth block tagged [] closes unawaited, ?_⟩
    have statement : NodeKind.genericBlock.isStatement = true := rfl
    rw [mismatch?_of_tagged depth above [] tagged block statement (by rintro ⟨⟩),
      Keyword.mismatch?, closes, if_pos rfl, List.filter_cons_of_pos (isMismatch_stray _ _)]
    rfl
  | @misplaced keyword branch apart =>
    obtain ⟨statement, other, -⟩ := node_kind keyword
    have closes := isCloser_of_isBranch branch
    refine ⟨matched_of_isBranch depth block tagged [] branch (.inr ⟨apart, bare⟩), ?_⟩
    rw [mismatch?_of_tagged depth above [] tagged block statement other, Keyword.mismatch?, closes,
      if_neg Bool.false_ne_true, branch, if_pos rfl, if_neg apart,
      List.filter_cons_of_pos (isMismatch_misplaced _ _)]
    rfl
  | @refused opener closer paired full reports loud own =>
    obtain ⟨statement, other, -⟩ := node_kind opener
    obtain ⟨closes, splits⟩ := Parser.not_isCloser_of_closer? paired
    refine ⟨matched_of_loose block tagged [] closes splits fun _ _ => ?_, ?_⟩
    · rw [if_neg (Nat.not_lt.2 full)]
      exact bare
    · rw [mismatch?_of_tagged depth above [] tagged block statement other, Keyword.mismatch?,
        closes, splits, paired, filter_isMismatch own]
      simp only [Bool.false_eq_true, if_false, Option.bind_some, Nat.not_lt.2 full, decide_false,
        Bool.false_and, Option.toList_none]

/-! ### Bodies -/

/-- What stands in a part of a body and is no white space: among the items what may not split it,
and among the branches what may. -/
def Stands (stream : TokenStream) (part : Part) (stack : List Keyword) (kind : NodeKind)
    (row : List Shape) : Prop :=
  kind ≠ .endTag ∧
    match part with
    | .items => ∀ keyword, kind.isStatement = true → stream.keyword? row = some keyword →
        ¬Splits stack keyword
    | .branches => ∃ keyword, kind = keyword.node ∧ stream.keyword? row = some keyword ∧
        Splits stack keyword

/-- What stands alone is neither an end tag nor splits the body around it. -/
theorem Plain.apart {offset : Nat} (plain : Plain depth stack offset told first kind one) :
    kind ≠ .endTag ∧ ∀ keyword, first.bind TokenKind.keyword? = some keyword →
      ¬Splits stack keyword := by
  have known {keyword : Keyword} (loose : keyword.isBranch = false) (which : Keyword)
      (same : (some (TokenKind.keyword keyword)).bind TokenKind.keyword? = some which) :
      ¬Splits stack which := by
    obtain rfl : keyword = which := Option.some.inj same
    intro splits
    rw [(isBranch_of_splits splits).1] at loose
    contradiction
  cases plain with
  | statement _ _ splits => exact ⟨(node_kind _).2.1, known splits⟩
  | other free =>
    refine ⟨by rintro ⟨⟩, fun keyword same => ?_⟩
    obtain ⟨token, here, found⟩ := Option.bind_eq_some_iff.1 same
    cases token with
    | keyword keyword => exact absurd here (free keyword)
    | _ => contradiction
  | stray closes => exact ⟨by rintro ⟨⟩, known (isBranch_of_isCloser closes)⟩
  | @misplaced keyword _ apart =>
    refine ⟨(node_kind _).2.1, fun which same => ?_⟩
    obtain rfl : keyword = which := Option.some.inj same
    exact apart
  | refused paired =>
    exact ⟨(node_kind _).2.1, known (Parser.not_isCloser_of_closer? paired).2⟩

/-- Every node of an outline stands in its part. -/
theorem Outline.stands (outline : stream.Outline depth part stack start stop told shapes raised) :
    ∀ kind row, Shape.node kind row ∈ shapes → stream.Stands part stack kind row := by
  have alone {kind : NodeKind} {row : List Shape} {part : Part} {stack : List Keyword}
      (stands : stream.Stands part stack kind row) :
      ∀ kind' row', Shape.node kind' row' ∈ [Shape.node kind row] →
        stream.Stands part stack kind' row' := by
    intro kind' row' member
    obtain ⟨rfl, rfl⟩ := Shape.node.inj (List.mem_singleton.1 member)
    exact stands
  induction outline with
  | nil => simp
  | append _ _ before after =>
    intro kind row member
    exact (List.mem_append.1 member).elim (before kind row) (after kind row)
  | space =>
    intro kind row member
    obtain ⟨_, -, same⟩ := List.mem_map.1 member
    contradiction
  | text => exact alone ⟨by rintro ⟨⟩, fun _ statement => absurd statement Bool.false_ne_true⟩
  | inline opens =>
    obtain ⟨-, rfl | rfl⟩ := names_inline opens
    · exact alone ⟨by rintro ⟨⟩, fun _ statement => absurd statement Bool.false_ne_true⟩
    · exact alone ⟨by rintro ⟨⟩, fun _ statement => absurd statement Bool.false_ne_true⟩
  | plain block plain tagged =>
    have tells := tagged.keyword? block []
    rw [List.append_nil] at tells
    exact alone ⟨plain.apart.1, fun keyword _ found => plain.apart.2 keyword (tells ▸ found)⟩
  | @body _ _ _ _ _ _ _ _ _ _ _ row inside branches tail opener closer paired _ block tagged =>
    refine alone ⟨(node_kind _).2.1, fun keyword _ found splits => ?_⟩
    have tells := tagged.keyword? block (inside ++ branches ++ tail)
    rw [← List.append_assoc, ← List.append_assoc] at tells
    obtain rfl : opener = keyword := Option.some.inj (tells.symm.trans found)
    have branch := (isBranch_of_splits splits).1
    rw [(Parser.not_isCloser_of_closer? paired).2] at branch
    contradiction
  | @branch _ _ _ _ _ _ _ _ _ opener keyword allowed block tagged =>
    exact alone ⟨(node_kind _).2.1, keyword, rfl, tagged.keyword? block _, opener, rfl, allowed⟩

/-- A node with a body adds its opener to the bodies around what is in it. -/
theorem bodies_of_body (above : List (NodeKind × List Shape))
    (tells : stream.keyword? shapes = some opener) (paired : opener.closer? = some closer) :
    stream.bodies ((opener.node, shapes) :: above) = opener :: stream.bodies above := by
  have has : opener.node.hasBody = true := by rw [(node_kind opener).2.2, paired]; rfl
  rw [bodies, List.filterMap_cons_some (by rw [if_pos has, tells]), ← bodies]

/-- A node without a body adds none to the bodies around what is in it. -/
theorem bodies_of_bodiless (bodiless : kind.hasBody = false) :
    stream.bodies ((kind, shapes) :: above) = stream.bodies above := by
  rw [bodies, List.filterMap_cons_none (by rw [bodiless]; rfl), ← bodies]

/-- Shapes that are no end tags have none among them. -/
theorem any_isEndTag_eq_false (apart : ∀ kind row, Shape.node kind row ∈ shapes → kind ≠ .endTag) :
    shapes.any Shape.isEndTag = false := by
  rw [List.any_eq_false]
  intro shape member ends
  cases shape with
  | token => contradiction
  | node kind row =>
    have other := apart kind row member
    cases kind <;> contradiction

/-- An end tag matches the body that it ends. -/
theorem settled_endTag {front : List Shape} (depth : Nat) (above : List (NodeKind × List Shape))
    (paired : opener.closer? = some closer)
    (tells : stream.keyword? (front ++ [.node .endTag row]) = some opener)
    (block : stream.BlockAt start (some (.keyword closer)))
    (tagged : stream.Tagged start stop row raised) :
    stream.Settled depth ((opener.node, front ++ [.node .endTag row]) :: above)
      [.node .endTag row] [] := by
  have closes := tagged.keyword? block []
  have opens := block.opens_row tagged []
  rw [List.append_nil] at closes opens
  refine settled_alone tagged.parts ⟨fun _ => opens,
    fun _ => ⟨opener, closer, front, above, rfl, tells, closes, paired⟩,
    fun _ keyword found _ => .inl ⟨rfl, ?_⟩, fun _ keyword found branch => ?_,
    fun body => absurd body Bool.false_ne_true⟩ ?_
  · obtain rfl := Option.some.inj (closes.symm.trans found)
    rw [bodies_of_body _ tells paired]
    exact ⟨opener, List.mem_cons_self, paired⟩
  · obtain rfl := Option.some.inj (closes.symm.trans found)
    have loose := isBranch_of_isCloser (Parser.isCloser_of_closer? paired)
    exact absurd (loose.symm.trans branch) Bool.false_ne_true
  · rw [mismatch?]
    split <;> rfl

/-- What ends a body is settled within it. -/
theorem Ending.settled (depth : Nat) (above : List (NodeKind × List Shape)) (front : List Shape)
    (ending : stream.Ending outer opener closer opening start stop rest raised)
    (paired : opener.closer? = some closer)
    (tells : stream.keyword? (front ++ rest) = some opener) :
    stream.Settled depth ((opener.node, front ++ rest) :: above) rest [] := by
  cases ending with
  | closed block tagged =>
    rw [← List.append_assoc] at tells ⊢
    have settled := settled_append (settled_tokens start (stream.visible start - start))
      (settled_endTag depth above paired tells block tagged)
    exact settled
  | missing => exact settled_of_apart (by simp) (by simp)

/-- A body ends with its end tag, or with nothing, and then it is followed by what stops it. -/
theorem Ending.reports
    (ending : stream.Ending outer opener closer opening start stop rest raised) :
    (∀ kind row, Shape.node kind row ∈ rest → kind = .endTag) ∧
      ((rest.any Shape.isEndTag = true ∧ raised.filter Diagnostic.isMismatch = []) ∨
        (rest.any Shape.isEndTag = false ∧ stream.Halts outer stop ∧
          ¬stream.BlockAt (stream.visible stop) (some (.keyword closer)) ∧
          raised = [.unclosed (stream.offsetAt opening) opener closer])) := by
  cases ending with
  | @closed _ row _ block tagged =>
    refine ⟨fun kind inner member => ?_, .inl ⟨by simp [Shape.isEndTag],
      filter_isMismatch tagged.own⟩⟩
    rcases List.mem_append.1 member with space | last
    · obtain ⟨_, -, same⟩ := List.mem_map.1 space
      contradiction
    · exact (Shape.node.inj (List.mem_singleton.1 last)).1
  | missing halts own => exact ⟨by simp, .inr ⟨rfl, halts, own, rfl⟩⟩

/-- What stands in a tag is no end tag and no other statement. -/
theorem isStatement_of_row (tagged : stream.Tagged opening stop row raised)
    (member : .node kind shapes ∈ row) : kind.isStatement = false :=
  isStatement_of_part (tagged.parts (kind, shapes) (Shape.mem_nodesAll_of_node member))

section Body

variable {middle late last : Nat} {within beyond ends : List Diagnostic}
  {inside branches tail : List Shape} (paired : opener.closer? = some closer)
  (room : (stream.bodies above).length < depth)
  (block : stream.BlockAt start (some (.keyword opener)))
  (tagged : stream.Tagged start middle row raised)
  (items : stream.Outline depth .items (opener :: stack) middle late told inside within)
  (splits : stream.Outline depth .branches (opener :: stack) late last later branches beyond)
  (ending : stream.Ending stack opener closer start last stop tail ends)

include tagged items splits in
/-- A body has an end tag if it ends with one. -/
theorem any_isEndTag_body (tail : List Shape) :
    (row ++ (inside ++ branches ++ tail)).any Shape.isEndTag = tail.any Shape.isEndTag := by
  have first : row.any Shape.isEndTag = false := any_isEndTag_eq_false fun kind inner member => by
    rintro rfl
    exact Bool.false_ne_true (isStatement_of_row tagged member).symm
  rw [List.any_append, List.any_append, List.any_append, first,
    any_isEndTag_eq_false fun kind inner member => (items.stands kind inner member).1,
    any_isEndTag_eq_false fun kind inner member => (splits.stands kind inner member).1]
  rfl

include tagged items splits ending in
/-- A body is divided by the branches that follow its items. -/
theorem divided_body : stream.Divided opener (row ++ (inside ++ branches ++ tail)) := by
  refine ⟨row ++ inside, branches ++ tail, by simp only [List.append_assoc],
    fun kind inner member => ?_, fun kind inner member => ?_⟩
  · rcases List.mem_append.1 member with part | item
    · have apart := isStatement_of_row tagged part
      refine ⟨?_, fun keyword stated => absurd (apart.symm.trans stated) Bool.false_ne_true⟩
      rintro rfl
      exact Bool.false_ne_true apart.symm
    · obtain ⟨other, may⟩ := items.stands kind inner item
      exact ⟨other, fun keyword stated found allowed =>
        may keyword stated found ⟨opener, rfl, allowed⟩⟩
  · rcases List.mem_append.1 member with branch | final
    · obtain ⟨-, keyword, same, found, which, head, allowed⟩ := splits.stands kind inner branch
      obtain rfl := Option.some.inj head
      exact .inr ⟨keyword, same, found, allowed⟩
    · exact .inl (ending.reports.1 kind inner final)

include paired room block tagged items splits ending in
/-- A body matches, and is reported if it has no end tag. -/
theorem matched_body (around : stream.bodies above = stack) :
    stream.Matched depth ⟨above, opener.node, row ++ (inside ++ branches ++ tail)⟩ ∧
      ends.filter Diagnostic.isMismatch = (stream.mismatch? depth
        ⟨above, opener.node, row ++ (inside ++ branches ++ tail)⟩).toList := by
  subst around
  obtain ⟨statement, other, -⟩ := node_kind opener
  obtain ⟨loose, whole⟩ := Parser.not_isCloser_of_closer? paired
  have ended := any_isEndTag_body tagged items splits tail
  have spans := tagged.spans.append ((items.spans.append splits.spans).append ending.spans)
  constructor
  · refine matched_of_loose block tagged _ loose whole fun which same => ?_
    obtain rfl := Option.some.inj (paired.symm.trans same)
    rw [if_pos room]
    refine ⟨divided_body tagged items splits ending, fun none => ⟨start, stop - start, spans.2, ?_⟩⟩
    rw [ended] at none
    rw [Nat.add_sub_cancel' spans.1]
    rcases ending.reports.2 with ⟨closed, -⟩ | ⟨-, halts, own, -⟩
    · exact absurd (none.symm.trans closed) Bool.false_ne_true
    · exact ⟨halts, own⟩
  · rw [mismatch?_of_tagged depth above _ tagged block statement other, Keyword.mismatch?, loose,
      whole, paired, ended]
    rcases ending.reports.2 with ⟨closed, quiet⟩ | ⟨missing, -, -, rfl⟩
    · simp [closed, quiet]
    · simp [missing, room, isMismatch_unclosed]

end Body

/-- A branch that splits the innermost body matches, and nothing is reported of it. -/
theorem matched_branch (depth : Nat) (inside : List Shape)
    (block : stream.BlockAt start (some (.keyword keyword)))
    (tagged : stream.Tagged start stop row raised)
    (splits : Splits (stream.bodies above) keyword)
    (beneath : ∃ opener children further, above = (opener.node, children) :: further ∧
      stream.keyword? children = some opener ∧ keyword ∈ opener.branches) :
    stream.Matched depth ⟨above, keyword.node, row ++ inside⟩ ∧
      stream.mismatch? depth ⟨above, keyword.node, row ++ inside⟩ = none := by
  obtain ⟨statement, other, -⟩ := node_kind keyword
  obtain ⟨branch, loose⟩ := isBranch_of_splits splits
  refine ⟨matched_of_isBranch depth block tagged inside branch (.inl ⟨splits, beneath⟩), ?_⟩
  rw [mismatch?_of_tagged depth above inside tagged block statement other, Keyword.mismatch?, loose,
    branch, if_pos splits]
  rfl

/-- The nodes of an outline match, and those that do not are reported. -/
theorem Outline.settled (outline : stream.Outline depth part stack start stop told shapes raised)
    (above : List (NodeKind × List Shape)) (around : stream.bodies above = stack)
    (within : part = .branches → ∃ opener children further,
      above = (opener.node, children) :: further ∧ stream.keyword? children = some opener ∧
        stack.head? = some opener) : stream.Settled depth above shapes raised := by
  induction outline generalizing above with
  | nil => exact settled_of_apart (by simp) (by simp)
  | append _ _ before after =>
    exact settled_append (before above around within) (after above around within)
  | space => exact settled_tokens _ _
  | text => exact settled_of_apart (by simp [NodeKind.isStatement]) (by simp)
  | @inline _ _ _ _ _ row kind opens tagged =>
    have apart : kind.isStatement = false := by
      rcases (names_inline opens).2 with rfl | rfl <;> rfl
    obtain ⟨matched, silent⟩ := matched_of_apart stream depth ⟨above, kind, row⟩ apart
    exact settled_alone tagged.parts matched (by rw [silent, filter_isMismatch tagged.own]; rfl)
  | plain block plain tagged =>
    subst around
    obtain ⟨matched, reports⟩ := plain.matched block tagged
    refine settled_alone tagged.parts matched ?_
    rw [List.filter_append, filter_isMismatch tagged.own, List.append_nil, reports]
  | @body _ _ _ _ _ _ _ raised _ _ _ row inside branches tail opener closer paired room block
      tagged sound apart ending items splits =>
    subst around
    obtain ⟨matched, reports⟩ := matched_body paired room block tagged sound apart ending rfl
    have whole : row ++ inside ++ branches ++ tail = row ++ (inside ++ branches ++ tail) := by
      simp only [List.append_assoc]
    have tells := tagged.keyword? block (inside ++ branches ++ tail)
    rw [whole]
    have enclosed := bodies_of_body above tells paired
    have first := items _ enclosed (by rintro ⟨⟩)
    have second := splits _ enclosed fun _ => ⟨opener, _, above, rfl, tells, rfl⟩
    have last := ending.settled depth above (row ++ inside ++ branches) paired (by
      rw [whole]
      exact tells)
    rw [whole] at last
    refine settled_tag tagged.parts matched
      (settled_append (settled_append first second) last) ?_
    simp only [List.filter_append, filter_isMismatch tagged.own, reports, List.append_nil,
      List.nil_append]
    exact List.perm_append_comm
  | @branch stack _ _ _ _ _ _ row inside opener keyword allowed block tagged _ items =>
    have splits : Splits (stream.bodies above) keyword := by
      rw [around]
      exact ⟨opener, rfl, allowed⟩
    obtain ⟨which, children, further, same, found, head⟩ := within rfl
    obtain rfl := Option.some.inj head
    obtain ⟨matched, silent⟩ := matched_branch depth inside block tagged splits
      ⟨opener, children, further, same, found, allowed⟩
    have bodiless := hasBody_of_isBranch (isBranch_of_splits splits).1
    refine settled_tag tagged.parts matched
      (items _ ((bodies_of_bodiless bodiless).trans around) (by rintro ⟨⟩)) ?_
    rw [silent, List.filter_append, filter_isMismatch tagged.own]
    rfl

/-! ### Start delimiters -/

/-- All tags in what ends a body are reached. -/
theorem Ending.reached
    (ending : stream.Ending outer opener closer opening start stop rest raised) :
    stream.Reached above rest := by
  cases ending with
  | closed _ tagged =>
    exact reached_append (reached_space start) (reached_alone tagged rfl fun _ => rfl)
  | missing => exact reached_nil

/-- Every start delimiter of a block tag in an outline has its tag. -/
theorem Outline.reached (outline : stream.Outline depth part stack start stop told shapes raised)
    (above : List (NodeKind × List Shape)) : stream.Reached above shapes := by
  induction outline generalizing above with
  | nil => exact reached_nil
  | append _ _ before after => exact reached_append (before above) (after above)
  | space => exact reached_space _
  | @text _ start stop _ _ plain =>
    intro opening member opens
    rw [Shape.leavesAll_node, Shape.leavesAll_tokens, List.mem_range'_1] at member
    have begins := plain opening member.1 (by omega)
    rw [closerAt?, opens] at begins
    split_ifs at begins
  | inline opens tagged =>
    refine reached_alone tagged (isTag_of_names (names_inline opens).1) fun block => ?_
    rw [block] at opens
    contradiction
  | @plain _ _ _ _ _ _ _ _ kind _ plain tagged =>
    have statement : kind.isStatement = true := plain.kind_eq ▸ isStatement_statementNode _
    exact reached_alone tagged (isTag_of_isStatement statement) fun _ => statement
  | @body _ _ _ _ _ _ _ _ _ _ _ row inside branches tail opener _ _ _ _ tagged _ _ ending items
      splits =>
    have whole : row ++ inside ++ branches ++ tail = row ++ (inside ++ branches ++ tail) := by
      simp only [List.append_assoc]
    have statement := (node_kind opener).1
    rw [whole]
    exact reached_tag tagged (isTag_of_isStatement statement) (fun _ => statement)
      (reached_append (reached_append (items _) (splits _)) ending.reached)
  | @branch _ _ _ _ _ _ _ _ _ _ keyword _ _ tagged _ items =>
    have statement := (node_kind keyword).1
    exact reached_tag tagged (isTag_of_isStatement statement) (fun _ => statement) (items _)

/-- Of every stream all block tags are found, and find their counterparts as by the stack of the
bodies around them. The reports about how tags match are one for each that has none. -/
theorem parse_matched (stream : TokenStream) (limits : ParseLimits) :
    ∃ (shapes : List Shape) (raised : List Diagnostic),
      Draws (stream.parse limits).tree.nodes (.node (stream.parse limits).tree.root)
        (.node .template shapes) ∧
      (stream.parse limits).diagnostics.toList = raised.take limits.diagnostics ∧
      (stream.parse limits).statistics.suppressed = raised.length - limits.diagnostics ∧
      (∀ opening, stream.kindAt? opening = some (.delimiter .blockStart) →
        ∃ site ∈ (Shape.node .template shapes).sites [], site.Holds opening) ∧
      (∀ site ∈ (Shape.node .template shapes).sites [], stream.Matched limits.depth site) ∧
      (raised.filter Diagnostic.isMismatch).Perm
        (((Shape.node .template shapes).sites []).filterMap (stream.mismatch? limits.depth)) := by
  obtain ⟨shapes, raised, drawn, -, leaves, kept, counted, outline⟩ :=
    stream.parse_outlined limits
  obtain ⟨each, reports⟩ := outline.settled [(.template, shapes)] rfl (by rintro ⟨⟩)
  obtain ⟨matched, silent⟩ := matched_of_apart stream limits.depth ⟨[], .template, shapes⟩ rfl
  refine ⟨shapes, raised, drawn, kept, counted, fun opening opens => ?_, fun site member => ?_, ?_⟩
  · have inside : opening ∈ Shape.leavesAll shapes := by
      rw [leaves, List.mem_range'_1]
      by_contra beyond
      by_cases early : opening < stream.visible 0
      · rw [kindAt?_before_visible (Nat.zero_le _) early] at opens
        contradiction
      · rw [stream.kindAt?_eq_none.2 (by omega)] at opens
        contradiction
    obtain ⟨site, listed, holds⟩ := outline.reached [(.template, shapes)] opening inside opens
    exact ⟨site, List.mem_cons_of_mem _ listed, holds⟩
  · rcases List.mem_cons.1 member with rfl | further
    · exact matched
    · exact each site further
  · rw [Shape.sites, List.filterMap_cons_none silent]
    exact reports

/-- The inner body gives way to the end tag that the outer one awaits. -/
example :
    let stream : TokenStream := ⟨"\x7b%if a%\x7d\x7b%for b in c%\x7d\x7b%endif%\x7d",
      #[⟨.delimiter .blockStart, 0, 2⟩, ⟨.keyword .ifKw, 2, 4⟩, ⟨.whitespace, 4, 5⟩,
        ⟨.identifier, 5, 6⟩, ⟨.delimiter .blockEnd, 6, 8⟩, ⟨.delimiter .blockStart, 8, 10⟩,
        ⟨.keyword .forKw, 10, 13⟩, ⟨.whitespace, 13, 14⟩, ⟨.identifier, 14, 15⟩,
        ⟨.whitespace, 15, 16⟩, ⟨.keyword .inKw, 16, 18⟩, ⟨.whitespace, 18, 19⟩,
        ⟨.identifier, 19, 20⟩, ⟨.delimiter .blockEnd, 20, 22⟩, ⟨.delimiter .blockStart, 22, 24⟩,
        ⟨.keyword .endIf, 24, 29⟩, ⟨.delimiter .blockEnd, 29, 31⟩],
      #[.template, .blockTag, .blockTag, .blockTag, .blockTag, .template, .blockTag, .blockTag,
        .blockTag, .blockTag, .blockTag, .blockTag, .blockTag, .blockTag, .template, .blockTag,
        .blockTag], .template⟩
    (stream.parse ⟨8, 8⟩).diagnostics = #[.unclosed 8 .forKw .endFor] := by
  decide

end TokenStream
end Stencil
