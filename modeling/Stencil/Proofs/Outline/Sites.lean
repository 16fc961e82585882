import Stencil.Proofs.Outline.Tags
/-!
# Nodes and the bodies around them

Every node of a tree has a site: the nodes above it, innermost first. The bodies among these are a
stack of openers, and `Matched` says what it takes for a node to stand where this stack has it
stand. A node that has not found its counterpart is reported (`mismatch?`). Shapes in which all
nodes match, and of which just this is reported about how they do, are `Settled`, and `Reached` if
none of their start delimiters is left without a tag.
-/

namespace Stencil

instance (stack : List Keyword) (keyword : Keyword) : Decidable (Splits stack keyword) :=
  decidable_of_iff (stack.head?.any (fun opener => opener.branches.contains keyword) = true) <| by
    simp [Splits, Option.any_eq_true]

/-- The report about a tag in bodies with these openers that has not found its counterpart, by its
keyword and if it has an end tag. -/
def Keyword.mismatch? (keyword : Keyword) (stack : List Keyword) (depth offset : Nat)
    (ended : Bool) : Option Diagnostic :=
  if keyword.isCloser then some (.stray offset keyword)
  else if keyword.isBranch then
    if Splits stack keyword then none else some (.misplaced offset keyword)
  else
    keyword.closer?.bind fun closer =>
      if stack.length < depth && !ended then some (.unclosed offset keyword closer) else none

/-- A node, and the nodes above it from the innermost to the outermost. -/
structure Site where
  above : List (NodeKind × List Shape)
  kind : NodeKind
  row : List Shape

/-- A node that is an end tag. -/
def Shape.isEndTag : Shape → Bool
  | .node .endTag _ => true
  | _ => false

namespace Shape

/-- Only parts of a tag stand here, and placeholders for what does not belong there. -/
def Bare (shapes : List Shape) : Prop :=
  ∀ node ∈ nodesAll shapes, node.1.isPart = true ∨ node.1 = .error

mutual

/-- The nodes of a shape in order, each with those above it. -/
def sites (above : List (NodeKind × List Shape)) : Shape → List Site
  | .token _ => []
  | .node kind row => ⟨above, kind, row⟩ :: sitesAll ((kind, row) :: above) row

/-- The nodes of shapes side by side. -/
def sitesAll (above : List (NodeKind × List Shape)) : List Shape → List Site
  | [] => []
  | shape :: rest => sites above shape ++ sitesAll above rest

end

variable {above : List (NodeKind × List Shape)} {shapes : List Shape}

/-- The sites in two rows of shapes are those of the one and then those of the other. -/
@[simp]
theorem sitesAll_append (left right : List Shape) :
    sitesAll above (left ++ right) = sitesAll above left ++ sitesAll above right := by
  induction left with
  | nil => rfl
  | cons shape rest ih => simp only [List.cons_append, sitesAll, ih, List.append_assoc]

/-- The first site in a node is the node, and the others lie within it. -/
@[simp]
theorem sitesAll_node (kind : NodeKind) (row : List Shape) : sitesAll above [.node kind row] =
    ⟨above, kind, row⟩ :: sitesAll ((kind, row) :: above) row := by
  rw [sitesAll, sites, sitesAll, List.append_nil]

mutual

/-- A node with those above it is a node. -/
theorem mem_nodes_of_site {above : List (NodeKind × List Shape)} {site : Site} :
    ∀ shape : Shape, site ∈ shape.sites above → (site.kind, site.row) ∈ shape.nodes
  | .token _, member => nomatch member
  | .node kind row, member => by
    rcases List.mem_cons.1 member with rfl | further
    · exact List.mem_cons_self
    · exact List.mem_cons_of_mem _ (mem_nodesAll_of_site row further)

/-- The site of a node is among the nodes of the shapes around it. -/
theorem mem_nodesAll_of_site {above : List (NodeKind × List Shape)} {site : Site} :
    ∀ shapes : List Shape, site ∈ sitesAll above shapes → (site.kind, site.row) ∈ nodesAll shapes
  | [], member => nomatch member
  | shape :: rest, member => by
    rw [nodesAll_cons, List.mem_append]
    exact (List.mem_append.1 member).imp (mem_nodes_of_site shape) (mem_nodesAll_of_site rest)

end

end Shape

/-- A start delimiter has its tag here: it begins a statement, or it is among what a tag has in it,
where none is looked for. -/
def Site.Holds (site : Site) (opening : Nat) : Prop :=
  ∃ first inside rest, site.row = .token first :: (inside ++ rest) ∧ Shape.Bare inside ∧
    ((opening = first ∧ site.kind.isStatement = true) ∨
      (opening ∈ Shape.leavesAll inside ∧ site.kind.isTag = true))

namespace TokenStream

/-- The openers of the bodies among some nodes, innermost first. -/
def bodies (stream : TokenStream) (above : List (NodeKind × List Shape)) : List Keyword :=
  above.filterMap fun node => if node.1.hasBody then stream.keyword? node.2 else none

/-- The report about a node that has not found its counterpart. -/
def mismatch? (stream : TokenStream) (depth : Nat) (site : Site) : Option Diagnostic :=
  match site.row.head?.bind Shape.token?, stream.keyword? site.row with
  | some opening, some keyword =>
    if !site.kind.isStatement || site.kind = .endTag then none
    else keyword.mismatch? (stream.bodies site.above) depth (stream.offsetAt opening)
      (site.row.any Shape.isEndTag)
  | _, _ => none

/-- In the children of a body no item may split it, and after the items there are only branches that
may, and the end tag. -/
def Divided (stream : TokenStream) (opener : Keyword) (children : List Shape) : Prop :=
  ∃ items branches, children = items ++ branches ∧
    (∀ kind row, Shape.node kind row ∈ items → kind ≠ .endTag ∧ ∀ keyword,
      kind.isStatement = true → stream.keyword? row = some keyword → keyword ∉ opener.branches) ∧
    (∀ kind row, Shape.node kind row ∈ branches → kind = .endTag ∨ ∃ keyword,
      kind = keyword.node ∧ stream.keyword? row = some keyword ∧ keyword ∈ opener.branches)

/-- A node stands where the stack of the bodies around it has it stand. -/
structure Matched (stream : TokenStream) (depth : Nat) (site : Site) : Prop where
  /-- A statement is a block tag. -/
  opens : site.kind.isStatement = true → ∃ opening inside, site.row = .token opening :: inside ∧
    stream.kindAt? opening = some (.delimiter .blockStart)
  /-- An end tag is the last child of a body, the one that its keyword closes. -/
  endTag : site.kind = .endTag → ∃ opener keyword front above,
    site.above = (opener.node, front ++ [.node .endTag site.row]) :: above ∧
      stream.keyword? (front ++ [.node .endTag site.row]) = some opener ∧
      stream.keyword? site.row = some keyword ∧ opener.closer? = some keyword
  /-- A tag that closes a body is an end tag if a body around it awaits it, and stray if not. -/
  closer : site.kind.isStatement = true → ∀ keyword, stream.keyword? site.row = some keyword →
    keyword.isCloser = true →
      (site.kind = .endTag ∧ AwaitedBy (stream.bodies site.above) keyword) ∨
      (site.kind = .genericBlock ∧ ¬AwaitedBy (stream.bodies site.above) keyword)
  /-- A branch is a child of the innermost body if it may split it, and has no items if not. -/
  branch : site.kind.isStatement = true → ∀ keyword, stream.keyword? site.row = some keyword →
    keyword.isBranch = true → site.kind = keyword.node ∧
      ((Splits (stream.bodies site.above) keyword ∧ ∃ opener children above,
          site.above = (opener.node, children) :: above ∧ stream.keyword? children = some opener ∧
            keyword ∈ opener.branches) ∨
        (¬Splits (stream.bodies site.above) keyword ∧ Shape.Bare site.row))
  /-- A body within the limit on nesting is divided by its branches, and without an end tag it is
  followed by the end or by an end tag, not its own, that a body around it awaits. Beyond the limit
  no body is entered. -/
  body : site.kind.hasBody = true → ∃ opener closer, site.kind = opener.node ∧
    stream.keyword? site.row = some opener ∧ opener.closer? = some closer ∧
    if (stream.bodies site.above).length < depth then
      stream.Divided opener site.row ∧ (site.row.any Shape.isEndTag = false → ∃ start count,
        Shape.leavesAll site.row = List.range' start count ∧
        stream.Halts (stream.bodies site.above) (start + count) ∧
        ¬stream.BlockAt (stream.visible (start + count)) (some (.keyword closer)))
    else Shape.Bare site.row

/-! ### Single nodes -/

variable {stream : TokenStream} {depth : Nat} {kind : NodeKind}
  {above : List (NodeKind × List Shape)} {row rest left right shapes : List Shape}
  {one two raised later total : List Diagnostic}

/-- What is no statement need not match anything. -/
theorem matched_of_apart (stream : TokenStream) (depth : Nat) (site : Site)
    (apart : site.kind.isStatement = false) :
    stream.Matched depth site ∧ stream.mismatch? depth site = none := by
  have never {which : Prop} (statement : site.kind.isStatement = true) : which :=
    absurd (apart.symm.trans statement) Bool.false_ne_true
  refine ⟨⟨never, fun ends => ?_, never, never, fun body => never ?_⟩, ?_⟩
  · rw [ends] at apart
    contradiction
  · revert body
    cases site.kind <;> decide
  · rw [mismatch?]
    split
    · rw [apart]
      rfl
    · rfl

/-- Reports about what stands in a tag are not about how tags match. -/
theorem filter_isMismatch (own : ∀ diagnostic ∈ raised, diagnostic.isMismatch = false) :
    raised.filter Diagnostic.isMismatch = [] :=
  List.filter_eq_nil_iff.2 fun diagnostic listed => Bool.eq_false_iff.1 (own diagnostic listed)

/-- All nodes match, and the reports about how they do are one for each that does not. -/
def Settled (stream : TokenStream) (depth : Nat) (above : List (NodeKind × List Shape))
    (shapes : List Shape) (raised : List Diagnostic) : Prop :=
  (∀ site ∈ Shape.sitesAll above shapes, stream.Matched depth site) ∧
    (raised.filter Diagnostic.isMismatch).Perm
      ((Shape.sitesAll above shapes).filterMap (stream.mismatch? depth))

/-- Two rows of settled shapes are settled, with the reports of both. -/
theorem settled_append (before : stream.Settled depth above left one)
    (after : stream.Settled depth above right two) :
    stream.Settled depth above (left ++ right) (one ++ two) := by
  constructor
  · rw [Shape.sitesAll_append]
    exact fun site member => (List.mem_append.1 member).elim (before.1 site) (after.1 site)
  · rw [List.filter_append, Shape.sitesAll_append, List.filterMap_append]
    exact before.2.append after.2

/-- In a row without statements nothing has to match. -/
theorem settled_of_apart (apart : ∀ node ∈ Shape.nodesAll shapes, node.1.isStatement = false)
    (quiet : ∀ diagnostic ∈ raised, diagnostic.isMismatch = false) :
    stream.Settled depth above shapes raised := by
  have each (site : Site) (member : site ∈ Shape.sitesAll above shapes) :=
    matched_of_apart stream depth site (apart _ (Shape.mem_nodesAll_of_site shapes member))
  refine ⟨fun site member => (each site member).1, ?_⟩
  rw [filter_isMismatch quiet,
    List.filterMap_eq_nil_iff.2 fun site member => (each site member).2]

/-- Tokens are settled without a report. -/
theorem settled_tokens (start count : Nat) :
    stream.Settled depth above (Shape.tokens start count) [] :=
  settled_of_apart (by simp) (by simp)

/-- What stands in a tag is no statement. -/
theorem isStatement_of_part (inside : kind.isPart = true ∨ kind = .error) :
    kind.isStatement = false := by
  rcases inside with inside | rfl
  · revert inside
    cases kind <;> decide
  · rfl

/-- A tag is settled with what comes after it, if it matches and its report is among them. -/
theorem settled_tag (parts : Shape.Bare row)
    (matched : stream.Matched depth ⟨above, kind, row ++ rest⟩)
    (after : stream.Settled depth ((kind, row ++ rest) :: above) rest later)
    (adds : (total.filter Diagnostic.isMismatch).Perm
      ((stream.mismatch? depth ⟨above, kind, row ++ rest⟩).toList ++
        later.filter Diagnostic.isMismatch)) :
    stream.Settled depth above [.node kind (row ++ rest)] total := by
  have within : stream.Settled depth ((kind, row ++ rest) :: above) row [] :=
    settled_of_apart (fun node member => isStatement_of_part (parts node member)) (by simp)
  obtain ⟨each, reports⟩ := settled_append within after
  rw [List.nil_append] at reports
  constructor
  · rw [Shape.sitesAll_node]
    intro site member
    rcases List.mem_cons.1 member with rfl | further
    · exact matched
    · exact each site further
  · rw [Shape.sitesAll_node, List.filterMap_cons]
    refine adds.trans ?_
    cases stream.mismatch? depth ⟨above, kind, row ++ rest⟩ with
    | none => exact reports
    | some diagnostic => exact reports.cons diagnostic

/-- A tag with nothing after it is settled if it matches and its report is the only one. -/
theorem settled_alone (parts : Shape.Bare row)
    (matched : stream.Matched depth ⟨above, kind, row⟩)
    (adds : total.filter Diagnostic.isMismatch =
      (stream.mismatch? depth ⟨above, kind, row⟩).toList) :
    stream.Settled depth above [.node kind row] total := by
  have nothing : stream.Settled depth ((kind, row ++ []) :: above) [] [] :=
    settled_of_apart (by simp) (by simp)
  have settled := settled_tag parts (by rwa [List.append_nil]) nothing (by
    rw [List.append_nil, adds, List.filter_nil, List.append_nil])
  rwa [List.append_nil] at settled

/-! ### Start delimiters -/

/-- Every start delimiter of a block tag among these shapes has its tag. -/
def Reached (stream : TokenStream) (above : List (NodeKind × List Shape))
    (shapes : List Shape) : Prop :=
  ∀ opening ∈ Shape.leavesAll shapes, stream.kindAt? opening = some (.delimiter .blockStart) →
    ∃ site ∈ Shape.sitesAll above shapes, site.Holds opening

/-- Where all tags are reached in two rows of shapes, they are in both together. -/
theorem reached_append (before : stream.Reached above left) (after : stream.Reached above right) :
    stream.Reached above (left ++ right) := by
  intro opening member opens
  rw [Shape.leavesAll_append] at member
  rw [Shape.sitesAll_append]
  rcases List.mem_append.1 member with early | late
  · obtain ⟨site, listed, holds⟩ := before opening early opens
    exact ⟨site, List.mem_append_left _ listed, holds⟩
  · obtain ⟨site, listed, holds⟩ := after opening late opens
    exact ⟨site, List.mem_append_right _ listed, holds⟩

/-- Without shapes there is no tag to reach. -/
theorem reached_nil : stream.Reached above [] := fun _ member => absurd member List.not_mem_nil

/-- White space before a token begins nothing. -/
theorem reached_space (start : Nat) :
    stream.Reached above (Shape.tokens start (stream.visible start - start)) := by
  intro opening member opens
  rw [Shape.leavesAll_tokens, List.mem_range'_1] at member
  rw [kindAt?_before_visible member.1 (by omega)] at opens
  contradiction

/-- A tag holds what begins in it, and its own start delimiter if it is a statement. -/
theorem reached_tag {opening stop : Nat} (tagged : stream.Tagged opening stop row raised)
    (tag : kind.isTag = true)
    (names : stream.kindAt? opening = some (.delimiter .blockStart) → kind.isStatement = true)
    (after : stream.Reached ((kind, row ++ rest) :: above) rest) :
    stream.Reached above [.node kind (row ++ rest)] := by
  obtain ⟨inside, rfl⟩ := tagged.begins
  have bare : Shape.Bare inside := tagged.parts
  intro start member opens
  rw [Shape.leavesAll_node, Shape.leavesAll_append, List.mem_append] at member
  rw [Shape.sitesAll_node]
  rcases member with own | later
  · refine ⟨_, List.mem_cons_self, opening, inside, rest, rfl, bare, ?_⟩
    rcases List.mem_cons.1 own with rfl | within
    · exact .inl ⟨rfl, names opens⟩
    · exact .inr ⟨within, tag⟩
  · obtain ⟨site, listed, holds⟩ := after start later opens
    refine ⟨site, List.mem_cons_of_mem _ ?_, holds⟩
    rw [Shape.sitesAll_append]
    exact List.mem_append_right _ listed

/-- A tag that stands alone is reached. -/
theorem reached_alone {opening stop : Nat} (tagged : stream.Tagged opening stop row raised)
    (tag : kind.isTag = true)
    (names : stream.kindAt? opening = some (.delimiter .blockStart) → kind.isStatement = true) :
    stream.Reached above [.node kind row] := by
  have nothing : stream.Reached ((kind, row ++ []) :: above) [] := reached_nil
  have reached := reached_tag tagged tag names nothing
  rwa [List.append_nil] at reached

/-- The node of a statement is that of a tag. -/
theorem isTag_of_isStatement (statement : kind.isStatement = true) : kind.isTag = true := by
  rw [NodeKind.isTag, statement]
  rfl

end TokenStream
end Stencil
