import Stencil.Proofs.Lexer.Delimited
import Stencil.Proofs.Outline.Content
/-!
# The tags of an outline

Each start delimiter in an outline begins the node of a tag, and each node of a tag begins with one
(`Begun`). What goes without saying about a tag that is read without a report holds of the whole
outline if nothing has been reported: there are no placeholders and every body has its end tag.
`Listed` puts this together for the shapes of an outline; it is kept by the steps that outlines are
made of (`Outline.listed`).
-/

namespace Stencil

/-- The nodes that tags and comments become. -/
def NodeKind.isTag (kind : NodeKind) : Bool :=
  kind.isStatement || kind = .variableTag || kind = .comment

namespace TokenStream

/-- The token at a place begins a node of this kind: a variable tag, a comment, or the statement
that the next token calls for, which is the end of a body or an unknown one for an end tag. -/
def Names (stream : TokenStream) (opening : Nat) (kind : NodeKind) : Prop :=
  match stream.kindAt? opening with
  | some (.delimiter .variableStart) => kind = .variableTag
  | some (.delimiter .commentStart) => kind = .comment
  | some (.delimiter .blockStart) =>
    kind = TokenKind.statementNode (stream.kindAt? (stream.visible (opening + 1))) ∨
      kind = .endTag ∧
        (stream.kindAt? (stream.visible (opening + 1))).any TokenKind.isCloser = true
  | _ => False

/-- A node begins with a tag, after which it has no tokens of its own but white space. -/
structure Begun (stream : TokenStream) (node : NodeKind × List Shape) (opening stop : Nat)
    (row : List Shape) (reports : List Diagnostic) : Prop where
  tagged : stream.Tagged opening stop row reports
  names : stream.Names opening node.1
  whole : ∃ rest, node.2 = row ++ rest ∧
    ∀ index, Shape.token index ∈ rest → stream.kindAt? index = some .whitespace

/-- The children of a body end with the end tag of the keyword that opens it. -/
def Ended (stream : TokenStream) (children : List Shape) : Prop :=
  ∃ opener closer front row, children = front ++ [.node .endTag row] ∧
    stream.keyword? children = some opener ∧ stream.keyword? row = some closer ∧
    opener.closer? = some closer

/-- All tags among these shapes, and what holds if nothing has been reported. -/
structure Listed (stream : TokenStream) (quiet : Prop) (shapes : List Shape) : Prop where
  blank : ∀ index, Shape.token index ∈ shapes → stream.kindAt? index = some .whitespace
  node : ∀ node ∈ Shape.nodesAll shapes, node.1.isTag = true →
    ∃ opening stop row reports, stream.Begun node opening stop row reports ∧
      (quiet → reports = [])
  leaf : ∀ index ∈ Shape.leavesAll shapes, (stream.closerAt? index).isSome →
    ∃ node ∈ Shape.nodesAll shapes, ∃ stop row reports, stream.Begun node index stop row reports ∧
      (quiet → reports = [])
  sound : quiet → ∀ node ∈ Shape.nodesAll shapes, node.1 ≠ .error
  ends : quiet → ∀ node ∈ Shape.nodesAll shapes, node.1.hasBody = true → stream.Ended node.2

variable {stream : TokenStream} {quiet calm : Prop} {left right rest row shapes : List Shape}
  {kind : NodeKind} {opening stop index : Nat} {reports : List Diagnostic}

/-- What is listed on a condition is listed on a stronger one. -/
theorem Listed.mono (listed : stream.Listed quiet shapes) (stronger : calm → quiet) :
    stream.Listed calm shapes where
  blank := listed.blank
  node node member tag := by
    obtain ⟨opening, stop, row, reports, begun, none⟩ := listed.node node member tag
    exact ⟨opening, stop, row, reports, begun, none ∘ stronger⟩
  leaf index member opens := by
    obtain ⟨node, within, stop, row, reports, begun, none⟩ := listed.leaf index member opens
    exact ⟨node, within, stop, row, reports, begun, none ∘ stronger⟩
  sound := listed.sound ∘ stronger
  ends := listed.ends ∘ stronger

/-- Two rows of shapes that are listed are listed together. -/
theorem Listed.append (one : stream.Listed quiet left) (two : stream.Listed quiet right) :
    stream.Listed quiet (left ++ right) where
  blank index member := (List.mem_append.1 member).elim (one.blank index) (two.blank index)
  node node member := by
    rw [Shape.nodesAll_append] at member
    exact (List.mem_append.1 member).elim (one.node node) (two.node node)
  leaf index member opens := by
    rw [Shape.leavesAll_append] at member
    rw [Shape.nodesAll_append]
    rcases List.mem_append.1 member with member | member
    · obtain ⟨node, within, begun⟩ := one.leaf index member opens
      exact ⟨node, List.mem_append_left _ within, begun⟩
    · obtain ⟨node, within, begun⟩ := two.leaf index member opens
      exact ⟨node, List.mem_append_right _ within, begun⟩
  sound calm node member := by
    rw [Shape.nodesAll_append] at member
    exact (List.mem_append.1 member).elim (one.sound calm node) (two.sound calm node)
  ends calm node member := by
    rw [Shape.nodesAll_append] at member
    exact (List.mem_append.1 member).elim (one.ends calm node) (two.ends calm node)

/-- White space has no tags. -/
theorem listed_tokens {start count : Nat} (blank : ∀ index, start ≤ index →
    index < start + count → stream.kindAt? index = some .whitespace) :
    stream.Listed quiet (Shape.tokens start count) := by
  have within (index : Nat) (member : Shape.token index ∈ Shape.tokens start count) :
      stream.kindAt? index = some .whitespace := by
    obtain ⟨_, listed, same⟩ := List.mem_map.1 member
    obtain rfl := Shape.token.inj same
    rw [List.mem_range'_1] at listed
    exact blank _ listed.1 listed.2
  refine ⟨within, by simp, fun index member opens => ?_, by simp, by simp⟩
  rw [Shape.leavesAll_tokens, List.mem_range'_1] at member
  rw [closerAt?, blank index member.1 member.2] at opens
  contradiction

/-- Text in which no tag begins has no tags. -/
theorem listed_text {start stop : Nat} (plain : ∀ index, start ≤ index → index < stop →
    stream.closerAt? index = none) :
    stream.Listed quiet [.node .text (Shape.tokens start (stop - start))] := by
  refine ⟨by simp, by simp [NodeKind.isTag, NodeKind.isStatement], fun index member opens => ?_,
    by simp, by simp [NodeKind.hasBody]⟩
  rw [Shape.leavesAll_node, Shape.leavesAll_tokens, List.mem_range'_1] at member
  rw [plain index member.1 (by omega)] at opens
  contradiction

/-- A keyword after a tag opening names a statement. -/
theorem isStatement_statementNode (first : Option TokenKind) :
    (TokenKind.statementNode first).isStatement = true := by
  unfold TokenKind.statementNode
  split
  next keyword => cases keyword <;> rfl
  · rfl

/-- A node named by a tag is that of a tag. -/
theorem isTag_of_names (names : stream.Names opening kind) : kind.isTag = true := by
  rw [Names] at names
  rw [NodeKind.isTag]
  split at names
  · rw [names]
    rfl
  · rw [names]
    rfl
  · rcases names with names | ⟨names, -⟩
    · rw [names, isStatement_statementNode]
      rfl
    · rw [names]
      rfl
  · contradiction

/-- What stands between delimiters begins no tag. -/
theorem closerAt?_of_loose
    (loose : (stream.kindAt? index).any (fun kind => !kind.isStructural) = true) :
    stream.closerAt? index = none := by
  rw [closerAt?]
  split
  case h_4 => rfl
  all_goals
    next here =>
      rw [here] at loose
      contradiction

/-- What closes a tag begins none. -/
theorem closerAt?_of_closes (closes : stream.kindAt? index = stream.closerAt? opening) :
    stream.closerAt? index = none := by
  cases ends : stream.closerAt? opening with
  | none => rw [closerAt?, closes, ends]
  | some closer =>
    rw [closerAt?, closes, ends]
    rw [closerAt?] at ends
    split at ends
    · obtain rfl := Option.some.inj ends
      rfl
    · split_ifs at ends
      all_goals
        obtain rfl := Option.some.inj ends
        rfl
    · split_ifs at ends
      all_goals
        obtain rfl := Option.some.inj ends
        rfl
    · contradiction

/-- In a tag no other begins. -/
theorem Tagged.opening_of_leaf (tagged : stream.Tagged opening stop row reports)
    (delimited : stream.Delimited) (member : index ∈ Shape.leavesAll row)
    (opens : (stream.closerAt? index).isSome) : index = opening := by
  obtain ⟨high, -, loose, ends⟩ := tagged.reaches delimited
  have forward := tagged.forward
  rw [tagged.leaves, List.mem_range'_1] at member
  by_contra other
  have nothing : stream.closerAt? index = none := by
    by_cases inside : index < high
    · exact closerAt?_of_loose (loose index (by omega) inside)
    · rcases ends with ⟨closes, last, -⟩ | ⟨-, last, -⟩
      · obtain rfl : index = high := by omega
        exact closerAt?_of_closes closes
      · omega
  rw [nothing] at opens
  contradiction

/-- A tag and what is listed after it are listed as a node. -/
theorem listed_tag (delimited : stream.Delimited) (tagged : stream.Tagged opening stop row reports)
    (names : stream.Names opening kind) (none : quiet → reports = [])
    (after : stream.Listed quiet rest)
    (ends : quiet → kind.hasBody = true → stream.Ended (row ++ rest)) :
    stream.Listed quiet [.node kind (row ++ rest)] := by
  have begun : stream.Begun (kind, row ++ rest) opening stop row reports :=
    ⟨tagged, names, rest, rfl, after.blank⟩
  have nodes : Shape.nodesAll [.node kind (row ++ rest)] =
      (kind, row ++ rest) :: (Shape.nodesAll row ++ Shape.nodesAll rest) := by simp
  have leaves : Shape.leavesAll [.node kind (row ++ rest)] =
      Shape.leavesAll row ++ Shape.leavesAll rest := by simp [Shape.leavesAll, Shape.leaves]
  have part {node : NodeKind × List Shape} (member : node ∈ Shape.nodesAll row) :
      node.1.isTag = false ∧ node.1.hasBody = false := by
    obtain ⟨which, inner⟩ := node
    rcases tagged.parts _ member with inside | inside
    · cases which <;> first | exact ⟨rfl, rfl⟩ | contradiction
    · cases inside
      exact ⟨rfl, rfl⟩
  refine ⟨by simp, ?_, ?_, fun calm => ?_, fun calm => ?_⟩
  · rw [nodes]
    intro node member tag
    rcases List.mem_cons.1 member with rfl | member
    · exact ⟨opening, stop, row, reports, begun, none⟩
    rcases List.mem_append.1 member with member | member
    · rw [(part member).1] at tag
      contradiction
    · exact after.node node member tag
  · rw [leaves, nodes]
    intro index member opens
    rcases List.mem_append.1 member with member | member
    · obtain rfl := tagged.opening_of_leaf delimited member opens
      exact ⟨_, List.mem_cons_self, stop, row, reports, begun, none⟩
    · obtain ⟨node, within, begun⟩ := after.leaf index member opens
      exact ⟨node, List.mem_cons_of_mem _ (List.mem_append_right _ within), begun⟩
  · rw [nodes]
    intro node member
    rcases List.mem_cons.1 member with rfl | member
    · rintro rfl
      exact absurd (isTag_of_names names) (by decide)
    · exact (List.mem_append.1 member).elim (tagged.sound (none calm) node) (after.sound calm node)
  · rw [nodes]
    intro node member body
    rcases List.mem_cons.1 member with rfl | member
    · exact ends calm body
    rcases List.mem_append.1 member with member | member
    · rw [(part member).2] at body
      contradiction
    · exact after.ends calm node member body

/-! ### Outlines -/

variable {depth : Nat} {stack outer : List Keyword} {told raised : List Diagnostic} {start : Nat}
  {first : Option TokenKind} {opener closer : Keyword} {tail : List Shape} {part : Part}

/-- Without a report a tag is listed on its own. -/
theorem listed_alone (delimited : stream.Delimited)
    (tagged : stream.Tagged opening stop row reports) (names : stream.Names opening kind)
    (none : quiet → reports = []) (ends : quiet → kind.hasBody = false) :
    stream.Listed quiet [.node kind row] := by
  have nothing : stream.Listed quiet [] := ⟨by simp, by simp, by simp [Shape.leavesAll], by simp,
    by simp⟩
  have listed := listed_tag delimited tagged names none nothing fun calm body => by
    rw [ends calm] at body
    contradiction
  rw [List.append_nil] at listed
  exact listed

/-- A variable tag and a comment are named by their start delimiters. -/
theorem names_inline (opens : (stream.kindAt? opening).bind TokenKind.inlineNode? = some kind) :
    stream.Names opening kind ∧ (kind = .variableTag ∨ kind = .comment) := by
  obtain ⟨token, here, same⟩ := Option.bind_eq_some_iff.1 opens
  rw [Names, here]
  cases token with
  | delimiter which =>
    cases which
    case variableStart =>
      obtain rfl := Option.some.inj same
      exact ⟨rfl, .inl rfl⟩
    case commentStart =>
      obtain rfl := Option.some.inj same
      exact ⟨rfl, .inr rfl⟩
    all_goals contradiction
  | _ => contradiction

/-- The tag of a branch has no body of its own. -/
theorem hasBody_of_isBranch {keyword : Keyword} (branch : keyword.isBranch = true) :
    keyword.node.hasBody = false := by
  cases keyword <;> first | rfl | contradiction

/-- A block tag is named by the token after its start delimiter. -/
theorem BlockAt.names (block : stream.BlockAt opening first)
    (same : kind = TokenKind.statementNode first) : stream.Names opening kind := by
  rw [Names, block.opens]
  exact .inl (block.first ▸ same)

/-- The node of a tag without a body is the one that the token calls for. -/
theorem Plain.kind_eq {offset : Nat} (plain : Plain depth stack offset told first kind reports) :
    kind = TokenKind.statementNode first := by
  cases plain with
  | other free =>
    unfold TokenKind.statementNode
    split
    next keyword => exact absurd rfl (free keyword)
    · rfl
  | @stray keyword closes => cases keyword <;> first | rfl | contradiction
  | _ => rfl

/-- Without a report a tag without a body is none that has one. -/
theorem Plain.hasBody_eq {offset : Nat} (plain : Plain depth stack offset told first kind reports)
    (quiet : told ++ reports = []) : kind.hasBody = false := by
  cases plain with
  | @statement keyword opens => cases keyword <;> first | rfl | contradiction
  | other | stray => rfl
  | misplaced branch => exact hasBody_of_isBranch branch
  | refused _ _ loud => exact absurd quiet loud

/-- White space before a token is listed. -/
theorem listed_space (start : Nat) :
    stream.Listed quiet (Shape.tokens start (stream.visible start - start)) :=
  listed_tokens fun _ after before => kindAt?_before_visible after (by
    have ahead := stream.le_visible start
    omega)

/-- What ends a body is listed. -/
theorem Ending.listed (delimited : stream.Delimited) (paired : opener.closer? = some closer)
    (ending : stream.Ending outer opener closer opening start stop tail raised) :
    stream.Listed (raised = []) tail := by
  cases ending with
  | closed block tagged =>
    have names : stream.Names (stream.visible start) .endTag := by
      rw [Names, block.opens, block.first]
      exact .inr ⟨rfl, Parser.isCloser_of_closer? paired⟩
    exact (listed_space start).append (listed_alone delimited tagged names id fun _ => rfl)
  | missing => exact ⟨by simp, by simp, by simp [Shape.leavesAll], by simp, by simp⟩

/-- Without a report a body ends with its end tag. -/
theorem Ending.ended (ending : stream.Ending outer opener closer opening start stop tail [])
    (paired : opener.closer? = some closer) {before : List Shape}
    (opens : stream.keyword? (before ++ tail) = some opener) : stream.Ended (before ++ tail) := by
  cases ending with
  | @closed _ row _ block tagged =>
    have closes := tagged.keyword? block []
    rw [List.append_nil] at closes
    exact ⟨opener, closer, before ++ Shape.tokens start (stream.visible start - start), row,
      (List.append_assoc ..).symm, opens, closes, paired⟩

/-- All tags of an outline are listed. -/
theorem Outline.listed (delimited : stream.Delimited)
    (outline : stream.Outline depth part stack start stop told shapes raised) :
    stream.Listed (told ++ raised = []) shapes := by
  induction outline with
  | nil => exact ⟨by simp, by simp, by simp [Shape.leavesAll], by simp, by simp⟩
  | append _ _ one two =>
    refine (one.mono fun quiet => ?_).append (two.mono fun quiet => ?_)
    · simp_all
    · simp_all
  | space => exact listed_space _
  | text _ plain => exact listed_text plain
  | inline opens tagged =>
    obtain ⟨names, which⟩ := names_inline opens
    refine listed_alone delimited tagged names (fun quiet => (List.append_eq_nil_iff.1 quiet).2)
      fun _ => ?_
    rcases which with rfl | rfl <;> rfl
  | plain block plain tagged =>
    refine listed_alone delimited tagged (block.names plain.kind_eq) (fun quiet => ?_)
      fun quiet => ?_
    · simp_all
    · exact plain.hasBody_eq (by simp_all)
  | @body _ _ _ _ _ _ told raised within beyond rest row inside branches tail opener closer paired _
      block tagged _ _ ending items splits =>
    have none (quiet : told ++ (raised ++ within ++ beyond ++ rest) = []) :
        told = [] ∧ raised = [] ∧ within = [] ∧ beyond = [] ∧ rest = [] := by
      simpa [and_assoc] using quiet
    have after : stream.Listed (told ++ (raised ++ within ++ beyond ++ rest) = [])
        (inside ++ branches ++ tail) := by
      refine ((items.mono fun quiet => ?_).append (splits.mono fun quiet => ?_)).append
        ((ending.listed delimited paired).mono fun quiet => (none quiet).2.2.2.2)
      · simp [none quiet]
      · simp [none quiet]
    have opens := tagged.keyword? block (inside ++ branches ++ tail)
    have names : stream.Names _ opener.node := block.names rfl
    have listed := listed_tag delimited tagged names (fun quiet => (none quiet).2.1) after
      fun quiet _ => by
        obtain ⟨-, -, -, -, rfl⟩ := none quiet
        rw [← List.append_assoc] at opens ⊢
        exact ending.ended paired opens
    simpa only [List.append_assoc] using listed
  | @branch _ _ _ _ _ _ _ _ _ _ keyword allowed block tagged _ items =>
    have bodiless := hasBody_of_isBranch (Parser.isBranch_of_mem allowed).1
    refine listed_tag delimited tagged (block.names rfl) (fun quiet => ?_)
      (items.mono fun quiet => ?_) fun _ body => ?_
    · simp_all
    · simp_all
    · rw [bodiless] at body
      contradiction

/-- The tags of a source that is parsed are listed, and no start delimiter is left out. -/
theorem parse_listed {source : String} {d : Delimiters} {limit : Nat}
    (read : ofSource source d limit = .ok stream) (limits : ParseLimits) :
    ∃ shapes raised, Draws (stream.parse limits).tree.nodes
        (.node (stream.parse limits).tree.root) (.node .template shapes) ∧
      (Shape.node .template shapes).places ≤ (stream.parse limits).tree.childCount ∧
      (Shape.node .template shapes).leaves.Nodup ∧
      (stream.parse limits).diagnostics.toList = raised.take limits.diagnostics ∧
      stream.Listed (raised = []) shapes ∧
      ∀ opening, (stream.closerAt? opening).isSome → opening ∈ Shape.leavesAll shapes := by
  obtain ⟨delimited, -⟩ := delimited_ofSource read
  obtain ⟨shapes, raised, drawn, places, leaves, diagnostics, -, outline⟩ :=
    stream.parse_outlined limits
  refine ⟨shapes, raised, drawn, Nat.le_of_eq places.symm, ?_, diagnostics,
    outline.listed delimited, fun opening opens => ?_⟩
  · rw [Shape.leaves, leaves]
    exact List.nodup_range'
  · rw [leaves, stream.visible_of_not_space (ofSource_kindAt?_zero read), List.mem_range'_1]
    by_contra beyond
    rw [closerAt?, stream.kindAt?_eq_none.2 (by omega)] at opens
    exact Bool.false_ne_true opens

end TokenStream
end Stencil
