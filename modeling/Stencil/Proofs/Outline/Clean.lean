import Stencil.Proofs.Lexer.Table
import Stencil.Proofs.Outline.Tags
/-!
# A template without diagnostics

Whatever the parser gets over it reports: a character that fits nowhere, a tag that is not closed, a
placeholder, and a body without its end tag. So a template without diagnostics has none of them
(`TokenStream.parse_clean`).
-/

namespace Stencil

/-- The keyword of the block tag that a node begins with. -/
def SyntaxTree.keyword? (tree : SyntaxTree) (stream : TokenStream) (id : Nat) : Option Keyword :=
  (tree.childTokens id).head?.bind fun opening =>
    (stream.kindAt? (stream.visible (opening + 1))).bind TokenKind.keyword?

namespace TokenStream

variable {stream : TokenStream} {opening stop index : Nat} {row : List Shape}
  {reports : List Diagnostic}

/-- What stands in a tag is read with it, other than white space at its end. -/
theorem Tagged.covers (tagged : stream.Tagged opening stop row reports)
    (delimited : stream.Delimited) (after : opening < index)
    (loose : stream.Loose (opening + 1) (index + 1))
    (solid : stream.kindAt? index ≠ some .whitespace) : index ∈ Shape.leavesAll row := by
  obtain ⟨high, past, -, ends⟩ := tagged.reaches delimited
  -- The token that closes the tag is not loose, so it comes later.
  have before : index < high := by
    by_contra late
    have inside := loose high past (by omega)
    rcases ends with ⟨closes, -⟩ | ⟨nothing, -⟩
    · cases closer : stream.closerAt? opening with
      | none =>
        rw [closes, closer] at inside
        contradiction
      | some kind =>
        rw [closes, closer, Option.any_some, isStructural_of_closerAt? closer] at inside
        contradiction
    · rw [nothing] at inside
      contradiction
  rw [tagged.leaves, List.mem_range'_1]
  rcases ends with ⟨-, last, -⟩ | ⟨-, upTo, rest⟩
  · omega
  · by_contra beyond
    exact solid (kindAt?_before_visible (by omega) (rest.symm ▸ before))

/-- A tag that is read without a report has its closing delimiter, if it is not a line form. -/
theorem Tagged.closes {closer : TokenKind} (tagged : stream.Tagged opening stop row [])
    (delimited : stream.Delimited) (opens : stream.closerAt? opening = some closer)
    (other : closer ≠ .newline) : ∃ closing, opening < closing ∧
      stream.Loose (opening + 1) closing ∧ stream.kindAt? closing = some closer := by
  obtain ⟨high, past, loose, ends⟩ := tagged.reaches delimited
  rcases ends with ⟨closes, -⟩ | ⟨-, upTo, -⟩
  · exact ⟨high, past, loose, closes.trans opens⟩
  rcases tagged.closed rfl with line | ⟨last, rfl, after, closes⟩
  · exact absurd (Option.some.inj (opens.symm.trans line)) other
  · have inside := loose last after (by omega)
    rw [closes, opens, Option.any_some, isStructural_of_closerAt? opens] at inside
    contradiction

end TokenStream

/-- The keyword of a drawn node is that of its shape. -/
theorem SyntaxTree.keyword?_of_draws {tree : SyntaxTree} {stream : TokenStream} {id : Nat}
    {kind : NodeKind} {shapes : List Shape} {keyword : Keyword}
    (drawn : Draws tree.nodes (.node id) (.node kind shapes))
    (begins : stream.keyword? shapes = some keyword) : tree.keyword? stream id = some keyword := by
  rw [SyntaxTree.keyword?, tree.childTokens_of_draws drawn]
  unfold TokenStream.keyword? at begins
  split at begins
  · exact begins
  · contradiction

/-- A drawn node that ends with its end tag does so in the tree. -/
theorem SyntaxTree.ended_of_draws {tree : SyntaxTree} {stream : TokenStream} {id : Nat}
    {kind : NodeKind} {shapes : List Shape}
    (drawn : Draws tree.nodes (.node id) (.node kind shapes)) (ended : stream.Ended shapes) :
    ∃ last opener closer, (tree.children id).getLast? = some (.node last) ∧
      tree.kind? last = some .endTag ∧ tree.keyword? stream id = some opener ∧
      tree.keyword? stream last = some closer ∧ opener.closer? = some closer := by
  obtain ⟨opener, closer, front, row, whole, opens, closes, paired⟩ := ended
  have beneath := tree.children_drawn drawn
  rw [whole] at beneath
  obtain ⟨last, found, there⟩ := beneath.getLast
  exact ⟨last, opener, closer, found, tree.kind?_of_draws there,
    SyntaxTree.keyword?_of_draws drawn opens, SyntaxTree.keyword?_of_draws there closes, paired⟩

namespace TokenStream

variable {stream : TokenStream} {source : String} {d : Delimiters} {limit : Nat}
  {limits : ParseLimits}

/-- If all tags of a source are read without a report, no character fits nowhere. -/
theorem no_badCharacter (read : ofSource source d limit = .ok stream)
    (tag : ∀ opening, (stream.closerAt? opening).isSome →
      ∃ stop row, stream.Tagged opening stop row []) (index : Nat) :
    stream.kindAt? index ≠ some .badCharacter := by
  intro here
  obtain ⟨delimited, -⟩ := delimited_ofSource read
  obtain ⟨opening, before, loose, begins⟩ := opening_of_inTag read here rfl
  have opens : (stream.closerAt? opening).isSome ∧
      stream.kindAt? opening ≠ some (.delimiter .commentStart) := by
    rcases begins with begins | begins
    all_goals
      rw [closerAt?, begins]
      exact ⟨rfl, by rintro ⟨⟩⟩
  obtain ⟨stop, row, tagged⟩ := tag opening opens.1
  refine tagged.legible rfl opens.2 index (tagged.covers delimited before ?_ ?_) here
  · intro between after upTo
    rcases Nat.lt_or_ge between index with earlier | late
    · exact loose between after earlier
    · obtain rfl : between = index := by omega
      rw [here]
      rfl
  · rw [here]
    rintro ⟨⟩

/-- If a source is parsed without diagnostics, as long as any are kept, then no character fits
nowhere, every tag and comment other than a line form has its closing delimiter, no placeholder is
in the tree, and every body ends with the end tag of its opener. -/
theorem parse_clean (read : ofSource source d limit = .ok stream)
    (kept : 0 < limits.diagnostics) (quiet : (stream.parse limits).diagnostics = #[]) :
    let tree := (stream.parse limits).tree
    (∀ index, stream.kindAt? index ≠ some .badCharacter) ∧
    (∀ opening closer, stream.closerAt? opening = some closer → closer ≠ .newline →
      ∃ closing, opening < closing ∧ stream.Loose (opening + 1) closing ∧
        stream.kindAt? closing = some closer) ∧
    tree.findAll .error = [] ∧
    (∀ id ∈ tree.root :: tree.descendants tree.root, ∀ kind, tree.kind? id = some kind →
      kind.hasBody = true → ∃ last opener closer,
        (tree.children id).getLast? = some (.node last) ∧ tree.kind? last = some .endTag ∧
        tree.keyword? stream id = some opener ∧ tree.keyword? stream last = some closer ∧
        opener.closer? = some closer) := by
  obtain ⟨delimited, -⟩ := delimited_ofSource read
  obtain ⟨shapes, raised, drawn, enough, -, diagnostics, listed, starts⟩ := parse_listed read limits
  have calm : raised = [] := by
    rw [quiet, List.nil_eq, List.take_eq_nil_iff] at diagnostics
    exact diagnostics.resolve_left (by omega)
  dsimp only
  generalize (stream.parse limits).tree = tree at drawn enough ⊢
  -- Every start delimiter begins a tag that nothing is reported of.
  have tag (opening : Nat) (opens : (stream.closerAt? opening).isSome) :
      ∃ stop row, stream.Tagged opening stop row [] := by
    obtain ⟨_, -, stop, row, reports, begun, none⟩ :=
      listed.leaf opening (starts opening opens) opens
    obtain rfl := none calm
    exact ⟨stop, row, begun.tagged⟩
  refine ⟨no_badCharacter read tag, fun opening closer opens other => ?_, ?_, ?_⟩
  · obtain ⟨stop, row, tagged⟩ := tag opening (opens ▸ rfl)
    exact tagged.closes delimited opens other
  · refine List.filter_eq_nil_iff.2 fun id member => ?_
    obtain ⟨node, listedNode, here⟩ := tree.exists_node drawn enough member
    rw [SyntaxTree.isKind, tree.kind?_of_draws here, decide_eq_true_eq, Option.some_inj]
    rcases List.mem_cons.1 listedNode with rfl | further
    · rintro ⟨⟩
    · exact listed.sound calm node further
  · intro id member kind same body
    obtain ⟨node, listedNode, here⟩ := tree.exists_node drawn enough member
    obtain rfl := Option.some.inj (same.symm.trans (tree.kind?_of_draws here))
    rcases List.mem_cons.1 listedNode with rfl | further
    · exact absurd body Bool.false_ne_true
    exact tree.ended_of_draws here (listed.ends calm node further body)

/-- A body that is closed. -/
theorem parse_clean_if :
    let stream : TokenStream := ⟨"\x7b%if a%\x7d\x7b%endif%\x7d",
      #[⟨.delimiter .blockStart, 0, 2⟩, ⟨.keyword .ifKw, 2, 4⟩, ⟨.whitespace, 4, 5⟩,
        ⟨.identifier, 5, 6⟩, ⟨.delimiter .blockEnd, 6, 8⟩, ⟨.delimiter .blockStart, 8, 10⟩,
        ⟨.keyword .endIf, 10, 15⟩, ⟨.delimiter .blockEnd, 15, 17⟩],
      #[.template, .blockTag, .blockTag, .blockTag, .blockTag, .template, .blockTag, .blockTag],
      .template⟩
    let parsed := stream.parse ⟨8, 8⟩
    ofSource stream.source {} = .ok stream ∧ parsed.diagnostics = #[] ∧
      parsed.tree.findAll .error = [] ∧ parsed.tree.findAll .ifBlock = [2] ∧
      ∃ last, (parsed.tree.children 2).getLast? = some (.node last) ∧
        parsed.tree.kind? last = some .endTag := by
  intro stream parsed
  have read : ofSource stream.source {} = .ok stream := ofSource_of_isFresh (by decide +kernel)
  have quiet : parsed.diagnostics = #[] := by decide
  have statements : parsed.tree.findAll .ifBlock = [2] := by decide
  obtain ⟨-, -, sound, ends⟩ := parse_clean read (by decide) quiet
  have member : 2 ∈ parsed.tree.findAll .ifBlock := by
    rw [statements]
    exact List.mem_singleton_self 2
  obtain ⟨among, is⟩ := List.mem_filter.1 member
  obtain ⟨last, _, _, found, kind, -⟩ := ends 2 among .ifBlock (of_decide_eq_true is) rfl
  exact ⟨read, quiet, sound, statements, last, found, kind⟩

end TokenStream
end Stencil
