import Stencil.Proofs.Outline.Tags
/-!
# Tags and nodes are paired

In the tree of a source each start delimiter is the first child of one node, which it names, and
each node of a tag has one start delimiter. The token that closes the tag is a child of the same
node, and what stands between them lies beneath it (`TokenStream.parse_pairs`).
-/

namespace Stencil

namespace TokenStream

/-- The first token after a start delimiter that may close the tag. -/
structure Closes (stream : TokenStream) (opening closing : Nat) : Prop where
  after : opening < closing
  closes : stream.kindAt? closing = stream.closerAt? opening
  first : ∀ between, opening < between → between < closing →
    stream.kindAt? between ≠ stream.closerAt? opening

variable {stream : TokenStream} {opening closing stop : Nat} {row rest : List Shape}
  {kind : NodeKind} {reports : List Diagnostic}

/-- A tag that is closed is read up to the token that closes it. -/
theorem Tagged.of_closes (tagged : stream.Tagged opening stop row reports)
    (delimited : stream.Delimited) (opens : (stream.closerAt? opening).isSome)
    (closes : stream.Closes opening closing) :
    Shape.token closing ∈ row ∧ stop = closing + 1 := by
  obtain ⟨high, past, loose, ends⟩ := tagged.reaches delimited
  obtain ⟨closer, found⟩ := Option.isSome_iff_exists.1 opens
  have late : high ≤ closing := by
    by_contra early
    have inside := loose closing closes.after (by omega)
    rw [closes.closes, found, Option.any_some, isStructural_of_closerAt? found] at inside
    contradiction
  rcases ends with ⟨here, last, inside, whole⟩ | ⟨nothing, -⟩
  · obtain rfl : closing = high := by
      by_contra other
      exact closes.first high past (by omega) here
    exact ⟨by simp [whole], last⟩
  · have ended := closes.closes
    have beyond := Nat.le_trans (stream.kindAt?_eq_none.1 nothing) late
    rw [stream.kindAt?_eq_none.2 beyond, found] at ended
    contradiction

/-- The only start delimiter that a node of a tag has as a child is its first child. -/
theorem Begun.starts {node : NodeKind × List Shape}
    (begun : stream.Begun node opening stop row reports) (delimited : stream.Delimited)
    (opens : (stream.closerAt? opening).isSome) :
    (node.2.filterMap Shape.token?).filter (fun token => (stream.closerAt? token).isSome) =
      [opening] := by
  obtain ⟨rest, whole, blank⟩ := begun.whole
  obtain ⟨inside, begins⟩ := begun.tagged.begins
  have tagged := begun.tagged
  have forward := tagged.forward
  have leaves := tagged.leaves
  rw [begins] at leaves
  have later : Shape.leavesAll inside = List.range' (opening + 1) (stop - opening - 1) := by
    rw [show stop - opening = stop - opening - 1 + 1 by omega, List.range'_succ] at leaves
    exact (List.cons.inj leaves).2
  have none (token : Nat) (member : Shape.token token ∈ inside ++ rest) :
      ¬(stream.closerAt? token).isSome = true := by
    intro starts
    rcases List.mem_append.1 member with within | beyond
    · have leaf := Shape.mem_leavesAll_of_token within
      have after := leaf
      rw [later, List.mem_range'_1] at after
      have same := tagged.opening_of_leaf delimited
        (begins ▸ List.mem_append_right [opening] leaf) starts
      omega
    · rw [closerAt?, blank token beyond] at starts
      contradiction
  have first : Shape.token? (.token opening) = some opening := rfl
  rw [whole, begins, List.cons_append, List.filterMap_cons_some first, List.filter_cons,
    if_pos opens]
  refine congrArg (opening :: ·) (List.filter_eq_nil_iff.2 fun token member => ?_)
  obtain ⟨shape, listed, same⟩ := List.mem_filterMap.1 member
  cases shape with
  | token index =>
    obtain rfl := Option.some.inj same
    exact none index listed
  | node => contradiction

/-- What begins the node of a tag is a start delimiter. -/
theorem opens_of_names (names : stream.Names opening kind) :
    (stream.closerAt? opening).isSome := by
  rw [Names] at names
  rw [closerAt?]
  split at names
  case h_4 => contradiction
  all_goals
    next here =>
      rw [here]
      rfl

variable {source : String} {d : Delimiters} {limit : Nat}

/-- In the tree of a source each start delimiter is the first child of one node, the one it names,
and each node of a tag has one start delimiter as a child, which comes first and names it. The token
that closes the tag is a child of the node too, and the tokens between them lie beneath it. -/
theorem parse_pairs (read : ofSource source d limit = .ok stream) (limits : ParseLimits) :
    let tree := (stream.parse limits).tree
    let ids := tree.root :: tree.descendants tree.root
    (∀ opening, (stream.closerAt? opening).isSome →
      ∃ id ∈ ids, (tree.children id).head? = some (.token opening) ∧
        (∃ kind, tree.kind? id = some kind ∧ stream.Names opening kind) ∧
        ∀ other ∈ ids, opening ∈ tree.childTokens other → other = id) ∧
    (∀ id ∈ ids, ∀ kind, tree.kind? id = some kind → kind.isTag = true →
      ∃ opening, (tree.children id).head? = some (.token opening) ∧ stream.Names opening kind ∧
        (tree.childTokens id).filter (fun token => (stream.closerAt? token).isSome) = [opening] ∧
        ∀ closing, stream.Closes opening closing → closing ∈ tree.childTokens id ∧
          ∀ between, opening < between → between < closing → between ∈ tree.tokensOf id) := by
  obtain ⟨delimited, -⟩ := delimited_ofSource read
  obtain ⟨shapes, raised, drawn, enough, different, -, listed, starts⟩ := parse_listed read limits
  dsimp only
  generalize (stream.parse limits).tree = tree at drawn enough ⊢
  refine ⟨fun opening opens => ?_, fun id member kind same tag => ?_⟩
  · obtain ⟨node, among, stop, row, reports, begun, -⟩ :=
      listed.leaf opening (starts opening opens) opens
    obtain ⟨id, member, here⟩ := tree.exists_id drawn enough (List.mem_cons_of_mem _ among)
    have within : opening ∈ tree.childTokens id := by
      have only := begun.starts delimited opens
      rw [← tree.childTokens_of_draws here] at only
      exact List.mem_of_mem_filter (only ▸ List.mem_singleton_self opening)
    obtain ⟨inside, begins⟩ := begun.tagged.begins
    obtain ⟨rest, whole, -⟩ := begun.whole
    have beneath := tree.children_drawn here
    rw [whole, begins] at beneath
    exact ⟨id, member, beneath.head, ⟨node.1, tree.kind?_of_draws here, begun.names⟩,
      fun other also child =>
        tree.childTokens_unique drawn enough different also member child within⟩
  · obtain ⟨node, among, here⟩ := tree.exists_node drawn enough member
    obtain rfl := Option.some.inj (same.symm.trans (tree.kind?_of_draws here))
    rcases List.mem_cons.1 among with rfl | further
    · exact absurd tag Bool.false_ne_true
    obtain ⟨opening, stop, row, reports, begun, -⟩ := listed.node node further tag
    have opens := opens_of_names begun.names
    obtain ⟨inside, begins⟩ := begun.tagged.begins
    obtain ⟨rest, whole, -⟩ := begun.whole
    have beneath := tree.children_drawn here
    rw [whole, begins] at beneath
    refine ⟨opening, beneath.head, begun.names, ?_, fun closing closes => ?_⟩
    · rw [tree.childTokens_of_draws here]
      exact begun.starts delimited opens
    obtain ⟨last, stops⟩ := begun.tagged.of_closes delimited opens closes
    refine ⟨?_, fun between after before => ?_⟩
    · rw [tree.childTokens_of_draws here, whole]
      exact List.mem_filterMap.2 ⟨_, List.mem_append_left rest last, rfl⟩
    · have places := Shape.places_le_of_mem _ among
      rw [tree.tokensOf_eq_leaves here (Nat.le_trans places enough), Shape.leaves, whole,
        Shape.leavesAll_append, begun.tagged.leaves]
      exact List.mem_append_left _ (List.mem_range'_1.2 (by omega))

/-- An end tag that closes nothing, after a value. -/
theorem parse_pairs_stray :
    let stream : TokenStream := ⟨"\x7b\x7ba\x7d\x7d\x7b%endif%\x7d",
      #[⟨.delimiter .variableStart, 0, 2⟩, ⟨.identifier, 2, 3⟩, ⟨.delimiter .variableEnd, 3, 5⟩,
        ⟨.delimiter .blockStart, 5, 7⟩, ⟨.keyword .endIf, 7, 12⟩, ⟨.delimiter .blockEnd, 12, 14⟩],
      #[.template, .variableTag, .variableTag, .template, .blockTag, .blockTag], .template⟩
    let tree := (stream.parse ⟨8, 8⟩).tree
    ofSource stream.source {} = .ok stream ∧
      (∃ id ∈ tree.root :: tree.descendants tree.root,
        (tree.children id).head? = some (.token 0)) ∧
      tree.findAll .genericBlock = [2] ∧ 5 ∈ tree.childTokens 2 ∧ 4 ∈ tree.tokensOf 2 := by
  intro stream tree
  have read : ofSource stream.source {} = .ok stream := ofSource_of_isFresh (by decide +kernel)
  obtain ⟨tokens, nodes⟩ := parse_pairs read ⟨8, 8⟩
  obtain ⟨value, among, first, -⟩ := tokens 0 (by decide)
  have stray : tree.findAll .genericBlock = [2] := by decide
  have member : 2 ∈ tree.findAll .genericBlock := by
    rw [stray]
    exact List.mem_singleton_self 2
  obtain ⟨listed, is⟩ := List.mem_filter.1 member
  obtain ⟨opening, begins, -, -, closed⟩ := nodes 2 listed .genericBlock (of_decide_eq_true is) rfl
  have start : (tree.children 2).head? = some (.token 3) := by decide
  obtain rfl : opening = 3 := Child.token.inj (Option.some.inj (begins.symm.trans start))
  have closes : stream.Closes 3 5 := by
    refine ⟨by decide, by decide, fun between after before => ?_⟩
    obtain rfl : between = 4 := by omega
    decide
  obtain ⟨child, beneath⟩ := closed 5 closes
  exact ⟨read, ⟨value, among, first⟩, stray, child, beneath 4 (by decide) (by decide)⟩

end TokenStream
end Stencil
