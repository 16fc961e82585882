import Stencil.Facts.Collect
import Stencil.Proofs.Coupling.Space
import Stencil.Proofs.Tree.Nodes
/-!
# White space makes no difference to facts

Facts are read off the bare tree and the texts of names and strings. So streams of the same profile
that agree in these texts have the same facts (`TokenStream.parse_space_inert`), whatever white
space they hold.
-/

namespace Stencil

/-! ### What is read off the bare tree -/

namespace SyntaxTree

variable (tree : SyntaxTree) (stream : TokenStream)

/-- A node of a bare tree is the bare node. -/
theorem node?_bare (id : Nat) :
    (tree.bare stream).node? id = (tree.node? id).map (Node.bare stream) := Array.getElem?_map

/-- The nodes of a bare tree have their kinds. -/
theorem kind?_bare (id : Nat) : (tree.bare stream).kind? id = tree.kind? id := by
  rw [kind?, node?_bare, Option.map_map]
  rfl

/-- The children of a node, white space aside. -/
theorem children_bare (id : Nat) :
    (tree.bare stream).children id = (tree.children id).filterMap (Child.bare? stream) := by
  rw [children, children, node?_bare]
  cases tree.node? id with
  | none => rfl
  | some node => exact Array.toList_filterMap

/-- No node is taken out of a row of children. -/
theorem filterMap_childNode?_bare (children : List Child) :
    (children.filterMap (Child.bare? stream)).filterMap childNode? =
      children.filterMap childNode? := by
  rw [List.filterMap_filterMap]
  congr 1
  funext child
  cases child with
  | node id => rfl
  | token index =>
    rw [Child.bare?]
    split <;> rfl

/-- The nodes of a bare tree have their child nodes. -/
theorem childNodes_bare (id : Nat) : (tree.bare stream).childNodes id = tree.childNodes id := by
  have bare := filterMap_childNode?_bare stream (tree.children id)
  rw [← children_bare] at bare
  exact bare

/-- The tokens of a node are named by their ranks, white space aside. -/
theorem childTokens_bare (id : Nat) : (tree.bare stream).childTokens id =
    ((tree.childTokens id).filter fun index => stream.kindAt? index ≠ some .whitespace).map
      stream.rank := by
  rw [childTokens, childTokens, children_bare, ← List.filterMap_eq_map, ← List.filterMap_eq_filter,
    List.filterMap_filterMap, List.filterMap_filterMap, List.filterMap_filterMap]
  congr 1
  funext child
  cases child with
  | node id => rfl
  | token index =>
    by_cases space : stream.kindAt? index = some .whitespace
    · simp [Child.bare?, space, Option.guard]
    · simp [Child.bare?, space]

/-- In a bare tree the base of a chain is found in as many steps. -/
theorem baseWithin_bare (steps id : Nat) :
    (tree.bare stream).baseWithin steps id = tree.baseWithin steps id := by
  induction steps generalizing id with
  | zero => rfl
  | succ steps ih =>
    have further : (tree.bare stream).baseWithin steps = tree.baseWithin steps := funext ih
    rw [baseWithin, baseWithin, kind?_bare, childNodes_bare, further]

/-- In a bare tree a chain has the same base. -/
theorem base?_bare (id : Nat) : (tree.bare stream).base? id = tree.base? id := by
  rw [base?, base?, size_bare, baseWithin_bare]

/-- In a bare tree the same reference names a test or a filter. -/
theorem callableIn?_bare (id : Nat) : (tree.bare stream).callableIn? id = tree.callableIn? id := by
  have base : (tree.bare stream).base? = tree.base? := funext (tree.base?_bare stream)
  rw [callableIn?, callableIn?, kind?_bare, childNodes_bare, base]

/-- A walk over a bare tree goes the same way. -/
theorem Visits.bare {tree : SyntaxTree} {pending visited : List Child}
    (visits : tree.Visits pending visited) :
    (tree.bare stream).Visits (pending.filterMap (Child.bare? stream))
      (visited.filterMap (Child.bare? stream)) := by
  induction visits with
  | nil => exact .nil
  | token index further ih =>
    by_cases space : stream.kindAt? index = some .whitespace
    · have unseen : Child.bare? stream (.token index) = none := if_pos space
      rw [List.filterMap_cons_none unseen, List.filterMap_cons_none unseen]
      exact ih
    · have seen : Child.bare? stream (.token index) = some (.token (stream.rank index)) :=
        if_neg space
      rw [List.filterMap_cons_some seen, List.filterMap_cons_some seen]
      exact .token _ ih
  | node id further ih =>
    rw [List.filterMap_append, ← children_bare] at ih
    exact .node id ih

/-- Complete walks over trees that are the same without white space come to the same nodes. -/
theorem descendants_congr {left right : TokenStream} {tree tree' : SyntaxTree}
    (bare : tree'.bare right = tree.bare left) {id id' : Nat} (same : id' = id)
    (visits : tree.Visits (tree.children id) ((tree.walk id).toList.map (·.2)))
    (visits' : tree'.Visits (tree'.children id') ((tree'.walk id').toList.map (·.2))) :
    tree'.descendants id' = tree.descendants id := by
  subst same
  have one := visits.bare left
  have two := visits'.bare right
  rw [← children_bare] at one two
  rw [bare] at two
  rw [descendants_eq visits, descendants_eq visits', ← filterMap_childNode?_bare right,
    two.unique one, filterMap_childNode?_bare]

end SyntaxTree

/-! ### What is read off the tokens -/

namespace TokenStream

/-- A token whose text is a name or a string. -/
def IsWording (stream : TokenStream) (index : Nat) : Prop :=
  stream.kindAt? index = some .identifier ∨ stream.kindAt? index = some (.literal .string)

instance (stream : TokenStream) (index : Nat) : Decidable (stream.IsWording index) :=
  inferInstanceAs (Decidable (_ ∨ _))

/-- Names and strings that stand at the same place among the tokens that are not white space have
the same text. -/
def SameWording (left right : TokenStream) : Prop :=
  ∀ pair ∈ left.significant.zip right.significant,
    left.IsWording pair.1 → right.textAt pair.2 = left.textAt pair.1

instance (left right : TokenStream) : Decidable (SameWording left right) :=
  inferInstanceAs (Decidable (∀ pair ∈ left.significant.zip right.significant, _ → _))

variable (stream : TokenStream)

/-- What facts are read off a token: its kind, and its text if that is a name or a string. -/
def reading (index : Nat) : Option TokenKind × String :=
  (stream.kindAt? index, if stream.IsWording index then stream.textAt index else "")

/-- What facts are read off all tokens that are not white space. -/
def readings : List (Option TokenKind × String) := stream.significant.map stream.reading

/-- What is read off the token of a rank. -/
def readingOf (rank : Nat) : Option TokenKind × String := stream.readings[rank]?.getD (none, "")

/-- What is read at a rank is what is read off the token of that rank. -/
theorem readingOf_rank {index : Nat} (solid : stream.kindAt? index ≠ some .whitespace) :
    stream.readingOf (stream.rank index) = stream.reading index := by
  rw [readingOf, readings, List.getElem?_map, stream.getElem?_significant solid]
  split
  · rfl
  next beyond =>
    have nothing := stream.kindAt?_eq_none.2 (Nat.le_of_not_lt beyond)
    simp [reading, IsWording, nothing]

/-- Streams of the same profile and wording are read alike. -/
theorem readings_eq {left right : TokenStream} (same : right.profile = left.profile)
    (wording : SameWording left right) : right.readings = left.readings := by
  apply List.ext_getElem?
  intro place
  have entry := congrArg (·[place]?) same
  simp only [profile, List.getElem?_map] at entry
  rw [readings, readings, List.getElem?_map, List.getElem?_map]
  cases one : left.significant[place]? with
  | none =>
    rw [one] at entry
    rw [Option.map_eq_none_iff.1 entry]
    rfl
  | some index =>
    rw [one] at entry
    obtain ⟨other, two, agree⟩ := Option.map_eq_some_iff.1 entry
    have kind := (Prod.mk.inj agree).1
    have worded : right.IsWording other ↔ left.IsWording index := by
      rw [IsWording, IsWording, kind]
    rw [two, Option.map_some, Option.map_some, reading, reading, kind]
    have paired : (index, other) ∈ left.significant.zip right.significant :=
      List.mem_of_getElem? (List.getElem?_zip_eq_some.2 ⟨one, two⟩)
    by_cases word : left.IsWording index
    · rw [if_pos word, if_pos (worded.2 word), wording _ paired word]
    · rw [if_neg word, if_neg (mt worded.1 word)]

end TokenStream

namespace SyntaxTree

open TokenStream

variable {stream : TokenStream} (tree : SyntaxTree)

/-- What is read off the tokens of a node, white space aside. -/
def wordsOf (stream : TokenStream) (id : Nat) : List (Option TokenKind × String) :=
  ((tree.bare stream).childTokens id).map stream.readingOf

/-- The words of a node are what is read off its tokens other than white space. -/
theorem wordsOf_eq (id : Nat) : tree.wordsOf stream id =
    ((tree.childTokens id).filter fun index => stream.kindAt? index ≠ some .whitespace).map
      stream.reading := by
  rw [wordsOf, childTokens_bare, List.map_map]
  refine List.map_congr_left fun index member => stream.readingOf_rank ?_
  exact of_decide_eq_true (List.mem_filter.1 member).2

/-- The texts of names or strings among the tokens of a node are read off its words. -/
theorem textsOf_eq {kind : TokenKind} (worded : kind = .identifier ∨ kind = .literal .string)
    (id : Nat) : tree.textsOf stream kind id =
      (tree.wordsOf stream id).filterMap fun word =>
        if word.1 = some kind then some word.2 else none := by
  rw [wordsOf_eq, textsOf, ← List.filterMap_eq_map, ← List.filterMap_eq_map,
    ← List.filterMap_eq_filter, ← List.filterMap_eq_filter, List.filterMap_filterMap,
    List.filterMap_filterMap, List.filterMap_filterMap]
  congr 1
  funext index
  by_cases found : stream.kindAt? index = some kind
  · have wording : stream.IsWording index := worded.imp (found.trans <| congrArg some ·)
      (found.trans <| congrArg some ·)
    have solid : kind ≠ .whitespace := by rcases worded with rfl | rfl <;> decide
    simp [Option.guard, reading, found, wording, solid]
  · by_cases space : stream.kindAt? index = some .whitespace
    · have other : ¬TokenKind.whitespace = kind := fun same => found (same ▸ space)
      simp [Option.guard, space, other]
    · simp [Option.guard, reading, found, space]

/-- White space is no target. -/
theorem targetsAmong_filter (stream : TokenStream) (afterDot : Bool) (indices : List Nat) :
    targetsAmong stream afterDot indices = targetsAmong stream afterDot
      (indices.filter fun index => stream.kindAt? index ≠ some .whitespace) := by
  induction indices generalizing afterDot with
  | nil => rfl
  | cons index rest ih =>
    by_cases space : stream.kindAt? index = some .whitespace
    · rw [List.filter_cons_of_neg (by simpa using space), ← ih, targetsAmong, space]
    · rw [List.filter_cons_of_pos (by simpa using space), targetsAmong, targetsAmong]
      simp only [← ih]

/-- Targets are read off the words of a node. -/
theorem targetsAmong_congr {left right : TokenStream} (afterDot : Bool) {one two : List Nat}
    (same : two.map right.reading = one.map left.reading) :
    targetsAmong right afterDot two = targetsAmong left afterDot one := by
  induction one generalizing afterDot two with
  | nil =>
    rw [List.map_eq_nil_iff.1 same]
    rfl
  | cons index rest ih =>
    cases two with
    | nil => contradiction
    | cons other more =>
      obtain ⟨word, further⟩ := List.cons.inj same
      have kind : right.kindAt? other = left.kindAt? index := (Prod.mk.inj word).1
      have text (name : left.kindAt? index = some .identifier) :
          right.textAt other = left.textAt index := by
        have spelled := (Prod.mk.inj word).2
        rw [if_pos (.inl (kind.trans name)), if_pos (.inl name)] at spelled
        exact spelled
      rw [targetsAmong, targetsAmong, kind]
      split
      next name => rw [ih _ further, text name]
      all_goals exact ih _ further

/-- Nodes with the same words have the same targets. -/
theorem targetNames_congr {left right : TokenStream} {tree tree' : SyntaxTree} {id : Nat}
    (same : tree'.wordsOf right id = tree.wordsOf left id) :
    tree'.targetNames right id = tree.targetNames left id := by
  rw [wordsOf_eq, wordsOf_eq] at same
  rw [targetNames, targetNames, targetsAmong_filter right, targetsAmong_filter left]
  exact targetsAmong_congr false same

end SyntaxTree

/-! ### Facts -/

/-- Two trees over two streams come to the same without white space. -/
structure SyntaxTree.Alike (left right : TokenStream) (tree tree' : SyntaxTree) : Prop where
  bare : tree'.bare right = tree.bare left
  readings : right.readings = left.readings
  walk : tree'.descendants tree'.root = tree.descendants tree.root

namespace SyntaxTree.Alike

variable {left right : TokenStream} {tree tree' : SyntaxTree} (alike : Alike left right tree tree')

include alike

/-- The nodes of both trees have the same kinds. -/
theorem kind? (id : Nat) : tree'.kind? id = tree.kind? id := by
  rw [← tree'.kind?_bare right, alike.bare, kind?_bare]

/-- The nodes of both trees are of the same kinds. -/
theorem isKind (kind : NodeKind) : tree'.isKind kind = tree.isKind kind := by
  funext id
  rw [SyntaxTree.isKind, SyntaxTree.isKind, alike.kind?]

/-- The nodes of both trees have the same child nodes. -/
theorem childNodes (id : Nat) : tree'.childNodes id = tree.childNodes id := by
  rw [← tree'.childNodes_bare right, alike.bare, childNodes_bare]

/-- In both trees the same references name tests and filters. -/
theorem callableIn? : tree'.callableIn? = tree.callableIn? := by
  funext id
  rw [← tree'.callableIn?_bare right, alike.bare, callableIn?_bare]

/-- The nodes of both trees have the same words. -/
theorem wordsOf (id : Nat) : tree'.wordsOf right id = tree.wordsOf left id := by
  have readingOf : right.readingOf = left.readingOf := by
    funext rank
    rw [TokenStream.readingOf, TokenStream.readingOf, alike.readings]
  rw [SyntaxTree.wordsOf, SyntaxTree.wordsOf, alike.bare, readingOf]

/-- The nodes of both trees have the same first names. -/
theorem firstName? : tree'.firstName? right = tree.firstName? left := by
  funext id
  rw [SyntaxTree.firstName?, SyntaxTree.firstName?, textsOf_eq _ (.inl rfl),
    textsOf_eq _ (.inl rfl), alike.wordsOf]

/-- The nodes of both trees have the same strings. -/
theorem stringValue : tree'.stringValue right = tree.stringValue left := by
  funext id
  rw [SyntaxTree.stringValue, SyntaxTree.stringValue, textsOf_eq _ (.inr rfl),
    textsOf_eq _ (.inr rfl), alike.wordsOf]

/-- The nodes of both trees have the same dependencies. -/
theorem dependencyNames (id : Nat) :
    tree'.dependencyNames right id = tree.dependencyNames left id := by
  rw [SyntaxTree.dependencyNames, SyntaxTree.dependencyNames, alike.childNodes]
  cases (tree.childNodes id).head? with
  | none => rfl
  | some target =>
    dsimp only
    rw [alike.kind?, alike.childNodes, alike.isKind, alike.stringValue]

/-- The filter blocks of both trees mention the same. -/
theorem filterBlockMentions :
    tree'.filterBlockMentions right = tree.filterBlockMentions left := by
  rw [SyntaxTree.filterBlockMentions, SyntaxTree.filterBlockMentions, alike.walk, alike.isKind,
    alike.callableIn?, alike.firstName?]

/-- The nodes of both trees mention the same. -/
theorem nodeMentions (isCallable : Nat → Bool) (id : Nat) :
    tree'.nodeMentions right isCallable id = tree.nodeMentions left isCallable id := by
  rw [SyntaxTree.nodeMentions, SyntaxTree.nodeMentions, alike.kind?, alike.firstName?,
    targetNames_congr (alike.wordsOf id), alike.dependencyNames]

/-- Both trees mention the same, in the same order. -/
theorem mentions : tree'.mentions right = tree.mentions left := by
  have callables : tree'.callables = tree.callables := by
    rw [SyntaxTree.callables, SyntaxTree.callables, alike.walk, alike.callableIn?]
  have node (isCallable : Nat → Bool) :
      tree'.nodeMentions right isCallable = tree.nodeMentions left isCallable :=
    funext (alike.nodeMentions isCallable)
  rw [SyntaxTree.mentions, SyntaxTree.mentions, callables, alike.filterBlockMentions, alike.walk,
    node]

/-- Both trees are equally complex. -/
theorem complexity : tree'.complexity = tree.complexity := by
  rw [SyntaxTree.complexity, SyntaxTree.complexity, alike.walk]
  simp only [alike.kind?]

/-- Such trees have the same facts, and the same is told of them. -/
theorem collect (limit : Nat) :
    Facts.collect tree' right limit = Facts.collect tree left limit := by
  rw [Facts.collect, Facts.collect, alike.mentions, alike.complexity]

end SyntaxTree.Alike

namespace TokenStream

/-- White space is inert: streams that hold the same significant tokens in the same modes are parsed
into the same bare tree, with the same reports about the same tokens and the same counts, and if
names and strings are the same too, so are the facts. -/
theorem parse_space_inert {left right : TokenStream} (same : right.profile = left.profile)
    (limits : ParseLimits) :
    let one := left.parse limits
    let two := right.parse limits
    two.tree.bare right = one.tree.bare left ∧
      List.Forall₂ (Diagnostic.Mirrors left right) one.diagnostics.toList
        two.diagnostics.toList ∧
      two.statistics = one.statistics ∧
      (SameWording left right → ∀ limit : Nat,
        Facts.collect two.tree right limit = Facts.collect one.tree left limit) := by
  intro one two
  obtain ⟨bare, told, counts⟩ := mirrored_parse same limits
  refine ⟨bare, told, counts, fun wording => ?_⟩
  obtain ⟨_, -, drawn, places⟩ := left.exists_draws_parse limits
  obtain ⟨_, -, drawn', places'⟩ := right.exists_draws_parse limits
  have root : two.tree.root = one.tree.root := (SyntaxTree.mk.inj bare).2
  have walk := SyntaxTree.descendants_congr bare root
    (one.tree.visits_walk drawn (Nat.le_of_eq places.symm))
    (two.tree.visits_walk drawn' (Nat.le_of_eq places'.symm))
  exact SyntaxTree.Alike.collect ⟨bare, readings_eq same wording, walk⟩

/-- A filter that is called without a closing bracket, written densely and with space around. -/
theorem parse_space_inert_filter :
    let left : TokenStream := ⟨"\x7b\x7ba|f(\x7d\x7d", #[⟨.delimiter .variableStart, 0, 2⟩,
        ⟨.identifier, 2, 3⟩, ⟨.operator .pipe, 3, 4⟩, ⟨.identifier, 4, 5⟩,
        ⟨.punctuation .leftParen, 5, 6⟩, ⟨.delimiter .variableEnd, 6, 8⟩],
      #[.template, .variableTag, .variableTag, .variableTag, .variableTag, .variableTag], .template⟩
    let right : TokenStream := ⟨"\x7b\x7b a |f( \x7d\x7d", #[⟨.delimiter .variableStart, 0, 2⟩,
        ⟨.whitespace, 2, 3⟩, ⟨.identifier, 3, 4⟩, ⟨.whitespace, 4, 5⟩, ⟨.operator .pipe, 5, 6⟩,
        ⟨.identifier, 6, 7⟩, ⟨.punctuation .leftParen, 7, 8⟩, ⟨.whitespace, 8, 9⟩,
        ⟨.delimiter .variableEnd, 9, 11⟩],
      #[.template, .variableTag, .variableTag, .variableTag, .variableTag, .variableTag,
        .variableTag, .variableTag, .variableTag], .template⟩
    left ≠ right ∧ right.profile = left.profile ∧ SameWording left right ∧
      right.parse.tree.bare right = left.parse.tree.bare left ∧
      Facts.collect right.parse.tree right = Facts.collect left.parse.tree left := by
  intro left right
  have same : right.profile = left.profile := by decide
  have wording : SameWording left right := by decide
  obtain ⟨bare, -, -, facts⟩ := parse_space_inert same {}
  exact ⟨by decide, same, wording, bare, facts wording _⟩

end TokenStream
end Stencil
