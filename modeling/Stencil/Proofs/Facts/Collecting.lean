import Mathlib.Data.String.Basic
import Stencil.Proofs.Facts.Reading
import Stencil.Proofs.Facts.Space
import Stencil.Proofs.Lexer.Boundaries
import Stencil.Proofs.Lexer.Tallies
import Stencil.Proofs.Parser.Composition
/-!
# Facts are what the nodes make up

Each tally holds the first different names among those that are mentioned in its set
(`MentionTally.counts_ofMentions`), and what a node mentions is what its kind, its tokens and its
child nodes say (`SyntaxTree.namesOf_values` and the lemmas after it). So the facts of every source,
also of one that is full of mistakes, are those that `Facts.Describe` says (`collect_describes`).
-/

namespace Stencil

/-! ### Sets with a limit -/

namespace NameTally

/-- The tally has the first different names of a list. -/
structure Counts (tally : NameTally) (limit : Nat) (names : List String) : Prop where
  first : tally.names.toList = names.eraseDups.take limit
  distinct : tally.names.toList.Nodup
  members (name : String) : tally.members.contains name = true ↔ name ∈ tally.names.toList

/-- No names are counted in an empty tally. -/
theorem counts_empty (limit : Nat) : Counts {} limit [] where
  first := List.take_nil.symm
  distinct := List.nodup_nil
  members name := by simp

/-- A name more is taken if it is new and there is room. -/
theorem Counts.insert {tally : NameTally} {limit : Nat} {names : List String}
    (counts : tally.Counts limit names) (name : String) :
    (tally.insert limit name).Counts limit (names ++ [name]) := by
  have first := counts.first
  have size := congrArg List.length first
  rw [List.length_take, Array.length_toList] at size
  rw [NameTally.insert]
  by_cases held : tally.members.contains name = true
  · have known : name ∈ names := by
      have listed := (counts.members name).1 held
      rw [first] at listed
      exact List.mem_eraseDups.1 (List.mem_of_mem_take listed)
    rw [if_pos held]
    refine ⟨?_, counts.distinct, counts.members⟩
    rw [eraseDups_concat, if_pos known, first]
  · have fresh : name ∉ tally.names.toList := mt (counts.members name).2 held
    rw [if_neg held]
    by_cases room : tally.names.size < limit
    · have all : tally.names.toList = names.eraseDups := by
        rw [first, List.take_of_length_le (by omega)]
      have unknown : name ∉ names := by
        rw [all, List.mem_eraseDups] at fresh
        exact fresh
      rw [if_pos room]
      refine ⟨?_, ?_, fun other => ?_⟩
      · rw [eraseDups_concat, if_neg unknown, Array.toList_push, all, List.take_of_length_le]
        rw [List.length_append, List.length_singleton]
        omega
      · rw [Array.toList_push]
        exact List.nodup_append.2 ⟨counts.distinct, List.nodup_singleton name, by
          simpa using fun other member => ne_of_mem_of_not_mem member fresh⟩
      · rw [Std.HashSet.contains_insert, Bool.or_eq_true, counts.members, Array.toList_push,
          List.mem_append, List.mem_singleton, beq_iff_eq, or_comm, eq_comm]
    · rw [if_neg room]
      refine ⟨?_, counts.distinct, counts.members⟩
      rw [eraseDups_concat, first]
      split
      · rfl
      · rw [List.take_append_of_le_length (by omega)]

/-- The names of a tally in alphabetical order are the first of a list. -/
theorem Counts.holdsFirst {tally : NameTally} {limit : Nat} {names : List String}
    (counts : tally.Counts limit names) : Facts.HoldsFirst limit names tally.sorted := by
  have perm : tally.sorted.Perm tally.names.toList := List.mergeSort_perm _ _
  refine ⟨?_, fun name => ?_⟩
  · have distinct := perm.nodup_iff.2 counts.distinct
    have trans (a b c : String) (one : decide (a ≤ b) = true) (two : decide (b ≤ c) = true) :
        decide (a ≤ c) = true :=
      decide_eq_true (le_trans (of_decide_eq_true one) (of_decide_eq_true two))
    have total (a b : String) : (decide (a ≤ b) || decide (b ≤ a)) = true := by
      simpa using le_total a b
    have ascending : tally.sorted.Pairwise (· ≤ ·) :=
      (List.pairwise_mergeSort trans total _).imp of_decide_eq_true
    exact ascending.imp₂ (fun _ _ order apart => lt_of_le_of_ne order apart) distinct
  · rw [perm.mem_iff, counts.first]

end NameTally

namespace MentionTally

/-- The names of a set that are mentioned, in order. -/
def namesOf (set : NameSet) (mentions : List Mention) : List String :=
  (mentions.filter fun mention => mention.set = set).map (·.name)

/-- A change of one set leaves the others as they are. -/
theorem get_update (tally : MentionTally) (set other : NameSet) (change : NameTally → NameTally) :
    (tally.update set change).get other =
      if other = set then change (tally.get other) else tally.get other := by
  cases set <;> cases other <;> rfl

/-- A mention adds its name to its set. -/
theorem get_add (limit : Nat) (tally : MentionTally) (mention : Mention) (set : NameSet) :
    (tally.add limit mention).get set =
      if set = mention.set then (tally.get set).insert limit mention.name else tally.get set := by
  rw [← tally.get_update mention.set set fun names => names.insert limit mention.name, add]
  split
  · cases set <;> rfl
  · rfl

/-- Each set has the first different names among those that are mentioned in it. -/
theorem counts_ofMentions (limit : Nat) (mentions : List Mention) (set : NameSet) :
    ((ofMentions limit mentions).get set).Counts limit (namesOf set mentions) := by
  induction mentions using List.reverseRecOn with
  | nil => cases set <;> exact NameTally.counts_empty limit
  | append_singleton mentions mention ih =>
    have next : ofMentions limit (mentions ++ [mention]) =
        (ofMentions limit mentions).add limit mention := by
      rw [ofMentions, List.foldl_append]
      rfl
    rw [next, get_add, namesOf, List.filter_append, List.map_append]
    by_cases same : set = mention.set
    · rw [if_pos same, List.filter_cons_of_pos (by simp [same])]
      exact ih.insert mention.name
    · rw [if_neg same, List.filter_cons_of_neg (by simpa using Ne.symm same), List.filter_nil,
        List.map_nil, List.append_nil]
      exact ih

/-- The names that two rows of mentions add to a set are those of the one and then those of the
other. -/
theorem namesOf_append (set : NameSet) (left right : List Mention) :
    namesOf set (left ++ right) = namesOf set left ++ namesOf set right := by
  rw [namesOf, namesOf, namesOf, List.filter_append, List.map_append]

/-- The names that nodes add to a set are those of each of them in turn. -/
theorem namesOf_flatMap (set : NameSet) (ids : List Nat) (mentions : Nat → List Mention) :
    namesOf set (ids.flatMap mentions) = ids.flatMap fun id => namesOf set (mentions id) := by
  induction ids with
  | nil => rfl
  | cons id ids ih => rw [List.flatMap_cons, List.flatMap_cons, namesOf_append, ih]

/-- Names mentioned in a set are names of that set. -/
theorem namesOf_map (set other : NameSet) (names : List String) :
    namesOf set (names.map fun name => ⟨other, name⟩) = if other = set then names else [] := by
  by_cases same : other = set <;>
    simp [namesOf, List.filter_map, Function.comp_def, same]

end MentionTally

namespace SyntaxTree

open MentionTally (namesOf namesOf_append namesOf_flatMap namesOf_map)

variable {tree : SyntaxTree} {stream : TokenStream}

/-! ### What a node mentions -/

/-- Targets are the names that do not stand behind a dot: along the tokens it is known whether the
one before was a dot. -/
theorem targetsAmong_eq (stream : TokenStream) (before : Option Nat) {solid : List Nat}
    (shown : ∀ index ∈ solid, stream.kindAt? index ≠ some .whitespace) :
    targetsAmong stream (before.bind stream.kindAt? = some (.punctuation .dot)) solid =
      (((before :: solid.map some).zip solid).filter fun pair =>
        IsTarget stream pair.1 pair.2).map fun pair => stream.textAt pair.2 := by
  induction solid generalizing before with
  | nil => rfl
  | cons index solid ih =>
    have visible := shown index List.mem_cons_self
    have later := ih (some index) fun other member => shown other (List.mem_cons_of_mem _ member)
    rw [Option.bind_some] at later
    rw [List.map_cons, List.zip_cons_cons, List.filter_cons, targetsAmong]
    by_cases name : stream.kindAt? index = some .identifier
    · rw [name] at later ⊢
      by_cases dot : before.bind stream.kindAt? = some (.punctuation .dot)
      · simpa [IsTarget, name, dot] using later
      · simpa [IsTarget, name, dot] using later
    · have unnamed : ¬IsTarget stream before index := fun target => name target.1
      have passed : decide (IsTarget stream before index) = false := decide_eq_false unnamed
      simp only [passed, Bool.false_eq_true, if_false]
      rw [← later]
      split
      next found => exact absurd found name
      next found => simp [found]
      next found => exact absurd found visible
      next undotted _ => rw [decide_eq_false undotted]

/-- The targets of a list are its names that do not stand behind a dot. -/
theorem targetNames_eq (tree : SyntaxTree) (stream : TokenStream) (id : Nat) :
    tree.targetNames stream id = targetsIn stream (tree.childTokens id) := by
  rw [targetNames, targetsAmong_filter]
  exact targetsAmong_eq stream none fun index member =>
    of_decide_eq_true (List.mem_filter.1 member).2

/-- A child node of a drawn node is drawn. -/
theorem exists_draws_child {id child : Nat} {shape : Shape}
    (drawn : Draws tree.nodes (.node id) shape) (member : child ∈ tree.childNodes id) :
    ∃ shape, Draws tree.nodes (.node child) shape := by
  obtain ⟨kind, shapes, rfl⟩ := drawn.exists_node
  obtain ⟨part, -, there⟩ := (tree.children_drawn drawn).exists_of_mem (mem_childNodes.1 member)
  exact ⟨part, there⟩

/-- The reference that a node names a test or a filter with is found. -/
theorem callableIn?_eq_some_iff {id base : Nat} {shape : Shape}
    (drawn : Draws tree.nodes (.node id) shape) :
    tree.callableIn? id = some base ↔ tree.Applies id base := by
  have found (place : Nat) : (tree.childNodes id)[place]?.bind tree.base? = some base ↔
      ∃ child, (tree.childNodes id)[place]? = some child ∧ tree.Bottom child base := by
    rw [Option.bind_eq_some_iff]
    refine exists_congr fun child => and_congr_right fun listed => ?_
    obtain ⟨part, there⟩ := exists_draws_child drawn (List.mem_of_getElem? listed)
    exact base?_eq_some_iff there
  rw [callableIn?, List.head?_eq_getElem?]
  constructor
  · intro applied
    split at applied
    next here =>
      obtain ⟨child, second, bottom⟩ := (found 1).1 applied
      exact ⟨child, bottom, .inl ⟨here, second⟩⟩
    next here =>
      obtain ⟨child, first, bottom⟩ := (found 0).1 applied
      exact ⟨child, bottom, .inr ⟨here, first⟩⟩
    · contradiction
  · rintro ⟨child, bottom, ⟨here, second⟩ | ⟨here, first⟩⟩
    · rw [here]
      exact (found 1).2 ⟨child, second, bottom⟩
    · rw [here]
      exact (found 0).2 ⟨child, first, bottom⟩

/-- A reference has one name. -/
theorem textsOf_reference {id : Nat} (composed : tree.Composed stream id)
    (here : tree.kind? id = some .variableReference) :
    tree.textsOf stream .identifier id = [(tree.firstName? stream id).getD ""] := by
  obtain ⟨kind, is, -, words⟩ := composed
  obtain rfl := Option.some.inj (is.symm.trans here)
  have one : ((tree.childTokens id).filterMap stream.kindAt?).filter (· ≠ .whitespace) =
      [.identifier] := words
  have count : ((tree.childTokens id).filter fun index =>
      stream.kindAt? index = some .identifier).length = 1 := by
    have counted : ((tree.childTokens id).filterMap stream.kindAt?).count .identifier = 1 := by
      rw [← List.count_filter (p := fun kind => decide (kind ≠ .whitespace)) rfl, one]
      rfl
    rw [← counted, ← List.countP_eq_length_filter, List.count, List.countP_filterMap]
    congr 1
    funext index
    cases stream.kindAt? index with
    | none => rfl
    | some kind => exact Bool.eq_iff_iff.2 (by simp)
  obtain ⟨index, only⟩ := List.length_eq_one_iff.1 count
  rw [firstName?, textsOf, only]
  rfl

/-- The first name at a node is mentioned in one set. -/
theorem namesOf_first (set other : NameSet) (id : Nat) :
    namesOf set ((tree.firstName? stream id).map fun name => ⟨other, name⟩).toList =
      if other = set then (tree.textsOf stream .identifier id).take 1 else [] := by
  rw [List.take_one, ← firstName?, ← namesOf_map set other]
  cases tree.firstName? stream id <;> rfl

/-- The templates that a statement names are those strings. -/
theorem dependencyNames_eq (tree : SyntaxTree) (stream : TokenStream) (id : Nat) :
    tree.dependencyNames stream id = tree.sourcesOf stream id := by
  rw [dependencyNames, sourcesOf]
  cases tree.childNodes id with
  | nil => rfl
  | cons target rest =>
    simp only [List.head?_cons, List.take_succ_cons, List.take_zero, List.flatMap_singleton]
    cases here : tree.kind? target with
    | none => simp [isKind, here]
    | some kind => cases kind <;> simp [isKind, here]

variable {isCallable : Nat → Bool} {order : List Nat} {id : Nat}

/-- The names of values that a node mentions. -/
theorem namesOf_values (composed : tree.Composed stream id)
    (named : isCallable id = true ↔ ∃ above ∈ order, tree.Applies above id) :
    namesOf .values (tree.nodeMentions stream isCallable id) = tree.valuesAt stream order id := by
  have reference := textsOf_reference composed
  obtain ⟨kind, here, -⟩ := composed
  rw [nodeMentions, valuesAt, here]
  cases kind with
  | variableReference =>
    dsimp only
    rw [reference here]
    by_cases callable : isCallable id = true
    · rw [if_pos callable, if_pos (named.1 callable)]
      rfl
    · rw [if_neg callable, if_neg (mt named.2 callable)]
      rfl
  | targetList =>
    dsimp only
    rw [namesOf_map, if_pos rfl, targetNames_eq]
  | macroBlock | blockDefinition | filterExpression => exact namesOf_first .values _ id
  | extendsBlock | includeBlock | importBlock | fromImportBlock =>
    exact namesOf_map .values .dependencies _
  | _ => rfl

/-- The macro, block or filter that a node mentions. -/
theorem namesOf_firstAt {set : NameSet} {kind : NodeKind} (belongs : (set, kind) ∈
      [(.macros, .macroBlock), (.blocks, .blockDefinition), (.filters, .filterExpression)]) :
    namesOf set (tree.nodeMentions stream isCallable id) = tree.firstAt stream kind id := by
  simp only [List.mem_cons, Prod.mk.injEq, List.not_mem_nil, or_false] at belongs
  rw [nodeMentions, firstAt]
  rcases belongs with ⟨rfl, rfl⟩ | ⟨rfl, rfl⟩ | ⟨rfl, rfl⟩
  all_goals
    cases here : tree.kind? id with
    | none => rfl
    | some other =>
      cases other with
      | variableReference => dsimp only; split <;> rfl
      | targetList => exact namesOf_map _ .values _
      | macroBlock | blockDefinition | filterExpression => exact namesOf_first _ _ id
      | extendsBlock | includeBlock | importBlock | fromImportBlock =>
        exact namesOf_map _ .dependencies _
      | _ => rfl

/-- The templates that a node mentions. -/
theorem namesOf_dependencies : namesOf .dependencies (tree.nodeMentions stream isCallable id) =
    tree.sourcesAt stream id := by
  rw [nodeMentions, sourcesAt, ← dependencyNames_eq]
  cases here : tree.kind? id with
  | none => rfl
  | some kind =>
    cases kind with
    | variableReference => dsimp only; split <;> rfl
    | targetList => exact namesOf_map _ .values _
    | macroBlock | blockDefinition | filterExpression => exact namesOf_first _ _ id
    | extendsBlock | includeBlock | importBlock | fromImportBlock =>
      exact namesOf_map _ .dependencies _
    | _ => rfl

/-! ### What a tree mentions -/

/-- These nodes are all drawn and composed, and so are their child nodes, which are among them. -/
structure Listed (tree : SyntaxTree) (stream : TokenStream) (order : List Nat) : Prop where
  drawn {id : Nat} (member : id ∈ order) : ∃ shape, Draws tree.nodes (.node id) shape
  composed {id : Nat} (member : id ∈ order) : tree.Composed stream id
  closed {id child : Nat} (member : id ∈ order) (beneath : child ∈ tree.childNodes id) :
    child ∈ order

namespace Listed

variable (listed : tree.Listed stream order)

include listed

/-- What a chain ends in is listed. -/
theorem bottom {base : Nat} (chain : tree.Bottom id base) (member : id ∈ order) :
    base ∈ order := by
  induction chain with
  | reference here => exact member
  | link here chains first further ih =>
    exact ih (listed.closed member (List.mem_of_getElem? first))

/-- A reference that names a test or a filter is listed, and it is a reference. -/
theorem applies {base : Nat} (applied : tree.Applies id base) (member : id ∈ order) :
    base ∈ order ∧ tree.kind? base = some .variableReference := by
  obtain ⟨child, chain, place⟩ := applied
  have beneath : child ∈ tree.childNodes id :=
    place.elim (fun test => List.mem_of_getElem? test.2) fun block => List.mem_of_getElem? block.2
  refine ⟨listed.bottom chain (listed.closed member beneath), ?_⟩
  clear place beneath
  induction chain with
  | reference here => exact here
  | link _ _ _ _ ih => exact ih

/-- The filter that a filter block applies is the one that is mentioned. -/
theorem appliedAt_eq (member : id ∈ order) : tree.appliedAt stream id =
    ((if tree.isKind .filterBlock id then tree.callableIn? id else none).map fun base =>
      (tree.firstName? stream base).getD "").toList := by
  obtain ⟨shape, drawn⟩ := listed.drawn member
  rw [appliedAt]
  by_cases block : tree.kind? id = some .filterBlock
  · have here : tree.isKind .filterBlock id = true := decide_eq_true block
    rw [if_pos here]
    split
    next applies =>
      obtain ⟨inside, reference⟩ := listed.applies applies.2.choose_spec member
      rw [(callableIn?_eq_some_iff drawn).2 applies.2.choose_spec,
        textsOf_reference (listed.composed inside) reference]
      rfl
    next none =>
      cases found : tree.callableIn? id with
      | none => rfl
      | some base => exact absurd ⟨block, base, (callableIn?_eq_some_iff drawn).1 found⟩ none
  · rw [dif_neg fun applies => block applies.1, if_neg (by simpa [isKind] using block)]
    rfl

end Listed

/-- What filter blocks mention are the filters that they apply. -/
theorem namesOf_filterBlocks (listed : tree.Listed stream (tree.root :: tree.descendants tree.root))
    (set : NameSet) : namesOf set (tree.filterBlockMentions stream) =
      if .filters = set then (tree.descendants tree.root).flatMap (tree.appliedAt stream)
      else [] := by
  have names : (tree.descendants tree.root).flatMap (tree.appliedAt stream) =
      ((tree.descendants tree.root).filter (tree.isKind .filterBlock)).filterMap fun id =>
        (tree.callableIn? id).map fun base => (tree.firstName? stream base).getD "" := by
    rw [List.filterMap_filter, List.filterMap_eq_flatMap_toList]
    refine List.flatMap_congr fun id member => ?_
    rw [listed.appliedAt_eq (List.mem_cons_of_mem _ member)]
    split <;> rfl
  rw [names, ← namesOf_map, filterBlockMentions, List.map_filterMap]
  congr 2
  funext id
  rw [Option.map_map]
  rfl

/-- What the nodes of a tree mention node by node, in one set, if the root mentions nothing. -/
theorem namesOf_mentions (listed : tree.Listed stream (tree.root :: tree.descendants tree.root))
    (template : tree.kind? tree.root = some .template) (set : NameSet)
    (names : Nat → List String) (bare : names tree.root = [])
    (each : ∀ {id : Nat} {isCallable : Nat → Bool}, tree.Composed stream id →
      (isCallable id = true ↔
        ∃ above ∈ tree.root :: tree.descendants tree.root, tree.Applies above id) →
      namesOf set (tree.nodeMentions stream isCallable id) = names id) :
    namesOf set (tree.mentions stream) =
      (if .filters = set then
        (tree.root :: tree.descendants tree.root).flatMap (tree.appliedAt stream) else []) ++
      (tree.root :: tree.descendants tree.root).flatMap names := by
  have callable (id : Nat) : (Std.HashSet.ofList tree.callables).contains id = true ↔
      ∃ above ∈ tree.root :: tree.descendants tree.root, tree.Applies above id := by
    rw [Std.HashSet.contains_ofList, List.contains_iff_mem, callables, List.mem_filterMap]
    constructor
    · rintro ⟨above, member, found⟩
      obtain ⟨shape, drawn⟩ := listed.drawn (List.mem_cons_of_mem _ member)
      exact ⟨above, List.mem_cons_of_mem _ member, (callableIn?_eq_some_iff drawn).1 found⟩
    · rintro ⟨above, member, applied⟩
      obtain ⟨shape, drawn⟩ := listed.drawn member
      have found := (callableIn?_eq_some_iff drawn).2 applied
      rcases List.mem_cons.1 member with rfl | below
      · rw [callableIn?, template] at found
        contradiction
      · exact ⟨above, below, found⟩
  have outer : tree.appliedAt stream tree.root = [] := by
    rw [appliedAt, dif_neg]
    rintro ⟨block, -⟩
    rw [template] at block
    contradiction
  rw [mentions, namesOf_append, namesOf_filterBlocks listed, namesOf_flatMap, List.flatMap_cons,
    List.flatMap_cons, outer, bare, List.nil_append, List.nil_append]
  congr 1
  exact List.flatMap_congr fun id member =>
    each (listed.composed (List.mem_cons_of_mem _ member)) (callable id)

/-- The facts that are collected are those that the nodes in document order make up. -/
theorem describe_collect (listed : tree.Listed stream (tree.root :: tree.descendants tree.root))
    (template : tree.kind? tree.root = some .template) (limit : Nat) :
    (Facts.collect tree stream limit).1.Describe tree stream limit
      (tree.root :: tree.descendants tree.root) := by
  have holds (set : NameSet) :=
    (MentionTally.counts_ofMentions limit (tree.mentions stream) set).holdsFirst
  have first (set : NameSet) (kind : NodeKind) (apart : some NodeKind.template ≠ some kind)
      (belongs : (set, kind) ∈
        [(.macros, .macroBlock), (.blocks, .blockDefinition), (.filters, .filterExpression)]) :=
    namesOf_mentions listed template set (tree.firstAt stream kind)
      (by rw [firstAt, template, if_neg apart]) fun _ _ => namesOf_firstAt belongs
  constructor
  · have values := holds .values
    rw [namesOf_mentions listed template .values
      (tree.valuesAt stream (tree.root :: tree.descendants tree.root))
      (by rw [valuesAt, template]) namesOf_values] at values
    exact values
  · have macros := holds .macros
    rw [first .macros .macroBlock (by decide) (by decide)] at macros
    exact macros
  · have blocks := holds .blocks
    rw [first .blocks .blockDefinition (by decide) (by decide)] at blocks
    exact blocks
  · have filters := holds .filters
    rw [first .filters .filterExpression (by decide) (by decide)] at filters
    exact filters
  · have dependencies := holds .dependencies
    rw [namesOf_mentions listed template .dependencies (tree.sourcesAt stream)
      (by rw [sourcesAt, template]) fun _ _ => namesOf_dependencies] at dependencies
    exact dependencies
  · rw [List.countP_cons_of_neg (by simp [template, NodeKind.hasBody])]
    rfl

end SyntaxTree

namespace TokenStream

/-- The text of a token is not empty. -/
theorem textAt_ne_empty {source : String} {d : Delimiters} {limit : Nat} {stream : TokenStream}
    (read : ofSource source d limit = .ok stream) {index : Nat} (inside : index < stream.size) :
    stream.textAt index ≠ "" := by
  obtain ⟨same, -, fills⟩ := (ofRange_eq_ok_iff (Nat.zero_le _) (Nat.le_refl _)).1 read
  have found : stream.tokens[index]? = some stream.tokens[index] :=
    Array.getElem?_eq_getElem inside
  obtain ⟨begins, ends⟩ := isValid_of_ofSource read found
  have solid := ((tiles_ofRange (Nat.zero_le _) (Nat.le_refl _) fills).next
    (Array.getElem?_toList.trans found)).1
  intro empty
  rw [textAt, found, Option.map_some, Option.getD_some, Token.text, same, ← Text.bytes_eq_nil_iff,
    Text.bytes_slice (Nat.le_of_lt solid) begins ends] at empty
  have length := congrArg List.length empty
  have upTo : stream.tokens[index].stop ≤ source.utf8ByteSize := ends.le_rawEndPos
  simp only [List.length_take, List.length_drop, Text.length_bytes, List.length_nil] at length
  omega

/-- A text that a name has in a stream. -/
def IsIdentifier (stream : TokenStream) (name : String) : Prop :=
  ∃ index, stream.kindAt? index = some .identifier ∧ stream.textAt index = name

/-- No name is empty. -/
theorem IsIdentifier.ne_empty {source : String} {d : Delimiters} {limit : Nat}
    {stream : TokenStream} (read : ofSource source d limit = .ok stream) {name : String}
    (named : stream.IsIdentifier name) : name ≠ "" := by
  obtain ⟨index, kind, rfl⟩ := named
  have inside := (stream.kindAt?_isSome index).1 (kind ▸ rfl)
  exact textAt_ne_empty read inside

end TokenStream

namespace SyntaxTree

variable {tree : SyntaxTree} {stream : TokenStream} {id : Nat} {name : String}

/-- The identifiers that a node has as tokens are identifiers. -/
theorem isIdentifier_of_textsOf (member : name ∈ tree.textsOf stream .identifier id) :
    stream.IsIdentifier name := by
  obtain ⟨index, listed, rfl⟩ := List.mem_map.1 member
  exact ⟨index, of_decide_eq_true (List.mem_filter.1 listed).2, rfl⟩

/-- The names that are assigned to are identifiers. -/
theorem isIdentifier_of_targetsIn {indices : List Nat} (member : name ∈ targetsIn stream indices) :
    stream.IsIdentifier name := by
  obtain ⟨pair, listed, rfl⟩ := List.mem_map.1 member
  have target : IsTarget stream pair.1 pair.2 := of_decide_eq_true (List.mem_filter.1 listed).2
  exact ⟨pair.2, target.1, rfl⟩

/-- The names of variables are identifiers. -/
theorem isIdentifier_of_valuesAt {order : List Nat}
    (member : name ∈ tree.valuesAt stream order id) : stream.IsIdentifier name := by
  rw [valuesAt] at member
  split at member
  · split at member
    · contradiction
    · exact isIdentifier_of_textsOf member
  · exact isIdentifier_of_targetsIn member
  · contradiction

/-- A first name is an identifier. -/
theorem isIdentifier_of_firstAt {kind : NodeKind} (member : name ∈ tree.firstAt stream kind id) :
    stream.IsIdentifier name := by
  rw [firstAt] at member
  split at member
  · exact isIdentifier_of_textsOf (List.mem_of_mem_take member)
  · contradiction

/-- The names of what is applied are identifiers. -/
theorem isIdentifier_of_appliedAt (member : name ∈ tree.appliedAt stream id) :
    stream.IsIdentifier name := by
  rw [appliedAt] at member
  split at member
  · exact isIdentifier_of_textsOf member
  · contradiction

end SyntaxTree

namespace Facts

/-- What is in a set is in the list that it is taken from. -/
theorem HoldsFirst.mem {limit : Nat} {names set : List String}
    (holds : HoldsFirst limit names set) {name : String} (member : name ∈ set) : name ∈ names :=
  List.mem_eraseDups.1 (List.mem_of_mem_take ((holds.2 name).1 member))

/-- Values, macros, blocks and filters have names of the stream. -/
theorem Describe.names {facts : Facts} {tree : SyntaxTree} {stream : TokenStream} {limit : Nat}
    {order : List Nat} (describes : facts.Describe tree stream limit order) {name : String}
    (member : name ∈ facts.values ++ facts.macros ++ facts.blocks ++ facts.filters) :
    stream.IsIdentifier name := by
  simp only [List.mem_append] at member
  rcases member with ((value | macro_) | block) | filter
  · obtain ⟨id, -, here⟩ := List.mem_flatMap.1 (describes.values.mem value)
    exact SyntaxTree.isIdentifier_of_valuesAt here
  · obtain ⟨id, -, here⟩ := List.mem_flatMap.1 (describes.macros.mem macro_)
    exact SyntaxTree.isIdentifier_of_firstAt here
  · obtain ⟨id, -, here⟩ := List.mem_flatMap.1 (describes.blocks.mem block)
    exact SyntaxTree.isIdentifier_of_firstAt here
  · rcases List.mem_append.1 (describes.filters.mem filter) with applied | named
    · obtain ⟨id, -, here⟩ := List.mem_flatMap.1 applied
      exact SyntaxTree.isIdentifier_of_appliedAt here
    · obtain ⟨id, -, here⟩ := List.mem_flatMap.1 named
      exact SyntaxTree.isIdentifier_of_firstAt here

end Facts

namespace TokenStream

/-- The nodes of a parsed stream are drawn and composed. -/
theorem listed_parse (stream : TokenStream) (limits : ParseLimits) :
    let tree := (stream.parse limits).tree
    tree.Listed stream (tree.root :: tree.descendants tree.root) ∧
      tree.kind? tree.root = some .template ∧
      tree.InOrder tree.root (tree.root :: tree.descendants tree.root) := by
  intro tree
  obtain ⟨shapes, composed, drawn, places⟩ := stream.exists_composed_parse limits
  have enough := Nat.le_of_eq places.symm
  refine ⟨⟨fun member => ?_, fun member => ?_, fun member beneath => ?_⟩,
    tree.kind?_of_draws drawn, SyntaxTree.inOrder_descendants drawn enough⟩
  · obtain ⟨node, -, here⟩ := tree.exists_node drawn enough member
    exact ⟨_, here⟩
  · exact tree.composed_of_mem drawn enough composed member
  · exact List.mem_cons_of_mem _ (tree.mem_descendants_of_child drawn enough member
      (SyntaxTree.mem_childNodes.1 beneath))

/-- The facts of every source, whatever is wrong with it, are those that the nodes of its tree make
up in document order, and none of the names is empty. -/
theorem collect_describes {source : String} {d : Delimiters} {count : Nat} {stream : TokenStream}
    (read : ofSource source d count = .ok stream) (limits : ParseLimits) (limit : Nat) :
    let tree := (stream.parse limits).tree
    let facts := (Facts.collect tree stream limit).1
    ∃ order, tree.InOrder tree.root order ∧ facts.Describe tree stream limit order ∧
      ∀ name ∈ facts.values ++ facts.macros ++ facts.blocks ++ facts.filters, name ≠ "" := by
  intro tree facts
  obtain ⟨listed, template, inOrder⟩ := stream.listed_parse limits
  have describes := SyntaxTree.describe_collect listed template limit
  exact ⟨_, inOrder, describes, fun name member =>
    (describes.names member).ne_empty read⟩

/-- A test that is called and filtered, in a tag that nothing closes: its name is no value. -/
theorem collect_describes_chain : ∃ stream : TokenStream,
    ofSource "\x7b% if n is odd(m)|f %\x7d" {} = .ok stream ∧
      let tree := (stream.parse {}).tree
      let facts := (Facts.collect tree stream 2).1
      ∃ order, tree.InOrder tree.root order ∧ facts.Describe tree stream 2 order ∧
        ∀ name ∈ facts.values ++ facts.macros ++ facts.blocks ++ facts.filters, name ≠ "" := by
  have within : (ofSource "\x7b% if n is odd(m)|f %\x7d" {}).isOk = true := by decide +kernel
  obtain ⟨stream, read⟩ := ofSource_of_isOk within
  exact ⟨stream, read, collect_describes read {} 2⟩

end TokenStream
end Stencil
