import Mathlib.Data.List.Forall2
import Stencil.Proofs.Coupling.Template
import Stencil.Proofs.Parser.Coverage
import Stencil.Proofs.Tree.Bare
/-!
# White space makes no difference to a parse

Parsers over two streams of the same profile mirror each other (`Mirrors`) if they have read as many
significant tokens into the same bare tree and have told the same of the same tokens. White space
is read at different moments on the two sides, also between a checkpoint and the node that is
opened there, but it is not in the bare tree. So mirroring is a coupling, and the whole parse keeps
it (`TokenStream.mirrored_parse`).
-/

namespace Stencil

/-- Diagnostics about two streams tell the same of the same token, or of the ends. -/
structure Diagnostic.Mirrors (left right : TokenStream) (one two : Diagnostic) : Prop where
  fault : two.fault = one.fault
  message : two.message = one.message
  place : ∃ rank, one.offset = left.offsetOf rank ∧ two.offset = right.offsetOf rank

namespace Parser

/-- Two parsers have read as much of two streams into the same bare tree and have told the same. -/
structure Mirrors (left right : TokenStream) (p q : Parser) : Prop where
  first : p.stream = left
  second : q.stream = right
  rank : q.rank = p.rank
  tree : q.builder.bare right = p.builder.bare left
  limits : q.limits = p.limits
  depth : q.depth = p.depth
  maxDepth : q.maxDepth = p.maxDepth
  depthReported : q.depthReported = p.depthReported
  awaited : q.awaited = p.awaited
  suppressed : q.suppressed = p.suppressed
  told : List.Forall₂ (Diagnostic.Mirrors left right) p.diagnostics.toList q.diagnostics.toList

/-- A parser has passed white space only. -/
structure Passes (p q : Parser) : Prop where
  stream : q.stream = p.stream
  rank : q.rank = p.rank
  tree : q.builder.bare p.stream = p.builder.bare p.stream
  limits : q.limits = p.limits
  depth : q.depth = p.depth
  maxDepth : q.maxDepth = p.maxDepth
  depthReported : q.depthReported = p.depthReported
  awaited : q.awaited = p.awaited
  suppressed : q.suppressed = p.suppressed
  told : q.diagnostics = p.diagnostics

variable {left right : TokenStream} {o o' p q r s : Parser}

/-! ### White space -/

/-- Without a step a parser passes over nothing. -/
theorem passes_refl (p : Parser) : p.Passes p := ⟨rfl, rfl, rfl, rfl, rfl, rfl, rfl, rfl, rfl, rfl⟩

/-- White space that is taken changes nothing but the tree and the place. -/
theorem passes_takeSpace (p : Parser) (among : Nat) : p.Passes (p.takeSpace among) := by
  induction among generalizing p with
  | zero => exact p.passes_refl
  | succ among ih =>
    rw [takeSpace]
    split
    next space =>
      have further := ih p.take
      exact {
        further with
        rank := further.rank.trans (p.stream.rank_of_space space)
        tree := further.tree.trans (p.builder.bare_token_of_space space) }
    · exact p.passes_refl

/-- White space that is passed over changes nothing but the tree and the place. -/
theorem passes_skipSpace (p : Parser) : p.Passes p.skipSpace := p.passes_takeSpace _

/-- Parsers that pass white space mirror each other as before. -/
theorem Mirrors.passes (both : Mirrors left right p q) (one : p.Passes r) (two : q.Passes s) :
    Mirrors left right r s where
  first := one.stream.trans both.first
  second := two.stream.trans both.second
  rank := by rw [one.rank, two.rank, both.rank]
  tree := by
    have early := one.tree
    have late := two.tree
    rw [both.first] at early
    rw [both.second] at late
    rw [early, late, both.tree]
  limits := by rw [one.limits, two.limits, both.limits]
  depth := by rw [one.depth, two.depth, both.depth]
  maxDepth := by rw [one.maxDepth, two.maxDepth, both.maxDepth]
  depthReported := by rw [one.depthReported, two.depthReported, both.depthReported]
  awaited := by rw [one.awaited, two.awaited, both.awaited]
  suppressed := by rw [one.suppressed, two.suppressed, both.suppressed]
  told := by rw [one.told, two.told]; exact both.told

/-- Parsers mirror each other past the white space before either. -/
theorem Mirrors.skipSpace (both : Mirrors left right p q) :
    Mirrors left right p.skipSpace q.skipSpace := both.passes p.passes_skipSpace q.passes_skipSpace

/-! ### Steps -/

/-- A parser that takes a significant token adds it to the bare tree by its rank. -/
theorem rank_take (solid : p.stream.kindAt? p.position ≠ some .whitespace)
    (inside : p.position < p.stream.size) : p.take.rank = p.rank + 1 := by
  rw [Parser.rank, take, TokenStream.rank_succ, p.stream.isSignificant_of_lt solid inside]
  rfl

/-- Parsers that mirror each other still do when both take a token other than white space. -/
theorem Mirrors.take (both : Mirrors left right p q)
    (here : p.stream.kindAt? p.position ≠ some .whitespace)
    (also : q.stream.kindAt? q.position ≠ some .whitespace)
    (inside : p.position < p.stream.size) (within : q.position < q.stream.size) :
    Mirrors left right p.take q.take :=
  { both with
    rank := by rw [rank_take here inside, rank_take also within, both.rank]
    tree := by
      have rank := both.rank
      rw [Parser.rank, Parser.rank, both.first, both.second] at rank
      rw [both.first] at here
      rw [both.second] at also
      simp only [Parser.take]
      rw [TreeBuilder.bare_token _ here, TreeBuilder.bare_token _ also, both.tree, rank] }

/-- Both parsers take the token they see, or none is left. -/
theorem Mirrors.bump (both : Mirrors left right p q) (same : right.profile = left.profile) :
    Mirrors left right p.bump q.bump := by
  have solid (p : Parser) :
      p.skipSpace.stream.kindAt? p.skipSpace.position ≠ some .whitespace := by
    rw [← p.visible_skipSpace]
    exact TokenStream.kindAt?_visible _ _
  have spaced := both.skipSpace
  have inside := p.skipSpace.stream.lt_size_iff_profile (solid p)
  have within := q.skipSpace.stream.lt_size_iff_profile (solid q)
  have agree : q.skipSpace.position < q.skipSpace.stream.size ↔
      p.skipSpace.position < p.skipSpace.stream.size := by
    rw [inside, within, ← Parser.rank, ← Parser.rank, spaced.rank, spaced.first, spaced.second,
      same]
  rw [Parser.bump, Parser.bump]
  by_cases more : p.skipSpace.position < p.skipSpace.stream.size
  · rw [if_pos more, if_pos (agree.2 more)]
    exact spaced.take (solid p) (solid q) more (agree.2 more)
  · rw [if_neg more, if_neg (mt agree.1 more)]
    exact spaced

/-- Parsers that mirror each other still do when both open a node. -/
theorem Mirrors.start (both : Mirrors left right p q) (kind : NodeKind) :
    Mirrors left right (p.start kind) (q.start kind) :=
  { both.skipSpace with tree := congrArg (TreeBuilder.start · kind 0) both.skipSpace.tree }

/-- A node that is opened at a checkpoint takes over the same in the bare trees. -/
theorem Mirrors.startAt (origin : Mirrors left right o o') (both : Mirrors left right p q)
    (within : o.builder.opened ≠ []) (one : o.Grows p) (two : o'.Grows q) (kind : NodeKind) :
    Mirrors left right (p.startAt o.builder.checkpoint kind)
      (q.startAt o'.builder.checkpoint kind) := by
  obtain ⟨_, early⟩ := one
  obtain ⟨_, late⟩ := two
  have also : o'.builder.opened ≠ [] := by
    rw [← List.length_pos_iff, ← o'.builder.length_opened_bare right, origin.tree,
      TreeBuilder.length_opened_bare, List.length_pos_iff]
    exact within
  refine { both with tree := ?_ }
  simp only [Parser.startAt]
  rw [TreeBuilder.bare_startAt within early.builder, TreeBuilder.bare_startAt also late.builder,
    both.tree, origin.tree]

/-- Parsers that mirror each other still do when both close a node. -/
theorem Mirrors.finish (both : Mirrors left right p q) : Mirrors left right p.finish q.finish :=
  { both with
    tree := by
      simp only [Parser.finish]
      rw [TreeBuilder.bare_finishNode, TreeBuilder.bare_finishNode, both.tree] }

/-- The same is told of tokens that correspond. -/
theorem Mirrors.errorAt (origin : Mirrors left right o o') (both : Mirrors left right p q)
    (fault : SyntaxFault) (message : String) :
    Mirrors left right (p.errorAt o.offset fault message) (q.errorAt o'.offset fault message) := by
  have full : q.limits.diagnostics ≤ q.diagnostics.size ↔
      p.limits.diagnostics ≤ p.diagnostics.size := by
    rw [both.limits, ← Array.length_toList, ← Array.length_toList, both.told.length_eq]
  rw [Parser.errorAt, Parser.errorAt]
  by_cases suppress : p.limits.diagnostics ≤ p.diagnostics.size
  · rw [if_pos suppress, if_pos (full.2 suppress)]
    exact { both with suppressed := congrArg (· + 1) both.suppressed }
  · rw [if_neg suppress, if_neg (mt full.1 suppress)]
    refine { both with told := ?_ }
    rw [Array.toList_push, Array.toList_push]
    refine List.rel_append both.told (.cons ⟨rfl, rfl, o.rank, ?_, ?_⟩ .nil)
    · rw [offset_eq_offsetOf, origin.first]
    · rw [offset_eq_offsetOf, origin.second, origin.rank]

/-- Parsers that mirror each other still do when both are refused a level. -/
theorem Mirrors.refuse (both : Mirrors left right p q) :
    Mirrors left right p.refuse q.refuse := by
  have message := congrArg
    (fun limits : ParseLimits => "Nesting deeper than " ++ toString limits.depth ++ " levels")
    both.limits
  rw [Parser.refuse, Parser.refuse, both.depthReported, message]
  split
  · exact both
  · have marked : Mirrors left right { p with depthReported := true }
        { q with depthReported := true } := { both with depthReported := rfl }
    exact marked.errorAt marked _ _

/-- Parsers that mirror each other in an open node go on in the same way. -/
theorem coupling_mirrors (same : right.profile = left.profile) :
    Coupling (fun p q => Mirrors left right p q ∧ p.builder.opened ≠ []) where
  current? both := by
    rw [current?_eq_profile, current?_eq_profile, both.1.first, both.1.second, same, both.1.rank]
  next? both := by
    rw [nth?_one_eq_profile, nth?_one_eq_profile, both.1.first, both.1.second, same, both.1.rank]
  nextMode? both := by
    rw [nextMode?_eq_profile, nextMode?_eq_profile, both.1.first, both.1.second, same,
      both.1.rank]
  levels both := by rw [Parser.levels, Parser.levels, both.1.limits, both.1.depth]
  awaited both := both.1.awaited
  within both := both.2
  skipSpace {p _} both :=
    ⟨both.1.skipSpace, Grows.opened_ne_nil (growing_skipSpace p) both.2⟩
  bump {p _} both := ⟨both.1.bump same, Grows.opened_ne_nil (growing_bump p) both.2⟩
  start both kind := ⟨both.1.start kind, List.cons_ne_nil _ _⟩
  startAt origin both _ _ one two kind :=
    ⟨origin.1.startAt both.1 origin.2 one two kind, by
      rw [← List.length_pos_iff, length_opened_startAt]
      exact Nat.succ_pos _⟩
  finish both inner := ⟨both.1.finish, opened_finish_ne_nil inner⟩
  errorAt {_ _ p _} origin both fault _ message :=
    ⟨origin.1.errorAt both.1 fault message,
      Grows.opened_ne_nil (growing_errorAt _ _ _ p) both.2⟩
  refuse {p _} both := ⟨both.1.refuse, Grows.opened_ne_nil (growing_refuse p) both.2⟩
  descend both :=
    ⟨{ both.1 with
       depth := congrArg (· + 1) both.1.depth
       maxDepth := by simp only [Parser.descend, both.1.maxDepth, both.1.depth] }, both.2⟩
  ascend both := ⟨{ both.1 with depth := congrArg (· - 1) both.1.depth }, both.2⟩
  openBody both closer :=
    ⟨{ both.1 with awaited := congrArg (closer :: ·) both.1.awaited }, both.2⟩
  closeBody both := ⟨{ both.1 with awaited := congrArg List.tail both.1.awaited }, both.2⟩

end Parser

namespace TokenStream

/-- Streams of the same profile are parsed into the same bare tree, with the same reports about the
same tokens and the same counts. -/
theorem mirrored_parse {left right : TokenStream} (same : right.profile = left.profile)
    (limits : ParseLimits) :
    (right.parse limits).tree.bare right = (left.parse limits).tree.bare left ∧
      List.Forall₂ (Diagnostic.Mirrors left right) (left.parse limits).diagnostics.toList
        (right.parse limits).diagnostics.toList ∧
      (right.parse limits).statistics = (left.parse limits).statistics := by
  let p := Parser.ofStream left limits
  let q := Parser.ofStream right limits
  have empty (stream : TokenStream) :
      (TreeBuilder.empty stream.tokens).bare stream = .empty #[] := by
    simp only [TreeBuilder.bare, TreeBuilder.empty, Array.map_empty, List.map_nil]
  have begin : Parser.Mirrors left right p q :=
    ⟨rfl, rfl, rfl, (empty right).trans (empty left).symm, rfl, rfl, rfl, rfl, rfl, rfl, .nil⟩
  have items := (Parser.coupling_mirrors same).outer.keeps_items_of_template
    (Parser.linked ⟨begin.start .template, List.cons_ne_nil _ _⟩)
  have read : Parser.Mirrors left right p.template q.template := items.now.1.finish
  have trees : q.template.builder.finish.bare right = p.template.builder.finish.bare left := by
    rw [TreeBuilder.bare_finish, TreeBuilder.bare_finish, read.tree]
  rw [TokenStream.parse, TokenStream.parse, Parser.parse, Parser.parse,
    Parser.close_of_ended p.remaining_template, Parser.close_of_ended q.remaining_template]
  refine ⟨trees, read.told, ?_⟩
  have nodes := congrArg SyntaxTree.size trees
  rw [SyntaxTree.size_bare, SyntaxTree.size_bare] at nodes
  rw [ParseStatistics.mk.injEq]
  refine ⟨nodes, read.maxDepth, ?_, read.suppressed⟩
  rw [← Array.length_toList, ← Array.length_toList, read.told.length_eq]

end TokenStream
end Stencil
