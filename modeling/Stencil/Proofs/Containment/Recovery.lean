import Stencil.Proofs.Containment.Template
/-!
# What is wrong in a tag stays in the tag

Whatever stands inside of a closed tag, the parser is at the closing token after it. So two streams
that differ inside of one tag have trees that are alike outside of it, and the same diagnostics
there but for their offsets (`TokenStream.parse_contains`).
-/

namespace Stencil

open Stencil.Parser Correspondence

namespace Swap

variable (swap : Swap)

/-- The items of a template are in step up to the end. -/
theorem follows_items {p q : Parser} (abreast : swap.outside.Abreast p q) :
    swap.outside.Follows p q (p.loop (fun p => p.current?.isSome) item).skipSpace
      (q.loop (fun p => p.current?.isSome) item).skipSpace := by
  have items := abreast.refl.loop swap.lawful (fun r seen => seen)
    (fun r s same => congrArg Option.isSome same) (fun r seen => past_item seen)
    (fun r seen => past_item seen) fun r s both _ =>
      both.trans (follows_contentItem crossing_statement both.abreast)
  exact items.trans (items.abreast.skipSpace swap.lawful)

/-- At the start the parsers are abreast. -/
theorem abreast_ofStream (limits : ParseLimits) :
    swap.outside.Abreast (ofStream swap.left limits) (ofStream swap.right limits) :=
  ⟨rfl, rfl, .inl ⟨rfl, Nat.zero_le _⟩, rfl, rfl, rfl, fun _ _ => rfl⟩

end Swap

namespace TokenStream

/-- What a parse gives once its items are read. -/
theorem parse_of_reads {stream : TokenStream} {limits : ParseLimits} {shapes : List Shape}
    (reads : ((ofStream stream limits).start .template).Reads
      ((((ofStream stream limits).start .template).loop (fun p => p.current?.isSome)
        item).skipSpace) shapes) :
    let last := (((ofStream stream limits).start .template).loop (fun p => p.current?.isSome)
      item).skipSpace
    Draws (stream.parse limits).tree.nodes (.node (stream.parse limits).tree.root)
        (.node .template shapes) ∧
      (stream.parse limits).diagnostics = last.diagnostics ∧
      (stream.parse limits).statistics.suppressed = last.suppressed := by
  intro last
  have ended : last.finish.remaining = 0 := (ofStream stream limits).remaining_template
  have whole : stream.parse limits = last.finish.close := rfl
  rw [whole]
  refine ⟨(draws_of_reads reads ended).1, ?_⟩
  rw [close_of_ended ended]
  exact ⟨rfl, rfl⟩

/-- Two streams that differ inside of one closed tag, in tokens that are neither delimiters nor
newlines, have trees that are alike outside of the tag. If neither parse reports the limit on
nesting or leaves diagnostics out, those in front of the tokens that differ and those behind the
start of the closing token are the same, but for their offsets. -/
theorem parse_contains {stream other : TokenStream} {opening first closing closing' : Nat}
    (delimited : stream.Delimited) (tiled : stream.Tiled) (tiled' : other.Tiled)
    (tag : stream.ClosedTag opening first closing)
    (splice : stream.Spliced other first closing closing') (limits : ParseLimits) :
    let one := stream.parse limits
    let two := other.parse limits
    (∃ left right, Draws one.tree.nodes (.node one.tree.root) (.node .template left) ∧
      Draws two.tree.nodes (.node two.tree.root) (.node .template right) ∧
      Alike (Beside opening closing closing') (Shape.Across opening closing closing') left right) ∧
    (one.statistics.suppressed = 0 → two.statistics.suppressed = 0 →
      (∀ diagnostic ∈ one.diagnostics, diagnostic.fault ≠ .maxRecursionDepth) →
      (∀ diagnostic ∈ two.diagnostics, diagnostic.fault ≠ .maxRecursionDepth) →
      two.diagnostics.toList.filter
          (·.outside (other.offsetAt first) (other.offsetAt closing')) =
        (one.diagnostics.toList.filter
          (·.outside (stream.offsetAt first) (stream.offsetAt closing))).map
          (·.moved (stream.offsetAt first) (stream.offsetAt closing)
            (other.offsetAt closing'))) := by
  intro one two
  let swap : Swap :=
    ⟨stream, other, opening, first, closing, closing', delimited, tag, splice, tiled, tiled'⟩
  obtain ⟨abreast, left, right, reads, reads', alike⟩ :=
    swap.follows_items ((swap.abreast_ofStream limits).start swap.lawful .template)
  obtain ⟨drawn, diagnostics, suppressed⟩ := parse_of_reads reads
  obtain ⟨drawn', diagnostics', suppressed'⟩ := parse_of_reads reads'
  refine ⟨⟨left, right, drawn, drawn', alike⟩, fun none none' shallow shallow' => ?_⟩
  have related := abreast.record (suppressed.symm.trans none) (suppressed'.symm.trans none')
  rw [findings, findings, ← diagnostics, ← diagnostics'] at related
  have kept {diagnostics : Array Diagnostic} (holds : Diagnostic → Bool)
      (shallow : ∀ diagnostic ∈ diagnostics, diagnostic.fault ≠ .maxRecursionDepth) :
      diagnostics.toList.filter (fun diagnostic =>
        decide (diagnostic.fault ≠ .maxRecursionDepth) && holds diagnostic) =
        diagnostics.toList.filter holds := by
    apply List.filter_congr
    intro diagnostic listed
    rw [decide_eq_true (shallow diagnostic (Array.mem_toList_iff.1 listed)), Bool.true_and]
  have start : other.offsetAt first = stream.offsetAt first := swap.start_eq
  rw [start, ← kept _ shallow, ← kept _ shallow']
  exact related

/-- With `+)` for `a` in a variable tag there is one report more, within the tag, and the one about
the statement behind it moves by a byte. -/
theorem parse_contains_misplaced :
    let stream : TokenStream := ⟨"\x7b\x7ba\x7d\x7d\x7b%endfor%\x7d",
      #[⟨.delimiter .variableStart, 0, 2⟩, ⟨.identifier, 2, 3⟩, ⟨.delimiter .variableEnd, 3, 5⟩,
        ⟨.delimiter .blockStart, 5, 7⟩, ⟨.keyword .endFor, 7, 13⟩, ⟨.delimiter .blockEnd, 13, 15⟩],
      #[.template, .variableTag, .variableTag, .template, .blockTag, .blockTag], .template⟩
    let other : TokenStream := ⟨"\x7b\x7b+)\x7d\x7d\x7b%endfor%\x7d",
      #[⟨.delimiter .variableStart, 0, 2⟩, ⟨.operator .plus, 2, 3⟩,
        ⟨.punctuation .rightParen, 3, 4⟩, ⟨.delimiter .variableEnd, 4, 6⟩,
        ⟨.delimiter .blockStart, 6, 8⟩, ⟨.keyword .endFor, 8, 14⟩, ⟨.delimiter .blockEnd, 14, 16⟩],
      #[.template, .variableTag, .variableTag, .variableTag, .template, .blockTag, .blockTag],
      .template⟩
    let one := stream.parse ⟨8, 8⟩
    let two := other.parse ⟨8, 8⟩
    ofSource stream.source {} = .ok stream ∧ ofSource other.source {} = .ok other ∧
      stream.ClosedTag 0 1 2 ∧ stream.Spliced other 1 2 3 ∧
      (∃ left right, Draws one.tree.nodes (.node one.tree.root) (.node .template left) ∧
        Draws two.tree.nodes (.node two.tree.root) (.node .template right) ∧
        Alike (Beside 0 2 3) (Shape.Across 0 2 3) left right) ∧
      one.diagnostics.map (·.offset) = #[5] ∧ two.diagnostics.map (·.offset) = #[3, 6] ∧
      two.diagnostics.toList.filter (·.outside 2 4) =
        (one.diagnostics.toList.filter (·.outside 2 3)).map (·.moved 2 3 4) := by
  intro stream other one two
  have read : ofSource stream.source {} = .ok stream := ofSource_of_isFresh (by decide +kernel)
  have read' : ofSource other.source {} = .ok other := ofSource_of_isFresh (by decide +kernel)
  have tag : stream.ClosedTag 0 1 2 :=
    ⟨⟨_, rfl, rfl⟩, fun | 1, _, _ => rfl, by decide, .inl ⟨rfl, rfl⟩⟩
  have splice : stream.Spliced other 1 2 3 := by
    refine ⟨by decide, by decide, fun | 1, _, _ | 2, _, _ => rfl, fun count => ?_, rfl⟩
    match count with
    | 0 | 1 | 2 | 3 => decide
    | count + 4 => constructor <;> grind
  obtain ⟨delimited, tiled⟩ := delimited_ofSource read
  obtain ⟨-, tiled'⟩ := delimited_ofSource read'
  obtain ⟨alike, record⟩ := parse_contains delimited tiled tiled' tag splice ⟨8, 8⟩
  exact ⟨read, read', tag, splice, alike, by decide +kernel, by decide +kernel,
    record (by decide +kernel) (by decide +kernel) (by decide +kernel) (by decide +kernel)⟩

end TokenStream
end Stencil
