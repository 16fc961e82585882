import Stencil.Parser.Parse
import Stencil.Proofs.Lexer.Delimited
import Stencil.Proofs.Parser.Abreast
/-!
# Streams that differ inside of a tag

What it means that a second stream has other tokens inside of one closed tag (`Spliced`), how the
offsets of the two streams are related then, and which places and reports lie outside of the tag.
-/

namespace Stencil

/-- The same token with its range moved so that one offset becomes another. -/
def Token.moved (token : Token) (origin target : Nat) : Token where
  kind := token.kind
  start := target + (token.start - origin)
  stop := target + (token.stop - origin)

namespace TokenStream

/-- A closed tag with its start delimiter and its closing token, and the first place in it whose
token is free: all places of a variable tag, and those after the first significant token of any
other tag. -/
structure ClosedTag (stream : TokenStream) (opening first closing : Nat) : Prop where
  closes : ∃ closer, stream.closerAt? opening = some closer ∧
    stream.kindAt? closing = some closer
  loose : stream.Loose (opening + 1) closing
  ordered : first ≤ closing
  begins : (stream.kindAt? opening = some (.delimiter .variableStart) ∧ first = opening + 1) ∨
    (stream.kindAt? opening = some (.delimiter .blockStart) ∧
      first = stream.visible (opening + 1) + 1)

/-- The other stream has other tokens between two places, which are neither delimiters nor newlines,
and is the same before and after, but for its offsets. -/
structure Spliced (stream other : TokenStream) (first closing closing' : Nat) : Prop where
  before : ∀ index < first, other.tokens[index]? = stream.tokens[index]? ∧
    other.modes[index]? = stream.modes[index]?
  ordered : first ≤ closing'
  loose : other.Loose first closing'
  after : ∀ count, other.tokens[closing' + count]? = stream.tokens[closing + count]?.map
      (·.moved (stream.offsetAt closing) (other.offsetAt closing')) ∧
    other.modes[closing' + count]? = stream.modes[closing + count]?
  endMode : other.endMode = stream.endMode

/-! ### Offsets -/

section

variable {stream : TokenStream} {index : Nat} {token : Token}

/-- A token starts at its offset. -/
theorem offsetAt_of_token (listed : stream.tokens[index]? = some token) :
    stream.offsetAt index = token.start := by
  rw [offsetAt, listed]
  rfl

/-- From the size on the offset is the end of the source. -/
theorem offsetAt_of_size_le (beyond : stream.size ≤ index) :
    stream.offsetAt index = stream.source.utf8ByteSize := by
  rw [offsetAt, Array.getElem?_eq_none beyond]
  rfl

/-- In a tiled stream a token ends at the next offset. -/
theorem Tiled.stop (tiled : stream.Tiled) (listed : stream.tokens[index]? = some token) :
    token.stop = stream.offsetAt (index + 1) ∧
      stream.offsetAt index < stream.offsetAt (index + 1) := by
  rw [← Array.getElem?_toList] at listed
  have next := Tiles.next tiled listed
  rw [Array.getElem?_toList] at next listed
  have stop : token.stop = stream.offsetAt (index + 1) := next.2.symm
  rw [← stop, offsetAt_of_token listed]
  exact ⟨rfl, next.1⟩

/-- Offsets do not decrease. -/
theorem Tiled.offsetAt_mono (tiled : stream.Tiled) {later : Nat} (order : index ≤ later) :
    stream.offsetAt index ≤ stream.offsetAt later := by
  induction order with
  | refl => exact Nat.le_refl _
  | step _ ih =>
    rename_i between _
    refine Nat.le_trans ih ?_
    cases listed : stream.tokens[between]? with
    | none =>
      have beyond : stream.size ≤ between := Array.getElem?_eq_none_iff.1 listed
      have same := (offsetAt_of_size_le beyond).trans
        (offsetAt_of_size_le (Nat.le_succ_of_le beyond)).symm
      exact Nat.le_of_eq same
    | some token => exact Nat.le_of_lt (tiled.stop listed).2

end

/-! ### The two streams side by side -/

/-- The places outside of a tag, which keeps its opening place, and those of the other stream that
correspond to them. -/
def Beside (opening closing closing' i j : Nat) : Prop :=
  (i = j ∧ i ≤ opening) ∨ (closing < i ∧ i + closing' = j + closing)

section

variable {stream other : TokenStream} {opening first closing closing' index : Nat}

/-- The closing token is a token. -/
theorem ClosedTag.inside (tag : stream.ClosedTag opening first closing) :
    closing < stream.size := by
  obtain ⟨closer, -, closed⟩ := tag.closes
  rw [← kindAt?_isSome, closed]
  rfl

/-- Some token is kept in front of those that are free. -/
theorem ClosedTag.opening_lt (tag : stream.ClosedTag opening first closing) : opening < first := by
  rcases tag.begins with ⟨-, rfl⟩ | ⟨-, rfl⟩
  · exact Nat.lt_succ_self _
  · exact Nat.lt_succ_of_lt (stream.le_visible (opening + 1))

/-- In a variable tag all tokens are free. -/
theorem ClosedTag.first_of_variable (tag : stream.ClosedTag opening first closing)
    (opens : stream.kindAt? opening = some (.delimiter .variableStart)) : first = opening + 1 := by
  rcases tag.begins with ⟨-, first⟩ | ⟨other, -⟩
  · exact first
  · cases opens.symm.trans other

/-- In any other tag the first significant token is kept. -/
theorem ClosedTag.first_of_block (tag : stream.ClosedTag opening first closing)
    (opens : stream.kindAt? opening = some (.delimiter .blockStart)) :
    first = stream.visible (opening + 1) + 1 := by
  rcases tag.begins with ⟨other, -⟩ | ⟨-, first⟩
  · cases opens.symm.trans other
  · exact first

/-- Before the other tokens the kinds are the same. -/
theorem Spliced.kindAt?_before (splice : stream.Spliced other first closing closing')
    (early : index < first) : other.kindAt? index = stream.kindAt? index := by
  rw [kindAt?, kindAt?, (splice.before index early).1]

/-- What is seen from a place in front of the free tokens, if it is in front of them too. -/
theorem Spliced.visible_before (splice : stream.Spliced other first closing closing')
    (early : stream.visible index < first) : other.visible index = stream.visible index := by
  obtain ⟨count, ends⟩ := Nat.exists_eq_add_of_le (stream.le_visible index)
  induction count generalizing index with
  | zero =>
    have solid := stream.kindAt?_visible index
    rw [← splice.kindAt?_before early, ends, Nat.add_zero] at solid
    rw [ends, other.visible_of_not_space solid, Nat.add_zero]
  | succ count ih =>
    have blank : stream.kindAt? index = some .whitespace := by
      apply Classical.byContradiction
      intro solid
      rw [stream.visible_of_not_space solid] at ends
      omega
    have blank' : other.kindAt? index = some .whitespace :=
      (splice.kindAt?_before (by omega)).trans blank
    rw [stream.visible_of_space blank] at early ends ⊢
    rw [other.visible_of_space blank', ih early (by omega)]

/-- Behind the other tokens the kinds are the same. -/
theorem Spliced.kindAt?_after (splice : stream.Spliced other first closing closing')
    (count : Nat) : other.kindAt? (closing' + count) = stream.kindAt? (closing + count) := by
  rw [kindAt?, kindAt?, (splice.after count).1, Option.map_map]
  rfl

/-- An index is below the size exactly if there is a token at it. -/
theorem lt_size_iff (stream : TokenStream) (index : Nat) :
    index < stream.size ↔ (stream.tokens[index]?).isSome := by
  rw [← kindAt?_isSome, kindAt?, Option.isSome_map]

/-- The modes after the tokens that are kept in front of the last one. -/
theorem Spliced.modeAfter?_before (splice : stream.Spliced other first closing closing')
    (early : index + 1 < first) : other.modeAfter? index = stream.modeAfter? index := by
  have size : index < other.size ↔ index < stream.size := by
    rw [lt_size_iff, lt_size_iff, (splice.before index (Nat.lt_of_succ_lt early)).1]
  simp only [modeAfter?, size, (splice.before (index + 1) early).2, splice.endMode]

/-- The modes after the tokens behind. -/
theorem Spliced.modeAfter?_after (splice : stream.Spliced other first closing closing')
    (count : Nat) : other.modeAfter? (closing' + count) = stream.modeAfter? (closing + count) := by
  have size : closing' + count < other.size ↔ closing + count < stream.size := by
    rw [lt_size_iff, lt_size_iff, (splice.after count).1, Option.isSome_map]
  simp only [modeAfter?, size, Nat.add_assoc, (splice.after (count + 1)).2, splice.endMode]

/-- The offsets up to the tokens that are free. -/
theorem Spliced.offsetAt_before (splice : stream.Spliced other first closing closing')
    (tag : stream.ClosedTag opening first closing) (tiled : stream.Tiled) (tiled' : other.Tiled)
    (early : index ≤ first) : other.offsetAt index = stream.offsetAt index := by
  rcases Nat.lt_or_eq_of_le early with before | rfl
  · rw [offsetAt, offsetAt, (splice.before index before).1]
    have inside : index < stream.size :=
      Nat.lt_of_lt_of_le before (Nat.le_trans tag.ordered (Nat.le_of_lt tag.inside))
    obtain ⟨token, listed⟩ := Option.isSome_iff_exists.1 ((lt_size_iff stream index).1 inside)
    rw [listed]
    rfl
  · have behind := tag.opening_lt
    obtain ⟨last, rfl⟩ : ∃ last, index = last + 1 := ⟨index - 1, by omega⟩
    have inside : last < stream.size :=
      Nat.lt_of_lt_of_le (Nat.lt_of_succ_le tag.ordered) (Nat.le_of_lt tag.inside)
    obtain ⟨token, listed⟩ := Option.isSome_iff_exists.1 ((lt_size_iff stream last).1 inside)
    have also : other.tokens[last]? = some token :=
      (splice.before last (Nat.lt_succ_self last)).1.trans listed
    rw [← (tiled.stop listed).1, ← (tiled'.stop also).1]

/-- The offsets from the closing token on. -/
theorem Spliced.offsetAt_after (splice : stream.Spliced other first closing closing')
    (tiled : stream.Tiled) (tiled' : other.Tiled) (count : Nat) :
    other.offsetAt (closing' + count) =
      other.offsetAt closing' + (stream.offsetAt (closing + count) - stream.offsetAt closing) := by
  have moved {count : Nat} {token : Token} (listed : stream.tokens[closing + count]? = some token) :
      other.tokens[closing' + count]? =
        some (token.moved (stream.offsetAt closing) (other.offsetAt closing')) := by
    rw [(splice.after count).1, listed, Option.map_some]
  induction count with
  | zero => simp
  | succ count ih =>
    cases listed : stream.tokens[closing + count]? with
    | some token =>
      rw [← Nat.add_assoc, ← Nat.add_assoc, ← (tiled.stop listed).1,
        ← (tiled'.stop (moved listed)).1]
      rfl
    | none =>
      have beyond : stream.size ≤ closing + count := Array.getElem?_eq_none_iff.1 listed
      have beyond' : other.size ≤ closing' + count := by
        apply Array.getElem?_eq_none_iff.1
        rw [(splice.after count).1, listed, Option.map_none]
      have end_ : stream.offsetAt (closing + (count + 1)) = stream.offsetAt (closing + count) := by
        rw [offsetAt_of_size_le beyond, offsetAt_of_size_le (by omega)]
      have end_' : other.offsetAt (closing' + (count + 1)) = other.offsetAt (closing' + count) := by
        rw [offsetAt_of_size_le beyond', offsetAt_of_size_le (by omega)]
      rw [end_, end_', ih]

end

end TokenStream

/-- Trees in a row that are a tag in either stream, from its start delimiter to its closing token.
Nothing is said about those in between, but that they cover the tokens there. -/
def Shape.Across (opening closing closing' : Nat) (left right : List Shape) : Prop :=
  ∃ inside inside', left = .token opening :: (inside ++ [.token closing]) ∧
    Shape.leavesAll inside = List.range' (opening + 1) (closing - (opening + 1)) ∧
    right = .token opening :: (inside' ++ [.token closing']) ∧
    Shape.leavesAll inside' = List.range' (opening + 1) (closing' - (opening + 1))

/-! ### Reports in corresponding places -/

/-- The diagnostic stands before an offset or after another one. -/
def Diagnostic.outside (start stop : Nat) (diagnostic : Diagnostic) : Bool :=
  diagnostic.offset < start || stop < diagnostic.offset

/-- The same diagnostic, moved with what comes after a tag if it does not stand before the tag. -/
def Diagnostic.moved (start origin target : Nat) (diagnostic : Diagnostic) : Diagnostic :=
  if diagnostic.offset < start then diagnostic
  else { diagnostic with offset := target + (diagnostic.offset - origin) }

namespace Parser

variable {keep keep' : Diagnostic → Bool} {move : Diagnostic → Diagnostic}

/-- A report that is counted only is noticed; any other is the last one. -/
theorem Findings.of_add {found : Findings} {limit : Nat} {diagnostic : Diagnostic}
    (none : (found.add limit diagnostic).beyond = 0) : found.beyond = 0 ∧
      (found.add limit diagnostic).recorded.toList = found.recorded.toList ++ [diagnostic] := by
  rw [Findings.add] at none ⊢
  by_cases full : limit ≤ found.recorded.size
  · rw [if_pos full] at none
    contradiction
  · rw [if_neg full] at none ⊢
    exact ⟨none, Array.toList_push⟩

/-- If nothing was left out, the diagnostics to keep on one side are those of the other, moved. -/
def Findings.Related (keep keep' : Diagnostic → Bool) (move : Diagnostic → Diagnostic)
    (one other : Findings) : Prop :=
  one.beyond = 0 → other.beyond = 0 →
    other.recorded.toList.filter keep' = (one.recorded.toList.filter keep).map move

variable {one other : Findings} {diagnostic diagnostic' : Diagnostic}

/-- What is not kept may be reported on the left alone. -/
theorem Findings.Related.left (related : one.Related keep keep' move other)
    (dropped : keep diagnostic = false) (limit : Nat) :
    (one.add limit diagnostic).Related keep keep' move other := by
  intro none none'
  obtain ⟨before, recorded⟩ := of_add none
  rw [recorded, List.filter_append, List.filter_cons_of_neg (by simp [dropped]), List.filter_nil,
    List.append_nil]
  exact related before none'

/-- What is not kept may be reported on the right alone. -/
theorem Findings.Related.right (related : one.Related keep keep' move other)
    (dropped : keep' diagnostic = false) (limit : Nat) :
    one.Related keep keep' move (other.add limit diagnostic) := by
  intro none none'
  obtain ⟨before, recorded⟩ := of_add none'
  rw [recorded, List.filter_append, List.filter_cons_of_neg (by simp [dropped]), List.filter_nil,
    List.append_nil]
  exact related none before

/-- What is reported on both sides is kept on both or on neither. -/
theorem Findings.Related.both (related : one.Related keep keep' move other)
    (same : keep' diagnostic' = keep diagnostic)
    (moved : keep diagnostic = true → move diagnostic = diagnostic') (limit : Nat) :
    (one.add limit diagnostic).Related keep keep' move (other.add limit diagnostic') := by
  cases kept : keep diagnostic with
  | false => exact (related.left kept limit).right (same.trans kept) limit
  | true =>
    intro none none'
    obtain ⟨before, recorded⟩ := of_add none
    obtain ⟨before', recorded'⟩ := of_add none'
    rw [recorded, recorded', List.filter_append, List.filter_append, List.map_append,
      related before before', List.filter_cons_of_pos kept,
      List.filter_cons_of_pos (same.trans kept), List.filter_nil, List.filter_nil,
      List.map_singleton, moved kept]

end Parser
end Stencil
