import Stencil.Proofs.Lexer.Delimited
import Stencil.Proofs.Lexer.Relex
/-!
# What is kept of a stream after an edit

With delimiters of one's own a stream that is read again after an edit keeps tokens of which reading
the new source anew has the same (`TokenStream.relex_reuses`), with two exceptions. A delimiter that
ends variable tags may be made of bytes that are tokens of their own, and reach from a token that is
kept over the edit (`TokenStream.relex_reuses_split`). And a delimiter that ends block tags may be
the beginning of the word that ends a raw block, so that the edit cuts this word.
-/

namespace Stencil
namespace Delimiters

/-- No delimiter has white space in it. -/
def IsSolid (d : Delimiters) : Prop := ∀ field, ∀ c ∈ (d.get field).toList, Text.isBlank c = false

variable {d : Delimiters} (solid : d.IsSolid)

include solid

/-- A blank character of one byte is in no delimiter. -/
theorem blank_not_mem_bytes (field : Field) {c : Char} {b : UInt8}
    (single : String.utf8EncodeChar c = [b]) (blank : Text.isBlank c = true) :
    b ∉ Text.bytes (d.get field) := by
  refine not_mem_bytes single fun member => ?_
  rw [solid field c member] at blank
  contradiction

/-- There is no line feed in a delimiter. -/
theorem feed_not_mem_bytes (field : Field) : Scan.lineFeed ∉ Text.bytes (d.get field) :=
  blank_not_mem_bytes solid field (c := '\n') (by decide) (by decide)

/-- Usable delimiters without white space are told apart, unless one cuts the word that ends a raw
block. -/
theorem marks_apart (valid : d.isValid = true)
    (whole : d.blockEnd.toList <+: "endraw".toList → d.blockEnd = "endraw") : d.marks.Apart where
  openers _ one _ other := eq_of_infix_openers valid one other
  feeds opener member := by
    have fields : d.marks.openers = Field.openers.map fun field => Text.bytes (d.get field) := rfl
    rw [fields] at member
    obtain ⟨field, -, rfl⟩ := List.mem_map.1 member
    exact feed_not_mem_bytes solid field
  solid b member := by
    have space : b ≠ 32 := fun same => blank_not_mem_bytes solid .blockEnd (c := ' ')
      (by decide) (by decide) (same ▸ member)
    have tab : b ≠ 9 := fun same => blank_not_mem_bytes solid .blockEnd (c := '\t')
      (by decide) (by decide) (same ▸ member)
    have ret : b ≠ 13 := fun same => blank_not_mem_bytes solid .blockEnd (c := '\r')
      (by decide) (by decide) (same ▸ member)
    refine ⟨?_, fun same => feed_not_mem_bytes solid .blockEnd (same ▸ member)⟩
    rw [Scan.isInlineSpace, decide_eq_false space, decide_eq_false tab, decide_eq_false ret]
    rfl
  endRaw begins := by
    obtain ⟨more, spelled⟩ := begins
    change Text.bytes d.blockEnd ++ more = Text.bytes "endraw" at spelled
    rw [Text.bytes_eq, Text.bytes_eq] at spelled
    exact .inr (congrArg Text.bytes (whole (Text.isPrefix_of_bytes spelled)))

/-- Delimiters without white space do not end with a line feed. -/
theorem marks_closed : d.marks.Closed := by
  intro mark member ends
  have inside := List.mem_of_getLast? ends
  simp only [List.mem_cons, List.not_mem_nil, or_false] at member
  rcases member with rfl | rfl | rfl
  · exact feed_not_mem_bytes solid .blockEnd inside
  · exact feed_not_mem_bytes solid .variableEnd inside
  · exact feed_not_mem_bytes solid .commentEnd inside

end Delimiters

namespace TokenStream

variable {d : Delimiters} {source text : String} {stream : TokenStream} {limit edit offset : Nat}
  {mode : Mode}

/-- What is kept of a stream when it is read again after an edit, reading the new source anew has
too: the same tokens at the same places, in the same modes. This is so with delimiters without white
space of which the end of a block tag is no mere beginning of `endraw`, if no end of a variable tag
reaches from three bytes before the edit or more over it. -/
theorem relex_reuses (valid : d.isValid = true) (solid : d.IsSolid)
    (whole : d.blockEnd.toList <+: "endraw".toList → d.blockEnd = "endraw")
    (read : ofSource source d limit = .ok stream)
    (agree : Scan.Agree edit (Text.bytes source) (Text.bytes text))
    (unsplit : Lexer.Unsplit (Text.bytes d.variableEnd) (Text.bytes text) edit)
    (point : stream.relexPoint? edit = some (offset, mode)) {index : Nat}
    (kept : index < stream.keptBefore offset) :
    ∃ lexed, (Lexer.ofSource text d).readAll.1[index]? = some lexed ∧
      stream.tokens[index]? = some lexed.token ∧ stream.modes[index]? = some lexed.mode ∧
      ∀ bound result, stream.relex text edit d bound = .ok result →
        result.tokens[index]? = some lexed.token ∧ result.modes[index]? = some lexed.mode := by
  obtain ⟨rfl, -, fills⟩ := ofSource_eq_ok_iff.1 read
  have some : 0 < stream.size := by
    have few : stream.keptBefore offset ≤ stream.tokens.toList.length :=
      (List.takeWhile_prefix _).length_le
    rw [Array.length_toList] at few
    exact Nat.lt_of_le_of_lt (Nat.zero_le index) (Nat.lt_of_lt_of_le kept few)
  obtain ⟨place, inside, -, again, -, same⟩ := relexPoint?_onto
    (Delimiters.marks_apart solid valid whole) (Delimiters.marks_closed solid) fills agree unsplit
    some
  obtain ⟨rfl, rfl⟩ := Prod.mk.inj (Option.some.inj (point.symm.trans again))
  rw [keptBefore_offset fills inside] at kept
  have within : index < stream.size := Nat.lt_trans kept inside
  have token := fills.getElem?_tokens within
  have mode := fills.getElem?_modes within
  have size := fills.size_modes
  obtain ⟨lexed, found⟩ : ∃ lexed, (Lexer.ofSource stream.source d).token? index = .some lexed := by
    have listed := fills.tokens index
    rw [token] at listed
    obtain ⟨lexed, found, -⟩ := Option.map_eq_some_iff.1 listed.symm
    exact ⟨lexed, found⟩
  have tokens : stream.tokens[index]? = .some lexed.token := by rw [fills.tokens, found]; rfl
  have modes : stream.modes[index]? = .some lexed.mode := by rw [fills.modes, found]; rfl
  refine ⟨lexed, ?_, tokens, modes, fun bound result ok => ?_⟩
  · rw [Lexer.getElem?_readAll, same index kept, found]
  · rw [relex, again] at ok
    simp only [keptBefore_offset fills inside] at ok
    cases tail : ofRange text ((Lexer.ofSource stream.source d).ahead place).offset
      text.utf8ByteSize ((Lexer.ofSource stream.source d).ahead place).mode d bound with
    | error fault =>
      rw [tail] at ok
      contradiction
    | ok tail' =>
      rw [tail] at ok
      obtain rfl := Except.ok.inj ok
      have first : place ≤ stream.tokens.size := Nat.le_of_lt inside
      rw [getElem?_take_append first, getElem?_take_append (size.symm ▸ first), if_pos kept,
        if_pos kept]
      exact ⟨tokens, modes⟩

/-- A delimiter of four bytes, and an edit behind it. -/
theorem relex_reuses_long :
    let d : Delimiters := { variableStart := "[[[[", variableEnd := "]]]]" }
    let stream : TokenStream := ⟨"[[[[ a ]]]] b",
      #[⟨.delimiter .variableStart, 0, 4⟩, ⟨.whitespace, 4, 5⟩, ⟨.identifier, 5, 6⟩,
        ⟨.whitespace, 6, 7⟩, ⟨.delimiter .variableEnd, 7, 11⟩, ⟨.text, 11, 13⟩],
      #[.template, .variableTag, .variableTag, .variableTag, .variableTag, .template], .template⟩
    let text := "[[[[ a ]]]] b]"
    d.isValid = true ∧ d.IsSolid ∧
      (d.blockEnd.toList <+: "endraw".toList → d.blockEnd = "endraw") ∧
      ofSource stream.source d = .ok stream ∧
      Scan.Agree 13 (Text.bytes stream.source) (Text.bytes text) ∧
      Lexer.Unsplit (Text.bytes d.variableEnd) (Text.bytes text) 13 ∧
      stream.relexPoint? 13 = some (7, .variableTag) ∧ 3 < stream.keptBefore 7 ∧
      ∃ lexed, (Lexer.ofSource text d).readAll.1[3]? = some lexed ∧
        stream.tokens[3]? = some lexed.token ∧ stream.modes[3]? = some lexed.mode := by
  intro d stream text
  have valid : d.isValid = true := by decide +kernel
  have solid : d.IsSolid := by
    intro field c member
    have each : (d.get field).toList.all (fun c => !Text.isBlank c) = true := by
      cases field <;> decide +kernel
    simpa using List.all_eq_true.1 each c member
  have whole : d.blockEnd.toList <+: "endraw".toList → d.blockEnd = "endraw" := by decide +kernel
  have read : ofSource stream.source d = .ok stream := ofSource_of_isFresh (by decide +kernel)
  have agree : Scan.Agree 13 (Text.bytes stream.source) (Text.bytes text) := by decide +kernel
  have unsplit : Lexer.Unsplit (Text.bytes d.variableEnd) (Text.bytes text) 13 := by
    intro place before beyond
    have size : (Text.bytes d.variableEnd).length = 4 := by decide +kernel
    obtain rfl : place = 10 := by omega
    decide +kernel
  have point : stream.relexPoint? 13 = some (7, .variableTag) := by decide +kernel
  have kept : 3 < stream.keptBefore 7 := by decide +kernel
  obtain ⟨lexed, found, token, mode, -⟩ :=
    relex_reuses valid solid whole read agree unsplit point kept
  exact ⟨valid, solid, whole, read, agree, unsplit, point, kept, lexed, found, token, mode⟩

/-- The delimiter `=)+(` is made of tokens. Of these the first is kept when the last is put in, but
reading anew finds the delimiter. -/
theorem relex_reuses_split :
    let d : Delimiters := { variableEnd := "=)+(" }
    let stream : TokenStream := ⟨"\x7b\x7ba=)+",
      #[⟨.delimiter .variableStart, 0, 2⟩, ⟨.identifier, 2, 3⟩, ⟨.operator .assign, 3, 4⟩,
        ⟨.punctuation .rightParen, 4, 5⟩, ⟨.operator .plus, 5, 6⟩],
      #[.template, .variableTag, .variableTag, .variableTag, .variableTag], .variableTag⟩
    let text := "\x7b\x7ba=)+("
    d.isValid = true ∧ d.IsSolid ∧ ofSource stream.source d = .ok stream ∧
      Scan.Agree 6 (Text.bytes stream.source) (Text.bytes text) ∧
      stream.relexPoint? 6 = some (4, .variableTag) ∧ 2 < stream.keptBefore 4 ∧
      stream.tokens[2]? = some ⟨.operator .assign, 3, 4⟩ ∧
      ((Lexer.ofSource text d).readAll.1[2]?).map (·.token) =
        some ⟨.delimiter .variableEnd, 3, 7⟩ := by
  intro d stream text
  have solid : d.IsSolid := by
    intro field c member
    have each : (d.get field).toList.all (fun c => !Text.isBlank c) = true := by
      cases field <;> decide +kernel
    simpa using List.all_eq_true.1 each c member
  exact ⟨by decide +kernel, solid, ofSource_of_isFresh (by decide +kernel), by decide +kernel,
    by decide +kernel, by decide +kernel, by decide, by decide +kernel⟩

end TokenStream
end Stencil
