import Stencil.Proofs.Lexer.Relex
/-!
# Restarting

The recorded modes are enough to restart a lexer at every token outside block tags. What a lexer
knows beyond its mode is whether a line starts, which the byte before tells as long as no closing
delimiter ends with a line feed, and whether raw content was announced, which is so in block tags
only. The delimiters of a settings file are trimmed, so none ends with a line feed
(`closed_of_trimmed`), and what is read from a restart point is what the stream has from there
(`restartPoint_resumes`).
-/

namespace Stencil

namespace Text

/-- A trimmed text does not end with a blank character. -/
theorem not_isBlank_of_trimmed {text : String} (trimmed : trim text = text) {last : Char}
    (ends : text.toList.getLast? = some last) : isBlank last = false := by
  have chars : trimChars text.toList = text.toList := by
    rw [← String.toList_ofList (l := trimChars text.toList)]
    exact congrArg String.toList trimmed
  rw [← chars, trimChars, List.getLast?_reverse] at ends
  have kept := List.head?_dropWhile_not isBlank (text.toList.dropWhile isBlank).reverse
  rw [ends] at kept
  simpa using kept

/-- The bytes of a trimmed text do not end with a line feed. -/
theorem getLast?_bytes_of_trimmed {text : String} (trimmed : trim text = text) :
    (bytes text).getLast? ≠ some Scan.lineFeed := by
  intro ends
  cases last : text.toList.getLast? with
  | none =>
    have empty : text.toList = [] := List.getLast?_eq_none_iff.1 last
    rw [bytes_eq, empty] at ends
    contradiction
  | some last' =>
    obtain ⟨before, split⟩ := List.getLast?_eq_some_iff.1 last
    have solid : String.utf8EncodeChar last' ≠ [] := String.utf8EncodeChar_ne_nil
    rw [bytes_eq, split, List.flatMap_append, List.flatMap_singleton,
      List.getLast?_append_of_ne_nil _ solid] at ends
    have single : bytes (String.singleton last') = String.utf8EncodeChar last' := by
      rw [bytes_eq, String.toList_singleton, List.flatMap_singleton]
    have member : Scan.lineFeed ∈ bytes (String.singleton last') := by
      rw [single]
      exact List.mem_of_getLast? ends
    have feed : last' = '\n' := by
      by_contra other
      refine Delimiters.lineFeed_not_mem_bytes ?_ member
      rw [String.toList_singleton, List.mem_singleton]
      exact fun same => other same.symm
    have kept := not_isBlank_of_trimmed trimmed last
    rw [feed] at kept
    contradiction

end Text

/-- The marks of a dialect whose values are trimmed do not end with a line feed. -/
theorem Delimiters.closed_of_trimmed {d : Delimiters}
    (trimmed : ∀ field, Text.trim (d.get field) = d.get field) : d.marks.Closed := by
  intro mark member
  simp only [List.mem_cons, List.not_mem_nil, or_false] at member
  rcases member with rfl | rfl | rfl
  · exact Text.getLast?_bytes_of_trimmed (trimmed .blockEnd)
  · exact Text.getLast?_bytes_of_trimmed (trimmed .variableEnd)
  · exact Text.getLast?_bytes_of_trimmed (trimmed .commentEnd)

/-- What a stream has from a token on. -/
def TokenStream.onward (stream : TokenStream) (place : Nat) : TokenStream :=
  { stream with
    tokens := stream.tokens.extract place stream.tokens.size
    modes := stream.modes.extract place stream.modes.size }

/-- The elements of an array from a place on. -/
theorem getElem?_extract_size {α : Type} (array : Array α) (place index : Nat) :
    (array.extract place array.size)[index]? = array[place + index]? := by
  rw [Array.getElem?_extract, Nat.min_self]
  split
  · rfl
  next past => exact (Array.getElem?_eq_none (by omega)).symm

namespace Lexer

variable {lexer later : Lexer} {stream : TokenStream}

/-- A twin of the lexer at a token reads what the stream has from there. -/
theorem Fills.onward (fills : lexer.Fills stream) (closed : lexer.marks.Closed) {place : Nat}
    (twins : (lexer.ahead place).Twins later) : later.Fills (stream.onward place) := by
  have marks : (lexer.ahead place).marks.Closed := by
    rw [marks_ahead]
    exact closed
  refine ⟨fun index => ?_, fun index => ?_, ?_⟩
  · rw [TokenStream.onward, getElem?_extract_size, twins.token? marks, token?_ahead]
    exact fills.tokens (place + index)
  · rw [TokenStream.onward, getElem?_extract_size, twins.token? marks, token?_ahead]
    exact fills.modes (place + index)
  · obtain ⟨count, empty, mode⟩ := fills.ended
    have there := twins.ahead marks count
    have late : lexer.ahead (place + count) = lexer.ahead count := by
      rw [Nat.add_comm, ← ahead_ahead, ahead_of_isEmpty (List.isEmpty_iff.2 empty)]
    rw [ahead_ahead, late] at there
    exact ⟨count, there.rest.trans empty, mode.trans there.mode.symm⟩

end Lexer

namespace TokenStream

variable {d : Delimiters} {source : String} {limit : Nat} {stream : TokenStream}

/-- Outside block tags, and at the first token, reading the rest of a source in the recorded mode
gives what its stream has from there. -/
theorem ofRange_onward (closed : d.marks.Closed) (read : ofSource source d limit = .ok stream)
    {place : Nat} (outside : ((Lexer.ofSource source d).ahead place).mode ≠ .blockTag) :
    ofRange source ((Lexer.ofSource source d).ahead place).offset source.utf8ByteSize
      ((Lexer.ofSource source d).ahead place).mode d limit = .ok (stream.onward place) := by
  obtain ⟨same, short, fills⟩ := ofSource_eq_ok_iff.1 read
  have there := (placed_ofSource source d).ahead closed place
  have fits := there.inside
  rw [Text.length_bytes] at fits
  have twins := twins_ofRange closed outside
  have marks : ((Lexer.ofSource source d).ahead place).marks.Closed := by
    rw [Lexer.marks_ahead]
    exact closed
  rw [ofRange_eq_ok_iff fits (Nat.le_refl _)]
  refine ⟨same, ?_, fills.onward closed twins⟩
  rw [twins.token? marks, Lexer.token?_ahead]
  exact Lexer.token?_mono short (Nat.le_add_left _ _)

/-- With trimmed delimiters every token of a source has a restart point: the start and the mode of
a token at or before it, and reading the rest of the source from there gives the tokens, the modes
and the end mode that the stream has from that token on. -/
theorem restartPoint_resumes (trimmed : ∀ field, Text.trim (d.get field) = d.get field)
    (read : ofSource source d limit = .ok stream) {index : Nat} (inside : index < stream.size) :
    ∃ place ≤ index, ∃ token mode, stream.tokens[place]? = some token ∧
      stream.modes[place]? = some mode ∧ stream.restartPoint index = .ok (token.start, mode) ∧
      ofRange source token.start source.utf8ByteSize mode d limit = .ok (stream.onward place) := by
  have closed := Delimiters.closed_of_trimmed trimmed
  obtain ⟨-, -, fills⟩ := ofSource_eq_ok_iff.1 read
  obtain ⟨place, before, restart, free⟩ := restartPoint_eq fills inside
  have within : place < stream.size := Nat.lt_of_le_of_lt before inside
  have outside : ((Lexer.ofSource source d).ahead place).mode ≠ .blockTag := by
    rcases free with rfl | outside
    · -- A source begins between tags.
      exact nofun
    · exact outside
  exact ⟨place, before, _, _, fills.getElem?_tokens within, fills.getElem?_modes within, restart,
    ofRange_onward closed read outside⟩

/-- A restart point inside a tag, with a raw block before it. -/
theorem restartPoint_resumes_within_tag :
    (∀ field, Text.trim ((Delimiters.stock "%%" "##").get field) =
      (Delimiters.stock "%%" "##").get field) ∧
      ∃ stream, ofSource "a\n\x7b% raw %\x7d x" (Delimiters.stock "%%" "##") = .ok stream ∧
        4 < stream.size ∧ ∃ place ≤ 4, ∃ token mode, stream.tokens[place]? = some token ∧
          stream.modes[place]? = some mode ∧ stream.restartPoint 4 = .ok (token.start, mode) ∧
          ofRange "a\n\x7b% raw %\x7d x" token.start "a\n\x7b% raw %\x7d x".utf8ByteSize mode
            (Delimiters.stock "%%" "##") = .ok (stream.onward place) := by
  have trimmed : ∀ field, Text.trim ((Delimiters.stock "%%" "##").get field) =
      (Delimiters.stock "%%" "##").get field := by
    intro field
    cases field <;> decide
  have size : (ofSource "a\n\x7b% raw %\x7d x" (Delimiters.stock "%%" "##")).map size = .ok 8 := by
    decide +kernel
  cases read : ofSource "a\n\x7b% raw %\x7d x" (Delimiters.stock "%%" "##") with
  | error fault =>
    rw [read] at size
    contradiction
  | ok stream =>
    rw [read] at size
    have inside : 4 < stream.size := by
      rw [Except.ok.inj size]
      decide
    exact ⟨trimmed, stream, rfl, inside, restartPoint_resumes trimmed read inside⟩

end TokenStream
end Stencil
