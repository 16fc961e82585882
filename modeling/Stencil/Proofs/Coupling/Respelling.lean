import Stencil.Proofs.Coupling.Embedding
import Stencil.Proofs.Lexer.Respelling
/-!
# Templates in another dialect

What the parser sees of a stream are the kinds of its tokens and their modes. So a source that is
respelled in another dialect, with nothing read as a delimiter that was none, is parsed into the
same tree up to places, with the same reports about the same tokens (`TokenStream.respelled_parse`).
-/

namespace Stencil

open Stencil.Parser

namespace TokenStream

variable {one two : TokenStream}

/-- Streams with the same kinds and modes are parsed in the same way. -/
theorem profiled_parse (kinds : ∀ index, two.kindAt? index = one.kindAt? index)
    (modes : two.modes = one.modes) (ends : two.endMode = one.endMode) (limits : ParseLimits) :
    (two.parse limits).tree.unplaced = (one.parse limits).tree.unplaced ∧
      List.Forall₂ (Diagnostic.Aligned one two) (one.parse limits).diagnostics.toList
        (two.parse limits).diagnostics.toList ∧
      (two.parse limits).statistics = (one.parse limits).statistics := by
  have inside (index : Nat) : index < two.size ↔ index < one.size := by
    rw [← kindAt?_isSome, ← kindAt?_isSome, kinds]
  have size : two.size = one.size := by
    apply Nat.le_antisymm
    · exact Nat.le_of_not_lt fun less => Nat.lt_irrefl _ ((inside _).1 less)
    · exact Nat.le_of_not_lt fun less => Nat.lt_irrefl _ ((inside _).2 less)
  have after (index : Nat) : two.modeAfter? index = one.modeAfter? index := by
    rw [modeAfter?, modeAfter?, size, modes, ends]
  have level : (Embedding.aligned one two).Level 0 := fun place _ _ =>
    iff_of_eq (congrArg (· = some TokenKind.whitespace) (kinds place))
  have coupling : Coupling (Embedding.aligned one two).Throughout :=
    Embedding.coupling_throughout kinds after fun _ _ => trivial
  exact aligned_parse size level coupling.outer limits

variable {source : String} {d d' : Delimiters} {limit : Nat}

/-- A source that is respelled in another dialect, where nothing that is copied is read as a
delimiter, gives the same kinds of tokens in the same modes, with the same texts but those of
delimiters, and so the same tree up to places. -/
theorem respelled_parse (plain : d.Plain) (plain' : d'.Plain)
    (read : ofSource source d limit = .ok one) (regular : one.Regular) (clear : one.Respells d') :
    ∃ two, ofSource (one.respelled d' one.size) d' limit = .ok two ∧
      (∀ index, two.kindAt? index = one.kindAt? index) ∧
      (∀ index, two.textAt index = one.spelledAt d' index) ∧
      two.modes = one.modes ∧ two.endMode = one.endMode ∧
      ∀ limits, (two.parse limits).tree.unplaced = (one.parse limits).tree.unplaced ∧
        List.Forall₂ (Diagnostic.Aligned one two) (one.parse limits).diagnostics.toList
          (two.parse limits).diagnostics.toList ∧
        (two.parse limits).statistics = (one.parse limits).statistics := by
  obtain ⟨two, read', kinds, texts, modes, ends⟩ :=
    ofSource_respelled plain.lineless plain' read regular clear
  exact ⟨two, read', kinds, texts, modes, ends, profiled_parse kinds modes ends⟩

/-- A point in a tag and a comment, respelled with delimiters of one and of three characters. -/
theorem respelled_parse_attribute :
    let d' : Delimiters :=
      { blockStart := "<%", blockEnd := "%>", variableStart := "$", variableEnd := "!",
        commentStart := "<--", commentEnd := "-->" }
    let one : TokenStream := ⟨"a\x7b\x7b x.y \x7d\x7d\x7b#b#\x7d",
      #[⟨.text, 0, 1⟩, ⟨.delimiter .variableStart, 1, 3⟩, ⟨.whitespace, 3, 4⟩,
        ⟨.identifier, 4, 5⟩, ⟨.punctuation .dot, 5, 6⟩, ⟨.identifier, 6, 7⟩, ⟨.whitespace, 7, 8⟩,
        ⟨.delimiter .variableEnd, 8, 10⟩, ⟨.delimiter .commentStart, 10, 12⟩, ⟨.text, 12, 13⟩,
        ⟨.delimiter .commentEnd, 13, 15⟩],
      #[.template, .template, .variableTag, .variableTag, .variableTag, .variableTag, .variableTag,
        .variableTag, .template, .comment, .comment], .template⟩
    let source := "a$ x.y !<--b-->"
    Delimiters.Plain {} ∧ d'.Plain ∧ ofSource one.source {} = .ok one ∧ one.Regular ∧
      one.Respells d' ∧ one.respelled d' one.size = source ∧
      ∃ two, ofSource source d' = .ok two ∧ (∀ index, two.kindAt? index = one.kindAt? index) ∧
        (∀ index, two.textAt index = one.spelledAt d' index) ∧
        two.modes = one.modes ∧ two.endMode = one.endMode ∧
        (two.parse ⟨8, 8⟩).tree.unplaced = (one.parse ⟨8, 8⟩).tree.unplaced ∧
        List.Forall₂ (Diagnostic.Aligned one two) (one.parse ⟨8, 8⟩).diagnostics.toList
          (two.parse ⟨8, 8⟩).diagnostics.toList ∧
        (two.parse ⟨8, 8⟩).statistics = (one.parse ⟨8, 8⟩).statistics := by
  intro d' one source
  have plain : Delimiters.Plain {} :=
    ⟨by decide, fun field => by cases field <;> decide, rfl, rfl⟩
  have plain' : d'.Plain :=
    ⟨by decide, fun field => by cases field <;> decide, rfl, rfl⟩
  have read : ofSource one.source {} = .ok one := ofSource_of_isFresh (by decide +kernel)
  have inside {index : Nat} {kind : TokenKind} (found : one.kindAt? index = some kind) :
      index < 11 := by
    apply Nat.lt_of_not_le
    intro past
    rw [(of_size_le past).1] at found
    contradiction
  have noRaw : ∀ index < 11, one.kindAt? index ≠ some (.keyword .rawKw) := by decide
  have spaced : ∀ index < 11, ∀ closer ∈ [Delimiter.blockEnd, .variableEnd],
      one.kindAt? (index + 1) = some (.delimiter closer) →
        one.kindAt? index = some .whitespace := by decide
  have regular : one.Regular :=
    ⟨rfl, fun index raw => noRaw index (inside raw) raw, fun {index closer} closes ends =>
      spaced index (Nat.lt_of_succ_lt (inside ends)) closer (by simpa using closes) ends⟩
  have text : ∀ index < 11, one.kindAt? index = some .text →
      one.modes[index]? = some .template → ∀ byte < (one.textAt index).utf8ByteSize,
      ∀ start ∈ [Delimiter.blockStart, .variableStart, .commentStart],
        ¬d'.Spells start (one.respelled d' one.size)
          ((one.respelled d' index).utf8ByteSize + byte) := by decide +kernel
  have comment : ∀ index < 11, one.kindAt? index = some .text →
      one.modes[index]? = some .comment → ∀ byte < (one.textAt index).utf8ByteSize,
        ¬d'.Spells .commentEnd (one.respelled d' one.size)
          ((one.respelled d' index).utf8ByteSize + byte) := by decide +kernel
  have tag : ∀ index < 11, ∀ entry ∈ [(Mode.blockTag, Delimiter.blockEnd),
      (.variableTag, .variableEnd)], one.modes[index]? = some entry.1 →
        one.kindAt? index = some (.delimiter entry.2) ∨
          ¬d'.Spells entry.2 (one.respelled d' one.size)
            (one.respelled d' index).utf8ByteSize := by decide +kernel
  have clear : one.Respells d' := {
    text := fun {index byte start} kind read within starts =>
      text index (inside kind) kind read byte within start (by simpa using starts)
    comment := fun {index byte} kind read within =>
      comment index (inside kind) kind read byte within
    tag := fun {index mode closer} copied read closes => by
      have before : index < 11 := (Array.getElem?_eq_some_iff.1 read).1
      exact (tag index before (mode, closer) (by simpa using closes) read).resolve_left
        (copied closer) }
  have respelled : one.respelled d' one.size = source := by decide
  obtain ⟨two, read', kinds, texts, modes, ends, parsed⟩ :=
    respelled_parse plain plain' read regular clear
  rw [respelled] at read'
  exact ⟨plain, plain', read, regular, clear, respelled, two, read', kinds, texts, modes, ends,
    parsed ⟨8, 8⟩⟩

end TokenStream
end Stencil
