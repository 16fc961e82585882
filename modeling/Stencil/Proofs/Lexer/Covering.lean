import Stencil.Proofs.Lexer.Boundaries
/-!
# Tokens spell their source

Tokens that tile a source and start and end at character boundaries cut it into texts, which give
the source again when they are put together. So a stream that was read covers its source
(`Lexer.readAll_boundaries`): nothing is lost at a token that would be cut inside a character.
-/

namespace Stencil

/-- Tokens that tile a range are contiguous up to its end. -/
theorem Tiles.contiguous {start stop : Nat} {tokens : List Token} (tiles : Tiles start stop tokens)
    (index : Nat) : TokenStream.contiguous index start tokens = .ok stop := by
  induction tiles generalizing index with
  | nil => rfl
  | @cons token _ _ solid _ ih =>
    have some : ¬token.isEmpty = true := by
      rw [Token.isEmpty, decide_eq_true_eq]
      exact Nat.ne_of_lt solid
    rw [TokenStream.contiguous, if_neg (not_not_intro rfl), if_neg some]
    exact ih (index + 1)

/-- The texts of tokens that tile a range of whole characters are the text of the range. -/
theorem Tiles.spells {source : String} {start stop : Nat} {tokens : List Token}
    (tiles : Tiles start stop tokens)
    (whole : ∀ token ∈ tokens, (⟨token.start⟩ : String.Pos.Raw).IsValid source ∧
      (⟨token.stop⟩ : String.Pos.Raw).IsValid source)
    (ends : (⟨stop⟩ : String.Pos.Raw).IsValid source) (before : String) :
    tokens.foldl (fun out token => out ++ token.text source) before =
      before ++ Text.slice source start stop := by
  induction tiles generalizing before with
  | nil offset => rw [List.foldl_nil, Text.slice_self, String.append_empty]
  | @cons token stop _ solid further ih =>
    have later : token.stop ≤ stop := Nat.le_of_add_right_le further.length_le
    obtain ⟨begins, meets⟩ := whole token List.mem_cons_self
    rw [List.foldl_cons, ih (fun other listed => whole other (List.mem_cons_of_mem _ listed)) ends,
      String.append_assoc, Token.text,
      Text.slice_append (Nat.le_of_lt solid) later begins meets ends]

namespace TokenStream

variable {stream : TokenStream}

/-- A stream that tiles its source covers it. -/
theorem Tiled.coverage (tiled : stream.Tiled) : stream.coverage = .ok () := by
  rw [TokenStream.coverage]
  cases first : stream.tokens[0]? with
  | none => rfl
  | some token =>
    have head := Tiles.head tiled
    rw [Array.getElem?_toList, first] at head
    have start : token.start = 0 := head
    dsimp only
    rw [start, Tiles.contiguous tiled]
    exact if_neg (not_not_intro rfl)

/-- A stream that tiles its source with whole characters spells it. -/
theorem Tiled.text_eq (tiled : stream.Tiled)
    (whole : ∀ token ∈ stream.tokens, (⟨token.start⟩ : String.Pos.Raw).IsValid stream.source ∧
      (⟨token.stop⟩ : String.Pos.Raw).IsValid stream.source) : stream.text = stream.source := by
  have ends : (⟨stream.source.utf8ByteSize⟩ : String.Pos.Raw).IsValid stream.source :=
    String.Pos.Raw.isValid_rawEndPos
  have spelled := Tiles.spells tiled
    (fun token listed => whole token (Array.mem_toList_iff.1 listed)) ends ""
  rw [Array.foldl_toList, String.empty_append, Text.slice_all] at spelled
  exact spelled

end TokenStream

namespace Lexer

/-- The tokens of a range between character boundaries start and end at character boundaries, with
any delimiters and from any mode. So the tokens of a whole source cover it, and their texts are the
source again. -/
theorem readAll_boundaries (source : String) {start stop : Nat} (mode : Mode) (d : Delimiters)
    (begins : (⟨start⟩ : String.Pos.Raw).IsValid source)
    (ends : (⟨stop⟩ : String.Pos.Raw).IsValid source) :
    (∀ lexed ∈ (ofRange source start stop mode d).readAll.1,
      (⟨lexed.token.start⟩ : String.Pos.Raw).IsValid source ∧
        (⟨lexed.token.stop⟩ : String.Pos.Raw).IsValid source) ∧
    ∀ limit stream, TokenStream.ofSource source d limit = .ok stream →
      stream.text = source ∧ stream.coverage = .ok () := by
  constructor
  · intro lexed listed
    obtain ⟨place, found⟩ := Array.getElem?_of_mem listed
    rw [getElem?_readAll, token?] at found
    split at found
    · contradiction
    next some =>
      obtain rfl := Option.some.inj found
      have further := isValid_offset_ahead mode d begins ends (place + 1)
      rw [ahead, step_of_some (by simpa using some)] at further
      exact ⟨isValid_offset_ahead mode d begins ends place, further⟩
  · intro limit stream read
    obtain ⟨-, tiled⟩ := TokenStream.delimited_ofSource read
    obtain ⟨same, -⟩ := (TokenStream.ofRange_eq_ok_iff (Nat.zero_le _) (Nat.le_refl _)).1 read
    refine ⟨?_, tiled.coverage⟩
    rw [← same] at read
    rw [tiled.text_eq, same]
    intro token listed
    obtain ⟨index, found⟩ := Array.getElem?_of_mem listed
    exact TokenStream.isValid_of_ofSource read found

/-- A range that begins and ends within a source, in a variable tag whose end is not in ASCII. A
backslash in a literal takes all of the character after it. -/
theorem readAll_boundaries_escape :
    let d : Delimiters := { variableEnd := "€…" }
    let stream : TokenStream := ⟨"é\x7b\x7b'\\ü'€…ß",
      #[⟨.text, 0, 2⟩, ⟨.delimiter .variableStart, 2, 4⟩, ⟨.literal .string, 4, 9⟩,
        ⟨.delimiter .variableEnd, 9, 15⟩, ⟨.text, 15, 17⟩],
      #[.template, .template, .variableTag, .variableTag, .template], .template⟩
    let source := stream.source
    let lexed := (ofRange source 4 15 .variableTag d).readAll.1
    (⟨4⟩ : String.Pos.Raw).IsValid source ∧ (⟨15⟩ : String.Pos.Raw).IsValid source ∧
      TokenStream.ofSource source d = .ok stream ∧
      lexed.map (·.token) = #[⟨.literal .string, 4, 9⟩, ⟨.delimiter .variableEnd, 9, 15⟩] ∧
      (∀ entry ∈ lexed, (⟨entry.token.start⟩ : String.Pos.Raw).IsValid source ∧
        (⟨entry.token.stop⟩ : String.Pos.Raw).IsValid source) ∧
      stream.text = source ∧ stream.coverage = .ok () := by
  intro d stream source lexed
  have begins : (⟨4⟩ : String.Pos.Raw).IsValid source := by decide
  have ends : (⟨15⟩ : String.Pos.Raw).IsValid source := by decide
  have read : TokenStream.ofSource source d = .ok stream :=
    TokenStream.ofSource_of_isFresh (by decide +kernel)
  obtain ⟨within, spelled⟩ := readAll_boundaries source .variableTag d begins ends
  exact ⟨begins, ends, read, by decide +kernel, within, spelled _ _ read⟩

end Lexer
end Stencil
