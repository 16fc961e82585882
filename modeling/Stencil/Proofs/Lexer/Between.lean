import Stencil.Proofs.Lexer.Table
/-!
# Between tags

A stream whose last token closes a tag or a comment has no open end: every tag is closed, and
outside of tags text leads to the next one as long as tokens are left (`TokenStream.Closed`).
-/

namespace Stencil

/-- The tokens that close tags and comments. -/
def TokenKind.Closes (kind : TokenKind) : Prop :=
  kind = .newline ∨ kind = .delimiter .blockEnd ∨ kind = .delimiter .variableEnd ∨
    kind = .delimiter .commentEnd

/-- What closes a tag leads out of it. -/
theorem Mode.Gives.of_closes {before after : Mode} {kind : TokenKind}
    (gives : before.Gives kind after) (closes : kind.Closes) :
    after = .template ∨ after = .raw := by
  rcases closes with rfl | rfl | rfl | rfl
  all_goals
    cases gives with
    | within tag _ => contradiction
    | _ => simp

namespace TokenStream

/-- The token that a tag is closed by is one that closes. -/
theorem closes_of_closerAt? {stream : TokenStream} {opening : Nat} {closer : TokenKind}
    (opens : stream.closerAt? opening = some closer) : closer.Closes := by
  rw [closerAt?] at opens
  split at opens
  · simp [TokenKind.Closes, ← Option.some.inj opens]
  · rw [← Option.some.inj opens]
    split <;> simp [TokenKind.Closes]
  · rw [← Option.some.inj opens]
    split <;> simp [TokenKind.Closes]
  · contradiction

/-- From a place on there is text up to a tag or a comment. -/
def Leads (stream : TokenStream) (index : Nat) : Prop :=
  ∃ opening closer, index ≤ opening ∧ stream.closerAt? opening = some closer ∧
    ∀ place, index ≤ place → place < opening →
      stream.kindAt? place = some .text ∨ stream.kindAt? place = some .newline

/-- From a place on there is text up to a tag or a comment, or nothing is left. -/
def Outside (stream : TokenStream) (index : Nat) : Prop := stream.size ≤ index ∨ stream.Leads index

/-- A stream in which every tag and every comment is closed, with text between them. -/
structure Closed (stream : TokenStream) : Prop where
  begins : stream.Outside 0
  tag {opening : Nat} {closer : TokenKind} (opens : stream.closerAt? opening = some closer) :
    ∃ stop, opening < stop ∧ stream.Loose (opening + 1) stop ∧
      stream.kindAt? stop = some closer ∧ stream.Outside (stop + 1)

variable {lexer : Lexer} {stream : TokenStream} (fills : lexer.Fills stream) {last : Delimiter}
  (closes : last = .blockEnd ∨ last = .variableEnd ∨ last = .commentEnd)
  (ends : stream.kindAt? (stream.size - 1) = some (.delimiter last))

/-- A tag begins with a token of the stream. -/
theorem lt_size_of_closerAt? {opening : Nat} {closer : TokenKind}
    (opens : stream.closerAt? opening = some closer) : opening < stream.size := by
  apply Nat.lt_of_not_le
  intro beyond
  rw [closerAt?, kindAt?, Array.getElem?_eq_none beyond] at opens
  contradiction

/-- A tag to which text leads begins with a token of the stream. -/
theorem Leads.lt_size {index : Nat} (leads : stream.Leads index) : index < stream.size :=
  have ⟨_, _, upTo, opens, _⟩ := leads
  Nat.lt_of_le_of_lt upTo (lt_size_of_closerAt? opens)

/-- Text leads on from a token that begins no tag. -/
theorem Leads.next {index : Nat} (leads : stream.Leads index)
    (none : stream.closerAt? index = none) : stream.Leads (index + 1) := by
  obtain ⟨opening, closer, upTo, opens, between⟩ := leads
  refine ⟨opening, closer, ?_, opens, fun place after => between place (Nat.le_of_lt after)⟩
  apply Nat.lt_of_le_of_ne upTo
  rintro rfl
  rw [none] at opens
  contradiction

include closes ends

/-- Nothing begins with the last token. -/
theorem succ_lt_size_of_closerAt? {opening : Nat} {closer : TokenKind}
    (opens : stream.closerAt? opening = some closer) : opening + 1 < stream.size := by
  have inside := lt_size_of_closerAt? opens
  apply Nat.lt_of_le_of_ne inside
  intro final
  obtain rfl : opening = stream.size - 1 := by omega
  rw [closerAt?, ends] at opens
  rcases closes with rfl | rfl | rfl <;> contradiction

include fills

omit closes in
/-- Outside of tags text leads to the next one. -/
theorem outside_of_fills {index : Nat} (inside : index ≤ stream.size)
    (mode : (lexer.ahead index).mode = .template ∨ (lexer.ahead index).mode = .raw) :
    stream.Outside index := by
  induction left : stream.size - index generalizing index with
  | zero => exact .inl (by omega)
  | succ left ih =>
    have before : index < stream.size := by omega
    have more := (fills.lt_size_iff index).1 before
    have kind := fills.kindAt?_eq before
    have gives := (lexer.ahead index).scan_rule.gives
    have onward := @ih (index + 1) before
    rw [Lexer.ahead, Lexer.step_of_some more, Lexer.after] at onward
    dsimp only at onward
    generalize (lexer.ahead index).scan.kind = found at kind gives
    generalize (lexer.ahead index).scan.mode = later at onward gives
    generalize (lexer.ahead index).mode = mode at mode gives
    have starts {closer : TokenKind} (opens : stream.closerAt? index = some closer) :
        stream.Outside index :=
      .inr ⟨index, closer, Nat.le_refl _, opens, fun place after before => by omega⟩
    have text (plain : found = .text ∨ found = .newline)
        (after : later = .template ∨ later = .raw) : stream.Outside index := by
      rcases onward after (by omega) with beyond | ⟨opening, closer, upTo, opens, between⟩
      · obtain rfl : index = stream.size - 1 := by omega
        rw [kind] at ends
        obtain rfl := Option.some.inj ends
        rcases plain with plain | plain <;> contradiction
      · refine .inr ⟨opening, closer, by omega, opens, fun place after before => ?_⟩
        rcases Nat.eq_or_lt_of_le after with rfl | further
        · exact plain.imp (fun plain => kind.trans (congrArg some plain))
            fun plain => kind.trans (congrArg some plain)
        · exact between place further before
    cases gives with
    | text | newline => exact text (by simp) (.inl rfl)
    | rawText => exact text (.inl rfl) (.inr rfl)
    | variableStart | blockStart | lineStatement | commentStart | lineComment | endRaw =>
      exact starts (by rw [closerAt?, kind])
    | within _ among => rcases mode with rfl | rfl <;> simp at among
    | _ => simp at mode

/-- A stream whose last token closes a tag or a comment is closed. -/
theorem closed_of_fills (start : lexer.mode = .template) : stream.Closed where
  begins := outside_of_fills fills ends (Nat.zero_le _) (.inl start)
  tag {opening closer} opens := by
    have further := succ_lt_size_of_closerAt? closes ends opens
    obtain ⟨stop, before, loose, ended⟩ := fills.loose (fills.closer?_eq opens)
    have found : stream.kindAt? stop = some closer := by
      refine ended.resolve_right fun none => ?_
      have beyond : stream.size ≤ stop := by
        rw [kindAt?, Option.map_eq_none_iff] at none
        exact Array.getElem?_eq_none_iff.1 none
      have token := loose (stream.size - 1) (by omega) (by omega)
      rw [ends] at token
      contradiction
    have inside : stop < stream.size := by
      obtain ⟨_, listed, -⟩ := Option.map_eq_some_iff.1 found
      exact (Array.getElem?_eq_some_iff.1 listed).1
    refine ⟨stop, before, loose, found, outside_of_fills fills ends inside ?_⟩
    have more := (fills.lt_size_iff stop).1 inside
    have gives := (lexer.ahead stop).scan_rule.gives
    have kind := Option.some.inj ((fills.kindAt?_eq inside).symm.trans found)
    rw [Lexer.ahead, Lexer.step_of_some more, Lexer.after]
    rw [kind] at gives
    exact gives.of_closes (closes_of_closerAt? opens)

end TokenStream
end Stencil
