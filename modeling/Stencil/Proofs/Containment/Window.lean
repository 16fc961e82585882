import Stencil.Proofs.Containment.Header
import Stencil.Proofs.Containment.Splice
import Stencil.Proofs.Parser.Coverage
/-!
# Windows

A parser that begins in a row of tokens without structural ones does not get beyond the end of the
row, since no step takes a structural token there. Two parsers that are compared stay in
corresponding windows (`Correspondence.within`), and one parser stays in its window by itself
(`Confined`): this is the comparison of the parser with itself.
-/

namespace Stencil

/-- Between two places no token is structural, and at the second one there is a structural token of
a kind or none. -/
structure TokenStream.Window (stream : TokenStream) (low high : Nat) (closer : TokenKind) :
    Prop where
  loose : stream.Loose low high
  closed : stream.kindAt? high = some closer ∨ stream.kindAt? high = none
  structural : closer.isStructural = true

namespace TokenStream.Window

variable {stream : TokenStream} {low high index : Nat} {closer kind : TokenKind}

/-- At the end of a window no token can be taken as one that is not structural. -/
theorem ne_high (window : stream.Window low high closer) (here : stream.kindAt? index = some kind)
    (loose : kind.isStructural = false) : index ≠ high := by
  rintro rfl
  rcases window.closed with closed | none
  · obtain rfl := Option.some.inj (here.symm.trans closed)
    exact Bool.false_ne_true (loose.symm.trans window.structural)
  · rw [here] at none
    contradiction

/-- In a window every token is loose or stands at the end and is the closer. -/
theorem loose_or (window : stream.Window low high closer) (after : low ≤ index)
    (before : index ≤ high) (here : stream.kindAt? index = some kind) :
    kind.isStructural = false ∨ kind = closer := by
  rcases Nat.lt_or_eq_of_le before with inside | rfl
  · have loose := window.loose index after inside
    rw [here, Option.any_some, Bool.not_eq_true'] at loose
    exact .inl loose
  · rcases window.closed with closed | none
    · exact .inr (Option.some.inj (here.symm.trans closed))
    · rw [here] at none
      contradiction

/-- Where the closer or no token is seen from a window, that is the end of the window. -/
theorem visible_eq (window : stream.Window low high closer) (after : low ≤ index)
    (before : index ≤ high) (arrived : stream.kindAt? (stream.visible index) = some closer ∨
      stream.kindAt? (stream.visible index) = none) : stream.visible index = high := by
  have ahead := stream.le_visible index
  -- No token up to the end of the window is white space and structural at once.
  have reach : stream.visible index ≤ high := by
    obtain ⟨count, rfl⟩ := Nat.exists_eq_add_of_le before
    clear arrived ahead
    induction count generalizing index with
    | zero =>
      have solid : stream.kindAt? index ≠ some .whitespace := by
        intro blank
        exact window.ne_high blank rfl rfl
      exact Nat.le_of_eq (stream.visible_of_not_space solid)
    | succ count ih =>
      by_cases blank : stream.kindAt? index = some .whitespace
      · rw [stream.visible_of_space blank]
        have window' := window
        rw [← Nat.add_assoc, Nat.add_right_comm] at window' ⊢
        exact ih (Nat.le_succ_of_le after) window' (Nat.le_add_right _ _)
      · rw [stream.visible_of_not_space blank]
        exact Nat.le_add_right _ _
  rcases Nat.lt_or_eq_of_le reach with inside | same
  · have loose := window.loose _ (Nat.le_trans after ahead) inside
    rcases arrived with closed | none
    · rw [closed, Option.any_some, window.structural] at loose
      contradiction
    · rw [none] at loose
      contradiction
  · exact same

end TokenStream.Window

namespace Parser
namespace Correspondence

variable {c : Correspondence} {o o' p q later other : Parser} {low high : Nat} {closer : TokenKind}

/-- The same comparison, between two places of the left stream only. -/
def within (c : Correspondence) (low high : Nat) : Correspondence :=
  { c with place := fun i j => c.place i j ∧ low ≤ i ∧ i ≤ high }

/-- A lawful comparison is lawful within a window. -/
theorem Lawful.within (lawful : c.Lawful) (window : c.left.Window low high closer) :
    (c.within low high).Lawful where
  kind same := lawful.kind same.1
  next same here loose :=
    ⟨lawful.next same.1 here loose, Nat.le_succ_of_le same.2.1,
      Nat.lt_of_le_of_ne same.2.2 (window.ne_high here loose)⟩
  told limit _ message same related shallow := lawful.told limit message same.1 related shallow
  deepLeft limit offset message related := lawful.deepLeft limit offset message related
  deepRight limit offset message related := lawful.deepRight limit offset message related

/-- Within a window only the closer is structural. -/
theorem only_within (window : c.left.Window low high closer) : (c.within low high).Only closer :=
  fun _ _ _ same here other => (window.loose_or same.2.1 same.2.2 here).resolve_right other

/-- Parsers that are abreast at places in a window are so within it. -/
theorem Abreast.within (abreast : c.Abreast p q) (after : low ≤ p.position)
    (before : p.position ≤ high) : (c.within low high).Abreast p q :=
  ⟨abreast.left, abreast.right, ⟨abreast.place, after, before⟩, abreast.limits, abreast.depth,
    abreast.awaited, abreast.record⟩

/-- What follows within a window follows. -/
theorem Follows.leave (follows : (c.within low high).Follows p q later other) :
    c.Follows p q later other := by
  obtain ⟨abreast, left, right, reads, also, alike⟩ := follows
  exact ⟨⟨abreast.left, abreast.right, abreast.place.1, abreast.limits, abreast.depth,
    abreast.awaited, abreast.record⟩, left, right, reads, also, alike.mono fun _ _ same => same.1⟩

end Correspondence

/-! ### One parser in its window -/

/-- The parser reads a stream and is in a window of it, what it reported satisfies a condition, and
it has read on from an origin. -/
structure Confined (stream : TokenStream) (low high : Nat) (holds : Findings → Prop)
    (origin p : Parser) : Prop where
  source : p.stream = stream
  after : low ≤ p.position
  before : p.position ≤ high
  holds : holds p.findings
  grows : origin.Grows p

/-- A condition on what was reported that reports in a window, and of the limit on nesting, do not
change. -/
def Indifferent (stream : TokenStream) (low high : Nat) (holds : Findings → Prop) : Prop :=
  ∀ ⦃found : Findings⦄ (limit : Nat) ⦃diagnostic : Diagnostic⦄, holds found →
    (diagnostic.fault = .maxRecursionDepth ∨
      ∃ index, low ≤ index ∧ index ≤ high ∧ diagnostic.offset = stream.offsetAt index) →
    holds (found.add limit diagnostic)

/-- The comparison of a parser in a window with itself. -/
def itself (stream : TokenStream) (low high : Nat) (holds : Findings → Prop) : Correspondence where
  left := stream
  right := stream
  place i j := i = j ∧ low ≤ i ∧ i ≤ high
  hole _ _ := True
  record one other := holds one ∧ holds other

section

variable {stream : TokenStream} {low high : Nat} {holds : Findings → Prop} {closer : TokenKind}
  {o p : Parser}

/-- The comparison of a parser in a window with itself is lawful. -/
theorem lawful_itself (window : stream.Window low high closer)
    (indifferent : Indifferent stream low high holds) :
    (itself stream low high holds).Lawful where
  kind same := by
    obtain ⟨rfl, -⟩ := same
    rfl
  next same here loose := by
    obtain ⟨rfl, after, before⟩ := same
    exact ⟨rfl, Nat.le_succ_of_le after, Nat.lt_of_le_of_ne before (window.ne_high here loose)⟩
  told limit _ _ same related _ := by
    obtain ⟨rfl, after, before⟩ := same
    exact ⟨indifferent limit related.1 (.inr ⟨_, after, before, rfl⟩),
      indifferent limit related.2 (.inr ⟨_, after, before, rfl⟩)⟩
  deepLeft limit _ _ related := ⟨indifferent limit related.1 (.inl rfl), related.2⟩
  deepRight limit _ _ related := ⟨related.1, indifferent limit related.2 (.inl rfl)⟩

/-- A parser in its window follows itself. -/
theorem Confined.follows (confined : Confined stream low high holds o p) :
    (itself stream low high holds).Follows o o p p := by
  obtain ⟨shapes, reads⟩ := confined.grows
  exact ⟨⟨confined.source, confined.source, ⟨rfl, confined.after, confined.before⟩, rfl, rfl, rfl,
    confined.holds, confined.holds⟩, shapes, shapes, reads, reads, alike_hole trivial⟩

/-- A parser that follows itself is in its window. -/
theorem confined_of_follows {q : Parser}
    (follows : (itself stream low high holds).Follows o o p q) :
    Confined stream low high holds o p := by
  obtain ⟨abreast, shapes, _, reads, -⟩ := follows
  exact ⟨abreast.left, abreast.place.2.1, abreast.place.2.2, abreast.record.1, shapes, reads⟩

/-- What was read before belongs to it. -/
theorem Confined.since {origin : Parser} (confined : Confined stream low high holds o p)
    (grows : origin.Grows o) : Confined stream low high holds origin p :=
  ⟨confined.source, confined.after, confined.before, confined.holds, grows.trans confined.grows⟩

variable (window : stream.Window low high closer)
  (indifferent : Indifferent stream low high holds)

include window indifferent

/-- A step in step stays in the window. -/
theorem Confined.step {step : Step} (confined : Confined stream low high holds o p)
    (next : InStep step) : Confined stream low high holds o (step p) :=
  confined_of_follows (confined.follows.step (lawful_itself window indifferent) next)

/-- What goes on around an operand stays in the window. -/
theorem Confined.trail {tail : Checkpoint → Step} (confined : Confined stream low high holds o p)
    (trailing : Trailing tail) : Confined stream low high holds o (tail o.builder.checkpoint p) :=
  confined_of_follows (trailing (lawful_itself window indifferent) confined.follows)

/-- The header of a keyword stays in the window. -/
theorem Confined.header {keyword : Keyword} (confined : Confined stream low high holds o p.bump)
    (here : p.current? = some (.keyword keyword)) :
    Confined stream low high holds o (keywordHeader keyword p) :=
  confined_of_follows
    (follows_keywordHeader confined.follows (lawful_itself window indifferent) here here)

/-- In a window nothing but the closer stops the parser. -/
theorem Confined.approach {fault : SyntaxFault} (confined : Confined stream low high holds o p)
    (shallow : fault ≠ .maxRecursionDepth) (message : String) :
    Confined stream low high holds o (p.approach closer fault message) := by
  have only : (itself stream low high holds).Only closer := fun _ _ _ same here other =>
    (window.loose_or same.2.1 same.2.2 here).resolve_right other
  exact confined_of_follows
    (confined.follows.approach (lawful_itself window indifferent) only shallow message)

end

/-- After a tag is approached its terminator or no token is seen. -/
theorem current?_approach (terminator : TokenKind) (fault : SyntaxFault) (message : String)
    (p : Parser) : (p.approach terminator fault message).current? = some terminator ∨
      (p.approach terminator fault message).current? = none := by
  have settled {q : Parser} (stops : (q.current?.isSome && !q.isAt terminator) = false) :
      q.current? = some terminator ∨ q.current? = none := by
    cases current : q.current? with
    | none => exact .inr rfl
    | some kind =>
      rw [current, Option.isSome_some, Bool.true_and, Bool.not_eq_false'] at stops
      exact .inl (current.symm.trans ((isAt_iff q _).1 stops))
  rw [approach]
  by_cases arrived : (p.isAt terminator || (decide (terminator = .newline) &&
      p.current?.isNone)) = true
  · rw [if_pos arrived]
    rw [Bool.or_eq_true, Bool.and_eq_true, Option.isNone_iff_eq_none] at arrived
    rcases arrived with here | ⟨-, none⟩
    · exact .inl ((isAt_iff p _).1 here)
    · exact .inr none
  · rw [if_neg arrived, skipUntil]
    generalize p.error fault message = q
    by_cases stops : (q.current?.isNone || q.isAt terminator) = true
    · rw [if_pos stops]
      rw [Bool.or_eq_true, Option.isNone_iff_eq_none] at stops
      rcases stops with none | here
      · exact .inr none
      · exact .inl ((isAt_iff q _).1 here)
    · rw [if_neg stops]
      exact settled (loop_exits (fun _ => isSome_of_and) (fun r _ => past_bump r) (q.start .error))

end Parser
end Stencil
