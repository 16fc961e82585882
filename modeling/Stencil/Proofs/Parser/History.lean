import Stencil.Proofs.Parser.Abreast
/-!
# What a parser has reported

A parser keeps its reports up to a limit and counts the rest. `Told` says that it has reported just
this, kept or counted, and `Raises` what it reports between two moments. Some reports are about how
tags match (`isMismatch`): an end tag or a branch out of place, and a body that nothing closes. The
others are about what stands in a tag.
-/

namespace Stencil

/-- A report that a tag has no counterpart where it stands. -/
def SyntaxFault.isMismatch (fault : SyntaxFault) (message : String) : Bool :=
  fault = .unclosedBlock ||
    (fault = .unexpectedToken && "Unexpected".toList.isPrefixOf message.toList)

/-- A diagnostic about how tags match. -/
def Diagnostic.isMismatch (diagnostic : Diagnostic) : Bool :=
  diagnostic.fault.isMismatch diagnostic.message

namespace Parser

/-- The parser has reported this, in order: as much of it as it may is kept, and the rest counted.
It has not reported the limit on nesting without reporting anything. -/
structure Told (p : Parser) (told : List Diagnostic) : Prop where
  kept : p.diagnostics.toList = told.take p.limits.diagnostics
  counted : p.suppressed = told.length - p.limits.diagnostics
  deep : p.depthReported = true → told ≠ []

/-- Between two moments a parser reports this. -/
def Raises (p q : Parser) (raised : List Diagnostic) : Prop :=
  ∀ told, p.Told told → q.Told (told ++ raised)

variable {p q r : Parser} {first second : List Diagnostic}

/-- A parser starts without reports. -/
theorem told_ofStream (stream : TokenStream) (limits : ParseLimits) :
    (ofStream stream limits).Told [] where
  kept := by rw [List.take_nil]; rfl
  counted := (Nat.zero_sub _).symm
  deep late := absurd late Bool.false_ne_true

/-- What is reported after one another is reported together. -/
theorem Raises.trans (before : p.Raises q first) (after : q.Raises r second) :
    p.Raises r (first ++ second) := by
  intro told has
  rw [← List.append_assoc]
  exact after _ (before told has)

/-- A change of anything but the reports reports nothing. -/
theorem raises_of_same (limits : q.limits = p.limits) (same : q.findings = p.findings)
    (deep : q.depthReported = p.depthReported) : p.Raises q [] := by
  obtain ⟨kept, counted⟩ := Findings.mk.inj same
  intro told has
  rw [List.append_nil]
  exact ⟨by rw [kept, limits, has.kept], by rw [counted, limits, has.counted],
    fun late => has.deep (deep ▸ late)⟩

/-- What has been reported stays reported. -/
theorem Raises.still (before : p.Raises q first) (limits : r.limits = q.limits)
    (same : r.findings = q.findings) (deep : r.depthReported = q.depthReported) :
    p.Raises r first := by
  rw [← List.append_nil first]
  exact before.trans (raises_of_same limits same deep)

/-- Without a step nothing is reported. -/
theorem raises_refl (p : Parser) : p.Raises p [] := raises_of_same rfl rfl rfl

/-- Moving past white space reports nothing. -/
theorem raises_skipSpace (p : Parser) : p.Raises p.skipSpace [] :=
  raises_of_same p.reads_skipSpace.limits p.findings_skipSpace p.depthReported_skipSpace

/-- Taking a token reports nothing. -/
theorem raises_bump (p : Parser) : p.Raises p.bump [] := by
  have spaced := p.raises_skipSpace
  rw [bump]
  split
  · exact spaced.trans (raises_of_same rfl rfl rfl)
  · exact spaced

/-- Opening a node reports nothing. -/
theorem raises_start (p : Parser) (kind : NodeKind) : p.Raises (p.start kind) [] :=
  p.raises_skipSpace.trans (raises_of_same rfl rfl rfl)

/-- A report is kept or counted. -/
theorem raises_errorAt (p : Parser) (offset : Nat) (fault : SyntaxFault) (message : String) :
    p.Raises (p.errorAt offset fault message) [⟨offset, fault, message⟩] := by
  intro told has
  have size : p.diagnostics.size = min p.limits.diagnostics told.length := by
    rw [← Array.length_toList, has.kept, List.length_take]
  generalize noted : (⟨offset, fault, message⟩ : Diagnostic) = diagnostic
  have some : told ++ [diagnostic] ≠ [] := by simp
  have longer : (told ++ [diagnostic]).length = told.length + 1 := by simp
  rw [errorAt, noted]
  by_cases full : p.limits.diagnostics ≤ p.diagnostics.size
  · rw [if_pos full]
    have cut : (told ++ [diagnostic]).take p.limits.diagnostics = told.take p.limits.diagnostics :=
      List.take_append_of_le_length (by omega)
    refine ⟨has.kept.trans cut.symm, ?_, fun _ => some⟩
    change p.suppressed + 1 = (told ++ [diagnostic]).length - p.limits.diagnostics
    rw [has.counted, longer]
    omega
  · rw [if_neg full]
    have short : told.take p.limits.diagnostics = told := List.take_of_length_le (by omega)
    have fits : (told ++ [diagnostic]).take p.limits.diagnostics = told ++ [diagnostic] :=
      List.take_of_length_le (by omega)
    refine ⟨?_, ?_, fun _ => some⟩
    · change (p.diagnostics.push diagnostic).toList =
        (told ++ [diagnostic]).take p.limits.diagnostics
      rw [fits, Array.toList_push, has.kept, short]
    · change p.suppressed = (told ++ [diagnostic]).length - p.limits.diagnostics
      rw [has.counted, longer]
      omega

/-- A report is raised where the parser is. -/
theorem raises_error (p : Parser) (fault : SyntaxFault) (message : String) :
    p.Raises (p.error fault message) [⟨p.offset, fault, message⟩] := p.raises_errorAt _ _ _

/-- That there is no deeper level is reported the first time. -/
theorem raises_refuse_of_fresh (fresh : p.depthReported = false) :
    p.Raises p.refuse [⟨p.offset, .maxRecursionDepth,
      "Nesting deeper than " ++ toString p.limits.depth ++ " levels"⟩] := by
  rw [refuse, fresh, if_neg Bool.false_ne_true]
  generalize "Nesting deeper than " ++ toString p.limits.depth ++ " levels" = message
  intro told has
  have reported := p.raises_error .maxRecursionDepth message told has
  rw [error, errorAt] at reported ⊢
  by_cases full : p.limits.diagnostics ≤ p.diagnostics.size
  · rw [if_pos full] at reported ⊢
    exact ⟨reported.kept, reported.counted, fun _ => by simp⟩
  · rw [if_neg full] at reported
    rw [if_neg full]
    exact ⟨reported.kept, reported.counted, fun _ => by simp⟩

/-- Once that is reported nothing happens. -/
theorem refuse_of_reported (reported : p.depthReported = true) : p.refuse = p := by
  rw [refuse, if_pos reported]

/-- That there is no deeper level is reported now or has been before. -/
theorem raises_refuse (p : Parser) : ∃ raised, p.Raises p.refuse raised ∧
    (∀ told, p.Told told → told ++ raised ≠ []) ∧
    ∀ diagnostic ∈ raised, diagnostic.fault = .maxRecursionDepth := by
  cases before : p.depthReported with
  | true =>
    rw [refuse_of_reported before]
    refine ⟨[], p.raises_refl, fun told has => ?_, by simp⟩
    rw [List.append_nil]
    exact has.deep before
  | false =>
    exact ⟨_, raises_refuse_of_fresh before, fun told _ => by simp,
      fun diagnostic listed => by rw [List.mem_singleton.1 listed]⟩

end Parser
end Stencil
