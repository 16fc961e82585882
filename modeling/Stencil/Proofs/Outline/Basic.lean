import Stencil.Proofs.Outline.Tag
/-!
# The outline of a template

Outside of tags the parser sees text, tags and the keywords that block tags begin with. An `Outline`
is what it makes of these: where each tag and each body begins and ends, which bodies are open
around it, the shapes that come of it, and what is reported. What stands inside a tag is left open
(`Tagged`), so that an outline is there for every stream.

Bodies are told by the keywords that open them, innermost first. A keyword is awaited if it closes
one of them, and splits the innermost one if this is a branch of it.
-/

namespace Stencil

/-- A body with one of these openers is closed by the keyword. -/
def AwaitedBy (stack : List Keyword) (keyword : Keyword) : Prop :=
  ∃ opener ∈ stack, opener.closer? = some keyword

/-- The keyword is a branch of the innermost of the bodies with these openers. -/
def Splits (stack : List Keyword) (keyword : Keyword) : Prop :=
  ∃ opener, stack.head? = some opener ∧ keyword ∈ opener.branches

namespace Diagnostic

/-- An end tag closes nothing. -/
def stray (offset : Nat) (keyword : Keyword) : Diagnostic :=
  ⟨offset, .unexpectedToken,
    "Unexpected '" ++ keyword.spelling ++ "' without a matching opening tag"⟩

/-- A branch stands in no body that it may split. -/
def misplaced (offset : Nat) (keyword : Keyword) : Diagnostic :=
  ⟨offset, .unexpectedToken,
    "Unexpected '" ++ keyword.spelling ++ "' outside of an enclosing block"⟩

/-- A body is closed by nothing. -/
def unclosed (offset : Nat) (opener closer : Keyword) : Diagnostic :=
  ⟨offset, .unclosedBlock,
    "Unclosed '" ++ opener.spelling ++ "' block, expected '" ++ closer.spelling ++ "'"⟩

end Diagnostic

/-- The node of a tag that is no block tag, by its start delimiter. -/
def TokenKind.inlineNode? : TokenKind → Option NodeKind
  | .delimiter .variableStart => some .variableTag
  | .delimiter .commentStart => some .comment
  | _ => none

namespace TokenStream

/-- A block tag begins at a place, and the first token in it is of a kind. -/
structure BlockAt (stream : TokenStream) (opening : Nat) (first : Option TokenKind) : Prop where
  opens : stream.kindAt? opening = some (.delimiter .blockStart)
  first : stream.kindAt? (stream.visible (opening + 1)) = first

/-- The tokens from a place on are at their end, or an end tag comes that one of the bodies with
these openers awaits. -/
def Halts (stream : TokenStream) (stack : List Keyword) (place : Nat) : Prop :=
  stream.kindAt? (stream.visible place) = none ∨
    ∃ keyword, stream.BlockAt (stream.visible place) (some (.keyword keyword)) ∧
      AwaitedBy stack keyword

/-- The node that a block tag without a body becomes, and what is reported before it is read. -/
inductive Plain (depth : Nat) (stack : List Keyword) (offset : Nat) (told : List Diagnostic) :
    (first : Option TokenKind) → NodeKind → List Diagnostic → Prop where
  | statement {keyword : Keyword} (opens : keyword.closer? = none)
      (closes : keyword.isCloser = false) (splits : keyword.isBranch = false) :
    Plain depth stack offset told (some (.keyword keyword)) keyword.node []
  | other {first : Option TokenKind} (free : ∀ keyword, first ≠ some (.keyword keyword)) :
    Plain depth stack offset told first .genericBlock []
  | stray {keyword : Keyword} (closes : keyword.isCloser = true)
      (unawaited : ¬AwaitedBy stack keyword) :
    Plain depth stack offset told (some (.keyword keyword)) .genericBlock [.stray offset keyword]
  | misplaced {keyword : Keyword} (branch : keyword.isBranch = true)
      (apart : ¬Splits stack keyword) :
    Plain depth stack offset told (some (.keyword keyword)) keyword.node
      [.misplaced offset keyword]
  /-- There is no room for a further body, which has been reported. -/
  | refused {opener closer : Keyword} (paired : opener.closer? = some closer)
      (full : depth ≤ stack.length) {reports : List Diagnostic} (loud : told ++ reports ≠ [])
      (own : ∀ diagnostic ∈ reports, diagnostic.isMismatch = false) :
    Plain depth stack offset told (some (.keyword opener)) opener.node reports

/-- How the body of a tag at `opening` ends: with its end tag, or without one, which is reported. -/
inductive Ending (stream : TokenStream) (outer : List Keyword) (opener closer : Keyword)
    (opening start : Nat) : (stop : Nat) → List Shape → List Diagnostic → Prop where
  | closed {stop : Nat} {row : List Shape} {raised : List Diagnostic}
      (block : stream.BlockAt (stream.visible start) (some (.keyword closer)))
      (tagged : stream.Tagged (stream.visible start) stop row raised) :
    Ending stream outer opener closer opening start stop
      (Shape.tokens start (stream.visible start - start) ++ [.node .endTag row]) raised
  | missing (halts : stream.Halts outer start)
      (own : ¬stream.BlockAt (stream.visible start) (some (.keyword closer))) :
    Ending stream outer opener closer opening start start []
      [.unclosed (stream.offsetAt opening) opener closer]

/-- The parts of a body: items first, and then the branches that split it. -/
inductive Part where
  | items | branches

/-- What the parser makes of the tokens from one place to another, in bodies with these openers and
when so much has been reported: the shapes, and what is reported further. -/
inductive Outline (stream : TokenStream) (depth : Nat) : Part → List Keyword → (start stop : Nat) →
    (told : List Diagnostic) → List Shape → (raised : List Diagnostic) → Prop where
  | nil {part : Part} {stack : List Keyword} {start : Nat} {told : List Diagnostic} :
    Outline stream depth part stack start start told [] []
  | append {part : Part} {stack : List Keyword} {start middle stop : Nat}
      {told one two : List Diagnostic} {left right : List Shape}
      (first : Outline stream depth part stack start middle told left one)
      (second : Outline stream depth part stack middle stop (told ++ one) right two) :
    Outline stream depth part stack start stop told (left ++ right) (one ++ two)
  /-- White space before a token. -/
  | space {part : Part} {stack : List Keyword} {start : Nat} {told : List Diagnostic} :
    Outline stream depth part stack start (stream.visible start) told
      (Shape.tokens start (stream.visible start - start)) []
  /-- Tokens that begin no tag, as text. -/
  | text {stack : List Keyword} {start stop : Nat} {told : List Diagnostic} (forward : start ≤ stop)
      (plain : ∀ index, start ≤ index → index < stop → stream.closerAt? index = none) :
    Outline stream depth .items stack start stop told
      [.node .text (Shape.tokens start (stop - start))] []
  /-- A variable tag or a comment. -/
  | inline {stack : List Keyword} {start stop : Nat} {told raised : List Diagnostic}
      {row : List Shape} {kind : NodeKind}
      (opens : (stream.kindAt? start).bind TokenKind.inlineNode? = some kind)
      (tagged : stream.Tagged start stop row raised) :
    Outline stream depth .items stack start stop told [.node kind row] raised
  /-- A block tag that has no body. -/
  | plain {stack : List Keyword} {start stop : Nat} {told reports raised : List Diagnostic}
      {row : List Shape} {first : Option TokenKind} {kind : NodeKind}
      (block : stream.BlockAt start first)
      (plain : Plain depth stack (stream.offsetAt start) told first kind reports)
      (tagged : stream.Tagged start stop row raised) :
    Outline stream depth .items stack start stop told [.node kind row] (reports ++ raised)
  /-- A block tag with its body. -/
  | body {stack : List Keyword} {start middle late last stop : Nat}
      {told raised within beyond rest : List Diagnostic} {row inside branches tail : List Shape}
      {opener closer : Keyword} (paired : opener.closer? = some closer)
      (room : stack.length < depth) (block : stream.BlockAt start (some (.keyword opener)))
      (tagged : stream.Tagged start middle row raised)
      (items : Outline stream depth .items (opener :: stack) middle late (told ++ raised) inside
        within)
      (splits : Outline stream depth .branches (opener :: stack) late last
        (told ++ raised ++ within) branches beyond)
      (ending : stream.Ending stack opener closer start last stop tail rest) :
    Outline stream depth .items stack start stop told
      [.node opener.node (row ++ inside ++ branches ++ tail)] (raised ++ within ++ beyond ++ rest)
  /-- A branch of the innermost body, with its items. -/
  | branch {stack : List Keyword} {start middle stop : Nat} {told raised within : List Diagnostic}
      {row inside : List Shape} {opener keyword : Keyword} (allowed : keyword ∈ opener.branches)
      (block : stream.BlockAt start (some (.keyword keyword)))
      (tagged : stream.Tagged start middle row raised)
      (items : Outline stream depth .items (opener :: stack) middle stop (told ++ raised) inside
        within) :
    Outline stream depth .branches (opener :: stack) start stop told
      [.node keyword.node (row ++ inside)] (raised ++ within)

/-! ### What stands in an outline -/

/-- The keyword that a block tag with these shapes begins with. -/
def keyword? (stream : TokenStream) : List Shape → Option Keyword
  | .token opening :: _ =>
    (stream.kindAt? (stream.visible (opening + 1))).bind TokenKind.keyword?
  | _ => none

variable {stream : TokenStream} {depth : Nat} {part : Part} {stack outer : List Keyword}
  {start middle stop opening : Nat} {told raised rest : List Diagnostic}
  {row left right shapes tail : List Shape} {first : Option TokenKind} {opener closer : Keyword}

/-- A tag tells its keyword, whatever comes after it. -/
theorem Tagged.keyword? (tagged : stream.Tagged opening stop row raised)
    (block : stream.BlockAt opening first) (later : List Shape) :
    stream.keyword? (row ++ later) = first.bind TokenKind.keyword? := by
  obtain ⟨inside, rfl⟩ := tagged.begins
  rw [List.cons_append, TokenStream.keyword?, block.first]

/-- A tag is read into a row that spans it. -/
theorem Tagged.spans (tagged : stream.Tagged opening stop row raised) :
    Shape.Spans row opening stop := ⟨Nat.le_of_lt tagged.forward, tagged.leaves⟩

/-- What ends a body spans the rest of it. -/
theorem Ending.spans (ending : stream.Ending outer opener closer opening start stop tail rest) :
    Shape.Spans tail start stop := by
  cases ending with
  | closed _ tagged =>
    exact (Shape.spans_tokens (stream.le_visible start)).append tagged.spans.node
  | missing => exact Shape.spans_nil _

/-- The leaves of an outline are the tokens from where it starts to where it stops. -/
theorem Outline.spans (outline : stream.Outline depth part stack start stop told shapes raised) :
    Shape.Spans shapes start stop := by
  induction outline with
  | nil => exact Shape.spans_nil _
  | append _ _ one two => exact one.append two
  | space => exact Shape.spans_tokens (stream.le_visible _)
  | text forward => exact (Shape.spans_tokens forward).node
  | inline _ tagged => exact tagged.spans.node
  | plain _ _ tagged => exact tagged.spans.node
  | body _ _ _ tagged _ _ ending items splits =>
    exact (((tagged.spans.append items).append splits).append ending.spans).node
  | branch _ _ tagged _ items => exact (tagged.spans.append items).node

end TokenStream
end Stencil
