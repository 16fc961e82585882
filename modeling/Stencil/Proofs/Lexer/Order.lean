import Mathlib.Data.List.Find
import Mathlib.Tactic.SplitIfs
import Stencil.Lexer.Relex
import Stencil.Proofs.Delimiters.Usable
/-!
# The order in which openers are tried

Between tags the lexer tries the two line prefixes and the three start delimiters one after another
and takes the first that leads the bytes. Here the order is a parameter: `Scan.templateIn` tries the
openers in any given order, and in the order of `Opener.all` it is the rule of the lexer
(`Scan.templateIn_all`). In a usable dialect at most one delimiter leads the bytes, so that the
order makes no difference to any stream.
-/

namespace Stencil

/-- What ends the text between tags: a line form or a tag. -/
inductive Opener where
  | lineStatement | lineComment | block | variable | comment
  deriving DecidableEq

namespace Opener

/-- The openers in the order in which the lexer tries them. -/
def all : List Opener := [.lineStatement, .lineComment, .block, .variable, .comment]

/-- The line forms are tried at the start of a line only. -/
def onLine : Opener → Bool
  | .lineStatement | .lineComment => true
  | _ => false

/-- The setting that spells an opener. -/
def field : Opener → Delimiters.Field
  | .lineStatement => .lineStatement
  | .lineComment => .lineComment
  | .block => .blockStart
  | .variable => .variableStart
  | .comment => .commentStart

/-- The bytes of an opener. -/
def mark (m : Marks) : Opener → List UInt8
  | .lineStatement => m.lineStatement
  | .lineComment => m.lineComment
  | .block => m.blockStart
  | .variable => m.variableStart
  | .comment => m.commentStart

/-- The delimiter that an opener is read as. -/
def kind : Opener → TokenKind
  | .lineStatement | .block => .delimiter .blockStart
  | .lineComment | .comment => .delimiter .commentStart
  | .variable => .delimiter .variableStart

/-- What is read after an opener. -/
def mode : Opener → Mode
  | .lineStatement => .lineStatement
  | .lineComment => .lineComment
  | .block => .blockTag
  | .variable => .variableTag
  | .comment => .comment

/-- An opener is read where its bytes lead. -/
def opens (m : Marks) (lineStart : Bool) (rest : List UInt8) (opener : Opener) : Bool :=
  (lineStart || !opener.onLine) && Scan.leads (opener.mark m) rest

/-- The mark of an opener is what the delimiters have for it. -/
theorem mark_marks (d : Delimiters) (opener : Opener) :
    opener.mark d.marks = Text.bytes (d.get opener.field) := by
  cases opener <;> rfl

/-- Each opener has a setting of its own. -/
theorem field_injective {one other : Opener} (same : one.field = other.field) : one = other := by
  cases one <;> cases other <;> first | rfl | contradiction

end Opener

/-! ### Reading with another order -/

namespace Scan

/-- Between tags, with the openers tried in a given order: the first that opens, then a line feed,
then text up to the next of these. -/
def templateIn (order : List Opener) (m : Marks) (lineStart : Bool) (rest : List UInt8) : Scan :=
  match order.find? (Opener.opens m lineStart rest) with
  | some opener => ⟨opener.kind, (opener.mark m).length, opener.mode, false⟩
  | none =>
    if atLineFeed rest then
      ⟨.newline, 1, .template, false⟩
    else
      ⟨.text, run (fun r => atLineFeed r || order.any (Opener.opens m false r)) rest, .template,
        false⟩

/-- The next token in each mode, with the openers tried in a given order. -/
def nextIn (order : List Opener) (m : Marks) (mode : Mode) (lineStart rawPending : Bool)
    (rest : List UInt8) : Scan :=
  match mode with
  | .template => templateIn order m lineStart rest
  | mode => next m mode lineStart rawPending rest

end Scan

namespace Lexer

/-- What the lexer reads next with the openers tried in a given order. -/
def scanIn (order : List Opener) (lexer : Lexer) : Scan :=
  Scan.nextIn order lexer.marks lexer.mode lexer.lineStart lexer.rawPending lexer.rest

/-- The next token with the openers tried in a given order, and the lexer after it. -/
def nextIn? (order : List Opener) (lexer : Lexer) : Option (Lexed × Lexer) :=
  if lexer.rest.isEmpty then
    none
  else
    let scan := lexer.scanIn order
    some (⟨⟨scan.kind, lexer.offset, lexer.offset + scan.width⟩, lexer.mode⟩, lexer.after scan)

/-- Tokens read one after another with the openers tried in a given order. -/
def readOntoIn (order : List Opener) (read : Array Lexed) (lexer : Lexer) :
    Nat → Array Lexed × Lexer
  | 0 => (read, lexer)
  | budget + 1 =>
    match lexer.nextIn? order with
    | none => (read, lexer)
    | some (lexed, lexer) => readOntoIn order (read.push lexed) lexer budget

end Lexer

namespace TokenStream

/-- The stream of a range, read with the openers tried in a given order. -/
def ofRangeIn (order : List Opener) (source : String) (start stop : Nat) (mode : Mode)
    (d : Delimiters) (limit : Nat) : Except LexerFault TokenStream :=
  match rangeFault? source start stop with
  | some fault => .error fault
  | none =>
    let (lexed, lexer) := (Lexer.ofRange source start stop mode d).readOntoIn order #[] limit
    if (lexer.nextIn? order).isSome then .error (.tooManyTokens lexed.size)
    else .ok (ofReading source ⟨lexed, lexer⟩)

end TokenStream

/-! ### One delimiter at a place -/

variable {d : Delimiters}

namespace Delimiters

/-- In a usable dialect at most one delimiter leads the bytes at a place: of two the shorter would
begin the longer. -/
theorem eq_of_leads (valid : d.isValid = true) {rest : List UInt8} {f g : Field}
    (one : Scan.leads (Text.bytes (d.get f)) rest = true)
    (other : Scan.leads (Text.bytes (d.get g)) rest = true) : f = g := by
  simp only [Scan.leads, Bool.and_eq_true, Bool.not_eq_true', List.isEmpty_eq_false_iff,
    List.isPrefixOf_iff_prefix, ne_eq, Text.bytes_eq_nil_iff] at one other
  by_contra distinct
  rcases List.prefix_or_prefix_of_prefix one.2 other.2 with within | within
  · exact not_infix_of_isValid valid (Ne.symm distinct) one.1 within.isInfix
  · exact not_infix_of_isValid valid distinct other.1 within.isInfix

end Delimiters

/-- With usable delimiters at most one opener opens anything. -/
theorem Opener.eq_of_opens (valid : d.isValid = true) {lineStart : Bool} {rest : List UInt8}
    {one other : Opener} (first : one.opens d.marks lineStart rest = true)
    (second : other.opens d.marks lineStart rest = true) : one = other := by
  rw [Opener.opens, Opener.mark_marks, Bool.and_eq_true] at first second
  exact Opener.field_injective (Delimiters.eq_of_leads valid first.2 second.2)

/-! ### The order makes no difference -/

namespace Scan

/-- The lexer tries the openers in the order of their list. -/
theorem templateIn_all (m : Marks) (lineStart : Bool) (rest : List UInt8) :
    templateIn Opener.all m lineStart rest = template m lineStart rest := by
  have starts (r : List UInt8) : Opener.all.any (Opener.opens m false r) = atStart m r := by
    simp [Opener.all, Opener.opens, Opener.onLine, Opener.mark, atStart, Bool.or_assoc]
  have first : Opener.all.find? (Opener.opens m lineStart rest) =
      if lineStart && leads m.lineStatement rest then some .lineStatement
      else if lineStart && leads m.lineComment rest then some .lineComment
      else if leads m.blockStart rest then some .block
      else if leads m.variableStart rest then some .variable
      else if leads m.commentStart rest then some .comment
      else none := by
    simp only [Opener.all, Opener.opens, Opener.onLine, Opener.mark, List.find?_cons,
      List.find?_nil, Bool.not_true, Bool.not_false, Bool.or_false, Bool.or_true, Bool.true_and]
    grind
  simp only [templateIn, starts, first, template]
  split_ifs <;> rfl

/-- In a usable dialect the openers can be tried in any order. -/
theorem templateIn_perm (valid : d.isValid = true) {order : List Opener}
    (perm : order.Perm Opener.all) (lineStart : Bool) (rest : List UInt8) :
    templateIn order d.marks lineStart rest = template d.marks lineStart rest := by
  have first : order.find? (Opener.opens d.marks lineStart rest) =
      Opener.all.find? (Opener.opens d.marks lineStart rest) :=
    List.find?_eq_find?_of_perm perm fun _ one _ other => Opener.eq_of_opens valid one.2 other.2
  have starts (r : List UInt8) :
      order.any (Opener.opens d.marks false r) = Opener.all.any (Opener.opens d.marks false r) :=
    perm.any_eq
  simp only [← templateIn_all, templateIn, first, starts]

end Scan

/-- With an order that leaves the rule between tags as it is, all reading stays as it is. -/
def Marks.Indifferent (m : Marks) (order : List Opener) : Prop :=
  ∀ (lineStart : Bool) (rest : List UInt8),
    Scan.templateIn order m lineStart rest = Scan.template m lineStart rest

namespace Lexer

variable {order : List Opener} {lexer : Lexer}

/-- One step reads the same token. -/
theorem nextIn?_eq (indifferent : lexer.marks.Indifferent order) :
    lexer.nextIn? order = lexer.next? := by
  have scan : lexer.scanIn order = lexer.scan := by
    rw [scanIn, Lexer.scan]
    cases lexer.mode with
    | template => exact indifferent lexer.lineStart lexer.rest
    | _ => rfl
  rw [nextIn?, next?, scan]

/-- The marks stay what they are from token to token. -/
theorem marks_of_next? {lexed : Lexed} {later : Lexer} (step : lexer.next? = some (lexed, later)) :
    later.marks = lexer.marks := by
  rw [next?] at step
  split at step
  · contradiction
  · obtain ⟨-, rfl⟩ := Prod.mk.inj (Option.some.inj step)
    rfl

/-- A run reads the same tokens, by induction on how many it may read. -/
theorem readOntoIn_eq (indifferent : lexer.marks.Indifferent order) (read : Array Lexed)
    (budget : Nat) : lexer.readOntoIn order read budget = lexer.readOnto read budget := by
  induction budget generalizing lexer read with
  | zero => rfl
  | succ budget ih =>
    rw [readOntoIn, readOnto, nextIn?_eq indifferent]
    cases step : lexer.next? with
    | none => rfl
    | some next =>
      obtain ⟨lexed, later⟩ := next
      refine ih ?_ _
      rwa [marks_of_next? step]

/-- Whether there is a next token does not depend on the order. -/
theorem isSome_nextIn? (order : List Opener) (lexer : Lexer) :
    (lexer.nextIn? order).isSome = lexer.next?.isSome := by
  rw [nextIn?, next?]
  split <;> rfl

end Lexer

namespace TokenStream

/-- An order of the openers that makes no difference gives the same stream. -/
theorem ofRangeIn_eq {order : List Opener} (indifferent : d.marks.Indifferent order)
    (source : String) (start stop : Nat) (mode : Mode) (limit : Nat) :
    ofRangeIn order source start stop mode d limit = ofRange source start stop mode d limit := by
  have begins : (Lexer.ofRange source start stop mode d).marks.Indifferent order := indifferent
  rw [ofRangeIn, ofRange]
  cases rangeFault? source start stop with
  | some fault => rfl
  | none =>
    simp only [readRange, Lexer.read, Lexer.readOntoIn_eq begins, Lexer.isSome_nextIn?]
    rfl

/-- In the order of their list the openers are tried as the lexer tries them, whatever the
dialect. -/
theorem ofRangeIn_all (source : String) (start stop : Nat) (mode : Mode) (d : Delimiters)
    (limit : Nat) :
    ofRangeIn Opener.all source start stop mode d limit =
      ofRange source start stop mode d limit :=
  ofRangeIn_eq (Scan.templateIn_all d.marks) source start stop mode limit

end TokenStream

namespace Delimiters

/-- Validation passes exactly the usable dialects, and in these matching is unambiguous: at most
one delimiter leads the bytes at a place, and the openers can be tried in any order without a
difference to the stream of any range of any source. -/
theorem isValid_unambiguous (d : Delimiters) :
    (d.isValid = true ↔ d.Usable) ∧
    (d.isValid = true →
      (∀ (rest : List UInt8) (f g : Field), Scan.leads (Text.bytes (d.get f)) rest = true →
        Scan.leads (Text.bytes (d.get g)) rest = true → f = g) ∧
      ∀ order : List Opener, order.Perm Opener.all →
        ∀ (source : String) (start stop : Nat) (mode : Mode) (limit : Nat),
          TokenStream.ofRangeIn order source start stop mode d limit =
            TokenStream.ofRange source start stop mode d limit) := by
  refine ⟨isValid_iff d, fun valid => ⟨fun rest f g => eq_of_leads valid, ?_⟩⟩
  intro order perm source start stop mode limit
  exact TokenStream.ofRangeIn_eq (Scan.templateIn_perm valid perm) source start stop mode limit

/-- A dialect with both line forms reads the same with its openers tried the other way round. -/
theorem isValid_unambiguous_lines :
    let d : Delimiters := { lineStatement := "%%", lineComment := "##" }
    d.isValid = true ∧
      TokenStream.ofRangeIn Opener.all.reverse "## a\n%% if b\n\x7b\x7b c" 0 20 .template d 100 =
        TokenStream.ofRange "## a\n%% if b\n\x7b\x7b c" 0 20 .template d 100 := by
  intro d
  have valid : d.isValid = true := by decide
  exact ⟨valid, ((isValid_unambiguous d).2 valid).2 _ (List.reverse_perm _) _ _ _ _ _⟩

end Delimiters

/-- In a dialect that is not usable the order does make a difference: one start delimiter hides a
longer one. -/
example :
    let d : Delimiters := { variableStart := "\x7b", variableEnd := "\x7d" }
    TokenStream.ofRangeIn Opener.all.reverse "\x7b% x" 0 4 .template d 100 ≠
      TokenStream.ofRange "\x7b% x" 0 4 .template d 100 := by
  decide +kernel

end Stencil
