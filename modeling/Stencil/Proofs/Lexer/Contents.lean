import Stencil.Proofs.Lexer.Lexeme
import Stencil.Proofs.Lexer.Spelling
import Stencil.Proofs.Lexer.Tiling
/-!
# Tags and what stands in them

A tag in a dialect without line forms is its start delimiter, lexemes one after another, and its end
delimiter (`Contents`). Each lexeme is spelled in full before what comes after it, and the end
delimiter does not begin where a lexeme does; then the lexer reads just these tokens
(`Lexer.reads_tag`).
-/

namespace Stencil

/-- The forms of tags that two delimiters enclose. -/
inductive TagForm where
  | block
  | value
  deriving DecidableEq

namespace TagForm

def opening : TagForm → Delimiter
  | .block => .blockStart
  | .value => .variableStart

def closing : TagForm → Delimiter
  | .block => .blockEnd
  | .value => .variableEnd

/-- The mode between the two delimiters. -/
def mode : TagForm → Mode
  | .block => .blockTag
  | .value => .variableTag

end TagForm

/-- A token without its place: its kind and its text. -/
abbrev Spelled : Type := TokenKind × String

/-- A token of a source without its place. -/
def Token.spelled (token : Token) (source : String) : Spelled := (token.kind, token.text source)

/-- The characters of tokens in a row. -/
def Spelled.chars (row : List Spelled) : List Char := row.flatMap fun token => token.2.toList

/-- Lexemes in a row up to some characters, each spelled in full before what comes after it, none of
them where the closing characters stand. -/
inductive Contents (mode : Mode) (closing : List Char) : List Spelled → List Char → Prop
  | nil (after : List Char) : Contents mode closing [] after
  | cons {kind : TokenKind} {text : String} {row : List Spelled} {after : List Char}
    (lexeme : Lexeme mode kind text.toList (Spelled.chars row ++ after))
    (goes : ¬closing <+: text.toList ++ (Spelled.chars row ++ after))
    (further : Contents mode closing row after) : Contents mode closing ((kind, text) :: row) after

/-- More lexemes may stand behind. -/
theorem Contents.append {mode : Mode} {closing : List Char} {left right : List Spelled}
    {after : List Char} (one : Contents mode closing left (Spelled.chars right ++ after))
    (two : Contents mode closing right after) : Contents mode closing (left ++ right) after := by
  induction left with
  | nil => exact two
  | cons token left ih =>
    cases one with
    | cons lexeme goes further =>
      have split : Spelled.chars (left ++ right) ++ after =
          Spelled.chars left ++ (Spelled.chars right ++ after) := by
        rw [Spelled.chars, List.flatMap_append, List.append_assoc]
        rfl
      rw [← split] at lexeme goes
      exact .cons lexeme goes (ih further)

namespace Lexer

open Text

variable {source : String} {lexer last : Lexer} {row more : List Spelled}
  {before text after : List Char}

/-- A lexer stands in a source, between the characters it has read and those that are left. -/
structure Stands (source : String) (before after : List Char) (lexer : Lexer) : Prop where
  split : source.toList = before ++ after
  offset : lexer.offset = (encoded before).length
  rest : lexer.rest = encoded after

/-- A scan of some characters leads behind them, and they are the text of the token. -/
theorem Stands.step (stands : Stands source before (text ++ after) lexer) (some : text ≠ [])
    (width : lexer.scan.width = (encoded text).length) :
    lexer.rest ≠ [] ∧ lexer.current.token.text source = String.ofList text ∧
      Stands source (before ++ text) after lexer.step := by
  have left : lexer.rest ≠ [] := by
    rw [stands.rest, ← encoded_nil, ne_eq, encoded_inj]
    exact List.append_ne_nil_of_left_ne_nil some _
  have solid : String.ofList text ≠ "" := fun empty => some (String.ofList_eq_empty_iff.1 empty)
  have spelled : bytes (String.ofList text) <+: (bytes source).drop lexer.offset := by
    rw [bytes_ofList, bytes_eq_encoded, stands.split, stands.offset, encoded_append, List.drop_left,
      encoded_append]
    exact List.prefix_append _ _
  refine ⟨left, ?_, ?_, ?_, ?_⟩
  · rw [Token.text, current, width, ← bytes_ofList]
    exact slice_of_bytes solid spelled
  · rw [stands.split, List.append_assoc]
  · rw [step_of_some left, Lexer.after, stands.offset, width, encoded_append, List.length_append]
  · rw [step_of_some left, Lexer.after, stands.rest, width, encoded_append, List.drop_left]

/-- A lexer reads tokens of these kinds and texts and comes to another state. -/
inductive Reads (source : String) : Lexer → List Spelled → Lexer → Prop
  | nil (lexer : Lexer) : Reads source lexer [] lexer
  | cons {lexer last : Lexer} {row : List Spelled} (some : lexer.rest ≠ [])
    (further : Reads source lexer.step row last) :
    Reads source lexer (lexer.current.token.spelled source :: row) last

/-- It reads more from there. -/
theorem Reads.append {middle : Lexer} (one : Reads source lexer row middle)
    (two : Reads source middle more last) : Reads source lexer (row ++ more) last := by
  induction one with
  | nil => exact two
  | cons some _ ih => exact .cons some (ih two)

/-- The tokens that are read are the tokens from here on. -/
theorem Reads.token? (reads : Reads source lexer row last) (ended : last.rest = []) (place : Nat) :
    (lexer.token? place).map (fun lexed => lexed.token.spelled source) = row[place]? := by
  induction reads generalizing place with
  | nil lexer =>
    have empty := List.isEmpty_iff.2 ended
    rw [Lexer.token?, ahead_of_isEmpty empty, if_pos empty]
    rfl
  | cons some _ ih =>
    cases place with
    | zero =>
      rw [Lexer.token?, ahead, if_neg (by simpa using some)]
      rfl
    | succ place =>
      rw [List.getElem?_cons_succ, ← ih ended, Lexer.token?, Lexer.token?, ahead_step]

/-! ### The three parts of a tag -/

section

variable {d : Delimiters} (plain : d.Plain) (form : TagForm)

/-- How the end of a tag is spelled, as characters. -/
def closer (d : Delimiters) (form : TagForm) : List Char := (d.spelling form.closing).toList

include plain

/-- A start delimiter between tags begins its tag. -/
theorem scan_opening (marks : lexer.marks = d.marks) (mode : lexer.mode = .template)
    (rest : lexer.rest = encoded ((d.spelling form.opening).toList ++ after)) :
    lexer.scan = ⟨.delimiter form.opening, (encoded (d.spelling form.opening).toList).length,
      form.mode, false⟩ := by
  have leading := plain.leads form.opening (encoded after)
  rw [encoded_append, ← bytes_eq_encoded] at rest
  rw [← bytes_eq_encoded, scan, mode, marks, rest, Scan.next,
    Scan.template_of_lineless plain.lineless]
  cases form with
  | block => exact if_pos leading
  | value =>
    have other := plain.not_leads (show Delimiter.blockStart ≠ .variableStart by decide)
      (encoded after)
    exact (if_neg (ne_true_of_eq_false other)).trans (if_pos leading)

/-- An end delimiter ends its tag. -/
theorem scan_closing (marks : lexer.marks = d.marks) (mode : lexer.mode = form.mode)
    (rest : lexer.rest = encoded (closer d form ++ after)) :
    lexer.scan.kind = .delimiter form.closing ∧
      lexer.scan.width = (encoded (closer d form)).length := by
  have leading := plain.leads form.closing (encoded after)
  rw [closer, encoded_append, ← bytes_eq_encoded] at rest
  rw [closer, ← bytes_eq_encoded, scan, mode, marks, rest]
  cases form with
  | block =>
    have scanned : Scan.next d.marks .blockTag lexer.lineStart lexer.rawPending
        (bytes (d.spelling .blockEnd) ++ encoded after) = _ := if_pos leading
    exact ⟨congrArg Scan.kind scanned, congrArg Scan.width scanned⟩
  | value =>
    have scanned : Scan.next d.marks .variableTag lexer.lineStart lexer.rawPending
        (bytes (d.spelling .variableEnd) ++ encoded after) = _ := if_pos leading
    exact ⟨congrArg Scan.kind scanned, congrArg Scan.width scanned⟩

omit plain

/-- Where no end delimiter stands a token of the expression language is read. -/
theorem scan_within (marks : lexer.marks = d.marks) (mode : lexer.mode = form.mode)
    {chars : List Char} (rest : lexer.rest = encoded chars) (goes : ¬closer d form <+: chars) :
    ∃ pending, lexer.scan = Scan.expression form.mode pending lexer.rest := by
  have idle : ¬Scan.leads (bytes (d.spelling form.closing)) lexer.rest = true := by
    intro leading
    rw [Scan.leads, Bool.and_eq_true, List.isPrefixOf_iff_prefix, rest, bytes_eq_encoded,
      encoded_prefix_iff] at leading
    exact goes leading.2
  rw [scan, mode, marks]
  cases form with
  | block => exact ⟨_, if_neg idle⟩
  | value => exact ⟨_, if_neg idle⟩

/-- The lexer reads the contents of a tag. -/
theorem reads_contents (contents : Contents form.mode (closer d form) row after)
    (marks : lexer.marks = d.marks) (mode : lexer.mode = form.mode)
    (stands : Stands source before (Spelled.chars row ++ after) lexer) :
    ∃ last, Reads source lexer row last ∧ last.marks = d.marks ∧ last.mode = form.mode ∧
      Stands source (before ++ Spelled.chars row) after last := by
  induction contents generalizing lexer before with
  | nil after =>
    refine ⟨lexer, .nil lexer, marks, mode, ?_⟩
    rw [Spelled.chars, List.flatMap_nil, List.append_nil]
    exact stands
  | @cons kind text row after lexeme goes further ih =>
    have split : Spelled.chars ((kind, text) :: row) ++ after =
        text.toList ++ (Spelled.chars row ++ after) := by
      rw [Spelled.chars, List.flatMap_cons, List.append_assoc]
      rfl
    rw [split] at stands
    obtain ⟨pending, scanned⟩ := scan_within form marks mode stands.rest goes
    rw [stands.rest, Scan.expression_of_lexeme lexeme] at scanned
    obtain ⟨some, spelled, onward⟩ := stands.step lexeme.ne_nil (by rw [scanned])
    have step := step_of_some some
    obtain ⟨last, reads, there, stays, ended⟩ := ih (by rw [step]; exact marks)
      (by rw [step, Lexer.after, scanned]) onward
    have first := Reads.cons some reads
    rw [Token.spelled, spelled, String.ofList_toList, current, scanned] at first
    refine ⟨last, first, there, stays, ?_⟩
    rw [Spelled.chars, List.flatMap_cons, ← List.append_assoc]
    exact ended

/-- A source that is one tag is read as its delimiters and its contents. -/
theorem reads_tag (plain : d.Plain)
    (contents : Contents form.mode (closer d form) row (closer d form))
    (split : source.toList =
      (d.spelling form.opening).toList ++ (Spelled.chars row ++ closer d form)) :
    ∃ last, Reads source (ofSource source d)
        ((.delimiter form.opening, d.spelling form.opening) ::
          (row ++ [(.delimiter form.closing, d.spelling form.closing)])) last ∧ last.rest = [] := by
  have nonempty (which : Delimiter) : (d.spelling which).toList ≠ [] := fun empty =>
    Delimiters.spelling_ne plain.valid which
      (bytes_eq_nil_iff.2 (String.toList_eq_nil_iff.1 empty))
  have stands : Stands source [] source.toList (ofSource source d) := by
    refine ⟨rfl, rfl, ?_⟩
    rw [ofSource, ofRange, Nat.min_self, Nat.zero_min, List.drop_zero, Nat.sub_zero, ← length_bytes,
      List.take_length, bytes_eq_encoded]
  rw [split] at stands
  have opened := scan_opening plain form rfl rfl stands.rest
  obtain ⟨some, spelled, inside⟩ := stands.step (nonempty _) (by rw [opened])
  have step := step_of_some some
  obtain ⟨middle, reads, marks, mode, before⟩ := reads_contents form contents
    (by rw [step]; rfl) (by rw [step, Lexer.after, opened]) inside
  rw [← List.append_nil (closer d form)] at before
  obtain ⟨kind, width⟩ := scan_closing plain form marks mode before.rest
  obtain ⟨more, closes, ended⟩ := before.step (nonempty _) width
  refine ⟨middle.step, ?_, ended.rest⟩
  have last : Reads source middle _ middle.step := .cons more (.nil middle.step)
  rw [Token.spelled, closes, closer, String.ofList_toList, current, kind] at last
  have first := Reads.cons some (reads.append last)
  rwa [Token.spelled, spelled, String.ofList_toList, current, opened] at first

end

/-- All tokens that are left are read. -/
theorem Reads.readAll (reads : Reads source lexer row last) (ended : last.rest = []) :
    lexer.readAll.1.toList.map (fun lexed => lexed.token.spelled source) = row ∧
      lexer.readAll.2.next? = none := by
  constructor
  · refine List.ext_getElem? fun place => ?_
    rw [List.getElem?_map, Array.getElem?_toList, getElem?_readAll, reads.token? ended]
  · rw [next?_eq, Lexer.readAll, if_pos (List.isEmpty_iff.2 (lexer.read_tiles (Nat.le_refl _)).2)]

end Lexer

namespace TokenStream

/-- A source is read into the tokens that its lexer reads, if these are within the limit. -/
theorem ofSource_of_reads {source : String} {d : Delimiters} {row : List Spelled} {last : Lexer}
    (reads : Lexer.Reads source (Lexer.ofSource source d) row last) (ended : last.rest = [])
    {limit : Nat} (few : row.length ≤ limit) :
    ∃ stream, ofSource source d limit = .ok stream ∧ stream.source = source ∧
      stream.tokens.toList.map (Token.spelled · source) = row := by
  have nothing : (Lexer.ofSource source d).token? limit = none := by
    have told := reads.token? ended limit
    rwa [List.getElem?_eq_none few, Option.map_eq_none_iff] at told
  have fills := fills_ofReading nothing
  refine ⟨_, (ofRange_eq_ok_iff (Nat.zero_le _) (Nat.le_refl _)).2 ⟨rfl, nothing, fills⟩, rfl,
    List.ext_getElem? fun place => ?_⟩
  rw [List.getElem?_map, Array.getElem?_toList, fills.tokens, Option.map_map, ← reads.token? ended]
  rfl

end TokenStream
end Stencil
