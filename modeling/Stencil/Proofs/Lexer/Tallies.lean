import Mathlib.Data.List.Induction
import Mathlib.Order.Bounds.Basic
import Stencil.Lexer.Report
import Stencil.Proofs.Lexer.Relex
/-!
# The two tallies of a source agree

Metrics count tokens as they are read, by the class of the kind (`LexicalMetrics.Counts`); the
counts of a stream go by the category a token is shown as, which is not the same for text inside a
comment (`TokenStream.countP_categories`). Both come to the same numbers of one stream
(`LexicalMetrics.Agrees`). The tally of kinds has room for so many: it holds the first different
kinds, none of them with less than its full number (`LexicalMetrics.countKind_kindTally`).
-/

namespace Stencil

/-- A value more is a new one or none. -/
theorem eraseDups_concat {α : Type} [BEq α] [LawfulBEq α] (values : List α) (value : α) :
    (values ++ [value]).eraseDups =
      if value ∈ values then values.eraseDups else values.eraseDups ++ [value] := by
  rw [List.eraseDups_append, List.removeAll]
  by_cases known : value ∈ values
  · rw [if_pos known, List.filter_cons_of_neg (by simpa using known), List.filter_nil,
      List.eraseDups_nil, List.append_nil]
  · rw [if_neg known, List.filter_cons_of_pos (by simpa using known), List.filter_nil]
    rfl

/-- Without its later copies a value occurs once. -/
theorem nodup_eraseDups {α : Type} [BEq α] [LawfulBEq α] (values : List α) :
    values.eraseDups.Nodup := by
  induction values using List.reverseRecOn with
  | nil => exact List.nodup_nil
  | append_singleton values value ih =>
    rw [eraseDups_concat]
    split
    · exact ih
    next fresh =>
      rw [← List.concat_eq_append]
      exact ih.concat (mt List.mem_eraseDups.1 fresh)

/-- Things of two sorts that exclude each other. -/
theorem countP_or {α : Type} {p q : α → Bool} (apart : ∀ a, p a = true → q a = false)
    (values : List α) :
    values.countP (fun a => p a || q a) = values.countP p + values.countP q := by
  induction values with
  | nil => rfl
  | cons a values ih =>
    rw [List.countP_cons, List.countP_cons, List.countP_cons, ih]
    cases one : p a
    · rw [Bool.false_or, if_neg Bool.false_ne_true, Nat.add_zero, Nat.add_assoc]
    · rw [Bool.true_or, apart a one, if_pos rfl, if_neg Bool.false_ne_true, Nat.add_right_comm]
      rfl

/-- Start delimiters. -/
def TokenKind.isOpener : TokenKind → Bool
  | .delimiter .blockStart | .delimiter .variableStart | .delimiter .commentStart => true
  | _ => false

namespace LexicalMetrics

/-! ### Kinds -/

/-- The first different kinds of a list, so many of them, each with its number. -/
def kindTally (limit : Nat) (kinds : List TokenKind) : List (TokenKind × Nat) :=
  (kinds.eraseDups.take limit).map fun kind => (kind, kinds.count kind)

/-- One more of a kind raises its number if it has one, and otherwise makes an entry if there is
room. -/
theorem countKind_map {keys : List TokenKind} (distinct : keys.Nodup) (kind : TokenKind)
    (room : Nat) (number : TokenKind → Nat) :
    countKind kind room (keys.map fun key => (key, number key)) =
      if kind ∈ keys then keys.map fun key => (key, number key + if kind = key then 1 else 0)
      else (keys.map fun key => (key, number key)) ++
        if keys.length < room then [(kind, 1)] else [] := by
  induction keys generalizing room with
  | nil => rfl
  | cons key keys ih =>
    obtain ⟨apart, distinct⟩ := List.nodup_cons.1 distinct
    rw [List.map_cons, countKind]
    by_cases same : key = kind
    · subst same
      rw [if_pos rfl, if_pos List.mem_cons_self, List.map_cons, if_pos rfl]
      congr 1
      refine List.map_congr_left fun other member => ?_
      rw [if_neg (ne_of_mem_of_not_mem member apart).symm, Nat.add_zero]
    · have member : kind ∈ key :: keys ↔ kind ∈ keys := by
        rw [List.mem_cons, or_iff_right (Ne.symm same)]
      have fits : keys.length < room - 1 ↔ (key :: keys).length < room := by
        rw [List.length_cons, Nat.lt_sub_iff_add_lt]
      rw [if_neg same, ih distinct]
      simp only [member, fits, List.map_cons, if_neg (Ne.symm same), Nat.add_zero]
      split <;> rfl

/-- The tally of kinds, with one token more. -/
theorem countKind_kindTally (limit : Nat) (kinds : List TokenKind) (kind : TokenKind) :
    countKind kind limit (kindTally limit kinds) = kindTally limit (kinds ++ [kind]) := by
  have distinct : (kinds.eraseDups.take limit).Nodup :=
    (nodup_eraseDups kinds).sublist (List.take_sublist _ _)
  have number (key : TokenKind) :
      (kinds ++ [kind]).count key = kinds.count key + if kind = key then 1 else 0 := by
    rw [List.count_append, List.count_singleton]
    simp only [beq_iff_eq]
  rw [kindTally, countKind_map distinct, kindTally, eraseDups_concat, List.length_take]
  simp only [number]
  by_cases held : kind ∈ kinds.eraseDups.take limit
  · rw [if_pos held, if_pos (List.mem_eraseDups.1 (List.mem_of_mem_take held))]
  · -- The kind has no entry: it is new, or there was no room when it first came.
    have others : ((kinds.eraseDups.take limit).map fun key =>
        (key, kinds.count key + if kind = key then 1 else 0)) =
        (kinds.eraseDups.take limit).map fun key => (key, kinds.count key) := by
      refine List.map_congr_left fun key member => ?_
      rw [if_neg (ne_of_mem_of_not_mem member held).symm, Nat.add_zero]
    rw [if_neg held]
    by_cases room : kinds.eraseDups.length < limit
    · rw [List.take_of_length_le (Nat.le_of_lt room), List.mem_eraseDups] at held
      have longer : (kinds.eraseDups ++ [kind]).length ≤ limit := by
        rw [List.length_append]
        exact room
      rw [if_neg held, if_pos (by omega), List.take_of_length_le longer, List.map_append, ← others,
        List.take_of_length_le (Nat.le_of_lt room), List.map_singleton, if_pos rfl,
        List.count_eq_zero.2 held]
    · have full : (if kind ∈ kinds then kinds.eraseDups else kinds.eraseDups ++ [kind]).take limit =
          kinds.eraseDups.take limit := by
        split
        · rfl
        · rw [List.take_append_of_le_length (Nat.not_lt.1 room)]
      rw [if_neg (by omega), List.append_nil, full, others]

/-! ### Classes -/

/-- The sizes of string literals. -/
def stringSizes (tokens : List Token) : Set Nat :=
  {size | ∃ token ∈ tokens, token.kind = .literal .string ∧ token.size = size}

/-- The metrics are those of a list of tokens. -/
structure Counts (metrics : LexicalMetrics) (countsKinds : Bool) (tokens : List Token) : Prop where
  tokens_eq : metrics.tokens = tokens.length
  keywords_eq : metrics.keywords = tokens.countP (·.kind.isKeyword)
  identifiers_eq : metrics.identifiers = tokens.countP (·.kind.isIdentifier)
  operators_eq : metrics.operators =
    tokens.countP fun token => token.kind.isOperator || token.kind.isPunctuation
  literals_eq : metrics.literals = tokens.countP (·.kind.isLiteral)
  badCharacters_eq : metrics.badCharacters = tokens.countP (·.kind = .badCharacter)
  tagsOpened_eq : metrics.tagsOpened = tokens.countP (·.kind.isOpener)
  longestString_isGreatest : IsGreatest (insert 0 (stringSizes tokens)) metrics.longestString
  oversizedStrings_eq : metrics.oversizedStrings = tokens.countP fun token =>
    token.kind = .literal .string && Limits.maxStringSize < token.size
  kinds_eq : metrics.kinds =
    if countsKinds then kindTally Limits.kindTallySize (tokens.map (·.kind)) else []

/-- Nothing is counted of no tokens. -/
theorem counts_nil (countsKinds : Bool) : Counts {} countsKinds [] where
  tokens_eq := rfl
  keywords_eq := rfl
  identifiers_eq := rfl
  operators_eq := rfl
  literals_eq := rfl
  badCharacters_eq := rfl
  tagsOpened_eq := rfl
  longestString_isGreatest := by simp [stringSizes]
  oversizedStrings_eq := rfl
  kinds_eq := by cases countsKinds <;> rfl

/-- Each kind is counted in its class. -/
theorem recordClass_eq (metrics : LexicalMetrics) (kind : TokenKind) :
    metrics.recordClass kind = { metrics with
      keywords := metrics.keywords + if kind.isKeyword then 1 else 0
      identifiers := metrics.identifiers + if kind.isIdentifier then 1 else 0
      operators := metrics.operators + if kind.isOperator || kind.isPunctuation then 1 else 0
      literals := metrics.literals + if kind.isLiteral then 1 else 0
      badCharacters := metrics.badCharacters + if kind = .badCharacter then 1 else 0
      tagsOpened := metrics.tagsOpened + if kind.isOpener then 1 else 0 } := by
  cases kind with
  | delimiter d => cases d <;> rfl
  | _ => rfl

/-- A token more is counted in its class, by its size if it is a string, and by its kind. -/
theorem record_eq (countsKinds : Bool) (metrics : LexicalMetrics) (token : Token) :
    metrics.record countsKinds token = { metrics.recordClass token.kind with
      tokens := metrics.tokens + 1
      longestString := if token.kind = .literal .string then max metrics.longestString token.size
        else metrics.longestString
      oversizedStrings := metrics.oversizedStrings +
        if token.kind = .literal .string && Limits.maxStringSize < token.size then 1 else 0
      kinds := if countsKinds then countKind token.kind Limits.kindTallySize metrics.kinds
        else metrics.kinds } := by
  rw [record, recordClass_eq]
  by_cases string : token.kind = .literal .string <;> cases countsKinds <;>
    simp [string, recordString]

variable {metrics : LexicalMetrics} {countsKinds : Bool} {tokens : List Token}

/-- A string more has a size more. -/
theorem stringSizes_concat (token : Token) : stringSizes (tokens ++ [token]) =
    if token.kind = .literal .string then insert token.size (stringSizes tokens)
    else stringSizes tokens := by
  ext size
  rw [stringSizes, Set.mem_ofPred_eq]
  simp only [List.mem_append, List.mem_singleton, or_and_right, exists_or, exists_eq_left]
  split
  next string => rw [Set.mem_insert_iff, or_comm, and_iff_right string, eq_comm, stringSizes,
    Set.mem_ofPred_eq]
  next other => rw [or_iff_left fun added => other added.1, stringSizes, Set.mem_ofPred_eq]

/-- Recording a token keeps metrics true. -/
theorem Counts.record (counts : metrics.Counts countsKinds tokens) (token : Token) :
    (metrics.record countsKinds token).Counts countsKinds (tokens ++ [token]) := by
  rw [record_eq, recordClass_eq]
  constructor
  case tokens_eq => rw [counts.tokens_eq, List.length_append, List.length_singleton]
  case keywords_eq => rw [counts.keywords_eq, List.countP_append, List.countP_singleton]
  case identifiers_eq => rw [counts.identifiers_eq, List.countP_append, List.countP_singleton]
  case operators_eq => rw [counts.operators_eq, List.countP_append, List.countP_singleton]
  case literals_eq => rw [counts.literals_eq, List.countP_append, List.countP_singleton]
  case badCharacters_eq =>
    rw [counts.badCharacters_eq, List.countP_append, List.countP_singleton]
    simp only [decide_eq_true_eq]
  case tagsOpened_eq => rw [counts.tagsOpened_eq, List.countP_append, List.countP_singleton]
  case longestString_isGreatest =>
    rw [stringSizes_concat]
    split
    · rw [max_comm, Set.insert_comm]
      exact counts.longestString_isGreatest.insert token.size
    · exact counts.longestString_isGreatest
  case oversizedStrings_eq =>
    rw [counts.oversizedStrings_eq, List.countP_append, List.countP_singleton]
  case kinds_eq =>
    rw [counts.kinds_eq, List.map_append, List.map_singleton]
    cases countsKinds
    · rfl
    · exact countKind_kindTally ..

/-- The metrics of tokens are what is counted. -/
theorem counts_ofTokens (countsKinds : Bool) (tokens : Array Token) :
    (ofTokens countsKinds tokens).Counts countsKinds tokens.toList := by
  rw [ofTokens, ← Array.foldl_toList]
  generalize tokens.toList = list
  induction list using List.reverseRecOn with
  | nil => exact counts_nil countsKinds
  | append_singleton list token ih =>
    rw [List.foldl_append]
    exact ih.record token

end LexicalMetrics

/-! ### Categories -/

namespace TokenStream

variable (stream : TokenStream)

/-- The category of each token. -/
def categories : List Category := (List.range stream.size).filterMap stream.categoryAt?

/-- A list by its places. -/
theorem filterMap_range_getElem? {α : Type} (values : List α) :
    (List.range values.length).filterMap (values[·]?) = values := by
  induction values using List.reverseRecOn with
  | nil => rfl
  | append_singleton values value ih =>
    have earlier : (List.range values.length).filterMap ((values ++ [value])[·]?) = values := by
      refine (List.filterMap_congr fun i member => ?_).trans ih
      exact List.getElem?_append_left (List.mem_range.1 member)
    rw [List.length_append, List.length_singleton, List.range_succ, List.filterMap_append, earlier,
      List.filterMap_cons_some List.getElem?_concat_length, List.filterMap_nil]

/-- A count by category is one by kind if it takes text of a comment for text. -/
theorem countP_categories (shown : Category → Bool) (wanted : TokenKind → Bool)
    (same : ∀ kind : TokenKind, shown kind.category = wanted kind)
    (comment : shown .comment = shown .text) :
    stream.categories.countP shown = stream.tokens.toList.countP (wanted ·.kind) := by
  have places := filterMap_range_getElem? stream.tokens.toList
  rw [← places, List.countP_filterMap, categories, List.countP_filterMap, Array.length_toList]
  refine List.countP_congr fun i _ => iff_of_eq (congrArg (· = true) ?_)
  rw [categoryAt?, kindAt?, Array.getElem?_toList]
  cases found : stream.tokens[i]? with
  | none => rfl
  | some token =>
    simp only [Option.map_some, Option.getD_some]
    split
    next inside =>
      rw [isCommentText, kindAt?, found] at inside
      have text : token.kind = .text := by simpa using (Bool.and_eq_true_iff.1 inside).1
      rw [comment, text, ← same]
      rfl
    · exact same token.kind

/-- Every token has one of the ten categories. -/
theorem sum_categories (categories : List Category) :
    categories.count .delimiter + categories.count .keyword + categories.count .operator +
      categories.count .string + categories.count .number + categories.count .identifier +
      categories.count .comment + categories.count .text + categories.count .whitespace +
      categories.count .badCharacter = categories.length := by
  induction categories with
  | nil => rfl
  | cons category categories ih =>
    rw [List.length_cons, ← ih]
    cases category <;> simp <;> omega

end TokenStream

/-- Metrics and counts are both those of a stream, and so agree where they count the same. -/
structure LexicalMetrics.Agrees (metrics : LexicalMetrics) (counts : TokenCounts)
    (stream : TokenStream) (countsKinds : Bool) : Prop where
  tokens_eq : metrics.tokens = stream.size
  total_eq : counts.total = stream.size
  sum_eq : counts.delimiters + counts.keywords + counts.operators + counts.strings +
    counts.numbers + counts.identifiers + counts.comments + counts.text + counts.whitespace +
    counts.badCharacters = counts.total
  /-- No more is taken off the total than is there. -/
  significant_add : counts.significant + counts.whitespace + counts.comments + counts.text =
    counts.total
  operators_eq : metrics.operators = counts.operators
  identifiers_eq : metrics.identifiers = counts.identifiers
  badCharacters_eq : metrics.badCharacters = counts.badCharacters
  /-- Words that stand for values are literals in one and keywords in the other. -/
  words_eq : metrics.keywords + metrics.literals =
    counts.keywords + counts.strings + counts.numbers
  tagsOpened_eq : metrics.tagsOpened = stream.countKind (.delimiter .blockStart) +
    stream.countKind (.delimiter .variableStart) + stream.countKind (.delimiter .commentStart)
  longestString_isGreatest : IsGreatest
    (insert 0 (LexicalMetrics.stringSizes stream.tokens.toList)) metrics.longestString
  /-- The first different kinds, each with its number in the stream. -/
  kinds_eq : metrics.kinds =
    if countsKinds then
      ((stream.tokens.toList.map (·.kind)).eraseDups.take Limits.kindTallySize).map fun kind =>
        (kind, stream.countKind kind)
    else []

namespace TokenStream

variable (stream : TokenStream)

/-- A category other than text and comments is a class of kinds. -/
theorem count_categories (category : Category) (wanted : TokenKind → Bool)
    (same : ∀ kind : TokenKind, (kind.category == category) = wanted kind)
    (comment : (Category.comment == category) = (Category.text == category)) :
    stream.categories.count category = stream.tokens.toList.countP (wanted ·.kind) :=
  stream.countP_categories (· == category) wanted same comment

/-- Words that stand for values are shown as keywords. -/
theorem count_words : stream.categories.count .keyword + stream.categories.count .string +
    stream.categories.count .number = stream.tokens.toList.countP (·.kind.isKeyword) +
      stream.tokens.toList.countP (·.kind.isLiteral) := by
  have shown : stream.categories.countP (fun c => (c == .keyword || c == .string) || c == .number) =
      stream.categories.count .keyword + stream.categories.count .string +
        stream.categories.count .number := by
    rw [countP_or fun c => by cases c <;> decide, countP_or fun c => by cases c <;> decide]
    rfl
  have read : stream.tokens.toList.countP
      (fun token => token.kind.isKeyword || token.kind.isLiteral) = _ :=
    countP_or (fun token keyword => by
      cases kind : token.kind with
      | literal l => rw [kind] at keyword; contradiction
      | _ => rfl) _
  rw [← shown, ← read]
  refine stream.countP_categories _ (fun kind => kind.isKeyword || kind.isLiteral)
    (fun kind => ?_) rfl
  cases kind with
  | literal l => cases l <;> rfl
  | _ => rfl

/-- The number of a kind among the tokens. -/
theorem countP_kind (kind : TokenKind) :
    stream.tokens.toList.countP (fun token => token.kind = kind) = stream.countKind kind :=
  Array.countP_toList

/-- Start delimiters are of three kinds. -/
theorem countP_isOpener : stream.tokens.toList.countP (·.kind.isOpener) =
    stream.countKind (.delimiter .blockStart) + stream.countKind (.delimiter .variableStart) +
      stream.countKind (.delimiter .commentStart) := by
  have opens (kind : TokenKind) : kind.isOpener =
      ((decide (kind = .delimiter .blockStart) || decide (kind = .delimiter .variableStart)) ||
        decide (kind = .delimiter .commentStart)) := by
    cases kind with
    | delimiter d => cases d <;> rfl
    | _ => rfl
  simp only [opens]
  rw [countP_or, countP_or, countP_kind, countP_kind, countP_kind]
  · intro token first
    rw [of_decide_eq_true first]
    rfl
  · intro token earlier
    rcases Bool.or_eq_true_iff.1 earlier with kind | kind
    · rw [of_decide_eq_true kind]
      rfl
    · rw [of_decide_eq_true kind]
      rfl

/-- What was counted of the tokens of a stream agrees with the counts of the stream. -/
theorem agrees_of_counts {stream : TokenStream} {metrics : LexicalMetrics} {countsKinds : Bool}
    (counts : metrics.Counts countsKinds stream.tokens.toList) :
    metrics.Agrees (.ofStream stream) stream countsKinds := by
  have every : stream.categories.length = stream.size := by
    have all := stream.countP_categories (fun _ => true) _ (fun _ => rfl) rfl
    rwa [List.countP_true, List.countP_true, Array.length_toList] at all
  have sum := sum_categories stream.categories
  rw [every] at sum
  constructor
  case tokens_eq => exact counts.tokens_eq.trans Array.length_toList
  case total_eq => rfl
  case sum_eq => exact sum
  case significant_add =>
    change stream.size - stream.categories.count .whitespace - stream.categories.count .comment -
      stream.categories.count .text + stream.categories.count .whitespace +
        stream.categories.count .comment + stream.categories.count .text = stream.size
    omega
  case operators_eq =>
    rw [counts.operators_eq]
    refine (stream.count_categories .operator
      (fun kind => kind.isOperator || kind.isPunctuation) (fun kind => ?_) rfl).symm
    cases kind with
    | literal l => cases l <;> rfl
    | _ => rfl
  case identifiers_eq =>
    rw [counts.identifiers_eq]
    refine (stream.count_categories .identifier _ (fun kind => ?_) rfl).symm
    cases kind with
    | literal l => cases l <;> rfl
    | _ => rfl
  case badCharacters_eq =>
    rw [counts.badCharacters_eq]
    refine (stream.count_categories .badCharacter
      (decide <| · = .badCharacter) (fun kind => ?_) rfl).symm
    cases kind with
    | literal l => cases l <;> rfl
    | _ => rfl
  case words_eq =>
    rw [counts.keywords_eq, counts.literals_eq]
    exact stream.count_words.symm
  case tagsOpened_eq => rw [counts.tagsOpened_eq, countP_isOpener]
  case longestString_isGreatest => exact counts.longestString_isGreatest
  case kinds_eq =>
    have number (kind : TokenKind) :
        (stream.tokens.toList.map (·.kind)).count kind = stream.countKind kind := by
      rw [← countP_kind, List.count_eq_countP, List.countP_map]
      rfl
    rw [counts.kinds_eq]
    simp only [LexicalMetrics.kindTally, number]

end TokenStream

namespace LexicalReport

/-- A range that is read is reported with its stream and the metrics of its tokens. -/
theorem ofRange_of_ok {source : String} {start stop : Nat} {mode : Mode} {d : Delimiters}
    {stream : TokenStream} (read : TokenStream.ofRange source start stop mode d = .ok stream)
    (preferences : LexingPreferences) :
    (ofRange source start stop mode d preferences).outcome = .ok stream ∧
      (ofRange source start stop mode d preferences).metrics =
        .ofTokens preferences.countsKinds stream.tokens := by
  rw [TokenStream.ofRange] at read
  rw [ofRange]
  cases sound : TokenStream.rangeFault? source start stop with
  | some fault =>
    rw [sound] at read
    contradiction
  | none =>
    rw [sound] at read
    dsimp only at read ⊢
    cases ended :
        (TokenStream.readRange source start stop mode d Limits.maxTokenCount).lexer.next? with
    | some excess =>
      rw [ended, Option.isSome_some, if_pos rfl] at read
      contradiction
    | none =>
      rw [ended, Option.isSome_none, if_neg Bool.false_ne_true] at read
      obtain rfl := Except.ok.inj read
      exact ⟨rfl, rfl⟩

/-- A source that can be read is reported with its stream, and the metrics of the report agree with
the counts of the stream. -/
theorem ofSource_agrees {source : String} {d : Delimiters} {stream : TokenStream}
    (read : TokenStream.ofSource source d = .ok stream) (preferences : LexingPreferences) :
    let report := ofSource source d preferences
    report.outcome = .ok stream ∧
      report.metrics.Agrees (.ofStream stream) stream preferences.countsKinds := by
  obtain ⟨outcome, metrics⟩ := ofRange_of_ok read preferences
  refine ⟨outcome, ?_⟩
  rw [ofSource, metrics]
  exact TokenStream.agrees_of_counts (LexicalMetrics.counts_ofTokens _ _)

/-- A word that stands for a value, two strings, and text in a comment. -/
theorem ofSource_agrees_comment : ∃ stream : TokenStream,
    TokenStream.ofSource "\x7b\x7b true ~ 'ab' ~ '' \x7d\x7d\x7b# c #\x7d" {} = .ok stream ∧
      let report := ofSource "\x7b\x7b true ~ 'ab' ~ '' \x7d\x7d\x7b# c #\x7d" {} {}
      report.outcome = .ok stream ∧ report.metrics.Agrees (.ofStream stream) stream true := by
  have within : (TokenStream.ofSource "\x7b\x7b true ~ 'ab' ~ '' \x7d\x7d\x7b# c #\x7d" {}).isOk =
      true := by decide +kernel
  obtain ⟨stream, read⟩ := TokenStream.ofSource_of_isOk within
  exact ⟨stream, read, ofSource_agrees read {}⟩

end LexicalReport
end Stencil
