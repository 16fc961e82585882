import Stencil.Json
import Stencil.Limits
import Stencil.Token.Stream
/-!
# Counting tokens

Two tallies of the tokens of a source. Metrics are counted while the source is read, by the class of
each token's kind. Counts are taken from the finished stream, by the category each token is shown
as, so that they tell comments from other text.
-/

namespace Stencil

/-- What is counted while a source is read. -/
structure LexicalMetrics where
  tokens : Nat := 0
  keywords : Nat := 0
  identifiers : Nat := 0
  /-- Operators and punctuation. -/
  operators : Nat := 0
  literals : Nat := 0
  badCharacters : Nat := 0
  /-- Start delimiters. -/
  tagsOpened : Nat := 0
  /-- The greatest number of bytes of a string literal. -/
  longestString : Nat := 0
  /-- String literals above the size limit. -/
  oversizedStrings : Nat := 0
  /-- The number of tokens of each kind, in the order the kinds first came; past so many kinds, new
  ones are not counted. -/
  kinds : List (TokenKind × Nat) := []

namespace LexicalMetrics

/-- Kind counts with one more token of a kind. A kind not counted yet is added if there is room. -/
def countKind (kind : TokenKind) (room : Nat) : List (TokenKind × Nat) → List (TokenKind × Nat)
  | [] => if 0 < room then [(kind, 1)] else []
  | (other, count) :: rest =>
    if other = kind then (other, count + 1) :: rest
    else (other, count) :: countKind kind (room - 1) rest

/-- Metrics with one more token, counted by the class of its kind. -/
def recordClass (metrics : LexicalMetrics) (kind : TokenKind) : LexicalMetrics :=
  match kind with
  | .keyword _ => { metrics with keywords := metrics.keywords + 1 }
  | .operator _ => { metrics with operators := metrics.operators + 1 }
  | .punctuation _ => { metrics with operators := metrics.operators + 1 }
  | .literal _ => { metrics with literals := metrics.literals + 1 }
  | .identifier => { metrics with identifiers := metrics.identifiers + 1 }
  | .badCharacter => { metrics with badCharacters := metrics.badCharacters + 1 }
  | .delimiter .blockStart => { metrics with tagsOpened := metrics.tagsOpened + 1 }
  | .delimiter .variableStart => { metrics with tagsOpened := metrics.tagsOpened + 1 }
  | .delimiter .commentStart => { metrics with tagsOpened := metrics.tagsOpened + 1 }
  | _ => metrics

/-- Metrics with the length of one more string literal. -/
def recordString (metrics : LexicalMetrics) (size : Nat) : LexicalMetrics :=
  { metrics with
    longestString := max metrics.longestString size
    oversizedStrings := metrics.oversizedStrings + if Limits.maxStringSize < size then 1 else 0 }

/-- Metrics with one more token. -/
def record (countsKinds : Bool) (metrics : LexicalMetrics) (token : Token) : LexicalMetrics :=
  let metrics := { metrics.recordClass token.kind with tokens := metrics.tokens + 1 }
  let metrics :=
    if token.kind = .literal .string then metrics.recordString token.size else metrics
  if countsKinds then
    { metrics with kinds := countKind token.kind Limits.kindTallySize metrics.kinds }
  else
    metrics

/-- The metrics of tokens. -/
def ofTokens (countsKinds : Bool) (tokens : Array Token) : LexicalMetrics :=
  tokens.foldl (record countsKinds) {}

/-- Metrics as data. -/
def toJson (metrics : LexicalMetrics) : Json :=
  .obj
    [("total_tokens", metrics.tokens), ("keyword_tokens", metrics.keywords),
     ("identifier_tokens", metrics.identifiers), ("operator_tokens", metrics.operators),
     ("literal_tokens", metrics.literals), ("bad_characters", metrics.badCharacters),
     ("tags_opened", metrics.tagsOpened), ("max_string_length", metrics.longestString),
     ("oversized_strings", metrics.oversizedStrings),
     ("kind_counts", .obj (metrics.kinds.map fun entry => (entry.1.dataName, entry.2)))]

end LexicalMetrics

/-- The number of tokens of each category. -/
structure TokenCounts where
  total : Nat
  delimiters : Nat
  keywords : Nat
  operators : Nat
  strings : Nat
  numbers : Nat
  identifiers : Nat
  comments : Nat
  text : Nat
  whitespace : Nat
  badCharacters : Nat

namespace TokenCounts

/-- The counts of a stream. -/
def ofStream (stream : TokenStream) : TokenCounts :=
  let categories := (List.range stream.size).filterMap stream.categoryAt?
  let of (category : Category) : Nat := categories.count category
  { total := stream.size
    delimiters := of .delimiter
    keywords := of .keyword
    operators := of .operator
    strings := of .string
    numbers := of .number
    identifiers := of .identifier
    comments := of .comment
    text := of .text
    whitespace := of .whitespace
    badCharacters := of .badCharacter }

/-- The tokens that are neither white space nor text of any kind. -/
def significant (counts : TokenCounts) : Nat :=
  counts.total - counts.whitespace - counts.comments - counts.text

/-- Whether there is any tag or comment. -/
def hasTags (counts : TokenCounts) : Bool := 0 < counts.delimiters

/-- Counts as data. -/
def toJson (counts : TokenCounts) : Json :=
  .obj
    [("total", counts.total), ("delimiters", counts.delimiters), ("keywords", counts.keywords),
     ("operators", counts.operators), ("strings", counts.strings), ("numbers", counts.numbers),
     ("identifiers", counts.identifiers), ("comments", counts.comments), ("text", counts.text),
     ("whitespace", counts.whitespace), ("bad_characters", counts.badCharacters)]

end TokenCounts
end Stencil
