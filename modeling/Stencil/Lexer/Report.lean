import Stencil.Journal.Event
import Stencil.Lexer.Metrics
import Stencil.Lexer.Relex
import Stencil.Preferences
import Stencil.Source.Map
/-!
# Reading with a report

Reading a range of a source, with the metrics of its tokens and the events worth telling.
-/

namespace Stencil

/-- A reading, its metrics and its events. -/
structure LexicalReport where
  outcome : Except LexerFault TokenStream
  metrics : LexicalMetrics
  events : List Event

namespace LexicalReport

/-- Reading begins. -/
def started (size : Nat) (mode : Mode) (d : Delimiters) : Event :=
  .debug "Starting lexical analysis"
    [("bytes", toString size), ("initial_state", mode.name),
     ("custom_delimiters", toString d.isCustom),
     ("max_tokens_allowed", toString Limits.maxTokenCount)]

/-- One warning for each bad character. -/
def badCharacters (source : String) (tokens : List Token) : List Event :=
  let map := SourceMap.ofSource source
  (tokens.filter fun token => token.kind = .badCharacter).map fun token =>
    (Event.warning .badCharacter "Unrecognized character in tag"
      [("char", token.text source)]).at? (map.span token.start token.stop)

/-- A warning if there are string literals above the size limit. -/
def oversizedStrings (metrics : LexicalMetrics) : List Event :=
  if metrics.oversizedStrings = 0 then []
  else
    [.warning .plainWarning "String literal exceeds size limit"
      [("count", toString metrics.oversizedStrings), ("limit", toString Limits.maxStringSize)]]

/-- Reading is complete. -/
def completed (metrics : LexicalMetrics) : Event :=
  .success .tokenizationComplete "Lexical analysis completed"
    [("tokens", toString metrics.tokens), ("bad_characters", toString metrics.badCharacters),
     ("tags", toString metrics.tagsOpened)]

/-- What is told of a range that is not one of the source. -/
def outOfRange (fault : LexerFault) (start stop : Nat) : Event :=
  .error fault.code fault.message [("start", toString start), ("end", toString stop)]

/-- What is told of a source with too many tokens, at the first one too many. -/
def tooMany (source : String) (count : Nat) (token : Token) : Event :=
  (Event.error .tooManyTokens "Token limit exceeded"
    [("token_count", toString count), ("limit", toString Limits.maxTokenCount)]).at?
      ((SourceMap.ofSource source).span token.start token.stop)

/-- Reads a range of a source. -/
def ofRange (source : String) (start stop : Nat) (mode : Mode) (d : Delimiters)
    (preferences : LexingPreferences := {}) : LexicalReport :=
  match TokenStream.rangeFault? source start stop with
  | some fault => ⟨.error fault, {}, [outOfRange fault start stop]⟩
  | none =>
    let reading := TokenStream.readRange source start stop mode d Limits.maxTokenCount
    let stream := TokenStream.ofReading source reading
    let metrics := LexicalMetrics.ofTokens preferences.countsKinds stream.tokens
    let begun := started (stop - start) mode d
    match reading.lexer.next? with
    | some (excess, _) =>
      ⟨.error (.tooManyTokens stream.size), metrics,
        [begun, tooMany source stream.size excess.token]⟩
    | none =>
      let bad :=
        if preferences.reportsBadCharacters && 0 < metrics.badCharacters then
          badCharacters source stream.tokens.toList
        else
          []
      ⟨.ok stream, metrics, begun :: bad ++ oversizedStrings metrics ++ [completed metrics]⟩

/-- Reads a whole source. -/
def ofSource (source : String) (d : Delimiters) (preferences : LexingPreferences := {}) :
    LexicalReport :=
  ofRange source 0 source.utf8ByteSize .template d preferences

end LexicalReport
end Stencil
