/-!
# Token kinds

A token is a delimiter, a reserved word, an operator, punctuation, a literal, a name, template
text, or space. The classes a reader asks about are the constructors, so each kind is in one class.
-/

namespace Stencil

/-- The six strings that open and close tags and comments. -/
inductive Delimiter where
  | blockStart | blockEnd | variableStart | variableEnd | commentStart | commentEnd
  deriving DecidableEq

/-- The reserved words, the literal words excepted. -/
inductive Keyword where
  | forKw | endFor | ifKw | elifKw | elseKw | endIf | setKw | withKw | endWith
  | blockKw | endBlock | extendsKw | includeKw | importKw | fromKw | asKw
  | macroKw | endMacro | callKw | endCall
  | filterKw | endFilter | rawKw | endRaw | autoescapeKw | endAutoescape
  | transKw | endTrans | pluralizeKw
  | inKw | isKw | notKw | andKw | orKw
  | recursiveKw | scopedKw | ignoreKw | missingKw | withoutKw | contextKw
  deriving DecidableEq

/-- Operators between operands. -/
inductive Operator where
  | assign | plus | minus | multiply | divide | floorDivide | modulo | power
  | eq | ne | lt | gt | le | ge | pipe | tilde
  deriving DecidableEq

/-- Brackets and separators. -/
inductive Punctuation where
  | leftParen | rightParen | leftBracket | rightBracket | leftBrace | rightBrace
  | dot | comma | colon | semicolon | question
  deriving DecidableEq

/-- Literal values; `true`, `false` and `none` are words that stand for values. -/
inductive Literal where
  | string | integer | float | boolTrue | boolFalse | none
  deriving DecidableEq

/-- Every kind of token. -/
inductive TokenKind where
  | delimiter (d : Delimiter)
  | keyword (k : Keyword)
  | operator (o : Operator)
  | punctuation (p : Punctuation)
  | literal (l : Literal)
  | identifier
  /-- Template text, comment content and raw content. -/
  | text
  | whitespace
  | newline
  /-- One character that can start no token inside a tag. -/
  | badCharacter
  deriving DecidableEq

instance : Coe Delimiter TokenKind := ⟨.delimiter⟩
instance : Coe Keyword TokenKind := ⟨.keyword⟩
instance : Coe Operator TokenKind := ⟨.operator⟩
instance : Coe Punctuation TokenKind := ⟨.punctuation⟩
instance : Coe Literal TokenKind := ⟨.literal⟩

/-- Every delimiter, in declaration order. -/
def Delimiter.all : List Delimiter :=
  [.blockStart, .blockEnd, .variableStart, .variableEnd, .commentStart, .commentEnd]

/-- Every reserved word, in declaration order. -/
def Keyword.all : List Keyword :=
  [.forKw, .endFor, .ifKw, .elifKw, .elseKw, .endIf, .setKw, .withKw, .endWith,
   .blockKw, .endBlock, .extendsKw, .includeKw, .importKw, .fromKw, .asKw,
   .macroKw, .endMacro, .callKw, .endCall,
   .filterKw, .endFilter, .rawKw, .endRaw, .autoescapeKw, .endAutoescape,
   .transKw, .endTrans, .pluralizeKw,
   .inKw, .isKw, .notKw, .andKw, .orKw,
   .recursiveKw, .scopedKw, .ignoreKw, .missingKw, .withoutKw, .contextKw]

/-- Every operator, in declaration order. -/
def Operator.all : List Operator :=
  [.assign, .plus, .minus, .multiply, .divide, .floorDivide, .modulo, .power,
   .eq, .ne, .lt, .gt, .le, .ge, .pipe, .tilde]

/-- Every punctuation mark, in declaration order. -/
def Punctuation.all : List Punctuation :=
  [.leftParen, .rightParen, .leftBracket, .rightBracket, .leftBrace, .rightBrace,
   .dot, .comma, .colon, .semicolon, .question]

/-- Every literal, in declaration order. -/
def Literal.all : List Literal :=
  [.string, .integer, .float, .boolTrue, .boolFalse, .none]

/-- Every token kind, in declaration order. -/
def TokenKind.all : List TokenKind :=
  Delimiter.all.map .delimiter ++ Keyword.all.map .keyword ++ Operator.all.map .operator ++
    Punctuation.all.map .punctuation ++ Literal.all.map .literal ++
    [.identifier, .text, .whitespace, .newline, .badCharacter]

/-- No token kind is missing from the list of all of them. -/
theorem TokenKind.mem_all (kind : TokenKind) : kind ∈ TokenKind.all := by
  cases kind with
  | delimiter d => cases d <;> decide
  | keyword k => cases k <;> decide
  | operator o => cases o <;> decide
  | punctuation p => cases p <;> decide
  | literal l => cases l <;> decide
  | identifier => decide
  | text => decide
  | whitespace => decide
  | newline => decide
  | badCharacter => decide

/-! ### Spellings -/

/-- The source spelling of a reserved word. -/
def Keyword.spelling : Keyword → String
  | .forKw => "for" | .endFor => "endfor" | .ifKw => "if" | .elifKw => "elif"
  | .elseKw => "else" | .endIf => "endif" | .setKw => "set" | .withKw => "with"
  | .endWith => "endwith" | .blockKw => "block" | .endBlock => "endblock"
  | .extendsKw => "extends" | .includeKw => "include" | .importKw => "import"
  | .fromKw => "from" | .asKw => "as" | .macroKw => "macro" | .endMacro => "endmacro"
  | .callKw => "call" | .endCall => "endcall" | .filterKw => "filter"
  | .endFilter => "endfilter" | .rawKw => "raw" | .endRaw => "endraw"
  | .autoescapeKw => "autoescape" | .endAutoescape => "endautoescape"
  | .transKw => "trans" | .endTrans => "endtrans" | .pluralizeKw => "pluralize"
  | .inKw => "in" | .isKw => "is" | .notKw => "not" | .andKw => "and" | .orKw => "or"
  | .recursiveKw => "recursive" | .scopedKw => "scoped" | .ignoreKw => "ignore"
  | .missingKw => "missing" | .withoutKw => "without" | .contextKw => "context"

/-- Words with a kind of their own and that kind, reserved words before literal words. -/
def TokenKind.words : List (String × TokenKind) :=
  Keyword.all.map (fun k => (k.spelling, .keyword k)) ++
    [("true", .literal .boolTrue), ("false", .literal .boolFalse), ("none", .literal .none)]

/-- The kind of a word that is reserved or stands for a value. -/
def TokenKind.ofWord? (word : String) : Option TokenKind :=
  (TokenKind.words.find? fun entry => entry.1 = word).map (·.2)

/-- The word a kind is always spelt with, if there is one. -/
def TokenKind.spelling? : TokenKind → Option String
  | .keyword k => some k.spelling
  | .literal .boolTrue => some "true"
  | .literal .boolFalse => some "false"
  | .literal .none => some "none"
  | _ => none

/-- The spelling of a word kind, and a question mark for every other kind. -/
def TokenKind.wordText (kind : TokenKind) : String := kind.spelling?.getD "?"

/-- Operators of two characters; they are tried before any of one character. -/
def Operator.pairs : List (String × Operator) :=
  [("==", .eq), ("!=", .ne), ("<=", .le), (">=", .ge), ("//", .floorDivide), ("**", .power)]

/-- The operator or punctuation mark written with one character. -/
def TokenKind.ofMark? (c : Char) : Option TokenKind :=
  match c with
  | '=' => some (.operator .assign)
  | '+' => some (.operator .plus)
  | '-' => some (.operator .minus)
  | '*' => some (.operator .multiply)
  | '/' => some (.operator .divide)
  | '%' => some (.operator .modulo)
  | '<' => some (.operator .lt)
  | '>' => some (.operator .gt)
  | '|' => some (.operator .pipe)
  | '~' => some (.operator .tilde)
  | '(' => some (.punctuation .leftParen)
  | ')' => some (.punctuation .rightParen)
  | '[' => some (.punctuation .leftBracket)
  | ']' => some (.punctuation .rightBracket)
  | '{' => some (.punctuation .leftBrace)
  | '}' => some (.punctuation .rightBrace)
  | '.' => some (.punctuation .dot)
  | ',' => some (.punctuation .comma)
  | ':' => some (.punctuation .colon)
  | ';' => some (.punctuation .semicolon)
  | '?' => some (.punctuation .question)
  | _ => none

/-! ### Classes -/

/-- Delimiters of tags and comments. -/
def TokenKind.isDelimiter : TokenKind → Bool
  | .delimiter _ => true
  | _ => false

/-- Reserved words, the literal words excepted. -/
def TokenKind.isKeyword : TokenKind → Bool
  | .keyword _ => true
  | _ => false

/-- Operators. -/
def TokenKind.isOperator : TokenKind → Bool
  | .operator _ => true
  | _ => false

/-- Brackets and separators. -/
def TokenKind.isPunctuation : TokenKind → Bool
  | .punctuation _ => true
  | _ => false

/-- Literal values. -/
def TokenKind.isLiteral : TokenKind → Bool
  | .literal _ => true
  | _ => false

/-- Names that are not reserved. -/
def TokenKind.isIdentifier (kind : TokenKind) : Bool := kind = .identifier

/-- White space and line ends. -/
def TokenKind.isTrivia : TokenKind → Bool
  | .whitespace | .newline => true
  | _ => false

/-- The comparison operators, which share one level of precedence. -/
def TokenKind.isComparison : TokenKind → Bool
  | .operator .eq | .operator .ne | .operator .lt | .operator .le
  | .operator .gt | .operator .ge => true
  | _ => false

/-- Delimiters and line ends belong to the construct around an expression, which never takes one. -/
def TokenKind.isStructural (kind : TokenKind) : Bool := kind.isDelimiter || kind = .newline

/-- How a token is shown to a reader. -/
inductive Category where
  | delimiter | keyword | operator | string | number | identifier | comment | text
  | badCharacter | whitespace
  deriving DecidableEq

/-- The category of a kind on its own; text inside a comment is told apart by the token stream. -/
def TokenKind.category : TokenKind → Category
  | .delimiter _ => .delimiter
  | .keyword _ => .keyword
  | .operator _ => .operator
  | .punctuation _ => .operator
  | .literal .string => .string
  | .literal .integer => .number
  | .literal .float => .number
  | .literal .boolTrue => .keyword
  | .literal .boolFalse => .keyword
  | .literal .none => .keyword
  | .identifier => .identifier
  | .text => .text
  | .whitespace => .whitespace
  | .newline => .whitespace
  | .badCharacter => .badCharacter

/-! ### Names -/

/-- The upper case name of a delimiter. -/
def Delimiter.name : Delimiter → String
  | .blockStart => "BLOCK_START" | .blockEnd => "BLOCK_END"
  | .variableStart => "VARIABLE_START" | .variableEnd => "VARIABLE_END"
  | .commentStart => "COMMENT_START" | .commentEnd => "COMMENT_END"

/-- The upper case name of an operator. -/
def Operator.name : Operator → String
  | .assign => "ASSIGN" | .plus => "PLUS" | .minus => "MINUS" | .multiply => "MULTIPLY"
  | .divide => "DIVIDE" | .floorDivide => "FLOOR_DIVIDE" | .modulo => "MODULO"
  | .power => "POWER" | .eq => "EQ" | .ne => "NE" | .lt => "LT" | .gt => "GT" | .le => "LE"
  | .ge => "GE" | .pipe => "PIPE" | .tilde => "TILDE"

/-- Which way a bracket faces and what it is called, or the name of a separator. -/
def Punctuation.nameParts : Punctuation → List String
  | .leftParen => ["L", "PAREN"] | .rightParen => ["R", "PAREN"]
  | .leftBracket => ["L", "BRACKET"] | .rightBracket => ["R", "BRACKET"]
  | .leftBrace => ["L", "BRACE"] | .rightBrace => ["R", "BRACE"]
  | .dot => ["DOT"] | .comma => ["COMMA"] | .colon => ["COLON"]
  | .semicolon => ["SEMICOLON"] | .question => ["QUESTION"]

/-- The upper case name of a literal. -/
def Literal.name : Literal → String
  | .string => "STRING" | .integer => "INTEGER" | .float => "FLOAT"
  | .boolTrue => "BOOLEAN_TRUE" | .boolFalse => "BOOLEAN_FALSE" | .none => "NONE"

/-- An end keyword's name without its first three letters, or nothing for any other keyword. -/
def Keyword.endOf? : Keyword → Option String
  | .endFor => some "FOR" | .endIf => some "IF" | .endWith => some "WITH"
  | .endBlock => some "BLOCK" | .endMacro => some "MACRO" | .endCall => some "CALL"
  | .endFilter => some "FILTER" | .endRaw => some "RAW" | .endAutoescape => some "AUTOESCAPE"
  | .endTrans => some "TRANS"
  | _ => none

/-- The name of a kind in dumps and messages: the words of its name run together in end keywords
and brackets. -/
def TokenKind.name : TokenKind → String
  | .delimiter d => d.name
  | .keyword k => k.spelling.toUpper
  | .operator o => o.name
  | .punctuation p => String.join p.nameParts
  | .literal l => l.name
  | .identifier => "IDENTIFIER"
  | .text => "TEXT"
  | .whitespace => "WHITESPACE"
  | .newline => "NEWLINE"
  | .badCharacter => "BAD_CHARACTER"

/-- The name of a kind in data: every word of the name is set off by an underscore. -/
def TokenKind.dataName : TokenKind → String
  | .keyword k => match k.endOf? with
    | some opened => "END_" ++ opened
    | none => k.spelling.toUpper
  | .punctuation p => String.intercalate "_" p.nameParts
  | kind => kind.name

/-- The kind with a given name in data. -/
def TokenKind.ofDataName? (name : String) : Option TokenKind :=
  TokenKind.all.find? fun kind => kind.dataName = name

/-- The name of a category. -/
def Category.name : Category → String
  | .delimiter => "Delimiter" | .keyword => "Keyword" | .operator => "Operator"
  | .string => "String" | .number => "Number" | .identifier => "Identifier"
  | .comment => "Comment" | .text => "Text" | .badCharacter => "BadCharacter"
  | .whitespace => "Whitespace"

end Stencil
