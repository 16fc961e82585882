import Stencil.Facts.Basic
import Stencil.Parser.Parse
import Std.Data.HashSet
/-!
# Mentions

What a tree mentions, in order: a name and the set it belongs to. Names are read from the tokens of
a node. A reference that names a test or a filter is no variable: the reference at the bottom of the
second operand of `is`, and of the expression of a filter block.
-/

namespace Stencil

/-- A name and the set it belongs to. -/
structure Mention where
  set : NameSet
  name : String

/-- A string literal without its quotes. A literal that does not end in the quote it begins with
loses only that one. -/
def unquote (literal : String) : String :=
  match literal.toList with
  | [] => ""
  | opening :: inner =>
    match inner.reverse with
    | last :: reversed =>
      if last = opening then String.ofList reversed.reverse else String.ofList inner
    | [] => ""

namespace SyntaxTree

/-- The reference at the bottom of a chain of calls, filters and attributes, within so many
steps. -/
def baseWithin (tree : SyntaxTree) : (steps : Nat) → (id : Nat) → Option Nat
  | 0, _ => none
  | steps + 1, id =>
    match tree.kind? id with
    | some .variableReference => some id
    | some .functionCall | some .filterExpression | some .attributeAccess =>
      (tree.childNodes id).head?.bind (baseWithin tree steps)
    | _ => none

/-- The reference at the bottom of a chain of calls, filters and attributes. -/
def base? (tree : SyntaxTree) (id : Nat) : Option Nat := tree.baseWithin tree.size id

/-- The texts of the tokens of a kind among the children of a node. -/
def textsOf (tree : SyntaxTree) (stream : TokenStream) (kind : TokenKind) (id : Nat) :
    List String :=
  ((tree.childTokens id).filter fun index => stream.kindAt? index = some kind).map stream.textAt

/-- The first name among the tokens of a node. -/
def firstName? (tree : SyntaxTree) (stream : TokenStream) (id : Nat) : Option String :=
  (tree.textsOf stream .identifier id).head?

/-- The value of a string literal: its parts without their quotes, one after another. -/
def stringValue (tree : SyntaxTree) (stream : TokenStream) (id : Nat) : String :=
  String.join ((tree.textsOf stream (.literal .string) id).map unquote)

/-- The names among tokens that do not come right after a dot, white space aside. -/
def targetsAmong (stream : TokenStream) (afterDot : Bool) : List Nat → List String
  | [] => []
  | index :: rest =>
    match stream.kindAt? index with
    | some .identifier =>
      if afterDot then targetsAmong stream false rest
      else stream.textAt index :: targetsAmong stream false rest
    | some (.punctuation .dot) => targetsAmong stream true rest
    | some .whitespace => targetsAmong stream afterDot rest
    | _ => targetsAmong stream false rest

/-- The names that a list of targets assigns to. -/
def targetNames (tree : SyntaxTree) (stream : TokenStream) (id : Nat) : List String :=
  targetsAmong stream false (tree.childTokens id)

/-- The templates that a statement names: its first expression if that is a string, or the strings
in it if it is a list or a tuple. -/
def dependencyNames (tree : SyntaxTree) (stream : TokenStream) (id : Nat) : List String :=
  match (tree.childNodes id).head? with
  | none => []
  | some target =>
    match tree.kind? target with
    | some .stringLiteral => [tree.stringValue stream target]
    | some .listLiteral | some .tupleLiteral =>
      ((tree.childNodes target).filter (tree.isKind .stringLiteral)).map (tree.stringValue stream)
    | _ => []

/-- The reference in a node that names a test or a filter and no value. -/
def callableIn? (tree : SyntaxTree) (id : Nat) : Option Nat :=
  match tree.kind? id with
  | some .testExpression => (tree.childNodes id)[1]?.bind tree.base?
  | some .filterBlock => (tree.childNodes id).head?.bind tree.base?
  | _ => none

/-- The references that name a test or a filter. -/
def callables (tree : SyntaxTree) : List Nat :=
  (tree.descendants tree.root).filterMap tree.callableIn?

/-- What filter blocks mention: the filters they apply. -/
def filterBlockMentions (tree : SyntaxTree) (stream : TokenStream) : List Mention :=
  ((tree.descendants tree.root).filter (tree.isKind .filterBlock)).filterMap fun id =>
    (tree.callableIn? id).map fun base => ⟨.filters, (tree.firstName? stream base).getD ""⟩

/-- What a node mentions, given which references name no value. -/
def nodeMentions (tree : SyntaxTree) (stream : TokenStream) (isCallable : Nat → Bool) (id : Nat) :
    List Mention :=
  let first (set : NameSet) : List Mention :=
    ((tree.firstName? stream id).map fun name => ⟨set, name⟩).toList
  match tree.kind? id with
  | some .variableReference =>
    if isCallable id then [] else [⟨.values, (tree.firstName? stream id).getD ""⟩]
  | some .targetList => (tree.targetNames stream id).map fun name => ⟨.values, name⟩
  | some .macroBlock => first .macros
  | some .blockDefinition => first .blocks
  | some .filterExpression => first .filters
  | some .extendsBlock | some .includeBlock | some .importBlock | some .fromImportBlock =>
    (tree.dependencyNames stream id).map fun name => ⟨.dependencies, name⟩
  | _ => []

/-- What a tree mentions: the filters of filter blocks first, then node by node in document
order. -/
def mentions (tree : SyntaxTree) (stream : TokenStream) : List Mention :=
  let callables := Std.HashSet.ofList tree.callables
  tree.filterBlockMentions stream ++
    (tree.descendants tree.root).flatMap (tree.nodeMentions stream callables.contains)

/-- The number of statements with a body and of `elif` branches. -/
def complexity (tree : SyntaxTree) : Nat :=
  (tree.descendants tree.root).countP fun id =>
    (tree.kind? id).any fun kind => kind.hasBody || kind = .elifBlock

end SyntaxTree
end Stencil
