import Stencil.Facts.Mention
import Stencil.Journal.Event
/-!
# Collecting facts

The names that a tree mentions go into sets. A set that is full takes no further names, and that is
told once for each set.
-/

namespace Stencil

/-- The names of one set, each once, in the order they first came. -/
structure NameTally where
  names : Array String := #[]
  /-- The same names, for looking them up. -/
  members : Std.HashSet String := ∅
  /-- A name was turned away. -/
  isOverfull : Bool := false

namespace NameTally

/-- The names with one more, if it is new and there is room. -/
def insert (tally : NameTally) (limit : Nat) (name : String) : NameTally :=
  if tally.members.contains name then tally
  else if tally.names.size < limit then
    { tally with names := tally.names.push name, members := tally.members.insert name }
  else
    { tally with isOverfull := true }

/-- The names in order. -/
def sorted (tally : NameTally) : List String :=
  tally.names.toList.mergeSort fun a b => decide (a ≤ b)

end NameTally

/-- The names of all sets, and the sets that turned a name away in the order they did. -/
structure MentionTally where
  values : NameTally := {}
  macros : NameTally := {}
  blocks : NameTally := {}
  filters : NameTally := {}
  dependencies : NameTally := {}
  overfull : Array NameSet := #[]

namespace MentionTally

/-- The names of a set. -/
def get (tally : MentionTally) : NameSet → NameTally
  | .values => tally.values
  | .macros => tally.macros
  | .blocks => tally.blocks
  | .filters => tally.filters
  | .dependencies => tally.dependencies

/-- One set changed in place. -/
def update (tally : MentionTally) (set : NameSet) (change : NameTally → NameTally) :
    MentionTally :=
  match set with
  | .values => { tally with values := change tally.values }
  | .macros => { tally with macros := change tally.macros }
  | .blocks => { tally with blocks := change tally.blocks }
  | .filters => { tally with filters := change tally.filters }
  | .dependencies => { tally with dependencies := change tally.dependencies }

/-- The names with one more mention. -/
def add (limit : Nat) (tally : MentionTally) (mention : Mention) : MentionTally :=
  let wasOverfull := (tally.get mention.set).isOverfull
  let tally := tally.update mention.set fun names => names.insert limit mention.name
  if !wasOverfull && (tally.get mention.set).isOverfull then
    { tally with overfull := tally.overfull.push mention.set }
  else
    tally

/-- The names of mentions. -/
def ofMentions (limit : Nat) (mentions : List Mention) : MentionTally :=
  mentions.foldl (add limit) {}

end MentionTally

namespace Facts

/-- The facts of names. -/
def ofTally (tally : MentionTally) (complexity : Nat) : Facts where
  values := tally.values.sorted
  macros := tally.macros.sorted
  blocks := tally.blocks.sorted
  filters := tally.filters.sorted
  dependencies := tally.dependencies.sorted
  complexity := complexity

/-- The facts of a tree. -/
def ofTree (tree : SyntaxTree) (stream : TokenStream) (limit : Nat := Limits.maxFactsPerSet) :
    Facts :=
  ofTally (MentionTally.ofMentions limit (tree.mentions stream)) tree.complexity

/-- What is told of a set that turned a name away. -/
def overfullEvent (limit : Nat) (set : NameSet) : Event :=
  let fault := AnalysisFault.tooManyNames set.name limit
  .warning fault.code fault.message [("set", set.name)]

/-- What is told of facts. -/
def summaryEvents (facts : Facts) : List Event :=
  .debug "Template facts collected"
      [("variables", toString facts.values.length), ("macros", toString facts.macros.length),
       ("dependencies", toString facts.dependencies.length),
       ("complexity", toString facts.complexity)] ::
    if facts.nameCount = 0 then []
    else
      [.success .factsCollected "Template facts collected"
        [("names", toString facts.nameCount), ("complexity", toString facts.complexity)]]

/-- The facts of a tree and what is told of them. -/
def collect (tree : SyntaxTree) (stream : TokenStream) (limit : Nat := Limits.maxFactsPerSet) :
    Facts × List Event :=
  let tally := MentionTally.ofMentions limit (tree.mentions stream)
  let facts := ofTally tally tree.complexity
  (facts, tally.overfull.toList.map (overfullEvent limit) ++ facts.summaryEvents)

end Facts
end Stencil
