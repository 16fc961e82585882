/-!
# Paths

A path is a text that is read as components between slashes. Paths are kept as they were written
and compared by their components, so that a doubled slash or a dot in the middle makes no
difference.
-/

namespace Stencil

/-- One step of a path. -/
inductive Component where
  /-- The slash at the start of an absolute path. -/
  | root
  /-- A dot at the start of a relative path. -/
  | current
  | parent
  | name (text : String)
  deriving DecidableEq

/-- A path as it was written. -/
structure Path where
  text : String
  deriving DecidableEq

namespace Component

/-- The order of the forms of a component. -/
def rank : Component → Nat
  | .root => 0
  | .current => 1
  | .parent => 2
  | .name _ => 3

/-- The name of a component that is one. -/
def nameText : Component → String
  | .name text => text
  | _ => ""

instance : Ord Component where
  compare a b := (compare a.rank b.rank).then (compare a.nameText b.nameText)

/-- What a segment between slashes stands for, if it is not skipped. A dot counts only where nothing
comes before it. -/
def ofSegment? (first : Bool) (segment : String) : Option Component :=
  if segment = "" then none
  else if segment = "." then if first then some .current else none
  else if segment = ".." then some .parent
  else some (.name segment)

end Component

/-- A component and the number of characters of the path up to its end. -/
structure PlacedComponent where
  component : Component
  stop : Nat

namespace Path

/-- Whether a path starts at the root. -/
def isAbsolute (path : Path) : Bool := path.text.toList.head? = some '/'

/-- Components of segments of which the first begins at a character offset. -/
def placedFrom (first : Bool) (offset : Nat) : List String → List PlacedComponent
  | [] => []
  | segment :: rest =>
    let stop := offset + segment.length
    let others := placedFrom false (stop + 1) rest
    match Component.ofSegment? first segment with
    | some component => ⟨component, stop⟩ :: others
    | none => others

/-- The components of a path and where each ends. -/
def placed (path : Path) : List PlacedComponent :=
  let segments := path.text.splitOn "/"
  if path.isAbsolute then ⟨.root, 1⟩ :: placedFrom false 0 segments
  else placedFrom true 0 segments

/-- The components of a path. -/
def components (path : Path) : List Component := path.placed.map (·.component)

/-- Paths are ordered component by component. -/
def order (a b : Path) : Ordering := compare a.components b.components

/-- Whether two paths have the same components. -/
def same (a b : Path) : Bool := a.components = b.components

/-- The path of an entry of a directory. -/
def join (directory : Path) (name : String) : Path :=
  if directory.text = "" || directory.text.endsWith "/" then ⟨directory.text ++ name⟩
  else ⟨directory.text ++ "/" ++ name⟩

/-- The path without its last component, as far as it was written. The root and the empty path have
none. -/
def parent? (path : Path) : Option Path :=
  match path.placed.reverse with
  | [] => none
  | ⟨.root, _⟩ :: _ => none
  | _ :: [] => some ⟨""⟩
  | _ :: before :: _ => some ⟨(path.text.take before.stop).toString⟩

/-- The name a path ends in, if it ends in one. -/
def fileName? (path : Path) : Option String :=
  match path.components.getLast? with
  | some (.name text) => some text
  | _ => none

/-- The characters after the last dot of a name, unless the name has no dot after its first
character. -/
def extensionOf? (name : String) : Option String :=
  let reversed := name.toList.reverse
  match reversed.dropWhile (· ≠ '.') with
  | _ :: _ :: _ => some (String.ofList (reversed.takeWhile (· ≠ '.')).reverse)
  | _ => none

/-- The extension of the name a path ends in. -/
def extension? (path : Path) : Option String := path.fileName?.bind extensionOf?

end Path
end Stencil
