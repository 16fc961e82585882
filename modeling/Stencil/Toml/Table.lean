/-!
# Tables of TOML

A document is a table of tables. A table can be opened by a header, by a header of a table inside
it, or by a dotted key, and each can be given its entries only by the way it was opened, and once.
-/

namespace Stencil.Toml

/-- What a value is, as far as settings need it. -/
inductive Value where
  | text (content : String)
  | other

/-- What a key of a table stands for. -/
inductive Item where
  | value (value : Value)
  /-- A table. It is implied as long as it has no header, and dotted if a dotted key opened it. -/
  | table (isImplied isDotted : Bool) (entries : List (String × Item))
  /-- A list of tables, of which only the last can still change. -/
  | tables (last : Item)

namespace Item

/-- The table at the start of a document. -/
def document : Item := .table false false []

/-- A table that a path leads through. -/
def implied (isDotted : Bool) : Item := .table true isDotted []

/-- What a key of a table stands for. -/
def get? (item : Item) (key : String) : Option Item :=
  match item with
  | .table _ _ entries => (entries.find? fun entry => entry.1 = key).map (·.2)
  | _ => none

/-- A table with another meaning for a key. -/
def set (item : Item) (key : String) (entry : Item) : Item :=
  match item with
  | .table isImplied isDotted entries =>
    .table isImplied isDotted ((key, entry) :: entries.filter fun old => old.1 ≠ key)
  | item => item

/-- Changes the table that a path leads to, and opens those on the way that are missing. A list of
tables leads to its last. A dotted path does not lead through a table that has a header. -/
def update (isDotted : Bool) (change : Item → Option Item) (table : Item) :
    List String → Option Item
  | [] => change table
  | key :: path =>
    match (table.get? key).getD (implied isDotted) with
    | .value _ => none
    | .tables last =>
      (last.update isDotted change path).map fun last => table.set key (.tables last)
    | .table isImplied dotted entries =>
      if isDotted && !isImplied then none
      else
        ((Item.table isImplied dotted entries).update isDotted change path).map (table.set key)

/-- A table with an entry for a new key, if the table was opened the way the entry is given. -/
def add (table : Item) (isDotted : Bool) (key : String) (entry : Item) : Option Item :=
  match table with
  | .table _ dotted _ =>
    if dotted = isDotted && (table.get? key).isNone then some (table.set key entry) else none
  | _ => none

/-- A table with an entry for a new key that may be dotted. -/
def assign (table : Item) (key : List String) (entry : Item) : Option Item :=
  match key.getLast? with
  | none => none
  | some last =>
    let path := key.dropLast
    table.update true (fun inner => inner.add (!path.isEmpty) last entry) path

/-- A table with a header for one of its keys. A table has one header, and none if a dotted key
opened it. -/
def openTable (key : String) (table : Item) : Option Item :=
  match table.get? key with
  | none => some (table.set key (.table false false []))
  | some (.table true false entries) => some (table.set key (.table false false entries))
  | some _ => none

/-- A table with one more table in the list of a key. -/
def openTables (key : String) (table : Item) : Option Item :=
  match table.get? key with
  | none | some (.tables _) => some (table.set key (.tables (.table false false [])))
  | some _ => none

/-- A document with a header. -/
def header (isList : Bool) (key : List String) (document : Item) : Option Item :=
  match key.getLast? with
  | none => none
  | some last =>
    document.update false (if isList then openTables last else openTable last) key.dropLast

end Item
end Stencil.Toml
