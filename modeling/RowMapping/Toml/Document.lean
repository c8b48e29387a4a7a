import RowMapping.Toml.Value

/-!
# TOML documents

A document is a list of lines, each empty, a comment, a key with its value, or the header of a
table or of an item of an array of tables.  `parse` gives the table of the whole document, or the
first fault in it.

Beside the data a document keeps which paths are `closed`, and can not be added to, and which are
`declared`, and can not be the header of a table again.  The paths that a dotted key passes
through become declared when the next header comes.
-/

namespace RowMapping.Toml

structure Document where
  entries : List (String × Value) := []
  header : List String := []
  closed : List (List String) := []
  declared : List (List String) := []
  passed : List (List String) := []

namespace Document

/-- whether a path is closed or lies below a closed one -/
def isClosed (d : Document) (path : List String) : Bool := d.closed.any (·.isPrefixOf path)

/-- the document with the paths of dotted keys declared -/
def settle (d : Document) : Document := { d with declared := d.passed ++ d.declared, passed := [] }

/-- the document in the table of a header -/
def openTable (d : Document) (path : List String) : Option Document := do
  let d := d.settle
  if d.declared.contains path || d.isClosed path then failure
  let entries ← updateAt true some path d.entries
  return { d with entries := entries, header := path, declared := path :: d.declared }

/-- adds an empty table to the array of tables of a key -/
def pushTable (k : String) (entries : List (String × Value)) : Option (List (String × Value)) :=
  match entries.lookup k with
  | none => some (entries ++ [(k, .list [.table []])])
  | some (.list items) => some (Value.setKey k (.list (items ++ [.table []])) entries)
  | some _ => none

/-- the document in a new item of the array of tables of a header -/
def openItem (d : Document) (path : List String) : Option Document := do
  let d := d.settle
  if d.isClosed path then failure
  let last ← path.getLast?
  let entries ← updateAt true (pushTable last) path.dropLast d.entries
  return { d with
    entries := entries
    header := path
    closed := d.closed.filter (!path.isPrefixOf ·)
    declared := path :: d.declared.filter (!path.isPrefixOf ·) }

/-- the paths that a dotted key passes through -/
def between (header k : List String) : List (List String) :=
  (List.range (k.length - 1)).map fun i => header ++ k.take (i + 1)

/-- the document with a key and its value in the open table -/
def add (d : Document) (k : List String) (v : Value) : Option Document := do
  let passed := between d.header k
  if passed.any d.declared.contains then failure
  let parent := d.header ++ k.dropLast
  if d.isClosed parent then failure
  let last ← k.getLast?
  let entries ← updateAt true (addKey last v) parent d.entries
  return { d with
    entries := entries
    passed := passed ++ d.passed
    closed := if isNest v then (d.header ++ k) :: d.closed else d.closed }

/-- what the front of a line does to the document, and the rest of the line -/
def statement (d : Document) : ValueReader Document
  | '[' :: '[' :: rest => do
    let (path, rest) ← key (skipSpaces rest)
    let d ← d.openItem path
    let rest ← after? [']', ']'] rest
    return (d, skipSpaces rest)
  | '[' :: rest => do
    let (path, rest) ← key (skipSpaces rest)
    let d ← d.openTable path
    let rest ← after? [']'] rest
    return (d, skipSpaces rest)
  | c :: rest =>
    if c = '\n' || c = '#' then .ok (d, c :: rest)
    else do
      let ((k, v), rest) ← keyValue (c :: rest)
      let d ← d.add k v
      return (d, skipSpaces rest)
  | [] => .ok (d, [])

/-- all lines of a text, at most `fuel` of them -/
def readLines (d : Document) : Nat → List Char → Except Fault Document
  | 0, _ => .error .malformed
  | fuel + 1, s => do
    let (d, rest) ← d.statement (skipSpaces s)
    match ← skipComment rest with
    | [] => return d
    | '\n' :: rest => d.readLines fuel rest
    | _ => throw .malformed

end Document

/-- the top table of a TOML text, in which lines end in line feeds only -/
def parse (s : List Char) : Except Fault (List (String × Value)) :=
  (Document.readLines {} (s.length + 1) s).map (·.entries)

end RowMapping.Toml
