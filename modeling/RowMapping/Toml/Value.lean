import RowMapping.Toml.Number
import RowMapping.Toml.Quoted

/-!
# TOML values

Strings, booleans, numbers, dates and times, and the two that nest: arrays, which may spread over
lines, and inline tables, which may not.  An inline table refuses a key twice, and refuses a
dotted key into an array or table that is already a value of it.

Every value of a nest is read behind at least one character, so twice the length of the text is
fuel enough.
-/

namespace RowMapping.Toml

/-- `f` on the table behind a path, tables on the way made where they are missing; in an array of
tables the way leads through the last one if `lists` holds -/
def updateAt (lists : Bool) (f : List (String × Value) → Option (List (String × Value))) :
    List String → List (String × Value) → Option (List (String × Value))
  | [], entries => f entries
  | k :: path, entries =>
    match entries.lookup k with
    | none => (updateAt lists f path []).map fun t => Value.setKey k (.table t) entries
    | some (.table t) => (updateAt lists f path t).map fun t => Value.setKey k (.table t) entries
    | some (.list items) =>
      match lists, items.getLast? with
      | true, some (.table t) => (updateAt lists f path t).map fun t =>
          Value.setKey k (.list (items.dropLast ++ [.table t])) entries
      | _, _ => none
    | some _ => none

/-- adds a key that the table does not have yet -/
def addKey (k : String) (v : Value) (entries : List (String × Value)) :
    Option (List (String × Value)) :=
  if (entries.lookup k).isSome then none else some (entries ++ [(k, v)])

/-- whether a value is closed to later keys -/
def isNest : Value → Bool
  | .list _ => true
  | .table _ => true
  | _ => false

/-- adds the value of a dotted key to an inline table; `closed` are the keys of earlier nests -/
def addInline (closed : List (List String)) (k : List String) (v : Value)
    (entries : List (String × Value)) : Option (List (String × Value)) :=
  if closed.any (·.isPrefixOf k) then none
  else match k.getLast? with
    | none => none
    | some last => updateAt false (addKey last v) k.dropLast entries

mutual

def value : Nat → ValueReader Value
  | 0, _ => .error .malformed
  | fuel + 1, s =>
    match s with
    | '"' :: _ => (quoted s).map fun p => (.text (String.ofList p.1), p.2)
    | '\'' :: _ => (quoted s).map fun p => (.text (String.ofList p.1), p.2)
    | 't' :: _ => (after? "true".toList s).map ((.bool true, ·))
    | 'f' :: _ => (after? "false".toList s).map ((.bool false, ·))
    | '[' :: rest => do
      let (items, rest) ← arrayItems fuel rest
      return (.list items, rest)
    | '\x7b' :: rest =>
      match skipSpaces rest with
      | '\x7d' :: rest => .ok (.table [], rest)
      | rest => inlineEntries fuel [] [] rest
    | s => bareValue s

/-- the items of an array up to its closing bracket -/
def arrayItems : Nat → ValueReader (List Value)
  | 0, _ => .error .malformed
  | fuel + 1, s => do
    match ← skipFiller false s with
    | ']' :: rest => return ([], rest)
    | s =>
      let (v, rest) ← value fuel s
      match ← skipFiller false rest with
      | ']' :: rest => return ([v], rest)
      | ',' :: rest =>
        let (items, rest) ← arrayItems fuel rest
        return (v :: items, rest)
      | _ => throw .malformed

/-- the entries of an inline table up to its closing brace -/
def inlineEntries : Nat → List (List String) → List (String × Value) → ValueReader Value
  | 0, _, _, _ => .error .malformed
  | fuel + 1, closed, entries, s => do
    let (k, rest) ← key s
    let rest ← after? ['='] rest
    let (v, rest) ← value fuel (skipSpaces rest)
    let entries ← addInline closed k v entries
    match skipSpaces rest with
    | '\x7d' :: rest => return (.table entries, rest)
    | ',' :: rest =>
      inlineEntries fuel (if isNest v then k :: closed else closed) entries (skipSpaces rest)
    | _ => throw .malformed

end

def keyValue : ValueReader (List String × Value) := fun s => do
  let (k, rest) ← key s
  let rest ← after? ['='] rest
  let (v, rest) ← value (2 * s.length + 2) (skipSpaces rest)
  return ((k, v), rest)

end RowMapping.Toml
