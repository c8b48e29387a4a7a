import RowMapping.TypeName.Basic

/-!
# Type names in source text

`render` writes a type name as it stands in generated source, and `imports` lists the names that
the source has to import for it.  `aliased` sets the local names throughout from one table, and
`declared` writes a type as it was declared, whatever it is imported under.
-/

namespace RowMapping
open RowMapping.Text

/-- local names for importable names, keyed by module and first segment -/
abbrev Aliases := List ((String × String) × String)

namespace TypeName

/-- the name with its first segment as it is known locally -/
def writtenName (t : TypeName) : String :=
  match t.localName with
  | none => t.name
  | some l => l ++ fromDot t.name

/-- the text of a type in front of its `None`, given the texts of its arguments -/
def compose (t : TypeName) (args : List String) : String :=
  if t.isParameterList then "[" ++ joined ", " args ++ "]"
  else if t.isUnion then joined " | " args
  else if args.isEmpty then t.writtenName
  else t.writtenName ++ "[" ++ joined ", " args ++ "]"

mutual

def render : TypeName → String
  | ⟨name, module, args, nullable, localName⟩ =>
    compose ⟨name, module, args, nullable, localName⟩ (renderAll args)
      ++ if nullable then " | None" else ""

def renderAll : List TypeName → List String
  | [] => []
  | t :: ts => render t :: renderAll ts

end

theorem renderAll_eq_map (ts : List TypeName) : renderAll ts = ts.map render := by
  induction ts with
  | nil => rw [renderAll, List.map_nil]
  | cons t ts ih => rw [renderAll, ih, List.map_cons]

mutual

/-- the type with its local names, and those of its arguments, read from `aliases` -/
def aliased (aliases : Aliases) : TypeName → TypeName
  | ⟨name, module, args, nullable, _⟩ =>
    ⟨name, module, aliasedAll aliases args, nullable, aliases.lookup (module, beforeDot name)⟩

def aliasedAll (aliases : Aliases) : List TypeName → List TypeName
  | [] => []
  | t :: ts => aliased aliases t :: aliasedAll aliases ts

end

theorem aliasedAll_eq_map (aliases : Aliases) (ts : List TypeName) :
    aliasedAll aliases ts = ts.map (aliased aliases) := by
  induction ts with
  | nil => rw [aliasedAll, List.map_nil]
  | cons t ts ih => rw [aliasedAll, ih, List.map_cons]

def declared (t : TypeName) : String := (t.aliased []).render

/-! ### the types inside a type -/

mutual

/-- a type and then its arguments, outer ones first and with repeats -/
def parts : TypeName → List TypeName
  | ⟨name, module, args, nullable, localName⟩ =>
    ⟨name, module, args, nullable, localName⟩ :: partsAll args

def partsAll : List TypeName → List TypeName
  | [] => []
  | t :: ts => parts t ++ partsAll ts

end

theorem partsAll_eq_flatMap (ts : List TypeName) : partsAll ts = ts.flatMap parts := by
  induction ts with
  | nil => rw [partsAll, List.flatMap_nil]
  | cons t ts ih => rw [partsAll, ih, List.flatMap_cons]

end TypeName

/-! ### imports -/

/-- an import of the first segment of a name from a module, under a local name if it has one -/
structure Import where
  module : String
  root : String
  localName : Option String := none
deriving DecidableEq, Repr

namespace Import

/-- what is imported, whatever it is called -/
def key (i : Import) : String × String := (i.module, i.root)

/-- the name that the import binds -/
def bound (i : Import) : String := i.localName.getD i.root

/-- the import as its line says it, behind its module -/
def entry (i : Import) : String × String :=
  match i.localName with
  | none => (i.module, i.root)
  | some l => (i.module, i.root ++ " as " ++ l)

end Import

namespace TypeName

def isImportable (t : TypeName) : Bool :=
  !(t.module == builtins || t.module == syntaxModule || t.isUnion)

def ownImport (t : TypeName) : Import := ⟨t.module, t.rootName, t.localName⟩

/-- the imports of a type and then of its arguments, in order and with repeats -/
def imported (t : TypeName) : List Import := (t.parts.filter isImportable).map ownImport

def imports (t : TypeName) : List (String × String) := t.imported.map Import.entry

/-! ### types that can not be imported -/

/-- whether `pattern` occurs in a text -/
def occursIn (pattern : List Char) : List Char → Bool
  | [] => pattern.isEmpty
  | c :: rest => pattern.isPrefixOf (c :: rest) || occursIn pattern rest

def isLocal (t : TypeName) : Bool := occursIn "<locals>".toList t.name.toList

/-- the first type inside a function among types and their arguments, outer ones first -/
def localPart? (types : List TypeName) : Option TypeName := (types.flatMap parts).find? isLocal

end TypeName
end RowMapping
