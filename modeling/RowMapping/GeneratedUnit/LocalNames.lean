import RowMapping.NameSupply
import RowMapping.TypeName.Written

/-!
# The names that imports take

A unit imports the names of the types that it mentions.  The first type that comes with a name
keeps it; another type of the same name gets a local name of its own.  All these names are taken
in the supply that the rest of the unit is named from.
-/

namespace RowMapping

structure LocalNames where
  supply : NameSupply := {}
  owners : List (String × (String × String)) := []
  aliases : Aliases := []

namespace LocalNames

def knows (l : LocalNames) (key : String × String) : Bool :=
  l.owners.lookup key.2 == some key || (l.aliases.lookup key).isSome

/-- the names with that of one more import, given as a module and a name -/
def add (l : LocalNames) (key : String × String) : LocalNames :=
  if l.knows key then l
  else if l.supply.contains key.2 then
    let (name, supply) := l.supply.newName key.2
    { l with supply := supply, aliases := l.aliases ++ [(key, name)] }
  else { l with supply := l.supply.reserve key.2, owners := (key.2, key) :: l.owners }

def ofImports (keys : List (String × String)) : LocalNames := keys.foldl add {}

def ofTypes (types : List TypeName) : LocalNames := ofImports (types.flatMap TypeName.imports)

theorem add_of_knows {l : LocalNames} {key : String × String} (h : l.knows key = true) :
    l.add key = l := by simp [add, h]

end LocalNames
end RowMapping
