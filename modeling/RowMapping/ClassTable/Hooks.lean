import RowMapping.ClassTable.Methods
import RowMapping.ClassTable.Properties
import RowMapping.GeneratedUnit.Basic

/-!
# Hooks

A value class opts into routines by the methods it declares: a static method from a cursor to the
class, a static method that gives such a function, and a method that gives a map of cells.  A
class without hooks has no unit.

Where a class refuses to list its methods, whoever asks it first fails with its refusal.  In a
`guarded` mapping such a class shows no methods, so that what is asked of it is not met, and
`blame` puts the refusal in the place of this failure.
-/

namespace RowMapping
namespace ClassTable

def readerShape (s : Settings) (cls : ClassRef) : Shape :=
  { isStatic := true, takes := [s.rowStoreType], returns := .ofClass cls }

def mapperShape (s : Settings) (cls : ClassRef) : Shape :=
  { isStatic := true, takes := [], returns := .callable [s.rowStoreType] (.ofClass cls) }

/-- the hook for a write function, which gets the name of the hook -/
def writerShape (s : Settings) : Shape :=
  { isStatic := false, takes := [], returns := s.cellMapType }

def capabilities (t : ClassTable) (s : Settings) (cls : ClassRef) : Capabilities :=
  { readsFromCursor := t.directory.hasMethod cls (readerShape s cls)
    exposesMapper := t.directory.hasMethod cls (mapperShape s cls)
    valuesMethod := (t.directory.findMethod cls (writerShape s)).map (·.name)
    keywordConstruction := t.constructsByKeyword cls }

/-- the capabilities of a class that lists its methods -/
def inspectHost (t : ClassTable) (s : Settings) (cls : ClassRef) : Except Failure Capabilities :=
  (t.methods cls).map fun _ => t.capabilities s cls

def mapping (t : ClassTable) (s : Settings) : Mapping := { settings := s, directory := t.directory }

/-! ### units -/

/-- a mapping in which a class that refuses to list its methods shows none -/
def guarded (t : ClassTable) (s : Settings) : Mapping :=
  { settings := s
    directory := { t.directory with
      methods := fun cls => if (t.refusal? cls).isSome then [] else t.shownMethods cls } }

/-- the failure behind one of a guarded mapping -/
def blame (t : ClassTable) : Failure → Failure
  | .contract c => (t.refusal? c.cls).getD (.contract c)
  | f => f

/-- the unit of a class, none if the class opts into no routine -/
def generate (t : ClassTable) (s : Settings) (cls : ClassRef) :
    Except Failure (Option GeneratedUnit) := do
  let c ← t.inspectHost s cls
  if c.isApplicable then
    let ps ← t.properties cls
    some <$> ((t.guarded s).generateUnit (.ofClass cls) ps c).mapError t.blame
  else return none

end ClassTable
end RowMapping
