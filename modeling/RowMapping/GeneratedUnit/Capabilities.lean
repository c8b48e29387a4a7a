/-!
# Capabilities

Which routines a value class opts into, and how it is constructed.
-/

namespace RowMapping

structure Capabilities where
  readsFromCursor : Bool := false
  exposesMapper : Bool := false
  valuesMethod : Option String := none
  keywordConstruction : Bool := false
deriving DecidableEq, Repr

namespace Capabilities

/-- A mapper needs the read function, so it brings that one with it. -/
def generatesRead (c : Capabilities) : Bool := c.readsFromCursor || c.exposesMapper

def generatesWrite (c : Capabilities) : Bool := c.valuesMethod.isSome

def isApplicable (c : Capabilities) : Bool := c.generatesRead || c.generatesWrite

end Capabilities
end RowMapping
