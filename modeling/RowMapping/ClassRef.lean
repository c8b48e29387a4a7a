/-!
# References to classes

A class is known by the module that holds it and its qualified name in there (`Outer.Inner` for a
nested class).  The classes of the platform are apart from described ones of the same name.
-/

namespace RowMapping

/-- the module whose names need no import -/
def builtins : String := "builtins"

structure ClassRef where
  name : String
  module : String := builtins
  native : Bool := false
deriving DecidableEq, Repr

def ClassRef.shown (c : ClassRef) : String :=
  if c.module = builtins then "<class '" ++ c.name ++ "'>"
  else "<class '" ++ c.module ++ "." ++ c.name ++ "'>"

def ClassRef.builtin (name : String) : ClassRef := { name := name, native := true }

/-- the class of the platform that generated code reads rows from -/
def ClassRef.cursor : ClassRef :=
  { name := "Cursor", module := "row_gen.runtime.protocol", native := true }

/-- the class of the platform that generated code fills with cells -/
def ClassRef.contentValues : ClassRef :=
  { name := "ContentValues", module := "row_gen.runtime.protocol", native := true }

end RowMapping
