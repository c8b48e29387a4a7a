import RowMapping.ClassRef
import RowMapping.TypeName.Basic

/-!
# Methods and their shapes

A method is known by its name and its typed shape, and a method without a receiver counts as
static.  Whoever generates code looks a class up in a `Directory` and asks for the first method of
a shape.
-/

namespace RowMapping

structure Method where
  owner : TypeName
  name : String
  params : List TypeName
  returns : TypeName
  isStatic : Bool := false
deriving Repr

/-- what a use asks of a method; any name will do where none is given -/
structure Shape where
  isStatic : Bool
  takes : List TypeName
  returns : TypeName
  name : Option String := none
deriving Repr

structure Directory where
  typeName : ClassRef → TypeName
  methods : ClassRef → List Method

def Method.fits (m : Method) (s : Shape) : Bool :=
  s.name.all (· == m.name) && m.isStatic == s.isStatic && TypeName.sameAll m.params s.takes
    && m.returns.same s.returns

namespace Directory

def findMethod (d : Directory) (cls : ClassRef) (s : Shape) : Option Method :=
  (d.methods cls).find? (·.fits s)

def hasMethod (d : Directory) (cls : ClassRef) (s : Shape) : Bool := (d.findMethod cls s).isSome

theorem fits_of_findMethod {d : Directory} {cls : ClassRef} {s : Shape} {m : Method}
    (h : d.findMethod cls s = some m) : m.fits s = true := by
  rw [findMethod] at h
  have := List.find?_some h
  simpa using this

end Directory
end RowMapping
