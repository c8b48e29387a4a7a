import RowMapping.ClassTable.Namespace
import RowMapping.Failure
import RowMapping.Hint.Markers
import RowMapping.Hint.Naming
import RowMapping.Method

/-!
# The methods of a class

`methods` lists the methods that a class shows: of every name the attribute that the search finds
first, if it is a method whose whole shape is known.  An attribute without such a shape hides what
stands behind it all the same.  Frameworks declare no methods.

A quoted hint that is no expression, or whose evaluation ends in an error that has nothing to do with
names and types, stops the search: then the class refuses to list its methods.
-/

namespace RowMapping
open RowMapping.Text

/-- whether a function with such a hint is passed over -/
def QuoteFault.isPassedOver : QuoteFault → Bool
  | undefined | unfit _ | noMember _ => true
  | malformed | raised _ _ => false

namespace FunctionInfo

def hints (f : FunctionInfo) : List Hint := f.params.filterMap (·.hint) ++ f.returns.toList

/-- the parameters that a call through an instance or a class leaves to the caller -/
def boundParams (f : FunctionInfo) : List Param :=
  if f.declaresReceiver then f.params else f.params.drop 1

def typeOf? (hint : Option Hint) : Option TypeName :=
  hint.bind fun h => (TypeName.ofHint h.bare).toOption

/-- the types of parameters, if they are all known and none is variadic -/
def paramTypes? : List Param → Option (List TypeName)
  | [] => some []
  | p :: rest =>
    if p.isVariadic then none
    else (typeOf? p.hint).bind fun t => (paramTypes? rest).map (t :: ·)

/-- the types of some of its parameters and of its result, if the function lets itself be read -/
def shape? (f : FunctionInfo) (params : List Param) : Option (List TypeName × TypeName) :=
  if f.brokenSignature || f.hints.any (·.dangling?.isSome) then none
  else (paramTypes? params).bind fun ts => (typeOf? f.returns).map fun r => (ts, r)

/-- why looking the hints of a function up stops whoever does -/
def refusal? (f : FunctionInfo) : Option Failure :=
  match Hint.danglingAll? f.hints with
  | some d => if d.fault.isPassedOver then none else some (.dangling d)
  | none => none

end FunctionInfo

/-- the function of a member, whether its receiver is bound, and whether it counts as static -/
def Member.shape? : Member → Option (Bool × List TypeName × TypeName)
  | .instance f => (f.shape? f.boundParams).map (false, ·)
  | .static f => (f.shape? f.params).map (true, ·)
  | .ofClass f => (f.shape? f.boundParams).map (true, ·)
  | .property => none
  | .value => none

def Member.refusal? : Member → Option Failure
  | .instance f | .static f | .ofClass f => f.refusal?
  | .property | .value => none

def Attribute.method? (owner : TypeName) (a : Attribute) : Option Method :=
  a.member.shape?.map fun (isStatic, params, returns) =>
    { owner := owner, name := a.name, params := params, returns := returns, isStatic := isStatic }

/-- the method of an attribute, if it is one and does not refuse to be looked at -/
def Attribute.read (owner : TypeName) (a : Attribute) : Except Failure (Option Method) :=
  match a.member.refusal? with
  | some f => .error f
  | none => .ok (a.method? owner)

def firstNamed : List Attribute → List Attribute
  | [] => []
  | a :: rest => a :: (firstNamed rest).filter (·.name ≠ a.name)

/-- the methods among attributes that are looked at one after the other -/
def readMethods (owner : TypeName) : List Attribute → Except Failure (List Method)
  | [] => .ok []
  | a :: rest => do
    let method ← a.read owner
    let others ← readMethods owner rest
    return method.toList ++ others

theorem firstNamed_cons (a : Attribute) (rest : List Attribute) :
    firstNamed (a :: rest) = a :: (firstNamed rest).filter (·.name ≠ a.name) := rfl

namespace ClassTable

/-! ### visible methods -/

/-- packages whose classes declare no methods of interest -/
def frameworks : List String := ["typing", "abc", "pydantic"]

def isFramework (c : ClassRef) : Bool := frameworks.contains (beforeDot c.module)

def visibleAttributes (t : ClassTable) (cls : ClassRef) : List Attribute :=
  firstNamed (((t.ancestry cls).filter (!isFramework ·.ref)).flatMap t.attributes)

/-- the methods that a class shows, ancestors behind descendants and each body in its order -/
def methods (t : ClassTable) (cls : ClassRef) : Except Failure (List Method) :=
  readMethods (.ofClass cls) (t.visibleAttributes cls)

/-- the first method of a class that has a shape -/
def findMethod (t : ClassTable) (cls : ClassRef) (s : Shape) : Except Failure (Option Method) :=
  (t.methods cls).map (·.find? (·.fits s))

/-! ### refusals -/

/-- what a class shows, whether it lists it or not -/
def shownMethods (t : ClassTable) (cls : ClassRef) : List Method :=
  (t.visibleAttributes cls).filterMap (Attribute.method? (.ofClass cls))

/-- why a class does not list its methods -/
def refusal? (t : ClassTable) (cls : ClassRef) : Option Failure :=
  (t.visibleAttributes cls).findSome? (·.member.refusal?)

def directory (t : ClassTable) : Directory := { typeName := .ofClass, methods := t.shownMethods }

end ClassTable
end RowMapping
