import RowMapping.CellKind
import RowMapping.Hint.Naming
import RowMapping.NameSupply
import RowMapping.Site

/-!
# Failures

Every cause for which a value class gets no unit, with its text.  A failure that concerns one
property starts with the site of the property.
-/

namespace RowMapping
open RowMapping.Text

/-- the direction in which a property can not be mapped -/
inductive Operation where
  | read | write
deriving DecidableEq, Repr

/-- a property whose type is none of a cell, with the column that it names itself -/
structure UnsupportedType where
  property : String
  type : String
  operation : Operation
  column : Option String
  site : Option Site
deriving DecidableEq, Repr

/-- a class without the method that its use asks for -/
structure ContractViolation where
  cls : ClassRef
  adapter : String
  shape : String
  expected : String
  site : Option Site
deriving DecidableEq, Repr

inductive ImportFault where
  | missing (module : String)
  | notPackage (module parent : String)
deriving DecidableEq, Repr

/-- why the properties of a class are unknown, or the class itself -/
inductive DiscoveryFault where
  | dangling (d : Dangling)
  | brokenSignature
  | untyped (field : String)
  | unnameable (field : String) (error : HintError)
  | malformedTarget
  | notImported (module : String) (fault : ImportFault)
  | noMember (member module : String)
  | notClass
deriving DecidableEq, Repr

inductive Failure where
  | naming (error : NameError)
  | hint (error : HintError)
  | notImportable (type : String)
  | unsupported (u : UnsupportedType)
  | contract (c : ContractViolation)
  | conflict (property : String) (site : Option Site)
  | noGetter (kind : CellKind)
  | discovery (cls : String) (fault : DiscoveryFault)
  | dangling (d : Dangling)
  | relativeModule (name : String)
deriving DecidableEq, Repr

/-! ### texts -/

def UnsupportedType.message (u : UnsupportedType) : String :=
  match u.column, u.operation with
  | some column, _ =>
    "Property '" ++ u.property ++ "' is mapped to column '" ++ column ++ "' but its type '"
      ++ u.type ++ "' is not supported"
  | none, .read =>
    "Property '" ++ u.property ++ "' has type '" ++ u.type ++ "' that can't be read from cursor"
  | none, .write =>
    "Property '" ++ u.property ++ "' has type '" ++ u.type
      ++ "' that can't be put into content values"

def ContractViolation.message (c : ContractViolation) : String :=
  "Class '" ++ c.adapter ++ "' needs to define a " ++ c.shape ++ " " ++ c.expected

def ImportFault.message : ImportFault → String
  | missing module => "No module named " ++ shown module
  | notPackage module parent =>
    "No module named " ++ shown module ++ "; " ++ shown parent ++ " is not a package"

/-- the text of the error in which looking up a quoted hint ends -/
def Dangling.message (d : Dangling) : String :=
  match d.fault with
  | .undefined => "name '" ++ beforeDot d.text ++ "' is not defined"
  | .unfit detail | .noMember detail | .raised _ detail => detail
  | .malformed => "Forward reference must be an expression -- got " ++ shown d.text

/-- what asking for a broken signature answers -/
def brokenSignatureText : String := "unexpected object 'broken' in __signature__ attribute"

def DiscoveryFault.message : DiscoveryFault → String
  | dangling d => "unresolvable annotation: " ++ d.message
  | brokenSignature => brokenSignatureText
  | untyped field => "field '" ++ field ++ "' has no type annotation"
  | unnameable field error => "field '" ++ field ++ "': " ++ error.message
  | malformedTarget => "expected 'module:ClassName'"
  | notImported module fault => "cannot import module '" ++ module ++ "': " ++ fault.message
  | noMember member module => "'" ++ member ++ "' not found in '" ++ module ++ "'"
  | notClass => "not a class"

namespace Failure

def message : Failure → String
  | naming error => error.message
  | hint error => error.message
  | notImportable type =>
    "Type '" ++ type ++ "' is defined inside a function and can't be imported by generated code"
  | unsupported u => atSite u.site u.message
  | contract c => atSite c.site c.message
  | conflict property site => atSite site
      ("Property '" ++ property
        ++ "' can't use a column adapter and a values factory at the same time")
  | noGetter kind => "No row-store getter configured for " ++ kind.text ++ " cells"
  | discovery cls fault => "Cannot discover properties of " ++ cls ++ ": " ++ fault.message
  | dangling d => d.message
  | relativeModule name =>
    "the 'package' argument is required to perform a relative import for " ++ shown name

/-- whether a failure is one of the program's own, reported without a trace -/
def isReported : Failure → Bool
  | naming _ | hint _ | dangling _ | relativeModule _ => false
  | _ => true

end Failure
end RowMapping
