import RowMapping.Hint.Basic
import RowMapping.Text.Shown
import RowMapping.TypeName.Basic

/-!
# The type name of a hint

`TypeName.ofHint` names a hint.  Markers are left aside, `None` in a union makes the name
nullable, and what is no type has no name: a name that was never resolved, or a plain value.
Members and arguments are named from left to right, and the first that has no name decides.
-/

namespace RowMapping
open RowMapping.Text

/-- why a hint has no type name, with the hint as it is shown -/
inductive HintError where
  | unresolved (shown : String)
  | unnameable (shown : String)
deriving DecidableEq, Repr

def HintError.message : HintError → String
  | unresolved shown => "Unresolved forward reference: " ++ shown
  | unnameable shown => "Cannot name annotation " ++ shown

def Scalar.shown : Scalar → String
  | none => "None"
  | text s => Text.shown s
  | int n => toString n
  | bool b => if b then "True" else "False"

def ClassRef.shownInside (c : ClassRef) : String :=
  if c.module = builtins then c.name else c.module ++ "." ++ c.name

def shownForward (name : String) : String := "ForwardRef(" ++ Text.shown name ++ ")"

namespace Hint

mutual

def shown : Hint → String
  | none => "None"
  | any => "typing.Any"
  | ellipsis => "..."
  | cls c => c.shownInside
  | newType name module => module ++ "." ++ name
  | union hs => "typing.Union[" ++ joined ", " (shownAll hs) ++ "]"
  | generic c hs => c.shownInside ++ "[" ++ joined ", " (shownAll hs) ++ "]"
  | callable [ellipsis] r => "collections.abc.Callable[..., " ++ shown r ++ "]"
  | callable ps r =>
    "collections.abc.Callable[[" ++ joined ", " (shownAll ps) ++ "], " ++ shown r ++ "]"
  | annotated h _ => shown h
  | list hs => "[" ++ joined ", " (shownAll hs) ++ "]"
  | literal vs => "typing.Literal[" ++ joined ", " (vs.map Scalar.shown) ++ "]"
  | classVar h => "typing.ClassVar[" ++ shown h ++ "]"
  | initVar h => "dataclasses.InitVar[" ++ shown h ++ "]"
  | text name _ => Text.shown name
  | forward name _ => shownForward name
  | value v => v.shown

def shownAll : List Hint → List String
  | [] => []
  | h :: hs => shown h :: shownAll hs

end

/-- the hint of an initialiser as a diagnostic shows it, classes by their last name -/
def shownInitVar : Hint → String
  | cls c => "dataclasses.InitVar[" ++ afterLastDot c.name ++ "]"
  | any => "dataclasses.InitVar[Any]"
  | h => "dataclasses.InitVar[" ++ shown h ++ "]"

end Hint

namespace TypeName

def ofScalar : Scalar → Except HintError TypeName
  | .none => .ok noneType
  | .text s => .error (.unresolved (Text.shown s))
  | v => .error (.unnameable v.shown)

/-- the type name of a union, given the names of its members other than `None` -/
def ofMembers (nullable : Bool) : List TypeName → TypeName
  | [t] => { t with nullable := nullable }
  | ts => { name := "Union", module := "typing", args := ts, nullable := nullable }

/-- The type name of a callable.  A lone `...` or a lone parameter list among the parameters stands
for the parameters themselves. -/
def ofCallable (params : List TypeName) (result : TypeName) : TypeName :=
  { name := "Callable", module := "collections.abc", args := [own, result] }
where own : TypeName :=
  match params with
  | [p] => if p.module = syntaxModule && (p.name = "..." || p.name = parameterList) then p
    else parameters [p]
  | ps => parameters ps

def isNone : Hint → Bool
  | .none => true
  | _ => false

mutual

def ofHint : Hint → Except HintError TypeName
  | .none => .ok noneType
  | .any => .ok { name := "Any", module := "typing" }
  | .ellipsis => .ok { name := "...", module := syntaxModule }
  | .cls c => .ok (ofClass c)
  | .newType name module => .ok { name := afterLastDot name, module := module }
  | .union hs => (ofNonNull hs).map (ofMembers (hs.any isNone))
  | .generic c hs => (ofHints hs).map fun ts => { ofClass c with args := ts }
  | .callable ps r => (ofHints ps).bind fun ts => (ofHint r).map (ofCallable ts)
  | .annotated h _ => ofHint h
  | .list hs => (ofHints hs).map parameters
  | .literal vs => (vs.mapM ofScalar).map fun ts =>
      { name := "Literal", module := "typing", args := ts }
  | .classVar h => (ofHint h).map fun t => { name := "ClassVar", module := "typing", args := [t] }
  | .initVar h => .error (.unnameable h.shownInitVar)
  | .text name _ => .error (.unresolved (Text.shown name))
  | .forward name _ => .error (.unresolved (shownForward name))
  | .value v => .error (.unnameable v.shown)

def ofHints : List Hint → Except HintError (List TypeName)
  | [] => .ok []
  | h :: hs => (ofHint h).bind fun t => (ofHints hs).map (t :: ·)

def ofNonNull : List Hint → Except HintError (List TypeName)
  | [] => .ok []
  | h :: hs =>
    if isNone h then ofNonNull hs else (ofHint h).bind fun t => (ofNonNull hs).map (t :: ·)

end

end TypeName
end RowMapping
