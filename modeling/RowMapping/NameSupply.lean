import RowMapping.ClassRef
import RowMapping.Text.Identifier
import RowMapping.Text.Shown

/-!
# The names of one generated unit

Every name of a unit comes from one supply, which knows the names that are taken and the names
that were bound to a tag.  A new name is the identifier made of the suggestion, with underscores
behind it until it is neither a keyword nor taken.  `fresh` tries one name more than are taken,
and one more for a keyword, so that the last one it tries is free.
-/

namespace RowMapping
open RowMapping.Text

/-- the parts of a unit that have one name each -/
inductive Role where
  | readFunction | writeFunction | mapper | cursor | value | values
deriving DecidableEq, Repr

inductive Tag where
  | label (text : String)
  | property (name : String)
  | adapter (cls : ClassRef)
  | role (r : Role)
deriving DecidableEq, Repr

def Role.shown : Role → String
  | .readFunction => "('function', 'read')"
  | .writeFunction => "('function', 'write')"
  | .mapper => "('mapper',)"
  | .cursor => "('param', 'cursor')"
  | .value => "('param', 'value')"
  | .values => "('local', 'values')"

/-- a tag as a diagnostic shows it -/
def Tag.shown : Tag → String
  | .label text => Text.shown text
  | .property name => "('property', " ++ Text.shown name ++ ")"
  | .adapter cls => "('adapter', " ++ cls.shown ++ ")"
  | .role r => r.shown

inductive NameError where
  | bound (tag : Tag) (name : String)
  | unbound (tag : Tag)
deriving DecidableEq, Repr

def NameError.message : NameError → String
  | .bound tag name => "Tag " ++ tag.shown ++ " is already bound to '" ++ name ++ "'"
  | .unbound tag => "No name allocated for tag " ++ tag.shown

structure NameSupply where
  taken : List String := []
  bindings : List (Tag × String) := []
deriving Repr

namespace NameSupply

def empty : NameSupply := {}

def contains (s : NameSupply) (name : String) : Bool := s.taken.contains name

def find? (s : NameSupply) (tag : Tag) : Option String := s.bindings.lookup tag

def blocked (s : NameSupply) (name : String) : Bool := isKeyword name || s.contains name

/-- the name, with at most `more` underscores behind it until it is free -/
def firstFree (s : NameSupply) : Nat → String → String
  | 0, name => name
  | more + 1, name => if s.blocked name then s.firstFree more (name ++ "_") else name

def fresh (s : NameSupply) (suggestion : String) : String :=
  s.firstFree (s.taken.length + 2) (toIdentifier suggestion)

def reserve (s : NameSupply) (name : String) : NameSupply := { s with taken := name :: s.taken }

def bind (s : NameSupply) (tag : Tag) (name : String) : NameSupply :=
  { taken := name :: s.taken, bindings := s.bindings ++ [(tag, name)] }

def newName (s : NameSupply) (suggestion : String) : String × NameSupply :=
  let name := s.fresh suggestion
  (name, s.reserve name)

def newNameFor (s : NameSupply) (tag : Tag) (suggestion : String) :
    Except NameError (String × NameSupply) :=
  match s.find? tag with
  | some name => .error (.bound tag name)
  | none =>
    let name := s.fresh suggestion
    .ok (name, s.bind tag name)

/-- the name of a tag, a new one if it has none yet -/
def nameFor (s : NameSupply) (tag : Tag) (suggestion : String) : String × NameSupply :=
  match s.find? tag with
  | some name => (name, s)
  | none =>
    let name := s.fresh suggestion
    (name, s.bind tag name)

def get (s : NameSupply) (tag : Tag) : Except NameError String :=
  match s.find? tag with
  | some name => .ok name
  | none => .error (.unbound tag)

theorem contains_reserve (s : NameSupply) (name other : String) :
    (s.reserve name).contains other = (other == name || s.contains other) := by
  rw [contains, reserve, List.contains_cons, contains]

theorem contains_bind (s : NameSupply) (tag : Tag) (name other : String) :
    (s.bind tag name).contains other = (other == name || s.contains other) := by
  rw [contains, bind, List.contains_cons, contains]

end NameSupply
end RowMapping
