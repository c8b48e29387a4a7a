import RowMapping.ClassRef
import RowMapping.Text.Joined

/-!
# Type names

A type name is a name in a module with type arguments, possibly with `None` allowed beside it.
`localName` is what the first segment of the name is imported under where its own name is taken;
it is no part of the type, and `same` compares without it.

The module `syntaxModule` holds what is written but never imported: `...`, and the parameter list
of a callable.
-/

namespace RowMapping
open RowMapping.Text

structure TypeName where
  name : String
  module : String := builtins
  args : List TypeName := []
  nullable : Bool := false
  localName : Option String := none
deriving Inhabited, Repr

namespace TypeName

/-- the module of what is syntax and no importable name -/
def syntaxModule : String := ""

/-- the name of the parameter list of a callable -/
def parameterList : String := "[]"

/-- the type name behind a dotted name such as `pkg.module.Cursor` -/
def parse (qualified : String) : TypeName :=
  let module := beforeLastDot qualified
  { name := afterLastDot qualified, module := if module = "" then builtins else module }

def ofClass (c : ClassRef) : TypeName := { name := c.name, module := c.module }

/-- a parameter list as a type name -/
def parameters (params : List TypeName) : TypeName :=
  { name := parameterList, module := syntaxModule, args := params }

/-- the type of functions with these parameters -/
def callable (params : List TypeName) (result : TypeName) : TypeName :=
  { name := "Callable", module := "collections.abc", args := [parameters params, result] }

def noneType : TypeName := { name := "None" }
def str : TypeName := { name := "str" }
def int : TypeName := { name := "int" }

/-! ### the parts of the name -/

def qualifiedName (t : TypeName) : String :=
  if t.module = builtins ∨ t.module = syntaxModule then t.name else t.module ++ "." ++ t.name

def simpleName (t : TypeName) : String := afterLastDot t.name

/-- the first segment of the name, the one that an import binds -/
def rootName (t : TypeName) : String := beforeDot t.name

def nonNull (t : TypeName) : TypeName := { t with nullable := false }

def isParameterList (t : TypeName) : Bool := t.name == parameterList && t.module == syntaxModule

def isUnion (t : TypeName) : Bool := t.name == "Union" && t.module == "typing"

/-! ### equality of types -/

mutual

/-- equality of everything but the local names -/
def same : TypeName → TypeName → Bool
  | ⟨name, module, args, nullable, _⟩, ⟨name', module', args', nullable', _⟩ =>
    name == name' && module == module' && nullable == nullable' && sameAll args args'

def sameAll : List TypeName → List TypeName → Bool
  | [], [] => true
  | a :: as, b :: bs => same a b && sameAll as bs
  | _, _ => false

end

theorem sameAll_nil : sameAll [] [] = true := by rw [sameAll]

end TypeName
end RowMapping
