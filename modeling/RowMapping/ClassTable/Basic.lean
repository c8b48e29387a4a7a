import RowMapping.Hint.Basic

/-!
# Described classes

A class is described by its bases, its fields and its own attributes, methods among them: those of
its body, and those that a decorator or a metaclass puts beside them or in their place.  What every
class and every dataclass gets is not described.  A table holds the classes that are described, each
behind its bases.  The two classes of the platform that generated code talks to are in every table,
and a class that no description names has no bases and no attributes.
-/

namespace RowMapping

inductive ParamKind where
  | positional | standard | keyword | rest | keywordRest
deriving DecidableEq, Repr

structure Param where
  name : String
  hint : Option Hint := none
  kind : ParamKind := .standard
  hasDefault : Bool := false
deriving Repr

def Param.isVariadic (p : Param) : Bool := p.kind == .rest || p.kind == .keywordRest

/-- parameters that take whatever they are given -/
def anyParams : List Param :=
  [{ name := "args", kind := .rest }, { name := "kwargs", kind := .keywordRest }]

/-- A function of a class body.  The parameters are those behind the receiver unless
`declaresReceiver` is false, and then they are all there are. -/
structure FunctionInfo where
  params : List Param := []
  returns : Option Hint := none
  declaresReceiver : Bool := true
  brokenSignature : Bool := false
deriving Repr

/-- what stands under a name in a class body -/
inductive Member where
  | instance (f : FunctionInfo)
  | static (f : FunctionInfo)
  | ofClass (f : FunctionInfo)
  | property
  | value
deriving Repr

structure Attribute where
  name : String
  member : Member
deriving Repr

/-- A field of a class body.  It has a default if it declares one, or if the class inherits one
under its name.  The class keeps a default that it declares, and that is no recipe for one, as an
attribute. -/
structure Field where
  name : String
  hint : Hint
  isInit : Bool := true
  keywordOnly : Option Bool := none
  hasDefault : Bool := false
  keepsDefault : Bool := false
deriving Repr

inductive ClassKind where
  | plain | dataclass | pydantic
deriving DecidableEq, Repr

structure ClassInfo where
  ref : ClassRef
  kind : ClassKind := .plain
  bases : List ClassRef := []
  attributes : List Attribute := []
  fields : List Field := []
  keywordOnly : Bool := false
  isFrozen : Bool := false
deriving Repr

abbrev ClassTable := List ClassInfo

/-! ### classes of the platform -/

namespace Platform

def method (name : String) (params : List (String × Hint)) (returns : Hint) : Attribute :=
  { name := name
    member := .instance
      { params := params.map fun p => { name := p.1, hint := some p.2 }, returns := some returns } }

def str : Hint := .cls (.builtin "str")
def int : Hint := .cls (.builtin "int")
def float : Hint := .cls (.builtin "float")
def bool : Hint := .cls (.builtin "bool")
def bytes : Hint := .cls (.builtin "bytes")

def accessor (name : String) (returns : Hint) : Attribute :=
  method name [("column_index", int)] returns

def value (name : String) : Attribute := ⟨name, .value⟩

/-- a function without types -/
def untyped (name : String) (params : List Param) : Attribute :=
  ⟨name, .instance { params := params }⟩

/-- what a protocol puts into its class -/
def protocolAttributes : List Attribute :=
  [untyped "__init__" anyParams, untyped "__subclasshook__" [{ name := "other" }],
   value "__parameters__", value "_is_protocol", value "_is_runtime_protocol",
   value "__abstractmethods__", value "_abc_impl"]

/-- the attributes of a dictionary, none of which is a method with types -/
def dictionaryAttributes : List Attribute :=
  untyped "__init__" anyParams ::
    ["__new__", "__repr__", "__hash__", "__getattribute__", "__lt__", "__le__", "__eq__", "__ne__",
     "__gt__", "__ge__", "__iter__", "__or__", "__ror__", "__ior__", "__len__", "__getitem__",
     "__setitem__", "__delitem__", "__contains__", "__sizeof__", "get", "setdefault", "pop",
     "popitem", "keys", "items", "values", "update", "fromkeys", "clear", "copy", "__reversed__",
     "__class_getitem__", "__orig_bases__"].map value

def cursorInfo : ClassInfo :=
  { ref := .cursor
    attributes := [
      method "get_column_index" [("column_name", str)] int,
      method "get_column_index_or_throw" [("column_name", str)] int,
      accessor "is_null" bool, accessor "get_string" (.optional str), accessor "get_int" int,
      accessor "get_long" int, accessor "get_short" int, accessor "get_float" float,
      accessor "get_double" float, accessor "get_blob" (.optional bytes)] ++ protocolAttributes }

def contentValuesInfo : ClassInfo :=
  { ref := .contentValues
    attributes := [
      method "put" [("column_name", str), ("value", .any)] .none,
      method "put_all"
        [("other", .generic { name := "Mapping", module := "collections.abc", native := true }
          [str, .any])] .none] ++ dictionaryAttributes }

def classes : ClassTable := [cursorInfo, contentValuesInfo]

end Platform

namespace ClassTable

def info (t : ClassTable) (cls : ClassRef) : ClassInfo :=
  ((t ++ Platform.classes).find? (·.ref = cls)).getD { ref := cls }

theorem info_ref (t : ClassTable) (cls : ClassRef) : (t.info cls).ref = cls := by
  rw [info]
  cases h : (t ++ Platform.classes).find? (·.ref = cls) with
  | none => rfl
  | some i => simpa using List.find?_some h

end ClassTable
end RowMapping
