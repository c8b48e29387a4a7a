import RowMapping.ClassTable.DataFields

/-!
# The attributes of a class

A class has more attributes than its body declares.  Its module and its text are there in any case,
a few hooks become static or class methods however they are declared, and a class that declares when
its values are equal has no hash of theirs.

A dataclass keeps the defaults of its fields as attributes, and generates a constructor and some
other functions, which have no types, as far as its body has no attribute of their names.
-/

namespace RowMapping

/-- the parameters of a function as it declares them, its receiver among them -/
def FunctionInfo.allParams (f : FunctionInfo) : List Param :=
  if f.declaresReceiver then { name := "cls" } :: f.params else f.params

/-- what a class makes of an attribute of its body -/
def Attribute.stored (a : Attribute) : Attribute :=
  match a.member with
  | .instance f =>
    if a.name = "__new__" then { a with member := .static { f with params := f.allParams } }
    else if a.name = "__init_subclass__" ∨ a.name = "__class_getitem__" then
      { a with member := .ofClass f }
    else a
  | _ => a

@[simp] theorem Attribute.name_stored (a : Attribute) : a.stored.name = a.name := by
  unfold stored
  split
  · split
    · rfl
    · split <;> rfl
  · rfl

theorem Attribute.stored_of_init {a : Attribute} (h : a.name = "__init__") : a.stored = a := by
  unfold stored
  split
  · rw [if_neg (by rw [h]; decide), if_neg (by rw [h]; decide)]
  · rfl

/-- attributes, and behind them others of names that they do not have -/
def withOthers (all others : List Attribute) : List Attribute :=
  all ++ others.filter fun a => !all.any (·.name = a.name)

namespace ClassInfo
open Platform

/-- what a class has without declaring it -/
def implicitAttributes (i : ClassInfo) : List Attribute :=
  [value "__module__", value "__doc__"]
    ++ (if i.bases.isEmpty then [value "__dict__", value "__weakref__"] else [])
    ++ (if i.fields.isEmpty then [] else [value "__annotations__"])
    ++ (if i.attributes.any (·.name = "__eq__") then [value "__hash__"] else [])

/-- the defaults of its fields that a dataclass keeps -/
def keptDefaults (i : ClassInfo) : List Attribute :=
  (i.fields.filter (·.keepsDefault)).map fun f => value f.name

/-- what a dataclass generates for its fields, in the order in which it does -/
def generatedAttributes (i : ClassInfo) (fields : List DataField) : List Attribute :=
  [value "__dataclass_params__", value "__dataclass_fields__",
   ⟨"__init__", .instance (ClassTable.generatedConstructor fields)⟩,
   untyped "__repr__" [], untyped "__eq__" [{ name := "other" }]]
    ++ (if i.isFrozen then [untyped "__setattr__" [{ name := "name" }, { name := "value" }],
      untyped "__delattr__" [{ name := "name" }]] else [])
    ++ [value "__hash__", value "__match_args__"]

end ClassInfo

namespace ClassTable

/-- all attributes of a class, those of its body in front -/
def attributes (t : ClassTable) (i : ClassInfo) : List Attribute :=
  let body := withOthers (i.attributes.map (·.stored)) i.implicitAttributes
  if i.kind = .dataclass then
    withOthers (withOthers body i.keptDefaults)
      (i.generatedAttributes ((t.dataFields? i.ref).getD []))
  else body

end ClassTable
end RowMapping
