import RowMapping.ClassTable.Locate
import RowMapping.Hint.Described

/-!
# Classes as data

A class is described by a table with its module, its name, its kind, its bases, its fields and
its methods, or with the constructor of a plain class.  A name that a class body declares twice
keeps its first place and its last declaration.
-/

namespace RowMapping

/-- the hint under a key; a missing hint is none, and one that can not be read fails -/
def hintUnder? (entries : List (String × Value)) (key : String) : Option (Option Hint) :=
  match Value.present? entries key with
  | none => some none
  | some v => (Hint.ofValue? v).map some

/-! ### functions -/

def ParamKind.ofText? : String → Option ParamKind
  | "posonly" => some .positional
  | "normal" => some .standard
  | "kwonly" => some .keyword
  | "varargs" => some .rest
  | "varkw" => some .keywordRest
  | _ => none

def Param.ofValue? : Value → Option Param
  | .table entries => do
    let name ← Value.text? entries "name"
    let hint ← hintUnder? entries "type"
    let kind ← ParamKind.ofText? ((Value.text? entries "kind").getD "normal")
    return { name := name, hint := hint, kind := kind }
  | _ => none

def FunctionInfo.ofEntries? (entries : List (String × Value)) : Option FunctionInfo := do
  let params ← (Value.items entries "params").mapM Param.ofValue?
  let returns ← hintUnder? entries "returns"
  return {
    params := params
    returns := returns
    declaresReceiver := !Value.flag entries "no_receiver"
    brokenSignature := Value.text? entries "signature" == some "broken" }

/-! ### class bodies -/

def Member.ofFunction? (f : FunctionInfo) : String → Option Member
  | "instance" => some (.instance f)
  | "static" => some (.static f)
  | "class" => some (.ofClass f)
  | "property" => some .property
  | "value" => some .value
  | _ => none

def Attribute.ofValue? : Value → Option Attribute
  | .table entries => do
    let name ← Value.text? entries "name"
    let f ← FunctionInfo.ofEntries? entries
    let member ← Member.ofFunction? f ((Value.text? entries "kind").getD "instance")
    return { name := name, member := member }
  | _ => none

/-- the constructor that a class body declares on its own, with no result -/
def constructorAttribute? (entries : List (String × Value)) : Option (List Attribute) :=
  match Value.present? entries "init" with
  | some (.table init) =>
    (FunctionInfo.ofEntries? init).map fun f => [⟨"__init__", .instance { f with returns := none }⟩]
  | _ => some []

def putAttribute (a : Attribute) : List Attribute → List Attribute
  | [] => [a]
  | b :: rest => if b.name = a.name then a :: rest else b :: putAttribute a rest

def Field.ofValue? : Value → Option Field
  | .table entries => do
    let name ← Value.text? entries "name"
    let hint ← (entries.lookup "type").bind Hint.ofValue?
    return {
      name := name
      hint := hint
      isInit := (Value.bool? entries "init").getD true
      keywordOnly := Value.bool? entries "kw_only"
      hasDefault := Value.flag entries "default"
      keepsDefault := Value.flag entries "default" }
  | _ => none

/-! ### classes and modules -/

def ClassKind.ofText? : String → Option ClassKind
  | "plain" => some .plain
  | "dataclass" => some .dataclass
  | "pydantic" => some .pydantic
  | _ => none

def ClassInfo.ofValue? : Value → Option ClassInfo
  | .table entries => do
    let name ← Value.text? entries "name"
    let kind ← ClassKind.ofText? ((Value.text? entries "kind").getD "plain")
    let bases ← (Value.items entries "bases").mapM ClassRef.ofValue?
    let constructor ← constructorAttribute? entries
    let methods ← (Value.items entries "methods").mapM Attribute.ofValue?
    let fields ← (Value.items entries "fields").mapM Field.ofValue?
    return {
      ref := { name := name, module := moduleOf entries }
      kind := kind
      bases := bases
      attributes := (constructor ++ methods).foldl (fun all a => putAttribute a all) []
      fields := fields
      keywordOnly := Value.flag entries "kw_only"
      isFrozen := Value.flag entries "frozen" }
  | _ => none

def ClassTable.ofEntries? (entries : List (String × Value)) : Option ClassTable :=
  (Value.items entries "classes").mapM ClassInfo.ofValue?

def textsOf (vs : List Value) : List String :=
  vs.filterMap fun
    | .text s => some s
    | _ => none

def constantsOf (entries : List (String × Value)) : List (String × List String) :=
  match entries.lookup "constants" with
  | some (.table modules) => modules.map fun e =>
    (e.1, match e.2 with
      | .list names => textsOf names
      | _ => [])
  | _ => []

def Modules.ofEntries? (entries : List (String × Value)) : Option Modules :=
  (ClassTable.ofEntries? entries).map fun classes =>
    { classes := classes, constants := constantsOf entries }

end RowMapping
