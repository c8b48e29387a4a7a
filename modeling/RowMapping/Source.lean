import RowMapping.Text.Lines
import RowMapping.TypeName.Written

/-!
# The text of a generated module

A module is a docstring and parts, each part a statement or a function.  Every statement carries
the types that its text mentions, from which the import lines of the module follow.

`ModuleText.render` writes the docstring, the imports in order of module and name, and then the
blocks two blank lines apart: each function is a block, and so is each run of statements.
-/

namespace RowMapping
open RowMapping.Text

/-- a typed local `name: type = value  # comment` -/
structure Assignment where
  type : TypeName
  name : String
  value : String
  comment : Option String := none
  types : List TypeName := []

/-- A statement: code as it stands, a name bound to a value, or a typed local. -/
inductive Statement where
  | plain (code : String) (types : List TypeName)
  | bind (name value : String) (types : List TypeName)
  | assign (a : Assignment)

structure FunctionText where
  name : String
  parameters : List (String × TypeName)
  returns : TypeName
  doc : Option String := none
  body : List Statement := []

inductive Part where
  | statement (s : Statement)
  | function (f : FunctionText)

structure ModuleText where
  doc : String
  parts : List Part := []

/-- an optional text that counts as absent where it is empty -/
def present (s : Option String) : Option String := s.filter (· ≠ "")

/-! ### statements -/

def commentText (comment : Option String) : String :=
  match present comment with
  | some c => "  # " ++ c
  | none => ""

def Assignment.code (a : Assignment) : String :=
  a.name ++ ": " ++ a.type.render ++ " = " ++ a.value ++ commentText a.comment

namespace Statement

def code : Statement → String
  | plain code _ => code
  | bind name value _ => name ++ " = " ++ value
  | assign a => a.code

/-- the lines of a statement; a typed local is one line whatever it holds -/
def lines : Statement → List String
  | assign a => [a.code]
  | s => Text.lines s.code

def types : Statement → List TypeName
  | plain _ types => types
  | bind _ _ types => types
  | assign a => a.type :: a.types

def boundName? : Statement → Option String
  | plain _ _ => none
  | bind name _ _ => some name
  | assign a => some a.name

end Statement

/-! ### functions -/

def indent (line : String) : String := "    " ++ line

namespace FunctionText

def parameterText (p : String × TypeName) : String := p.1 ++ ": " ++ p.2.render

def header (f : FunctionText) : String :=
  "def " ++ f.name ++ "(" ++ joined ", " (f.parameters.map parameterText) ++ ") -> "
    ++ f.returns.render ++ ":"

def docLines (f : FunctionText) : List String :=
  match present f.doc with
  | some d => [indent ("\"\"\"" ++ d ++ "\"\"\"")]
  | none => []

/-- the lines below the header, a lone `...` if there are none -/
def bodyLines (f : FunctionText) : List String :=
  let lines := f.docLines ++ (f.body.flatMap Statement.lines).map indent
  if lines.isEmpty then [indent "..."] else lines

def render (f : FunctionText) : String := joined "\n" (f.header :: f.bodyLines) ++ "\n"

def blockLines (f : FunctionText) : List String := Text.lines (dropFinalNewlines f.render)

def types (f : FunctionText) : List TypeName :=
  f.parameters.map (·.2) ++ f.returns :: f.body.flatMap Statement.types

end FunctionText

def Part.types : Part → List TypeName
  | .statement s => s.types
  | .function f => f.types

/-! ### imports -/

/-- a text in its place among texts in rising order, if it is not there yet -/
def insertOnce (name : String) : List String → List String
  | [] => [name]
  | n :: rest =>
    if name < n then name :: n :: rest
    else if name = n then n :: rest
    else n :: insertOnce name rest

/-- texts in rising order of code points, each once -/
def sortedOnce (names : List String) : List String := names.foldr insertOnce []

theorem sortedOnce_cons (name : String) (names : List String) :
    sortedOnce (name :: names) = insertOnce name (sortedOnce names) := rfl

namespace ModuleText

/-- what the parts of a module have to import, in order and with repeats -/
def imported (m : ModuleText) : List Import :=
  m.parts.flatMap fun p => p.types.flatMap TypeName.imported

def importPairs (m : ModuleText) : List (String × String) := m.imported.map Import.entry

/-- the imported modules in rising order, each with its names in rising order -/
def imports (m : ModuleText) : List (String × List String) :=
  (sortedOnce (m.importPairs.map (·.1))).map fun module =>
    (module, sortedOnce ((m.importPairs.filter (·.1 = module)).map (·.2)))

def importLine (entry : String × List String) : String :=
  "from " ++ entry.1 ++ " import " ++ joined ", " entry.2

def headerSections (m : ModuleText) : List String :=
  ["\"\"\"" ++ m.doc ++ "\"\"\"", "from __future__ import annotations"]
    ++ if m.imports.isEmpty then [] else [joined "\n" (m.imports.map importLine)]

/-! ### blocks -/

/-- Adds the lines of a statement to the blocks behind it, given whether a statement comes next. -/
def addStatement (lines : List String) : List Part → List (List String) → List (List String)
  | .statement _ :: _, block :: blocks => (lines ++ block) :: blocks
  | _, blocks => lines :: blocks

/-- the lines of each block: a function, or statements one behind the other -/
def blocks : List Part → List (List String)
  | [] => []
  | .function f :: rest => f.blockLines :: blocks rest
  | .statement s :: rest => addStatement s.lines rest (blocks rest)

theorem blocks_function (f : FunctionText) (rest : List Part) :
    blocks (.function f :: rest) = f.blockLines :: blocks rest := rfl
theorem blocks_statement (s : Statement) (rest : List Part) :
    blocks (.statement s :: rest) = addStatement s.lines rest (blocks rest) := rfl

/-- the source text of a module -/
def render (m : ModuleText) : String :=
  joined "\n\n" m.headerSections
    ++ String.join ((blocks m.parts).map fun block => "\n\n\n" ++ joined "\n" block) ++ "\n"

end ModuleText
end RowMapping
