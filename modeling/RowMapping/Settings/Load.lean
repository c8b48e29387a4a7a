import RowMapping.Files.Tree
import RowMapping.Files.Utf8
import RowMapping.Settings.Check
import RowMapping.Toml.Document

/-!
# Settings from a file

A settings file is a TOML document.  A document with a `tool` key holds the settings under
`tool.row-gen`, any other one at its top.
-/

namespace RowMapping
open RowMapping.Files

/-- what the platform says of a file that it can not read, of a text that is no document, and of a
document whose settings have faults -/
structure PlatformTexts where
  ofFile : FileFault → String → String
  ofDocument : List Char → String
  ofSettings : List Char → String

/-- why a file gives no settings, with what the platform says of it as `detail` -/
inductive SettingsError where
  | unreadable (path : String) (fault : FileFault) (detail : String)
  | malformed (path detail : String)
  | noSection (path : String)
  | invalid (path : String) (issues : List Issue) (detail : String)
  | notText (fault : Utf8Fault)
  | tooManyDigits (count : Nat)
deriving DecidableEq, Repr

def SettingsError.message : SettingsError → String
  | unreadable path fault detail =>
    if fault.isOfSystem then "Cannot read config file '" ++ path ++ "': " ++ detail
    else "embedded null byte"
  | malformed path detail => "Cannot read config file '" ++ path ++ "': " ++ detail
  | noSection path => "No [tool.row-gen] table in '" ++ path ++ "'"
  | invalid path _ detail => "Invalid config in '" ++ path ++ "': " ++ detail
  | notText fault => fault.message
  | tooManyDigits count => Number.tooManyDigitsText (Number.digitsFoundText count)

/-- whether a settings error is one of the program's own, reported without a trace -/
def SettingsError.isReported : SettingsError → Bool
  | unreadable _ fault _ => fault.isOfSystem
  | notText _ | tooManyDigits _ => false
  | _ => true

def settingsSection? (entries : List (String × Value)) : Option Value :=
  match entries.lookup "tool" with
  | none => some (.table entries)
  | some tool => tool.get? "row-gen"

def Settings.ofBytes (texts : PlatformTexts) (path : String) (bytes : List UInt8) :
    Except SettingsError Settings := do
  let text ← (decodeUtf8 bytes).mapError .notText
  match Toml.parse (plainNewlines text) with
  | .error .malformed => throw (.malformed path (texts.ofDocument text))
  | .error (.tooManyDigits count) => throw (.tooManyDigits count)
  | .ok entries =>
    match settingsSection? entries with
    | none => throw (.noSection path)
    | some v => (Settings.ofValue v).mapError fun issues =>
        .invalid path issues (texts.ofSettings text)

def Settings.load (texts : PlatformTexts) (files : FileTree) (path : String) :
    Except SettingsError Settings := do
  let bytes ← (files.read path).mapError fun fault =>
    .unreadable (normalPath path) fault (texts.ofFile fault path)
  Settings.ofBytes texts (normalPath path) bytes

end RowMapping
