import RowMapping.Settings.Check

/-!
# Settings given by a program

A program gives settings as a data value, and there it may give the accessors of the row as a
mapping of its own, whose keys are kinds or their texts, or the settings of the row as they are.  It
may also give all settings as they are.

A mapping that is a dictionary is put over the default accessors kind by kind.  Any other mapping
takes their place, and so do the accessors of settings that are given as they are.
-/

namespace RowMapping

/-- a key of a mapping of accessors: a kind, or a text that may be that of a kind -/
inductive GetterKey where
  | kind (kind : CellKind)
  | text (s : String)
deriving DecidableEq, Repr

def GetterKey.keyText : GetterKey → String
  | kind k => k.text
  | text s => s

/-- accessors by their keys, in the order in which the mapping has them -/
structure GivenGetters where
  isDictionary : Bool
  entries : List (GetterKey × Value)

namespace GivenGetters

def byText (g : GivenGetters) : List (String × Value) := g.entries.map fun e => (e.1.keyText, e.2)

/-- the accessors of a mapping; of those of one kind the last one stands in front -/
def check (path : List String) (g : GivenGetters) : Checked Getters :=
  if g.isDictionary then checkGetterEntries path (overDefaults g.byText)
  else
    let all := checkGetterEntries path g.byText
    ⟨all.issues, all.value.reverse⟩

end GivenGetters

/-- Settings that a program gives: a data value, one whose accessors are a mapping of the program,
one whose row is given as it is, or settings as they are. -/
inductive GivenSettings where
  | data (v : Value)
  | mapped (entries rowStore : List (String × Value)) (getters : GivenGetters)
  | stored (entries : List (String × Value)) (rowStore : RowStoreSettings)
  | made (s : Settings)

def Settings.ofGiven : GivenSettings → Except (List Issue) Settings
  | .data v => Settings.ofValue v
  | .mapped entries rowStore getters =>
    let getters := getters.check ["row_store", "getters"]
    (checkSettingsOver (checkRowStoreOver getters ["row_store"] rowStore) [] entries).toExcept
  | .stored entries rowStore => (checkSettingsOver (.pure rowStore) [] entries).toExcept
  | .made s => .ok s

end RowMapping
