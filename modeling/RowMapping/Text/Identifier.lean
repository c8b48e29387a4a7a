import RowMapping.Text.Alphanumeric
import RowMapping.Text.Digit

/-!
# Identifiers

`toIdentifier` makes a name of any text: what is no word character becomes an underscore, and an
underscore is put in front where the name would be empty or begin with a digit.  `keywords` are
the words that can not be names.
-/

namespace RowMapping.Text

/-- an underscore in place of a character that no name contains -/
def wordChar (c : Char) : Char := if isWordChar c then c else '_'

/-- a first underscore where a name is empty or begins with a digit -/
def guardStart : List Char → List Char
  | [] => ['_']
  | c :: rest => if isDigitChar c then '_' :: c :: rest else c :: rest

def identifierChars (s : List Char) : List Char := guardStart (s.map wordChar)

def toIdentifier (s : String) : String := String.ofList (identifierChars s.toList)

theorem guardStart_ne_nil (s : List Char) : guardStart s ≠ [] := by
  cases s with
  | nil => simp [guardStart]
  | cons c rest => by_cases h : isDigitChar c <;> simp [guardStart, h]

theorem identifierChars_ne_nil (s : List Char) : identifierChars s ≠ [] := guardStart_ne_nil _

theorem toList_toIdentifier (s : String) : (toIdentifier s).toList = identifierChars s.toList := by
  simp [toIdentifier]

def keywords : List String :=
  ["False", "None", "True", "and", "as", "assert", "async", "await", "break", "class", "continue",
   "def", "del", "elif", "else", "except", "finally", "for", "from", "global", "if", "import",
   "in", "is", "lambda", "nonlocal", "not", "or", "pass", "raise", "return", "try", "while",
   "with", "yield"]

def isKeyword (s : String) : Bool := keywords.contains s

end RowMapping.Text
