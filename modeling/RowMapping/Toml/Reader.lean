/-!
# Readers over characters

A reader takes a value off the front of a text and leaves the rest, or refuses the text.  Here are
the readers that the whole TOML grammar shares: a given text, blanks, and rows of digits.

A text can be refused for another reason than its grammar, a decimal integer with too many digits.
The first fault of a text counts, so the readers of values, in which such an integer can stand, say
which one it is.
-/

namespace RowMapping.Toml

abbrev Reader (α : Type) := List Char → Option (α × List Char)

/-- why a text is refused -/
inductive Fault where
  | malformed
  | tooManyDigits (count : Nat)
deriving DecidableEq, Repr

abbrev ValueReader (α : Type) := List Char → Except Fault (α × List Char)

/-- What a reader of the grammar refuses is malformed. -/
def demand {α : Type} : Option α → Except Fault α
  | some x => .ok x
  | none => .error .malformed

instance : MonadLift Option (Except Fault) := ⟨demand⟩

/-- puts one value in front of the list that a reader returned -/
def prepend {α β : Type} (x : α) (r : Option (List α × β)) : Option (List α × β) :=
  r.map fun p => (x :: p.1, p.2)

/-- the rest of a text behind a given beginning -/
def after? (start s : List Char) : Option (List Char) :=
  if start.isPrefixOf s then some (s.drop start.length) else none

def isSpace (c : Char) : Bool := c == ' ' || c == '\t'

/-- a control character, none of which stands in a text or a comment but the tab -/
def isControl (c : Char) : Bool := c != '\t' && (decide (c.toNat < 32) || c.toNat == 127)

def skipSpaces (s : List Char) : List Char := s.dropWhile isSpace

/-- The rest of a line behind a comment, up to its line feed; none for a control character. -/
def skipComment : List Char → Option (List Char)
  | '#' :: rest =>
    if (rest.takeWhile (· ≠ '\n')).any isControl then none else some (rest.dropWhile (· ≠ '\n'))
  | s => some s

/-- Skips blanks, line feeds and comments, given whether a comment is being read. -/
def skipFiller (comment : Bool) : List Char → Option (List Char)
  | [] => some []
  | c :: rest =>
    if comment then
      if c = '\n' then skipFiller false rest
      else if isControl c then none
      else skipFiller true rest
    else if isSpace c || c = '\n' then skipFiller false rest
    else if c = '#' then skipFiller true rest
    else some (c :: rest)

/-! ### digits -/

def isHexDigit (c : Char) : Bool :=
  c.isDigit || ('a' ≤ c && c ≤ 'f') || ('A' ≤ c && c ≤ 'F')

def hexValue (c : Char) : Nat :=
  if c.isDigit then c.toNat - 48 else if 'a' ≤ c then c.toNat - 87 else c.toNat - 55

def valueInBase (base : Nat) (digits : List Char) : Nat :=
  digits.foldl (fun n c => base * n + hexValue c) 0

/-- more digits of a class, an underscore allowed in front of each -/
def moreDigits (digit : Char → Bool) : List Char → List Char × List Char
  | [] => ([], [])
  | '_' :: c :: rest =>
    if digit c then
      let p := moreDigits digit rest
      (c :: p.1, p.2)
    else ([], '_' :: c :: rest)
  | c :: rest =>
    if digit c then
      let p := moreDigits digit rest
      (c :: p.1, p.2)
    else ([], c :: rest)

/-- digits of a class, at least one, single underscores between them -/
def digits (digit : Char → Bool) : Reader (List Char)
  | [] => none
  | c :: rest =>
    if digit c then
      let p := moreDigits digit rest
      some (c :: p.1, p.2)
    else none

/-- exactly `n` decimal digits as a number -/
def fixedDigits (n : Nat) : Reader Nat := fun s =>
  let d := s.take n
  if d.length = n && d.all Char.isDigit then some (valueInBase 10 d, s.drop n) else none

end RowMapping.Toml
