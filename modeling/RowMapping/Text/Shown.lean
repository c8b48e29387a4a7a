import RowMapping.Text.Joined
import RowMapping.Text.Literal
import RowMapping.Text.Unprintable

/-!
# Texts and bytes as shown in diagnostics

A diagnostic shows a text between single quotes, or between double quotes where it contains
single ones alone.  The backslash, the quote in use and every character without a printed form
are escaped.  Bytes are shown in the same way behind a `b`, and only the printed characters of
ASCII stand for themselves there.
-/

namespace RowMapping.Text

/-- the quote around a shown text -/
def quoteFor (s : List Char) : Char := if s.contains '\'' && !s.contains '"' then '"' else '\''

/-- the escapes that shown texts and shown bytes have in common -/
def namedEscape? (quote c : Char) : Option (List Char) :=
  if c = quote || c = '\\' then some ['\\', c]
  else if c = '\n' then some ['\\', 'n']
  else if c = '\r' then some ['\\', 'r']
  else if c = '\t' then some ['\\', 't']
  else none

def shownChar (quote c : Char) : List Char :=
  match namedEscape? quote c with
  | some e => e
  | none =>
    if isPrintable c then [c]
    else if c.toNat < 0x100 then '\\' :: 'x' :: hexDigits 2 c.toNat
    else if c.toNat < 0x10000 then '\\' :: 'u' :: hexDigits 4 c.toNat
    else '\\' :: 'U' :: hexDigits 8 c.toNat

def shownChars (s : List Char) : List Char :=
  let quote := quoteFor s
  quote :: s.flatMap (shownChar quote) ++ [quote]

def shown (s : String) : String := String.ofList (shownChars s.toList)

def shownList (ss : List String) : String := "[" ++ joined ", " (ss.map shown) ++ "]"

/-! ### bytes -/

/-- one byte, given as the character of its code, of shown bytes -/
def shownByte (quote c : Char) : List Char :=
  match namedEscape? quote c with
  | some e => e
  | none =>
    if 0x20 ≤ c.toNat && c.toNat < 0x7F then [c] else '\\' :: 'x' :: hexDigits 2 c.toNat

def shownBytes (bytes : List UInt8) : String :=
  let s := bytes.map fun b => Char.ofNat b.toNat
  let quote := quoteFor s
  String.ofList ('b' :: quote :: s.flatMap (shownByte quote) ++ [quote])

end RowMapping.Text
