/-!
# String literals

`literal` writes a text as one double-quoted literal of the generated source: the quote, the
backslash and the control characters are escaped, all else stands as it is.
-/

namespace RowMapping.Text

/-- the lower-case hexadecimal digits of `n`, `width` of them -/
def hexDigits : Nat → Nat → List Char
  | 0, _ => []
  | width + 1, n => hexDigits width (n / 16) ++ [Nat.digitChar (n % 16)]

def literalChar (c : Char) : List Char :=
  if c = '"' then ['\\', '"']
  else if c = '\\' then ['\\', '\\']
  else if c = '\n' then ['\\', 'n']
  else if c = '\r' then ['\\', 'r']
  else if c = '\t' then ['\\', 't']
  else if c.toNat = 8 then ['\\', 'b']
  else if c.toNat = 12 then ['\\', 'f']
  else if c.toNat < 32 then '\\' :: 'u' :: hexDigits 4 c.toNat
  else [c]

def literalChars (s : List Char) : List Char := '"' :: s.flatMap literalChar ++ ['"']

def literal (s : String) : String := String.ofList (literalChars s.toList)

theorem length_hexDigits (width n : Nat) : (hexDigits width n).length = width := by
  induction width generalizing n with
  | zero => rfl
  | succ w ih => simp [hexDigits, ih]

theorem toList_literal (s : String) : (literal s).toList = literalChars s.toList := by
  simp [literal]

end RowMapping.Text
