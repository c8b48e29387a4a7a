import RowMapping.Toml.Reader

/-!
# TOML strings and keys

Four forms of string: basic strings with escapes and literal strings without, each on one line
or, between triple quotes, on many.  A line feed right after an opening triple quote is dropped,
and up to two quotes may stand in front of a closing one.

A key is one or more parts with dots between them, each part bare or a string on one line.
-/

namespace RowMapping.Toml

/-- the character of a code point, unless it is half of a pair or beyond the last one -/
def scalar? (n : Nat) : Option Char :=
  if n < 0xD800 ∨ 0xDFFF < n ∧ n < 0x110000 then some (Char.ofNat n) else none

def hexChar? (digits : List Char) : Option Char :=
  if digits.all isHexDigit then scalar? (valueInBase 16 digits) else none

/-- the character of an escape by one letter -/
def escaped? : Char → Option Char
  | 'b' => some (Char.ofNat 8)
  | 't' => some '\t'
  | 'n' => some '\n'
  | 'f' => some (Char.ofNat 12)
  | 'r' => some '\r'
  | '"' => some '"'
  | '\\' => some '\\'
  | _ => none

/-! ### basic strings -/

def basicLine : Reader (List Char)
  | [] => none
  | '\\' :: 'u' :: a :: b :: c :: d :: rest => do
    let x ← hexChar? [a, b, c, d]
    prepend x (basicLine rest)
  | '\\' :: 'U' :: a :: b :: c :: d :: e :: f :: g :: h :: rest => do
    let x ← hexChar? [a, b, c, d, e, f, g, h]
    prepend x (basicLine rest)
  | '\\' :: c :: rest => do
    let x ← escaped? c
    prepend x (basicLine rest)
  | c :: rest =>
    if c = '"' then some ([], rest)
    else if c = '\\' || isControl c then none
    else prepend c (basicLine rest)

/-- Where the reader of a basic string on many lines stands: in the text, between a backslash and
the end of its line, or in the blanks at the start of the lines after it. -/
inductive Stretch where
  | text | gap | margin
deriving DecidableEq

/-- a basic string on many lines, behind its opening quotes -/
def basicLines : Stretch → Reader (List Char)
  | .gap, '\n' :: rest => basicLines .margin rest
  | .gap, c :: rest => if isSpace c then basicLines .gap rest else none
  | .margin, ' ' :: rest => basicLines .margin rest
  | .margin, '\t' :: rest => basicLines .margin rest
  | .margin, '\n' :: rest => basicLines .margin rest
  | _, [] => none
  | _, '"' :: '"' :: '"' :: rest => some ([], rest)
  | _, '\\' :: '\n' :: rest => basicLines .margin rest
  | _, '\\' :: ' ' :: rest => basicLines .gap rest
  | _, '\\' :: '\t' :: rest => basicLines .gap rest
  | _, '\\' :: 'u' :: a :: b :: c :: d :: rest => do
    let x ← hexChar? [a, b, c, d]
    prepend x (basicLines .text rest)
  | _, '\\' :: 'U' :: a :: b :: c :: d :: e :: f :: g :: h :: rest => do
    let x ← hexChar? [a, b, c, d, e, f, g, h]
    prepend x (basicLines .text rest)
  | _, '\\' :: c :: rest => do
    let x ← escaped? c
    prepend x (basicLines .text rest)
  | _, c :: rest =>
    if c = '\\' || isControl c && c != '\n' then none else prepend c (basicLines .text rest)

/-! ### literal strings -/

def literalLine : Reader (List Char)
  | [] => none
  | c :: rest =>
    if c = '\'' then some ([], rest)
    else if isControl c then none
    else prepend c (literalLine rest)

/-- a literal string on many lines, behind its opening quotes -/
def literalLines : Reader (List Char)
  | [] => none
  | '\'' :: '\'' :: '\'' :: rest => some ([], rest)
  | c :: rest => if isControl c && c != '\n' then none else prepend c (literalLines rest)

/-! ### all strings -/

/-- a text without its first line feed -/
def dropNewline : List Char → List Char
  | '\n' :: rest => rest
  | s => s

/-- up to two more quotes behind a string on many lines -/
def extraQuotes (quote : Char) (text : List Char) : List Char → List Char × List Char
  | c :: d :: rest =>
    if c = quote then
      if d = quote then (text ++ [quote, quote], rest) else (text ++ [quote], d :: rest)
    else (text, c :: d :: rest)
  | [c] => if c = quote then (text ++ [quote], []) else (text, [c])
  | [] => (text, [])

def quoted : Reader (List Char)
  | '"' :: '"' :: '"' :: rest => do
    let (text, rest) ← basicLines .text (dropNewline rest)
    return extraQuotes '"' text rest
  | '"' :: rest => basicLine rest
  | '\'' :: '\'' :: '\'' :: rest => do
    let (text, rest) ← literalLines (dropNewline rest)
    return extraQuotes '\'' text rest
  | '\'' :: rest => literalLine rest
  | _ => none

/-! ### keys -/

def isBareKeyChar (c : Char) : Bool := c.isAlphanum || c == '-' || c == '_'

def keyPart : Reader String
  | [] => none
  | c :: rest =>
    if isBareKeyChar c then
      some (String.ofList ((c :: rest).takeWhile isBareKeyChar), (c :: rest).dropWhile isBareKeyChar)
    else if c = '"' then (basicLine rest).map fun p => (String.ofList p.1, p.2)
    else if c = '\'' then (literalLine rest).map fun p => (String.ofList p.1, p.2)
    else none

/-- a key of at most `fuel` parts, with the blanks behind it -/
def keyParts : Nat → Reader (List String)
  | 0, _ => none
  | fuel + 1, s => do
    let (part, rest) ← keyPart s
    match skipSpaces rest with
    | '.' :: rest =>
      let (parts, rest) ← keyParts fuel (skipSpaces rest)
      return (part :: parts, rest)
    | rest => return ([part], rest)

/-- a key; it has fewer parts than the text has characters -/
def key : Reader (List String) := fun s => keyParts (s.length + 1) s

end RowMapping.Toml
