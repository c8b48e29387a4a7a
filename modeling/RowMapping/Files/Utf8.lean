import RowMapping.Text.Literal

/-!
# UTF-8

`decodeUtf8` reads bytes as characters, one byte at a time.  A first byte says how many bytes are
owed and which range the next one has; a fault names the bytes from the first one of a character
to the last one that could still belong to it.
-/

namespace RowMapping.Files

inductive Utf8Reason where
  | invalidStart | invalidContinuation | unexpectedEnd
deriving DecidableEq, Repr

/-- where bytes stop being characters, from the byte `first` to the byte `last`, whose first is
`byte` -/
structure Utf8Fault where
  first : Nat
  last : Nat
  byte : Nat
  reason : Utf8Reason
deriving DecidableEq, Repr

def Utf8Reason.text : Utf8Reason → String
  | .invalidStart => "invalid start byte"
  | .invalidContinuation => "invalid continuation byte"
  | .unexpectedEnd => "unexpected end of data"

def Utf8Fault.message (f : Utf8Fault) : String :=
  "'utf-8' codec can't decode " ++
    (if f.first = f.last then
      "byte 0x" ++ String.ofList (Text.hexDigits 2 f.byte) ++ " in position " ++ toString f.first
    else "bytes in position " ++ toString f.first ++ "-" ++ toString f.last)
    ++ ": " ++ f.reason.text

/-- a character of which bytes are owed: how many, the range of the next one, and the bits so far -/
structure Partial where
  first : Nat
  byte : Nat
  owed : Nat
  low : Nat
  high : Nat
  bits : Nat

/-- the character that the byte `b` at `position` begins, if it can begin one of several bytes -/
def Partial.begin? (position b : Nat) : Option Partial :=
  if 0xC2 ≤ b ∧ b ≤ 0xDF then some ⟨position, b, 1, 0x80, 0xBF, b % 32⟩
  else if b = 0xE0 then some ⟨position, b, 2, 0xA0, 0xBF, b % 16⟩
  else if b = 0xED then some ⟨position, b, 2, 0x80, 0x9F, b % 16⟩
  else if 0xE1 ≤ b ∧ b ≤ 0xEF then some ⟨position, b, 2, 0x80, 0xBF, b % 16⟩
  else if b = 0xF0 then some ⟨position, b, 3, 0x90, 0xBF, b % 8⟩
  else if 0xF1 ≤ b ∧ b ≤ 0xF3 then some ⟨position, b, 3, 0x80, 0xBF, b % 8⟩
  else if b = 0xF4 then some ⟨position, b, 3, 0x80, 0x8F, b % 8⟩
  else none

/-- the characters of the bytes from `position` on, behind a character that bytes are owed of -/
def decodeFrom (position : Nat) : Option Partial → List UInt8 → Except Utf8Fault (List Char)
  | none, [] => .ok []
  | some p, [] => .error ⟨p.first, position - 1, p.byte, .unexpectedEnd⟩
  | none, b :: rest =>
    if b.toNat < 0x80 then (decodeFrom (position + 1) none rest).map (Char.ofNat b.toNat :: ·)
    else match Partial.begin? position b.toNat with
      | some p => decodeFrom (position + 1) (some p) rest
      | none => .error ⟨position, position, b.toNat, .invalidStart⟩
  | some p, b :: rest =>
    if p.low ≤ b.toNat ∧ b.toNat ≤ p.high then
      let bits := p.bits * 64 + b.toNat % 64
      if p.owed ≤ 1 then (decodeFrom (position + 1) none rest).map (Char.ofNat bits :: ·)
      else decodeFrom (position + 1)
        (some { p with owed := p.owed - 1, low := 0x80, high := 0xBF, bits := bits }) rest
    else .error ⟨p.first, position - 1, p.byte, .invalidContinuation⟩

def decodeUtf8 (bytes : List UInt8) : Except Utf8Fault (List Char) := decodeFrom 0 none bytes

/-- a text in which every line end is one line feed -/
def plainNewlines : List Char → List Char
  | [] => []
  | '\r' :: '\n' :: rest => '\n' :: plainNewlines rest
  | '\r' :: rest => '\n' :: plainNewlines rest
  | c :: rest => c :: plainNewlines rest

end RowMapping.Files
