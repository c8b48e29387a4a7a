/-!
# Lines

`lines` cuts a text at every line end: the line feed, the carriage return, both together as one,
and the vertical, form, record and paragraph separators.  A line end at the end of the text opens
no further line, and `lines_nil` says that the empty text has no line.
-/

namespace RowMapping.Text

def isLineEnd (c : Char) : Bool :=
  [0x0A, 0x0B, 0x0C, 0x0D, 0x1C, 0x1D, 0x1E, 0x85, 0x2028, 0x2029].contains c.toNat

def pushFirst (c : Char) : List (List Char) → List (List Char)
  | [] => [[c]]
  | line :: rest => (c :: line) :: rest

def lineChars : List Char → List (List Char)
  | [] => []
  | '\r' :: '\n' :: rest => [] :: lineChars rest
  | c :: rest => if isLineEnd c then [] :: lineChars rest else pushFirst c (lineChars rest)

def lines (s : String) : List String := (lineChars s.toList).map String.ofList

theorem lineChars_nil : lineChars [] = [] := rfl

theorem lines_nil : lines "" = [] := rfl

theorem lineChars_cons {c : Char} (h : isLineEnd c = false) (rest : List Char) :
    lineChars (c :: rest) = pushFirst c (lineChars rest) := by
  have hc : c ≠ '\r' := by
    rintro rfl
    exact absurd h (by decide)
  rw [lineChars]
  · simp [h]
  · intro _ h1
    exact absurd h1 hc

/-- a text without the line feeds at its end -/
def dropFinalNewlines (s : String) : String :=
  String.ofList (s.toList.reverse.dropWhile (· = '\n')).reverse

end RowMapping.Text
