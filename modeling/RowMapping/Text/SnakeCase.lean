import RowMapping.Text.Lowercase

/-!
# Snake case

A class name in words becomes a variable name: an underscore goes where one word ends and the
next begins, and all is lower-cased.  A word begins at a capital after a small letter or a digit,
and at the last capital of a row that a small letter follows (`HTTPServer` is `http_server`).
Only the letters and digits of ASCII make such a place.
-/

namespace RowMapping.Text

/-- whether a word begins at `b`, between `a` and the rest of the name -/
def wordBegins (a b : Char) (rest : List Char) : Bool :=
  b.isUpper && (a.isLower || a.isDigit || a.isUpper && (rest.head?.map Char.isLower).getD false)

def separateWords : List Char → List Char
  | a :: b :: rest =>
    if wordBegins a b rest then a :: '_' :: separateWords (b :: rest)
    else a :: separateWords (b :: rest)
  | s => s

theorem separateWords_cons_cons (a b : Char) (rest : List Char) :
    separateWords (a :: b :: rest) =
      if wordBegins a b rest then a :: '_' :: separateWords (b :: rest)
      else a :: separateWords (b :: rest) := rfl

def snakeCaseChars (s : List Char) : List Char := lower (separateWords s)

def snakeCase (s : String) : String := String.ofList (snakeCaseChars s.toList)

end RowMapping.Text
