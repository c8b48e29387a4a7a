/-!
# Declaration sites

Where a property is declared: a class and one of its members.
-/

namespace RowMapping

structure Site where
  owner : String
  member : String
deriving DecidableEq, Repr

def Site.text (s : Site) : String := s.owner ++ "." ++ s.member

def atSite (site : Option Site) (message : String) : String :=
  match site with
  | some s => s.text ++ ": " ++ message
  | none => message

end RowMapping
