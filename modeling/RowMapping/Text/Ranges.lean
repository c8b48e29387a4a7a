/-!
# Character classes as ranges of code points

A class of characters is a list of closed ranges.  `Ranges.has` decides membership, and
`Ranges.has_append` lets a long table be written in parts.
-/

namespace RowMapping.Text

/-- closed ranges of code points, in rising order -/
abbrev Ranges := List (Nat × Nat)

def Ranges.has (rs : Ranges) (c : Char) : Bool :=
  rs.any fun r => decide (r.1 ≤ c.toNat) && decide (c.toNat ≤ r.2)

theorem Ranges.has_cons (r : Nat × Nat) (rs : Ranges) (c : Char) :
    Ranges.has (r :: rs) c = ((decide (r.1 ≤ c.toNat) && decide (c.toNat ≤ r.2)) || rs.has c) := rfl

theorem Ranges.has_append (a b : Ranges) (c : Char) : (a ++ b).has c = (a.has c || b.has c) :=
  List.any_append

end RowMapping.Text
