import RowMapping.ClassTable.Basic

/-!
# The resolution order of a class

The order in which a class and its ancestors are searched for an attribute.  It keeps the order of
every ancestor's own resolution order and of every list of bases: `merge?` takes, again and again,
the first class that heads some of the lists and comes later in none.

`ordersFrom` computes the orders of a table from front to back, as each class stands behind its bases.
A class whose bases can not be merged is its own only ancestor.
-/

namespace RowMapping

/-- the classes that are searched, keyed by the class that the search starts from -/
abbrev Orders := List (ClassRef × List ClassRef)

def inTail (c : ClassRef) (lists : List (List ClassRef)) : Bool := lists.any (·.tail.contains c)

/-- the first head that comes later in none of the lists -/
def nextHead? (lists : List (List ClassRef)) : Option ClassRef :=
  (lists.filterMap List.head?).find? fun c => !inTail c lists

def dropHead (c : ClassRef) (list : List ClassRef) : List ClassRef :=
  if list.head? = some c then list.tail else list

/-- lists merged into one of at most `fuel` classes -/
def merge? : Nat → List (List ClassRef) → Option (List ClassRef)
  | 0, lists => if lists.all List.isEmpty then some [] else none
  | fuel + 1, lists =>
    if lists.all List.isEmpty then some []
    else (nextHead? lists).bind fun c => (merge? fuel (lists.map (dropHead c))).map (c :: ·)

/-- the order of a class in a table of orders, that of a class without bases if there is none -/
def Orders.of (orders : Orders) (cls : ClassRef) : List ClassRef :=
  (orders.lookup cls).getD [cls]

/-- the order of a class from the orders of its bases -/
def orderFrom (orders : Orders) (i : ClassInfo) : List ClassRef :=
  let lists := i.bases.map orders.of ++ [i.bases]
  i.ref :: (merge? lists.flatten.length lists).getD []

def ordersFrom (orders : Orders) : ClassTable → Orders
  | [] => orders
  | i :: rest => ordersFrom ((i.ref, orderFrom orders i) :: orders) rest

namespace ClassTable

/-- a class and its ancestors in the order in which they are searched -/
def resolutionOrder (t : ClassTable) (cls : ClassRef) : List ClassRef :=
  (ordersFrom [] t).of cls

/-- the descriptions of a class and its ancestors in the order in which they are searched -/
def ancestry (t : ClassTable) (cls : ClassRef) : List ClassInfo :=
  (t.resolutionOrder cls).map t.info

end ClassTable

theorem orderFrom_of_no_bases (orders : Orders) {i : ClassInfo} (h : i.bases = []) :
    orderFrom orders i = [i.ref] := by
  simp [orderFrom, h, merge?]

end RowMapping
