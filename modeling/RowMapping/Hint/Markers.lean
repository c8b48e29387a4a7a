import RowMapping.Hint.Basic

/-!
# Markers and names inside hints

`split` takes the markers off the annotated layers and unions at the top of a hint, inner layers
before outer ones and members from left to right.  `bare` drops the markers at every depth, which
may make members of a union equal.

`dangling?` is the first quoted hint inside a hint that names nothing; parameter lists that stand
alone, literal values and initialisers are not looked into.  The quoted arguments of a generic or a
callable are all found to be expressions before any of them is looked up.
-/

namespace RowMapping
namespace Hint

mutual

/-- a hint without the markers at its top, and these markers -/
def split : Hint → Hint × List Marker
  | annotated h markers => let (bare, inner) := split h; (bare, inner ++ markers)
  | union hs =>
    let parts := splitAll hs
    let markers := parts.flatMap (·.2)
    if markers.isEmpty then (union hs, []) else (unionOf (parts.map (·.1)), markers)
  | h => (h, [])

def splitAll : List Hint → List (Hint × List Marker)
  | [] => []
  | h :: hs => split h :: splitAll hs

end

mutual

def bare : Hint → Hint
  | annotated h _ => bare h
  | union hs => unionOf (bareAll hs)
  | generic c hs => generic c (bareAll hs)
  | callable ps r => callable (bareAll ps) (bare r)
  | classVar h => classVar (bare h)
  | h => h

def bareAll : List Hint → List Hint
  | [] => []
  | h :: hs => bare h :: bareAll hs

end

/-- the first of some hints that is quoted and no expression -/
def malformed? : List Hint → Option Dangling
  | [] => Option.none
  | text name .malformed :: _ => some ⟨name, .malformed⟩
  | _ :: hs => malformed? hs

mutual

/-- the first quoted hint in a hint that names nothing -/
def dangling? : Hint → Option Dangling
  | annotated h _ => dangling? h
  | union hs => danglingAll? hs
  | generic _ hs => (malformed? hs).or (danglingAll? hs)
  | callable ps r => (malformed? (ps ++ [r])).or ((danglingAll? ps).or (dangling? r))
  | classVar h => dangling? h
  | text name fault => some ⟨name, fault⟩
  | forward name fault => some ⟨name, fault⟩
  | _ => Option.none

def danglingAll? : List Hint → Option Dangling
  | [] => Option.none
  | h :: hs => (dangling? h).or (danglingAll? hs)

end

theorem bareAll_eq_map (hs : List Hint) : bareAll hs = hs.map bare := by
  induction hs with
  | nil => rw [bareAll, List.map_nil]
  | cons h hs ih => rw [bareAll, ih, List.map_cons]

theorem splitAll_eq_map (hs : List Hint) : splitAll hs = hs.map split := by
  induction hs with
  | nil => rw [splitAll, List.map_nil]
  | cons h hs ih => rw [splitAll, ih, List.map_cons]

end Hint
end RowMapping
