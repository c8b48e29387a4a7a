/-!
# Joining and cutting texts

`joined` puts a separator between texts.  A dotted name is cut at its first dot (`beforeDot`,
`fromDot`) or at its last one (`beforeLastDot`, `afterLastDot`).
-/

namespace RowMapping.Text

/-- the texts with `sep` between each two neighbours -/
def joined (sep : String) : List String → String
  | [] => ""
  | [s] => s
  | s :: t :: rest => s ++ sep ++ joined sep (t :: rest)

theorem joined_singleton (sep s : String) : joined sep [s] = s := rfl
theorem joined_cons_cons (sep s t : String) (rest : List String) :
    joined sep (s :: t :: rest) = s ++ sep ++ joined sep (t :: rest) := rfl

/-! ### dotted names -/

def segments (c : Char) : List Char → List (List Char)
  | [] => [[]]
  | d :: rest =>
    if d = c then [] :: segments c rest
    else match segments c rest with
      | [] => [[d]]
      | s :: ss => (d :: s) :: ss

def split (c : Char) (s : String) : List String := (segments c s.toList).map String.ofList

/-- the text before the first dot, or all of it -/
def beforeDot (s : String) : String := String.ofList (s.toList.takeWhile (· ≠ '.'))

def fromDot (s : String) : String := String.ofList (s.toList.dropWhile (· ≠ '.'))

/-- the text after the last dot, or all of it -/
def afterLastDot (s : String) : String :=
  String.ofList (s.toList.reverse.takeWhile (· ≠ '.')).reverse

def beforeLastDot (s : String) : String :=
  String.ofList ((s.toList.reverse.dropWhile (· ≠ '.')).drop 1).reverse

theorem beforeDot_append_fromDot (s : String) : beforeDot s ++ fromDot s = s := by
  rw [beforeDot, fromDot, ← String.ofList_append, List.takeWhile_append_dropWhile,
    String.ofList_toList]

/-! ### the last dot -/

variable {s t : String}

theorem takeWhile_reverse_of_no_dot {l : List Char} (h : '.' ∉ l) (rest : List Char) :
    (l.reverse ++ rest).takeWhile (· ≠ '.') = l.reverse ++ rest.takeWhile (· ≠ '.') := by
  refine List.takeWhile_append_of_pos fun c hc => decide_eq_true fun hdot => ?_
  exact h (hdot ▸ List.mem_reverse.mp hc)

theorem dropWhile_reverse_of_no_dot {l : List Char} (h : '.' ∉ l) (rest : List Char) :
    (l.reverse ++ rest).dropWhile (· ≠ '.') = rest.dropWhile (· ≠ '.') := by
  refine List.dropWhile_append_of_pos fun c hc => decide_eq_true fun hdot => ?_
  exact h (hdot ▸ List.mem_reverse.mp hc)

theorem afterLastDot_append (s : String) (h : '.' ∉ t.toList) : afterLastDot (s ++ "." ++ t) = t := by
  have hchars : (s ++ "." ++ t).toList.reverse = t.toList.reverse ++ '.' :: s.toList.reverse := by
    simp
  rw [afterLastDot, hchars, takeWhile_reverse_of_no_dot h]
  simp

theorem beforeLastDot_append (s : String) (h : '.' ∉ t.toList) :
    beforeLastDot (s ++ "." ++ t) = s := by
  have hchars : (s ++ "." ++ t).toList.reverse = t.toList.reverse ++ '.' :: s.toList.reverse := by
    simp
  rw [beforeLastDot, hchars, dropWhile_reverse_of_no_dot h]
  simp

theorem afterLastDot_of_no_dot (h : '.' ∉ s.toList) : afterLastDot s = s := by
  have hall := takeWhile_reverse_of_no_dot h []
  rw [List.append_nil, List.takeWhile_nil, List.append_nil] at hall
  rw [afterLastDot, hall, List.reverse_reverse, String.ofList_toList]

theorem beforeLastDot_of_no_dot (h : '.' ∉ s.toList) : beforeLastDot s = "" := by
  have hnone := dropWhile_reverse_of_no_dot h []
  rw [List.append_nil, List.dropWhile_nil] at hnone
  rw [beforeLastDot, hnone]
  rfl

theorem dot_notMem_afterLastDot (s : String) : '.' ∉ (afterLastDot s).toList := by
  intro h
  rw [afterLastDot, String.toList_ofList, List.mem_reverse] at h
  exact of_decide_eq_true (List.all_eq_true.mp List.all_takeWhile '.' h) rfl

end RowMapping.Text
