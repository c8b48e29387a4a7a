import Mathlib.Data.List.TakeWhile
import RowMapping.Text.Joined

/-!
# Texts cut at a character

* `mem_cuts_iff`  all ways to cut a text in two at one place of a character;
* `isDotted_iff`  a text is cut at every dot into the one list of names without dots that it joins.
-/

namespace RowMapping.Text
variable {c : Char} {s t : List Char}

/-! ### the first place -/

theorem takeWhile_ne_append (h : c ∉ s) (t : List Char) :
    (s ++ c :: t).takeWhile (· ≠ c) = s ∧ (s ++ c :: t).dropWhile (· ≠ c) = c :: t := by
  have hall : ∀ d ∈ s, (fun d => decide (d ≠ c)) d = true := fun d hd =>
    decide_eq_true fun hsame : d = c => h (hsame ▸ hd)
  rw [List.takeWhile_append_of_pos hall, List.dropWhile_append_of_pos hall]
  simp

/-- A text with something behind its first `c` is what stands in front of it, `c` and the rest. -/
theorem eq_append_of_drop_ne_nil
    (h : (s.dropWhile (· ≠ c)).drop 1 ≠ []) :
    s = s.takeWhile (· ≠ c) ++ c :: (s.dropWhile (· ≠ c)).drop 1 := by
  induction s with
  | nil => exact absurd rfl h
  | cons d rest ih =>
    by_cases hd : d = c
    · simp [hd]
    · simp only [List.dropWhile_cons, List.takeWhile_cons, hd, ne_eq, not_false_eq_true,
        decide_true, if_true] at h ⊢
      exact congrArg _ (ih h)

/-! ### any one place -/

/-- what stands in front of each `c` of a text, with what stands behind it -/
def cuts (c : Char) : List Char → List (List Char × List Char)
  | [] => []
  | d :: s =>
    let behind := (cuts c s).map fun cut => (d :: cut.1, cut.2)
    if d = c then ([], s) :: behind else behind

theorem cons_mem_cuts_cons_iff {q : List Char} {x d : Char} :
    (x :: s, t) ∈ cuts c (d :: q) ↔ x = d ∧ (s, t) ∈ cuts c q := by
  have hmap : (x :: s, t) ∈ (cuts c q).map (fun cut => (d :: cut.1, cut.2)) ↔
      x = d ∧ (s, t) ∈ cuts c q := by
    rw [List.mem_map]
    constructor
    · rintro ⟨⟨u, v⟩, hmem, heq⟩
      cases heq
      exact ⟨rfl, hmem⟩
    · rintro ⟨rfl, hmem⟩
      exact ⟨(s, t), hmem, rfl⟩
  rw [cuts]
  split
  · rw [List.mem_cons, or_iff_right (by simp), hmap]
  · exact hmap

theorem nil_mem_cuts_cons_iff {q : List Char} {d : Char} :
    ([], t) ∈ cuts c (d :: q) ↔ c = d ∧ t = q := by
  have hmap : ([], t) ∉ (cuts c q).map fun cut => (d :: cut.1, cut.2) := by simp
  rw [cuts]
  split
  next hd => rw [List.mem_cons, or_iff_left hmap, Prod.mk.injEq, hd, eq_self, eq_self]
  next hd => exact iff_of_false hmap fun h => hd h.1.symm

theorem mem_cuts_iff {q : List Char} : (s, t) ∈ cuts c q ↔ s ++ c :: t = q := by
  induction q generalizing s with
  | nil => exact iff_of_false List.not_mem_nil (by simp)
  | cons d q ih =>
    cases s with
    | nil => rw [nil_mem_cuts_cons_iff, List.nil_append, List.cons.injEq]
    | cons x s => rw [cons_mem_cuts_cons_iff, ih, List.cons_append, List.cons.injEq]

/-! ### all places -/

theorem segments_ne_nil (c : Char) (s : List Char) : segments c s ≠ [] := by
  cases s with
  | nil => exact List.cons_ne_nil _ _
  | cons d rest =>
    unfold segments
    split
    · exact List.cons_ne_nil _ _
    · split <;> exact List.cons_ne_nil _ _

theorem segments_cons_self (c : Char) (s : List Char) : segments c (c :: s) = [] :: segments c s :=
  if_pos rfl

theorem exists_segments_cons {d : Char} (h : d ≠ c) (s : List Char) : ∃ first others,
    segments c s = first :: others ∧ segments c (d :: s) = (d :: first) :: others := by
  obtain ⟨first, others, hs⟩ := List.exists_cons_of_ne_nil (segments_ne_nil c s)
  refine ⟨first, others, hs, ?_⟩
  rw [segments, if_neg h, hs]

theorem segments_of_not_mem (h : c ∉ s) : segments c s = [s] := by
  induction s with
  | nil => rfl
  | cons d rest ih =>
    obtain ⟨hd, hrest⟩ := List.ne_and_not_mem_of_not_mem_cons h
    obtain ⟨first, others, hfirst, hcons⟩ := exists_segments_cons hd.symm rest
    rw [ih hrest] at hfirst
    cases hfirst
    exact hcons

theorem segments_append_cons (h : c ∉ s) (t : List Char) :
    segments c (s ++ c :: t) = s :: segments c t := by
  induction s with
  | nil => exact segments_cons_self c t
  | cons d rest ih =>
    obtain ⟨hd, hrest⟩ := List.ne_and_not_mem_of_not_mem_cons h
    obtain ⟨first, others, hfirst, hcons⟩ := exists_segments_cons hd.symm (rest ++ c :: t)
    rw [ih hrest] at hfirst
    cases hfirst
    exact hcons

theorem not_mem_of_mem_segments (h : t ∈ segments c s) : c ∉ t := by
  induction s generalizing t with
  | nil =>
    rw [List.mem_singleton.mp h]
    exact List.not_mem_nil
  | cons d rest ih =>
    by_cases hd : d = c
    · rw [hd, segments_cons_self] at h
      rcases List.mem_cons.mp h with rfl | h
      · exact List.not_mem_nil
      · exact ih h
    · obtain ⟨first, others, hfirst, hcons⟩ := exists_segments_cons hd rest
      rw [hfirst] at ih
      rw [hcons] at h
      rcases List.mem_cons.mp h with rfl | h
      · intro hmem
        rcases List.mem_cons.mp hmem with hsame | hmem
        · exact hd hsame.symm
        · exact ih List.mem_cons_self hmem
      · exact ih (List.mem_cons_of_mem _ h)

/-! ### names with dots between them -/

/-- that a text is names with dots between them -/
structure IsDotted (path : String) (names : List String) : Prop where
  ne_nil : names ≠ []
  text : joined "." names = path
  noDot : ∀ name ∈ names, '.' ∉ name.toList

theorem toList_joined_cons_cons (name next : String) (rest : List String) :
    (joined "." (name :: next :: rest)).toList =
      name.toList ++ '.' :: (joined "." (next :: rest)).toList := by
  rw [joined_cons_cons, String.toList_append, String.toList_append, List.append_assoc]
  rfl

theorem split_joined {names : List String} (hne : names ≠ [])
    (h : ∀ name ∈ names, '.' ∉ name.toList) : split '.' (joined "." names) = names := by
  unfold split
  induction names with
  | nil => exact absurd rfl hne
  | cons name rest ih =>
    obtain ⟨hname, hrest⟩ := List.forall_mem_cons.mp h
    cases rest with
    | nil => rw [joined_singleton, segments_of_not_mem hname, List.map_singleton, String.ofList_toList]
    | cons next rest =>
      rw [toList_joined_cons_cons, segments_append_cons hname, List.map_cons,
        ih (List.cons_ne_nil _ _) hrest, String.ofList_toList]

theorem joined_map_segments (s : List Char) :
    joined "." ((segments '.' s).map String.ofList) = String.ofList s := by
  induction s with
  | nil => rfl
  | cons d rest ih =>
    apply String.toList_injective
    by_cases hd : d = '.'
    · obtain ⟨first, others, hfirst⟩ := List.exists_cons_of_ne_nil (segments_ne_nil '.' rest)
      rw [hd, segments_cons_self, hfirst, List.map_cons, List.map_cons, toList_joined_cons_cons,
        ← List.map_cons, ← hfirst, ih]
      simp
    · obtain ⟨first, others, hfirst, hcons⟩ := exists_segments_cons hd rest
      rw [hfirst] at ih
      have htext := congrArg String.toList ih
      rw [hcons]
      cases others with
      | nil =>
        rw [List.map_singleton, joined_singleton] at htext ⊢
        simpa using htext
      | cons next others =>
        rw [List.map_cons, List.map_cons, toList_joined_cons_cons] at htext ⊢
        simpa using htext

theorem isDotted_iff {path : String} {names : List String} :
    IsDotted path names ↔ split '.' path = names := by
  constructor
  · rintro ⟨hne, rfl, hdots⟩
    exact split_joined hne hdots
  · rintro rfl
    refine ⟨?_, ?_, fun name hname => ?_⟩
    · exact fun h => segments_ne_nil _ _ (List.map_eq_nil_iff.mp h)
    · rw [split, joined_map_segments, String.ofList_toList]
    · obtain ⟨piece, hpiece, rfl⟩ := List.mem_map.mp hname
      rw [String.toList_ofList]
      exact not_mem_of_mem_segments hpiece

end RowMapping.Text
