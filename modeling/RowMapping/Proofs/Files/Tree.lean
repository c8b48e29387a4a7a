import RowMapping.Files.Tree

/-!
# Files that are read and written

A path is walked one segment at a time, so a file is found behind the directory that holds it
(`walk_append`).  A file that is written is not in the way of any directory, hence it is read back
through the same path: `written_of_write`.
-/

namespace RowMapping.Files

namespace FileTree
variable {t t' : FileTree} {start place other : List String} {steps : List String} {node : Node}
  {path : String} {bytes : List UInt8} {fault : FileFault}

/-! ### walks -/

theorem walk_nil (t : FileTree) (place : List String) :
    t.walk place [] = match t.node? place with
      | some n => .ok (place, n)
      | none => .error .missing := rfl

theorem walk_cons_of_directory (h : t.node? place = some .directory) (s : String)
    (rest : List String) :
    t.walk place (s :: rest) = t.walk (if s = ".." then place.dropLast else place ++ [s]) rest := by
  rw [walk]
  simp only [h]

theorem walk_nil_eq_ok (h : t.walk start [] = .ok (place, node)) :
    start = place ∧ t.node? place = some node := by
  rw [walk_nil] at h
  split at h
  next n hnode =>
    cases h
    exact ⟨rfl, hnode⟩
  next => cases h

theorem node?_of_walk_cons {s : String} {rest : List String}
    (h : t.walk start (s :: rest) = .ok (place, node)) : t.node? start = some .directory := by
  rw [walk] at h
  split at h
  next => cases h
  next => cases h
  next hnode => exact hnode

theorem node?_of_walk (h : t.walk start steps = .ok (place, node)) : t.node? place = some node := by
  induction steps generalizing start with
  | nil => exact (walk_nil_eq_ok h).2
  | cons s rest ih =>
    rw [walk_cons_of_directory (node?_of_walk_cons h)] at h
    exact ih h

theorem walk_append (h : t.walk start steps = .ok (place, .directory)) (more : List String) :
    t.walk start (steps ++ more) = t.walk place more := by
  induction steps generalizing start with
  | nil =>
    obtain ⟨rfl, -⟩ := walk_nil_eq_ok h
    rfl
  | cons s rest ih =>
    have hstart := node?_of_walk_cons h
    rw [walk_cons_of_directory hstart] at h
    rw [List.cons_append, walk_cons_of_directory hstart, ih h]

/-- a walk fails since there is nothing, or a file in place of a directory -/
theorem fault_of_walk (h : t.walk start steps = .error fault) :
    fault = .missing ∨ fault = .notDirectory := by
  induction steps generalizing start with
  | nil =>
    rw [walk_nil] at h
    split at h <;> cases h
    exact .inl rfl
  | cons s rest ih =>
    rw [walk] at h
    split at h
    next => cases h; exact .inl rfl
    next => cases h; exact .inr rfl
    next => exact ih h

/-! ### reading -/

theorem isOfSystem_of_read (h : t.read path = .error fault) :
    fault.isOfSystem = !hasNull path := by
  unfold read at h
  split at h
  next hnull =>
    cases h
    rw [hnull]
    rfl
  next hnull =>
    rw [Bool.eq_false_iff.mpr hnull]
    split at h
    next e hwalk =>
      cases h
      obtain rfl | rfl := fault_of_walk hwalk <;> rfl
    next => cases h; rfl
    next =>
      split at h <;> cases h
      rfl

theorem read_of_walk (hnull : hasNull path = false)
    (hwalk : t.walk (t.origin path) (pathSegments path) = .ok (place, .file bytes))
    (hallowed : t.denied place = false) : t.read path = .ok bytes := by
  unfold read
  rw [hnull, if_neg Bool.false_ne_true, hwalk]
  simp only [hallowed]
  rfl

/-! ### inserted files -/

theorem lookup_filter_ne {files : List (List String × List UInt8)} (h : other ≠ place) :
    (files.filter (·.1 ≠ place)).lookup other = files.lookup other := by
  induction files with
  | nil => rfl
  | cons file rest ih =>
    obtain ⟨key, content⟩ := file
    by_cases hkey : key = place
    · have hother : (other == key) = false := by
        rw [hkey]
        exact beq_eq_false_iff_ne.mpr h
      rw [List.filter_cons_of_neg (by simpa using hkey), List.lookup_cons, hother, ih]
    · rw [List.filter_cons_of_pos (by simpa using hkey), List.lookup_cons, List.lookup_cons, ih]

theorem lookup_filter_self (place : List String) (files : List (List String × List UInt8)) :
    (files.filter (·.1 ≠ place)).lookup place = none := by
  rw [List.lookup_eq_none_iff]
  intro file hfile
  have hne : file.1 ≠ place := by simpa using (List.mem_filter.mp hfile).2
  exact bne_iff_ne.mpr hne.symm

theorem lookup_insert_self (t : FileTree) (place : List String) (bytes : List UInt8) :
    (t.insert place bytes).files.lookup place = some bytes := by
  unfold insert
  rw [List.lookup_append, lookup_filter_self, List.lookup_cons_self]
  rfl

theorem lookup_insert_of_ne (h : other ≠ place) :
    (t.insert place bytes).files.lookup other = t.files.lookup other := by
  unfold insert
  rw [List.lookup_append, lookup_filter_ne h, List.lookup_cons, beq_eq_false_iff_ne.mpr h]
  exact Option.or_none

theorem node?_insert_self (t : FileTree) (place : List String) (bytes : List UInt8) :
    (t.insert place bytes).node? place = some (.file bytes) := by
  unfold node?
  rw [lookup_insert_self]

theorem node?_eq_directory_iff : t.node? place = some .directory ↔ t.files.lookup place = none ∧
    (place.isPrefixOf t.workingDirectory || t.directories.any place.isPrefixOf
      || t.files.any (place.isPrefixOf ·.1)) = true := by
  unfold node?
  cases t.files.lookup place with
  | some content => exact iff_of_false (fun h => by cases h) (fun h => by cases h.1)
  | none =>
    dsimp only
    constructor
    · intro h
      split at h
      next habove => exact ⟨rfl, habove⟩
      next => cases h
    · intro h
      exact if_pos h.2

/-- a file that goes where no directory is leaves all directories there -/
theorem node?_insert_of_directory (hplace : t.node? place ≠ some .directory)
    (h : t.node? other = some .directory) :
    (t.insert place bytes).node? other = some .directory := by
  have hne : other ≠ place := fun hsame => hplace (hsame ▸ h)
  obtain ⟨hnone, habove⟩ := node?_eq_directory_iff.mp h
  rw [node?_eq_directory_iff, lookup_insert_of_ne hne]
  refine ⟨hnone, ?_⟩
  rw [Bool.or_eq_true] at habove ⊢
  refine habove.imp_right fun hfiles => ?_
  obtain ⟨file, hfile, hbelow⟩ := List.any_eq_true.mp hfiles
  rw [List.any_eq_true]
  by_cases hsame : file.1 = place
  · exact ⟨(place, bytes), List.mem_append_right _ List.mem_cons_self, hsame ▸ hbelow⟩
  · exact ⟨file, List.mem_append_left _ (List.mem_filter.mpr ⟨hfile, by simpa using hsame⟩), hbelow⟩

theorem walk_insert_of_directory (hplace : t.node? place ≠ some .directory)
    (h : t.walk start steps = .ok (other, .directory)) :
    (t.insert place bytes).walk start steps = .ok (other, .directory) := by
  induction steps generalizing start with
  | nil =>
    obtain ⟨rfl, hnode⟩ := walk_nil_eq_ok h
    rw [walk_nil, node?_insert_of_directory hplace hnode]
  | cons s rest ih =>
    have hstart := node?_of_walk_cons h
    rw [walk_cons_of_directory hstart] at h
    rw [walk_cons_of_directory (node?_insert_of_directory hplace hstart), ih h]

/-! ### writing -/

/-- that a file with these bytes was written at a path, and no other one -/
structure Written (t t' : FileTree) (path : String) (bytes : List UInt8) : Prop where
  read : t'.read path = .ok bytes
  others : ∀ place, t'.walk (t'.origin path) (pathSegments path) ≠ .ok (place, .file bytes) →
    t'.files.lookup place = t.files.lookup place

theorem exists_insert_of_write (h : t.write path bytes = .ok t') : ∃ directory last,
    hasNull path = false ∧ pathSegments path = (pathSegments path).dropLast ++ [last] ∧
      t.walk (t.origin path) (pathSegments path).dropLast = .ok (directory, .directory) ∧
      last ≠ ".." ∧ t.node? (directory ++ [last]) ≠ some .directory ∧
      t.denied (directory ++ [last]) = false ∧ t' = t.insert (directory ++ [last]) bytes := by
  unfold write at h
  split at h
  next => cases h
  next hnull =>
    split at h
    next => cases h
    next => cases h
    next => cases h
    next last directory hlast hwalk =>
      split at h
      next => cases h
      next hup =>
        split at h
        next => cases h
        next hnode =>
          split at h
          next => cases h
          next hallowed =>
            cases h
            obtain ⟨before, hbefore⟩ := List.getLast?_eq_some_iff.mp hlast
            exact ⟨directory, last, Bool.eq_false_iff.mpr hnull,
              by rw [hbefore, List.dropLast_concat], hwalk, hup, hnode,
              Bool.eq_false_iff.mpr hallowed, rfl⟩

theorem written_of_write (h : t.write path bytes = .ok t') : t.Written t' path bytes := by
  obtain ⟨directory, last, hnull, hsegments, hwalk, hup, hnode, hallowed, rfl⟩ :=
    exists_insert_of_write h
  have hdirectory : (t.insert (directory ++ [last]) bytes).walk (t.origin path)
      (pathSegments path).dropLast = .ok (directory, .directory) :=
    walk_insert_of_directory hnode hwalk
  have hfound : (t.insert (directory ++ [last]) bytes).walk (t.origin path) (pathSegments path) =
      .ok (directory ++ [last], .file bytes) := by
    rw [hsegments, walk_append hdirectory, walk_cons_of_directory (node?_of_walk hdirectory),
      if_neg hup, walk_nil, node?_insert_self]
  refine ⟨read_of_walk hnull hfound hallowed, fun place hplace => ?_⟩
  refine lookup_insert_of_ne fun hsame => hplace ?_
  rw [hsame]
  exact hfound

/-! ### directories -/

theorem files_makeDirectories (t : FileTree) (place : List String) (steps : List String) :
    (t.makeDirectories place steps).1.files = t.files := by
  induction steps generalizing t place with
  | nil => rfl
  | cons s rest ih =>
    unfold makeDirectories
    split
    next => exact ih t _
    next =>
      dsimp only
      split
      next => rfl
      next => exact ih t _
      next =>
        split
        next => rfl
        next => exact ih _ _

theorem files_makeParents (t : FileTree) (path : String) :
    (t.makeParents path).1.files = t.files := by
  unfold makeParents
  split
  next => rfl
  next => exact files_makeDirectories t _ _

end FileTree
end RowMapping.Files
