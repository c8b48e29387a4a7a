import RowMapping.Proofs.Imports.Keys

/-!
# Import lines

The import lines of a module are in order and name nothing twice, but they name exactly what its
parts import: `pairwise_imports`, `names_of_mem_imports` and `mem_importEntries`.
-/

namespace RowMapping

/-! ### sorted names -/

theorem mem_insertOnce {a name : String} {names : List String} :
    a ∈ insertOnce name names ↔ a = name ∨ a ∈ names := by
  induction names with
  | nil => rw [insertOnce, List.mem_singleton, or_iff_left List.not_mem_nil]
  | cons n rest ih =>
    unfold insertOnce
    split
    · exact List.mem_cons
    · split
      · next heq =>
        subst heq
        rw [List.mem_cons, or_self_left]
      · rw [List.mem_cons, List.mem_cons, ih, or_left_comm]

theorem mem_sortedOnce {a : String} {names : List String} : a ∈ sortedOnce names ↔ a ∈ names := by
  induction names with
  | nil => rfl
  | cons name names ih => rw [sortedOnce_cons, mem_insertOnce, ih, List.mem_cons]

theorem pairwise_insertOnce {name : String} {names : List String} (h : names.Pairwise (· < ·)) :
    (insertOnce name names).Pairwise (· < ·) := by
  induction names with
  | nil => exact List.pairwise_singleton _ _
  | cons n rest ih =>
    obtain ⟨hfirst, hrest⟩ := List.pairwise_cons.mp h
    unfold insertOnce
    split
    · next hlt =>
      refine List.pairwise_cons.mpr ⟨fun a ha => ?_, h⟩
      rcases List.mem_cons.mp ha with rfl | ha
      · exact hlt
      · exact String.lt_trans hlt (hfirst a ha)
    · next hnot =>
      split
      · exact h
      · next hne =>
        have hlt : n < name := Std.lt_of_le_of_ne (String.not_lt.mp hnot) (Ne.symm hne)
        refine List.pairwise_cons.mpr ⟨fun a ha => ?_, ih hrest⟩
        rcases mem_insertOnce.mp ha with rfl | ha
        · exact hlt
        · exact hfirst a ha

theorem pairwise_sortedOnce (names : List String) : (sortedOnce names).Pairwise (· < ·) := by
  induction names with
  | nil => exact List.Pairwise.nil
  | cons name names ih => exact pairwise_insertOnce ih

/-! ### lines -/

namespace ModuleText

theorem pairwise_imports (m : ModuleText) : (m.imports.map (·.1)).Pairwise (· < ·) := by
  have hmodules : m.imports.map (·.1) = sortedOnce (m.importPairs.map (·.1)) := by
    rw [imports, List.map_map]
    exact List.map_id _
  rw [hmodules]
  exact pairwise_sortedOnce _

theorem names_of_mem_imports {m : ModuleText} {line : String × List String}
    (h : line ∈ m.imports) : line.2 ≠ [] ∧ line.2.Pairwise (· < ·) := by
  obtain ⟨module, hmodule, rfl⟩ := List.mem_map.mp h
  obtain ⟨pair, hpair, rfl⟩ := List.mem_map.mp (mem_sortedOnce.mp hmodule)
  have hname : pair.2 ∈ sortedOnce ((m.importPairs.filter (·.1 = pair.1)).map (·.2)) :=
    mem_sortedOnce.mpr (List.mem_map_of_mem (List.mem_filter.mpr ⟨hpair, decide_eq_true rfl⟩))
  exact ⟨List.ne_nil_of_mem hname, pairwise_sortedOnce _⟩

/-- what the import lines say, each name with its module -/
def importEntries (m : ModuleText) : List (String × String) :=
  m.imports.flatMap fun line => line.2.map fun name => (line.1, name)

/-- the import lines name what the parts of the module import, and nothing else -/
theorem mem_importEntries {m : ModuleText} {entry : String × String} :
    entry ∈ m.importEntries ↔ ∃ i ∈ m.imported, i.entry = entry := by
  rw [← List.mem_map (f := Import.entry)]
  show entry ∈ m.importEntries ↔ entry ∈ m.importPairs
  unfold importEntries
  rw [List.mem_flatMap]
  constructor
  · rintro ⟨line, hline, hentry⟩
    obtain ⟨module, -, rfl⟩ := List.mem_map.mp hline
    obtain ⟨name, hname, rfl⟩ := List.mem_map.mp hentry
    obtain ⟨pair, hpair, rfl⟩ := List.mem_map.mp (mem_sortedOnce.mp hname)
    obtain ⟨hmem, hmodule⟩ := List.mem_filter.mp hpair
    rw [← of_decide_eq_true hmodule]
    exact hmem
  · intro hmem
    refine ⟨_, List.mem_map.mpr ⟨entry.1, ?_, rfl⟩, ?_⟩
    · exact mem_sortedOnce.mpr (List.mem_map_of_mem hmem)
    · refine List.mem_map.mpr ⟨entry.2, mem_sortedOnce.mpr ?_, rfl⟩
      exact List.mem_map_of_mem (List.mem_filter.mpr ⟨hmem, decide_eq_true rfl⟩)

end ModuleText
end RowMapping
