import RowMapping.Proofs.Imports.Lines
import RowMapping.Proofs.Unit.Run

/-!
# The names of a unit do not clash

A unit takes names for its functions and their parameters, the locals of its properties, the
locals of its plans and the instances of its adapters (`GeneratedUnit.names`).  `Hygienic` says that
these names are all different, that none is a keyword or the name of an import, and that they are
all the names there are: the text of the unit defines no other, and neither does the supply.

* `hygienic_of_generateUnit`  every unit of properties with different names is hygienic.
-/

namespace RowMapping
open RowMapping.Text NameSupply

/-! ### names in the text -/

/-- the names that a part of a module gives a value: functions, parameters and assigned names -/
def Part.defined : Part → List String
  | .statement s => s.boundName?.toList
  | .function f => f.name :: (f.parameters.map (·.1) ++ f.body.filterMap Statement.boundName?)

def ModuleText.defined (t : ModuleText) : List String := t.parts.flatMap Part.defined

/-- the names that a part of a module assigns outside functions -/
def Part.assigned : Part → List String
  | .statement s => s.boundName?.toList
  | .function _ => []

def ModuleText.assigned (t : ModuleText) : List String := t.parts.flatMap Part.assigned

/-! ### names of a unit -/

namespace GeneratedUnit

/-- all names that a unit gives its parts; the locals of the properties are read from the supply
that it leaves behind -/
def names (u : GeneratedUnit) (s : NameSupply) (ps : List Property) : List String :=
  u.readFunction.toList ++ u.mapper.toList ++ (u.readPlan.map (·.cursor)).toList
    ++ (u.writeFunction.toList ++ (u.writePlan.map (·.value)).toList
      ++ (u.writePlan.map (·.values)).toList)
    ++ ps.map s.localOf
    ++ u.text.assigned
    ++ u.readPlan.toList.flatMap ReadPlan.ownLocals
    ++ u.writePlan.toList.flatMap WritePlan.ownLocals

/-- what the names of a unit are worth, given the names that were reserved before any of them -/
structure Hygienic (u : GeneratedUnit) (s : NameSupply) (ps : List Property)
    (reserved : List String) : Prop where
  nodup : (u.names s ps).Nodup
  not_keyword : ∀ n ∈ u.names s ps, isKeyword n = false
  not_imported : ∀ i ∈ u.text.imported, i.bound ∉ u.names s ps
  import_lines : ∀ entry, entry ∈ u.text.importEntries ↔ ∃ i ∈ u.text.imported, i.entry = entry
  has_local : ∀ p ∈ ps, s.HasLocal p
  defined : ∀ n ∈ u.text.defined, n ∈ u.names s ps
  taken : s.taken.Perm (u.names s ps ++ reserved)

end GeneratedUnit

namespace Mapping
variable {m : Mapping} {target : TypeName} {ps : List Property} {c : Capabilities}
  {u : GeneratedUnit}

/-! ### what the text defines -/

section
variable {s : NameSupply} {f : Frame} {bindings : List AdapterBinding}

theorem ReadRoutine.assigned_eq {mapper read : Option String} {reading : Routine ReadPlan}
    (h : m.ReadRoutine s f bindings ps mapper read reading) :
    reading.parts.flatMap Part.assigned = [] := by
  cases h with
  | none => rfl
  | function _ => cases mapper <;> rfl

theorem WriteRoutine.assigned_eq {write : Option String} {writing : Routine WritePlan}
    (h : m.WriteRoutine s f bindings ps write writing) :
    writing.parts.flatMap Part.assigned = [] := by
  cases h <;> rfl

theorem defined_instantiations (bindings : List AdapterBinding) :
    (bindings.map fun b => Part.statement b.instantiation).flatMap Part.defined
      = bindings.map (·.name) := by
  rw [List.flatMap_map]
  exact List.flatMap_pure_eq_map _ _

/-- outside functions a unit assigns the instances of its adapters -/
theorem IsUnit.assigned_eq {reading : Routine ReadPlan} {writing : Routine WritePlan}
    (h : m.IsUnit s f c ps bindings reading writing u) :
    u.text.assigned = bindings.map (·.name) := by
  have hbindings : (bindings.map fun b => Part.statement b.instantiation).flatMap Part.assigned
      = bindings.map (·.name) := by
    rw [← defined_instantiations, List.flatMap_map, List.flatMap_map]
    rfl
  rw [ModuleText.assigned, h.text, Frame.parts_unitText, List.flatMap_append,
    List.flatMap_append, hbindings, h.reading.assigned_eq, h.writing.assigned_eq, List.append_nil,
    List.append_nil]

theorem ReadsProperty.name_mem {cursor : String} {byKeyword : Bool} {p : Property}
    {g : PropertyReading} (h : m.ReadsProperty s bindings cursor byKeyword p g) :
    ∀ a ∈ g.statements, a.name ∈ g.ownLocals ∨ a.name = s.localOf p := by
  intro a ha
  obtain ⟨way, -, hreads⟩ := h.reads
  obtain ⟨last, hlast, hname, -⟩ := hreads.exists_last
  rw [hlast] at ha
  rcases List.mem_append.mp ha with ha | ha
  · exact .inl (List.mem_map_of_mem ha)
  · rw [List.mem_singleton.mp ha]
    exact .inr hname

theorem PlansRead.name_mem {byKeyword : Bool} {plan : ReadPlan}
    (h : m.PlansRead s target byKeyword bindings ps plan) :
    ∀ a ∈ plan.statements, a.name ∈ plan.ownLocals ∨ a.name ∈ ps.map s.localOf := by
  intro a ha
  obtain ⟨g, hg, ha⟩ := List.mem_flatMap.mp ha
  obtain ⟨p, hp, hreads⟩ := exists_left_of_forall₂ h.readings hg
  rcases hreads.name_mem a ha with hown | hlocal
  · exact .inl (List.mem_flatMap.mpr ⟨g, hg, hown⟩)
  · rw [hlocal]
    exact .inr (List.mem_map_of_mem hp)

theorem ReadRoutine.defined_mem {mapper read : Option String} {reading : Routine ReadPlan}
    (h : m.ReadRoutine s f bindings ps mapper read reading) :
    ∀ n ∈ reading.parts.flatMap Part.defined, n ∈ read.toList ∨
      n ∈ (reading.plan.map (·.cursor)).toList ∨ n ∈ ps.map s.localOf ∨
      n ∈ reading.plan.toList.flatMap ReadPlan.ownLocals := by
  intro n hn
  cases h with
  | none => cases hn
  | @function name plan hplans =>
    rw [List.flatMap_cons] at hn
    rcases List.mem_append.mp hn with hn | hn
    · rcases List.mem_cons.mp hn with rfl | hn
      · exact .inl (List.mem_singleton_self _)
      rcases List.mem_cons.mp hn with rfl | hn
      · exact .inr (.inl (List.mem_singleton_self _))
      obtain ⟨st, hst, hname⟩ := List.mem_filterMap.mp hn
      rcases List.mem_append.mp hst with hst | hst
      · obtain ⟨a, ha, rfl⟩ := List.mem_map.mp hst
        obtain rfl := Option.some.inj hname
        rcases hplans.name_mem a ha with hown | hlocal
        · exact .inr (.inr (.inr (List.mem_flatMap.mpr ⟨plan, List.mem_singleton_self _, hown⟩)))
        · exact .inr (.inr (.inl hlocal))
      · rw [List.mem_singleton.mp hst] at hname
        cases hname
    · cases mapper <;> cases hn

theorem WriteRoutine.defined_mem {write : Option String} {writing : Routine WritePlan}
    (h : m.WriteRoutine s f bindings ps write writing) :
    ∀ n ∈ writing.parts.flatMap Part.defined, n ∈ write.toList ∨
      n ∈ (writing.plan.map (·.value)).toList ∨ n ∈ (writing.plan.map (·.values)).toList ∨
      n ∈ writing.plan.toList.flatMap WritePlan.ownLocals := by
  intro n hn
  cases h with
  | none => cases hn
  | @function name plan hplans =>
    rw [List.flatMap_cons, List.flatMap_nil, List.append_nil] at hn
    rcases List.mem_cons.mp hn with rfl | hn
    · exact .inl (List.mem_singleton_self _)
    rcases List.mem_cons.mp hn with rfl | hn
    · exact .inr (.inl (List.mem_singleton_self _))
    obtain ⟨st, hst, hname⟩ := List.mem_filterMap.mp hn
    rcases List.mem_cons.mp hst with rfl | hst
    · obtain rfl := Option.some.inj hname
      exact .inr (.inr (.inl (List.mem_singleton_self _)))
    rcases List.mem_append.mp hst with hst | hst
    · obtain ⟨g, hg, hst⟩ := List.mem_flatMap.mp hst
      have hown : n ∈ g.ownLocals := List.mem_filterMap.mpr ⟨st, hst, hname⟩
      exact .inr (.inr (.inr (List.mem_flatMap.mpr
        ⟨plan, List.mem_singleton_self _, List.mem_flatMap.mpr ⟨g, hg, hown⟩⟩)))
    · rw [List.mem_singleton.mp hst] at hname
      cases hname

/-- the text of a unit defines no name but those that the unit lists -/
theorem IsUnit.defined_mem {reading : Routine ReadPlan} {writing : Routine WritePlan}
    (h : m.IsUnit s f c ps bindings reading writing u) :
    ∀ n ∈ u.text.defined, n ∈ u.names s ps := by
  intro n hn
  unfold GeneratedUnit.names
  rw [h.assigned_eq, h.readPlan, h.writePlan]
  simp only [List.mem_append, or_assoc]
  rw [ModuleText.defined, h.text, Frame.parts_unitText, List.flatMap_append, List.flatMap_append]
    at hn
  rcases List.mem_append.mp hn with hn | hn
  · rw [defined_instantiations] at hn
    grind
  rcases List.mem_append.mp hn with hn | hn
  · have := h.reading.defined_mem n hn
    grind
  · have := h.writing.defined_mem n hn
    grind

end

theorem map_name_grants {s : NameSupply} {bindings : List AdapterBinding}
    (hassigned : u.text.assigned = bindings.map (·.name)) :
    (u.grants s bindings ps).map (·.name) = u.names s ps := by
  have hlocals : (ps.map fun p => Grant.tagged (.property p.name) (s.localOf p)).map (·.name)
      = ps.map s.localOf := by
    rw [List.map_map]
    rfl
  have hbindings : (bindings.map AdapterBinding.grant).map (·.name) = bindings.map (·.name) := by
    rw [List.map_map]
    rfl
  have hplain : ∀ names : List String, (names.map Grant.plain).map (·.name) = names := by
    intro names
    rw [List.map_map]
    exact List.map_id _
  simp only [GeneratedUnit.grants, GeneratedUnit.names, List.map_append, Role.map_name_grants,
    hlocals, hbindings, hplain, hassigned]

theorem names_aliasType (aliases : Aliases) (s : NameSupply) :
    u.names s (ps.map (aliasType aliases)) = u.names s ps := by
  rw [GeneratedUnit.names, GeneratedUnit.names, List.map_map]
  rfl

theorem bound_mem_reserved (hplain : PlainTypes m target ps)
    (h : (m.unitRun target ps c).1 = .ok u) {i : Import} (hi : i ∈ u.text.imported) :
    i.bound ∈ (m.localNames target ps).supply.taken := by
  have hsound := m.sound_localNames target ps
  rcases (m.mem_imported_unitRun h).mp hi with ⟨key, hkey, rfl⟩ | ⟨-, rfl⟩
  · exact (LocalNames.nameOf_mem_taken hsound (knows_of_mentioned hplain hkey)).1
  · -- the mapper's callable type has no local name, but its own name is reserved all the same
    exact (LocalNames.nameOf_mem_taken hsound (knows_callableKey hplain)).2

/-! ### hygiene -/

theorem hygienic_of_generateUnit (hplain : PlainTypes m target ps)
    (hnames : (ps.map (·.name)).Nodup) (h : m.generateUnit target ps c = .ok u) :
    u.Hygienic (m.unitRun target ps c).2 ps (m.localNames target ps).supply.taken := by
  have hrun := (generateUnit_eq_ok.mp h).2
  obtain ⟨bindings, reading, writing, hunit, -, hgranted⟩ := m.isUnit_of_unitRun hrun
  obtain ⟨hgranted, hlocals⟩ := hgranted hnames
  have heq : (u.grants (m.unitRun target ps c).2 bindings ps).map (·.name)
      = u.names (m.unitRun target ps c).2 ps := map_name_grants hunit.assigned_eq
  refine ⟨?_, ?_, ?_, fun _ => ModuleText.mem_importEntries, hlocals, ?_, ?_⟩
  · rw [← heq]
    exact hgranted.nodup
  · rw [← heq]
    exact hgranted.not_keyword
  · intro i hi hmem
    rw [← heq] at hmem
    exact hgranted.not_mem_taken _ hmem (bound_mem_reserved hplain hrun hi)
  · intro n hn
    rw [← names_aliasType (m.localNames target ps).aliases]
    exact hunit.defined_mem n hn
  · rw [hgranted.taken_eq, heq]
    exact (List.reverse_perm _).append_right _

/-- the unit of a class with a mapper and both routines, where a column may be empty -/
theorem hygienic_user :
    PlainTypes .default userType userProperties ∧ (userProperties.map (·.name)).Nodup ∧
      ∃ u, Mapping.default.generateUnit userType userProperties userCapabilities = .ok u ∧
        u.Hygienic (Mapping.default.unitRun userType userProperties userCapabilities).2
          userProperties (Mapping.default.localNames userType userProperties).supply.taken := by
  have hnames : (userProperties.map (·.name)).Nodup := by decide
  obtain ⟨u, hu⟩ := exists_generateUnit_user
  exact ⟨plainTypes_user, hnames, u, hu, hygienic_of_generateUnit plainTypes_user hnames hu⟩

end Mapping
end RowMapping
