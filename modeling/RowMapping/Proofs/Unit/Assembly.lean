import RowMapping.Proofs.Unit.Naming
import RowMapping.Proofs.Unit.Routines

/-!
# Units step by step

`unitIn` names functions and parameters, then the locals of the properties, then the adapters, and
then runs both routines.  `isUnit_of_unitIn` says what the unit is made of, and that from a supply
without tags it takes the names of `GeneratedUnit.grants`, each of them free when its turn came: one
after the other where the properties have different names, and each of them at some point in any
case.
-/

namespace RowMapping
open NameSupply

/-- the names that a unit takes, in the order in which it takes them; the locals of the properties
are read from the supply `s` -/
def GeneratedUnit.grants (u : GeneratedUnit) (s : NameSupply) (bindings : List AdapterBinding)
    (ps : List Property) : List Grant :=
  Role.readFunction.grants u.readFunction ++ Role.mapper.grants u.mapper
    ++ Role.cursor.grants (u.readPlan.map (·.cursor))
    ++ (Role.writeFunction.grants u.writeFunction ++ Role.value.grants (u.writePlan.map (·.value))
      ++ Role.values.grants (u.writePlan.map (·.values)))
    ++ ps.map (fun p => .tagged (.property p.name) (s.localOf p))
    ++ bindings.map AdapterBinding.grant
    ++ (u.readPlan.toList.flatMap ReadPlan.ownLocals).map Grant.plain
    ++ (u.writePlan.toList.flatMap WritePlan.ownLocals).map Grant.plain

namespace Mapping
variable (m : Mapping) {s s' : NameSupply} {f : Frame} {c : Capabilities} {ps : List Property}
  {u : GeneratedUnit}

/-- The names of a unit are those that the steps of its run take for themselves, and those that
tags are bound to in the end. -/
theorem IsUnit.mem_of_mem_grants {m : Mapping} {bindings : List AdapterBinding}
    {reading : Routine ReadPlan} {writing : Routine WritePlan} {all : List Grant}
    (h : m.IsUnit s' f c ps bindings reading writing u) (hs : s.bindings = [])
    (hall : Granted s all s') (hlocals : ∀ p ∈ ps, s'.HasLocal p)
    (hown : ∀ g ∈ Role.readFunction.grants u.readFunction ++ Role.mapper.grants u.mapper
      ++ Role.writeFunction.grants u.writeFunction ++ bindings.map AdapterBinding.grant
      ++ (u.readPlan.toList.flatMap ReadPlan.ownLocals).map Grant.plain
      ++ (u.writePlan.toList.flatMap WritePlan.ownLocals).map Grant.plain, g ∈ all) :
    ∀ g ∈ u.grants s' bindings ps, g ∈ all := by
  have hroles : ∀ (r : Role) (name : Option String), (∀ n ∈ name, s'.find? (.role r) = some n) →
      ∀ g ∈ r.grants name, g ∈ all := by
    intro r name hfind g hg
    obtain ⟨n, hn, rfl⟩ := List.mem_map.mp hg
    exact hall.mem_of_find? hs (hfind n (Option.mem_toList.mp hn))
  have hcursor : ∀ n ∈ u.readPlan.map (·.cursor), s'.find? (.role .cursor) = some n := by
    intro n hn
    obtain ⟨plan, hplan, rfl⟩ := Option.map_eq_some_iff.mp hn
    obtain ⟨-, hplans, -⟩ := h.reading.of_plan (h.readPlan ▸ hplan)
    exact hplans.cursor
  have hvalue : ∀ n ∈ u.writePlan.map (·.value), s'.find? (.role .value) = some n := by
    intro n hn
    obtain ⟨plan, hplan, rfl⟩ := Option.map_eq_some_iff.mp hn
    obtain ⟨-, hplans, -⟩ := h.writing.of_plan (h.writePlan ▸ hplan)
    exact hplans.value
  have hvalues : ∀ n ∈ u.writePlan.map (·.values), s'.find? (.role .values) = some n := by
    intro n hn
    obtain ⟨plan, hplan, rfl⟩ := Option.map_eq_some_iff.mp hn
    obtain ⟨-, hplans, -⟩ := h.writing.of_plan (h.writePlan ▸ hplan)
    exact hplans.values
  intro g hg
  unfold GeneratedUnit.grants at hg
  simp only [List.mem_append] at hg hown
  rcases hg with ((((((hg | hg) | hg) | ((hg | hg) | hg)) | hg) | hg) | hg) | hg
  · exact hown g (by grind)
  · exact hown g (by grind)
  · exact hroles _ _ hcursor g hg
  · exact hown g (by grind)
  · exact hroles _ _ hvalue g hg
  · exact hroles _ _ hvalues g hg
  · obtain ⟨p, hp, rfl⟩ := List.mem_map.mp hg
    exact hall.mem_of_find? hs (hlocals p hp)
  · exact hown g (by grind)
  · exact hown g (by grind)
  · exact hown g (by grind)

/-- Behind the names of functions and parameters, the locals of properties, the adapters and both
routines take theirs, whatever the properties are called. -/
theorem exists_granted_steps {names : FunctionNames} {bindings : List AdapterBinding}
    {reading : Routine ReadPlan} {writing : Routine WritePlan} {functions : List Grant}
    {s₁ s₂ s₃ s₄ : NameSupply} (hfunctions : Granted s functions s₁)
    (hlocals : (nameLocals ps).runFrom s₁ = (.ok (), s₂))
    (hresolved : Granted s₂ (bindings.map AdapterBinding.grant) s₃)
    (hreading : (m.reader f bindings names ps).runFrom s₃ = (.ok reading, s₄))
    (hwriting : (m.writer f bindings names ps).runFrom s₄ = (.ok writing, s')) :
    ∃ all, Granted s all s' ∧ (∀ p ∈ ps, s'.HasLocal p) ∧
      ∀ g ∈ functions ++ bindings.map AdapterBinding.grant
        ++ (reading.plan.toList.flatMap ReadPlan.ownLocals).map Grant.plain
        ++ (writing.plan.toList.flatMap WritePlan.ownLocals).map Grant.plain, g ∈ all := by
  obtain ⟨gs₁, hgs₁⟩ := exists_granted_nameLocals hlocals
  have hhas := hasLocal_of_nameLocals hlocals
  obtain ⟨gs₂, hgs₂, hreadOwn⟩ := m.exists_granted_reader hreading
  obtain ⟨gs₃, hgs₃, hwriteOwn⟩ := m.exists_granted_writer hwriting
  have hrest := (hresolved.append hgs₂).append hgs₃
  refine ⟨_, (hfunctions.append hgs₁).append hrest, fun p hp => (hrest.hasLocal (hhas p hp)).1,
    fun g hg => ?_⟩
  simp only [List.mem_append] at hg ⊢
  grind

/-- A unit is made of its two routines, and from a supply without tags it takes its names one
after the other. -/
theorem isUnit_of_unitIn (hs : s.bindings = []) (h : (m.unitIn f c ps).runFrom s = (.ok u, s')) :
    ∃ bindings reading writing, m.IsUnit s' f c ps bindings reading writing u ∧
      (∃ gs, Granted s gs s' ∧ ∀ g ∈ u.grants s' bindings ps, g ∈ gs) ∧
      ((ps.map (·.name)).Nodup →
        Granted s (u.grants s' bindings ps) s' ∧ ∀ p ∈ ps, s'.HasLocal p) := by
  obtain ⟨before, s₁, hreader, h⟩ := Naming.runFrom_bind_eq_ok.mp h
  obtain ⟨names, s₂, hwriter, h⟩ := Naming.runFrom_bind_eq_ok.mp h
  obtain ⟨_, s₃, hlocals, h⟩ := Naming.runFrom_bind_eq_ok.mp h
  obtain ⟨bindings, s₄, hresolve, h⟩ := Naming.runFrom_bind_eq_ok.mp h
  obtain ⟨reading, s₅, hreading, h⟩ := Naming.runFrom_bind_eq_ok.mp h
  obtain ⟨writing, s₆, hwriting, hpure⟩ := Naming.runFrom_bind_eq_ok.mp h
  obtain ⟨hu, rfl⟩ := Naming.runFrom_pure_eq_ok.mp hpure
  obtain ⟨hread, hmapper, hwrite, cursor, value, values, hcursor, hvalue, hvalues, hboundCursor,
    hboundValue, hboundValues, hfree, hfunctions⟩ := m.granted_functionNames hs hreader hwriter
  obtain ⟨hresolved, hadapters, hbound⟩ := m.granted_resolve hresolve
  obtain ⟨hroutine, gs, hgs⟩ := m.writeRoutine_writer hwriting
  have hdifferent : (bindings.map (·.name)).Nodup := by
    have hnodup := hresolved.nodup
    rwa [List.map_map] at hnodup
  have hunit : m.IsUnit s₆ f c ps bindings reading writing u := by
    subst hu
    exact ⟨rfl, rfl, rfl, rfl, hread, hmapper, hwrite, (m.readRoutine_reader hreading).mono hgs,
      hroutine, m.map_cls_resolve hresolve, hdifferent, hadapters, hbound⟩
  subst hu
  refine ⟨bindings, reading, writing, hunit, ?_, ?_⟩
  · obtain ⟨all, hall, hlocals', hown⟩ :=
      m.exists_granted_steps hfunctions hlocals hresolved hreading hwriting
    refine ⟨all, hall, hunit.mem_of_mem_grants hs hall hlocals' fun g hg => hown g ?_⟩
    simp only [List.mem_append] at hg ⊢
    grind
  intro hnames
  obtain ⟨hnamed, hhas⟩ := granted_nameLocals hnames (fun p _ => hfree p.name) hlocals
  have hbefore := hnamed.append hresolved
  have hhas₄ : ∀ p ∈ ps, s₄.HasLocal p := fun p hp => (hresolved.hasLocal (hhas p hp)).1
  obtain ⟨hcursorEq, hread'⟩ := m.granted_reader
    (fun n hn => hbefore.find?_of_some (hboundCursor n hn)) hcursor hhas₄ hreading
  have hbefore' := hbefore.append hread'
  obtain ⟨hvalueEq, hvaluesEq, hwrite'⟩ := m.granted_writer
    (fun n hn => hbefore'.find?_of_some (hboundValue n hn))
    (fun n hn => hbefore'.find?_of_some (hboundValues n hn)) hvalue hvalues hwriting
  have hrest := (hresolved.append hread').append hwrite'
  have hsame : ps.map (fun p => Grant.tagged (.property p.name) (s₆.localOf p))
      = ps.map fun p => .tagged (.property p.name) (s₃.localOf p) :=
    List.map_congr_left fun p hp => by rw [(hrest.hasLocal (hhas p hp)).2]
  refine ⟨?_, fun p hp => (hrest.hasLocal (hhas p hp)).1⟩
  unfold GeneratedUnit.grants
  rw [hsame, hcursorEq, hvalueEq, hvaluesEq]
  exact (((hfunctions.append hnamed).append hresolved).append hread').append hwrite'

end Mapping
end RowMapping
