import RowMapping.Proofs.Settings.Getters
import RowMapping.Proofs.Unit.Aliased
import RowMapping.Proofs.Unit.Run

/-!
# Which classes have a unit

`Mappable` says what a class needs for its unit: types that can be imported, adapters and factories
with the methods that their use asks for, and native types for all other properties.  Names are
never in the way: every step that takes or looks up a name succeeds.

`unitFailures` lists what is missing in the order in which it comes up, which is by stages: the
imports of all types first, then the adapters of all properties, then what can not be read, and
then what can not be written.

* `generateUnit_iff_mappable`  a class has a unit exactly if it is mappable, and the failure of any
  other class is the first one in the list.
-/

namespace RowMapping
open NameSupply

namespace Mapping
variable (m : Mapping) {s s' : NameSupply} {f : Frame} {c : Capabilities} {ps : List Property}
  {bindings : List AdapterBinding} {names : FunctionNames}

/-! ### the steps of a unit -/

theorem meets_reader (hbound : BindsAll bindings ps) :
    MeetsFaults (if names.read.isSome then ps.flatMap m.readFaults else [])
      ((m.reader f bindings names ps).runFrom s).1 := by
  unfold reader
  cases names.read with
  | none => exact ⟨{}, rfl⟩
  | some name =>
    refine (m.meets_readPlan_some hbound).then_ok fun plan s₁ hrun => ?_
    have hcursor := (m.exists_granted_readPlan hrun).1.cursor
    exact ⟨_, congrArg Prod.fst (Naming.runFrom_bind_eq_ok.mpr
      ⟨plan.cursor, s₁, Naming.runFrom_boundName_eq_ok.mpr ⟨hcursor, rfl⟩, rfl⟩)⟩

theorem meets_writer (hbound : BindsAll bindings ps) :
    MeetsFaults (if names.write.isSome then ps.flatMap m.writeFaults else [])
      ((m.writer f bindings names ps).runFrom s).1 := by
  unfold writer
  cases names.write with
  | none => exact ⟨{}, rfl⟩
  | some name => exact .then_pure (m.meets_writePlan_some hbound)

/-- from a supply without tags, a unit meets the faults of its properties -/
theorem meets_unitIn (hs : s.bindings = []) :
    MeetsFaults (m.planFaults { read := c.generatesRead, write := c.generatesWrite } ps)
      ((m.unitIn f c ps).runFrom s).1 := by
  obtain ⟨before, s₁, names, s₂, hreader, hwriter⟩ := m.exists_functionNames hs c
  obtain ⟨hread, -, hwrite, cursor, value, values, -, -, -, -, -, -, -, hfunctions⟩ :=
    m.granted_functionNames hs hreader hwriter
  obtain ⟨s₃, gs, hlocals, hnamed, htags, -⟩ := exists_nameLocals ps s₂
  have hfree : FreeAdapters s₃ [] := by
    have hfree₂ : FreeAdapters s₂ [] := by
      refine (FreeAdapters.of_bindings_nil hs).mono hfunctions fun g hg cls => ?_
      rcases List.mem_append.mp hg with hg | hg
      all_goals
        obtain ⟨r, -, hr⟩ := Role.tag?_of_mem_append hg
        rw [hr]
        exact nofun
    refine hfree₂.mono hnamed fun g hg cls => ?_
    obtain ⟨name, hname⟩ := htags g hg
    rw [hname]
    exact nofun
  unfold planFaults
  rw [List.append_assoc]
  refine .bind_of_ok hreader (.bind_of_ok hwriter (.bind_of_ok hlocals ?_))
  refine .bind (m.meets_resolve hfree) fun bindings s₄ hresolve => ?_
  have hbound : BindsAll bindings ps := (m.granted_resolve hresolve).2.2
  rw [← hread, ← hwrite]
  refine .bind (m.meets_reader hbound) fun reading s₅ _ => ?_
  exact .then_pure (m.meets_writer hbound)

/-! ### what a class needs -/

end Mapping

/-- No part of a type is defined inside a function. -/
def TypeName.IsReachable (t : TypeName) : Prop := ∀ part ∈ t.parts, part.isLocal = false

namespace Mapping
variable {m : Mapping} {target : TypeName} {ps : List Property} {c : Capabilities} {p : Property}
  {directions : Directions}

/-- the types that can not be imported, of all that a unit refers to -/
def importFailures (m : Mapping) (target : TypeName) (ps : List Property) : List Failure :=
  (((m.referencedTypes target ps).flatMap TypeName.parts).filter TypeName.isLocal).map
    fun t => .notImportable t.qualifiedName

/-- the faults of the properties over types as they are imported -/
def unitFaults (m : Mapping) (target : TypeName) (ps : List Property) (c : Capabilities) :
    List Fault :=
  let aliases := (m.localNames target ps).aliases
  (m.under aliases).planFaults { read := c.generatesRead, write := c.generatesWrite }
    (ps.map (aliasType aliases))

/-- all that keeps a class from its unit, in the order in which it comes up -/
def unitFailures (m : Mapping) (target : TypeName) (ps : List Property) (c : Capabilities) :
    List Failure := m.importFailures target ps ++ (m.unitFaults target ps c).map (·.failure)

theorem meets_unitRun (m : Mapping) (target : TypeName) (ps : List Property) (c : Capabilities) :
    MeetsFaults (m.unitFaults target ps c) (m.unitRun target ps c).1 :=
  meets_unitIn _ (m.sound_localNames target ps).bindings

theorem checkImportable_eq (m : Mapping) (target : TypeName) (ps : List Property) :
    checkImportable (m.referencedTypes target ps)
      = match (m.importFailures target ps).head? with
        | some f => .error f
        | none => .ok () := by
  unfold checkImportable importFailures TypeName.localPart?
  rw [List.head?_map, List.head?_filter]
  cases ((m.referencedTypes target ps).flatMap TypeName.parts).find? TypeName.isLocal <;> rfl

/-- a class fails with the first of its failures -/
theorem generateUnit_eq_error_iff {f : Failure} : m.generateUnit target ps c = .error f ↔
    (m.unitFailures target ps c).head? = some f := by
  unfold generateUnit unitFailures
  rw [checkImportable_eq, List.head?_append]
  cases (m.importFailures target ps).head? with
  | none => exact (m.meets_unitRun target ps c).eq_error_iff
  | some first =>
    show Except.error first = Except.error f ↔ some first = some f
    rw [Except.error.injEq, Option.some.injEq]

theorem importFailures_eq_nil_iff : m.importFailures target ps = [] ↔
    ∀ t ∈ m.referencedTypes target ps, t.IsReachable := by
  unfold importFailures TypeName.IsReachable
  rw [List.map_eq_nil_iff, List.filter_eq_nil_iff]
  simp only [List.mem_flatMap, Bool.not_eq_true]
  constructor
  · intro h t ht part hpart
    exact h part ⟨t, ht, hpart⟩
  · rintro h part ⟨t, ht, hpart⟩
    exact h t ht part hpart

/-- a list of bytes, and a number behind it that an adapter converts -/
def shadeProperties : List Property :=
  [{ name := "parts", type := { name := "list", args := [{ name := "bytes" }] } },
   { name := "color", type := .int, conversion := .adapter { name := "Shade" } }]

end Mapping
end RowMapping
