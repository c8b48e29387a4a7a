import RowMapping.Proofs.Source.Blocks
import RowMapping.Proofs.Unit.Run

/-!
# The adapters of a unit

A unit makes one instance of every adapter class of its properties, in the order of their first
use, before it defines any function.  Both routines convert the values of a property by the one
instance of its own class, whatever its type is.

* `sharesAdapters_of_generateUnit`  this holds of every unit.
-/

namespace RowMapping
open RowMapping.Text NameSupply

namespace Mapping

/-- the statement that reads a property by an adapter into the local `name` -/
def adapterReading (m : Mapping) (adapter cursor name : String) (p : Property) : Assignment :=
  { type := p.type, name := name
    value := adapter ++ "." ++ m.settings.adapter.readMethod ++ "(" ++ cursor ++ ", "
      ++ literal p.column ++ ")" }

/-- the statement that writes a property of `value` by an adapter into `values` -/
def adapterWriting (m : Mapping) (adapter value values : String) (p : Property) : Statement :=
  .plain (adapter ++ "." ++ m.settings.adapter.writeMethod ++ "(" ++ values ++ ", "
    ++ literal p.column ++ ", " ++ (value ++ "." ++ p.name) ++ ")") []

/-- If a property has an adapter, all that its reading does is to call the instance of its class. -/
def ReadsByInstance (m : Mapping) (bindings : List AdapterBinding) (cursor : String)
    (byKeyword : Bool) (p : Property) (g : PropertyReading) : Prop :=
  ∀ cls, p.adapter? = some cls → ∃ b ∈ bindings, b.cls = cls ∧
    ∃ name, g.argument = argumentFor byKeyword p name ∧
      g.statements = [m.adapterReading b.name cursor name p]

def WritesByInstance (m : Mapping) (bindings : List AdapterBinding) (value values : String)
    (p : Property) (g : PropertyWriting) : Prop :=
  ∀ cls, p.adapter? = some cls → ∃ b ∈ bindings, b.cls = cls ∧
    g.statements = [m.adapterWriting b.name value values p]

/-- what a unit over types as they are imported makes of the adapters of its properties -/
structure SharesAdapters (m : Mapping) (f : Frame) (c : Capabilities) (ps : List Property)
    (bindings : List AdapterBinding) (routines : List Part) (u : GeneratedUnit) : Prop where
  nodup : (bindings.map (·.cls)).Nodup
  names : (bindings.map (·.name)).Nodup
  types : ∀ b ∈ bindings, b.type = m.directory.typeName b.cls
  parts : u.text.parts
    = (bindings.map fun b => .statement (.bind b.name (b.type.render ++ "()") [b.type])) ++ routines
  blocks : bindings ≠ [] → ModuleText.blocks u.text.parts
    = (bindings.flatMap fun b => Text.lines (b.name ++ " = " ++ (b.type.render ++ "()")))
      :: ModuleText.blocks routines
  statements : ∀ st, .statement st ∈ routines → ∃ mapper read, u.mapper = some mapper ∧
    u.readFunction = some read ∧ st = f.mapperStatement mapper read
  read : u.readPlan.isSome = c.generatesRead
  write : u.writePlan.isSome = c.generatesWrite
  reads : ∀ plan ∈ u.readPlan, plan.adapters = bindings ∧
    (∃ text, .function text ∈ routines ∧ text.body = plan.statements.map .assign
      ++ [.plain ("return " ++ plan.construction) [f.written]]) ∧
    List.Forall₂ (m.ReadsByInstance bindings plan.cursor f.byKeyword) ps plan.readings
  writes : ∀ plan ∈ u.writePlan, plan.adapters = bindings ∧
    (∃ text, .function text ∈ routines ∧
      text.body = .bind plan.values (f.cellMap.render ++ "()") [f.cellMap] :: plan.statements
        ++ [.plain ("return " ++ plan.values) []]) ∧
    List.Forall₂ (m.WritesByInstance bindings plan.value plan.values) ps plan.writings

variable {m : Mapping} {bindings : List AdapterBinding} {s : NameSupply} {f : Frame}
  {c : Capabilities} {ps : List Property} {u : GeneratedUnit}

/-! ### readings and writings -/

theorem mem_of_find?_cls {cls : ClassRef} {b : AdapterBinding}
    (h : bindings.find? (·.cls = cls) = some b) : b ∈ bindings ∧ b.cls = cls := by
  have hcls := List.find?_some h
  exact ⟨List.mem_of_find?_eq_some h, of_decide_eq_true hcls⟩

theorem ReadsProperty.readsByInstance {cursor : String} {byKeyword : Bool} {p : Property}
    {g : PropertyReading} (h : m.ReadsProperty s bindings cursor byKeyword p g) :
    m.ReadsByInstance bindings cursor byKeyword p g := by
  intro cls hcls
  obtain ⟨way, hway, hreads⟩ := h.reads
  obtain rfl : way = .adapter cls := by
    unfold Property.readWay at hway
    rw [hcls] at hway
    exact (Except.ok.inj hway).symm
  generalize g.statements = statements at hreads ⊢
  cases hreads with
  | @adapter _ b hfind =>
    obtain ⟨hmem, hown⟩ := mem_of_find?_cls hfind
    exact ⟨b, hmem, hown, s.localOf p, h.argument, rfl⟩

theorem WritesProperty.writesByInstance {value values : String} {p : Property}
    {g : PropertyWriting} (h : m.WritesProperty bindings value values p g) :
    m.WritesByInstance bindings value values p g := by
  intro cls hcls
  have hwrites := h.writes
  unfold Property.adapter? at hcls
  generalize g.statements = statements at hwrites ⊢
  cases hwrites with
  | factory hconversion _ => rw [hconversion] at hcls; cases hcls
  | native hconversion _ _ => rw [hconversion] at hcls; cases hcls
  | @adapter other b hconversion hfind =>
    rw [hconversion] at hcls
    obtain rfl : other = cls := Option.some.inj hcls
    obtain ⟨hmem, hown⟩ := mem_of_find?_cls hfind
    exact ⟨b, hmem, hown, rfl⟩

/-! ### routines -/

/-- A routine that reads starts with its function, and the mapper is its only other part. -/
theorem ReadRoutine.parts_cases {mapper read : Option String} {reading : Routine ReadPlan}
    (h : m.ReadRoutine s f bindings ps mapper read reading) :
    (∀ part ∈ reading.parts.head?, part.isFunction = true) ∧
      ∀ st, .statement st ∈ reading.parts → ∃ name function, mapper = some name ∧
        read = some function ∧ st = f.mapperStatement name function := by
  cases h with
  | none => exact ⟨nofun, nofun⟩
  | @function function plan _ =>
    refine ⟨fun part hpart => ?_, fun st hst => ?_⟩
    · cases hpart
      rfl
    · rcases List.mem_cons.mp hst with hst | hst
      · cases hst
      · obtain ⟨name, hname, hst⟩ := List.mem_map.mp hst
        cases hst
        exact ⟨name, function, Option.mem_toList.mp hname, rfl, rfl⟩

theorem WriteRoutine.isFunction {write : Option String} {writing : Routine WritePlan}
    (h : m.WriteRoutine s f bindings ps write writing) :
    ∀ part ∈ writing.parts, part.isFunction = true := by
  cases h with
  | none => exact nofun
  | function _ =>
    intro part hpart
    rw [List.mem_singleton.mp hpart]
    rfl

theorem IsUnit.isFunction_of_head? {reading : Routine ReadPlan} {writing : Routine WritePlan}
    (h : m.IsUnit s f c ps bindings reading writing u) :
    ∀ part ∈ (reading.parts ++ writing.parts).head?, part.isFunction = true := by
  intro part hpart
  rw [List.head?_append] at hpart
  cases hreading : reading.parts.head? with
  | some first =>
    rw [hreading] at hpart
    exact h.reading.parts_cases.1 part (hreading ▸ hpart)
  | none =>
    rw [hreading] at hpart
    exact h.writing.isFunction part (List.mem_of_head? hpart)

theorem IsUnit.blocks_eq {reading : Routine ReadPlan} {writing : Routine WritePlan}
    (h : m.IsUnit s f c ps bindings reading writing u) (hne : bindings ≠ []) :
    ModuleText.blocks u.text.parts = bindings.flatMap (·.instantiation.lines)
      :: ModuleText.blocks (reading.parts ++ writing.parts) := by
  have hmap : bindings.map (fun b => Part.statement b.instantiation)
      = (bindings.map (·.instantiation)).map .statement := by
    rw [List.map_map]
    rfl
  rw [h.text, Frame.parts_unitText, hmap,
    ModuleText.blocks_statements_append (by simpa using hne) h.isFunction_of_head?,
    List.flatMap_map]

theorem IsUnit.sharesAdapters {reading : Routine ReadPlan} {writing : Routine WritePlan}
    (h : m.IsUnit s f c ps bindings reading writing u) :
    m.SharesAdapters f c ps bindings (reading.parts ++ writing.parts) u := by
  exact {
    nodup := by
      rw [h.classes]
      exact nodup_eraseDups _
    names := h.names
    types := fun b hb => (h.adapters b hb).2
    parts := by
      rw [h.text, Frame.parts_unitText]
      rfl
    blocks := h.blocks_eq
    statements := by
      intro st hst
      rcases List.mem_append.mp hst with hst | hst
      · exact h.reading.parts_cases.2 st hst
      · cases h.writing.isFunction _ hst
    read := by rw [h.readPlan, h.reading.isSome_plan, h.read]
    write := by rw [h.writePlan, h.writing.isSome_plan, h.write]
    reads := by
      intro plan hplan
      rw [h.readPlan] at hplan
      obtain ⟨name, hplans, hfunction⟩ := h.reading.of_plan hplan
      refine ⟨hplans.adapters, ⟨_, List.mem_append_left _ hfunction, rfl⟩, ?_⟩
      exact hplans.readings.imp fun _ _ hp => hp.readsByInstance
    writes := by
      intro plan hplan
      rw [h.writePlan] at hplan
      obtain ⟨name, hplans, hfunction⟩ := h.writing.of_plan hplan
      refine ⟨hplans.adapters, ⟨_, List.mem_append_right _ hfunction, rfl⟩, ?_⟩
      exact hplans.writings.imp fun _ _ hp => hp.writesByInstance }

/-! ### the unit of a class -/

theorem adapterClasses_aliasType (aliases : Aliases) (ps : List Property) :
    adapterClasses (ps.map (aliasType aliases)) = adapterClasses ps := by
  unfold adapterClasses
  rw [List.filterMap_map]
  rfl

variable {target : TypeName}

/-- A unit makes one instance of every adapter class, in the order of their first use, before its
functions, and both routines convert each property by the instance of its own class. -/
theorem sharesAdapters_of_generateUnit (h : m.generateUnit target ps c = .ok u) :
    let aliases := (m.localNames target ps).aliases
    ∃ (bindings : List AdapterBinding) (routines : List Part),
      bindings.map (·.cls) = adapterClasses ps ∧
      (m.under aliases).SharesAdapters (m.frame aliases target c) c
        (ps.map (aliasType aliases)) bindings routines u := by
  intro aliases
  obtain ⟨bindings, reading, writing, hunit, -⟩ := m.isUnit_of_unitRun (generateUnit_eq_ok.mp h).2
  refine ⟨bindings, _, ?_, hunit.sharesAdapters⟩
  rw [hunit.classes, adapterClasses_aliasType]

set_option maxRecDepth 10000 in
/-- classes of the same name have instances of their own, and each of them is made once -/
theorem sharesAdapters_shaded :
    let aliases := (shading.localNames userType shadedProperties).aliases
    ∃ u, shading.generateUnit userType shadedProperties userCapabilities = .ok u ∧
      ∃ (bindings : List AdapterBinding) (routines : List Part), bindings.map (·.cls)
          = [{ name := "ShadeAdapter", module := "app" },
             { name := "ShadeAdapter", module := "other" }] ∧
        (shading.under aliases).SharesAdapters (shading.frame aliases userType userCapabilities)
          userCapabilities (shadedProperties.map (aliasType aliases)) bindings routines u := by
  have hok : ((shading.generateUnit userType shadedProperties
      userCapabilities).toOption.any fun _ => true) = true := by decide +kernel
  obtain ⟨u, hu, -⟩ := Naming.exists_ok_of_any hok
  obtain ⟨bindings, routines, hclasses, hshares⟩ := sharesAdapters_of_generateUnit hu
  have hshaded : adapterClasses shadedProperties
      = [{ name := "ShadeAdapter", module := "app" },
         { name := "ShadeAdapter", module := "other" }] := by decide
  exact ⟨u, hu, bindings, routines, hclasses.trans hshaded, hshares⟩

end Mapping
end RowMapping
