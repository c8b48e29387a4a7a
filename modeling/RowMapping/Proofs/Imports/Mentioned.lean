import RowMapping.Proofs.Imports.LocalNames
import RowMapping.Proofs.Unit.Assembly

/-!
# What a unit imports

`mentionedTypes` lists the declared types that stand in the text of a unit, and
`IsUnit.mem_imported` says that the unit imports exactly their keys, each under its local name
in the table of the unit, and beside them the callable type that its mapper is declared with.
-/

namespace RowMapping
open RowMapping.Text

def Statement.imported (st : Statement) : List Import := st.types.flatMap TypeName.imported

def Part.imported (p : Part) : List Import := p.types.flatMap TypeName.imported

theorem ModuleText.imported_eq (t : ModuleText) : t.imported = t.parts.flatMap Part.imported := rfl

theorem Part.mem_imported_function {f : FunctionText} {i : Import} :
    i ∈ (Part.function f).imported ↔ (∃ p ∈ f.parameters, i ∈ p.2.imported) ∨
      i ∈ f.returns.imported ∨ ∃ st ∈ f.body, i ∈ st.imported := by
  show i ∈ (f.parameters.map (·.2) ++ f.returns :: f.body.flatMap Statement.types).flatMap _ ↔ _
  rw [List.flatMap_append, List.mem_append, List.flatMap_cons, List.mem_append, List.flatMap_map,
    List.mem_flatMap, List.flatMap_assoc, List.mem_flatMap]
  rfl

theorem TypeName.imported_int : int.imported = [] := by
  unfold int imported parts partsAll
  rfl

namespace Mapping
variable {m : Mapping} {bindings : List AdapterBinding}

/-! ### statements -/

/-- the statements that read a property mention its type -/
theorem Reads.mem_imported {cursor name : String} {p : Property} {way : ReadWay}
    {statements : List Assignment} (h : m.Reads bindings cursor name p way statements)
    {i : Import} :
    (∃ a ∈ statements, i ∈ (Statement.assign a).imported) ↔ i ∈ p.type.imported := by
  constructor
  · rintro ⟨a, ha, hi⟩
    obtain ⟨htypes, htype⟩ := h.type_eq a ha
    unfold Statement.imported at hi
    rw [Statement.types, htypes, List.flatMap_singleton] at hi
    rcases htype with htype | htype
    · rwa [htype] at hi
    · rw [htype, TypeName.imported_int] at hi
      cases hi
  · intro hi
    obtain ⟨a, hlast, -, htype⟩ := h.exists_last
    refine ⟨a, ?_, ?_⟩
    · rw [hlast]
      exact List.mem_append_right _ (List.mem_singleton_self a)
    · unfold Statement.imported Statement.types
      rw [List.flatMap_cons, htype]
      exact List.mem_append_left _ hi

theorem Writes.mem_imported {value values : String} {p : Property} {statements : List Statement}
    (h : m.Writes bindings value values p statements) {i : Import} :
    (∃ st ∈ statements, i ∈ st.imported) ↔
      ∃ cls ∈ p.factory?, i ∈ (m.directory.typeName cls).imported := by
  cases h with
  | @factory cls method name hconversion _ =>
    have hfactory : p.factory? = some cls := by rw [Property.factory?, hconversion]; rfl
    rw [hfactory]
    simp [Statement.imported, Statement.types]
  | adapter hconversion _ =>
    have hfactory : p.factory? = none := by rw [Property.factory?, hconversion]; rfl
    rw [hfactory]
    simp [Statement.imported, Statement.types]
  | native hconversion _ _ =>
    have hfactory : p.factory? = none := by rw [Property.factory?, hconversion]; rfl
    rw [hfactory]
    simp [Statement.imported, Statement.types]

/-! ### routines -/

variable {s : NameSupply} {f : Frame} {ps : List Property} {i : Import}

theorem PlansRead.mem_imported {byKeyword : Bool} {target : TypeName}
    {plan : ReadPlan} (h : m.PlansRead s target byKeyword bindings ps plan) :
    (∃ a ∈ plan.statements, i ∈ (Statement.assign a).imported) ↔
      ∃ p ∈ ps, i ∈ p.type.imported := by
  rw [exists_iff_of_forall₂ h.readings (Q := fun g => ∃ a ∈ g.statements,
    i ∈ (Statement.assign a).imported)]
  · unfold ReadPlan.statements
    simp only [List.mem_flatMap]
    constructor
    · rintro ⟨a, ⟨g, hg, ha⟩, hi⟩; exact ⟨g, hg, a, ha, hi⟩
    · rintro ⟨g, hg, a, ha, hi⟩; exact ⟨a, ⟨g, hg, ha⟩, hi⟩
  · rintro p g hp
    obtain ⟨way, -, hreads⟩ := hp.reads
    exact hreads.mem_imported.symm

theorem PlansWrite.mem_imported {plan : WritePlan} (h : m.PlansWrite s bindings ps plan) :
    (∃ st ∈ plan.statements, i ∈ st.imported) ↔
      ∃ p ∈ ps, ∃ cls ∈ p.factory?, i ∈ (m.directory.typeName cls).imported := by
  rw [exists_iff_of_forall₂ h.writings (Q := fun g => ∃ st ∈ g.statements, i ∈ st.imported)]
  · unfold WritePlan.statements
    simp only [List.mem_flatMap]
    constructor
    · rintro ⟨a, ⟨g, hg, ha⟩, hi⟩; exact ⟨g, hg, a, ha, hi⟩
    · rintro ⟨g, hg, a, ha, hi⟩; exact ⟨a, ⟨g, hg, ha⟩, hi⟩
  · rintro p g hp
    exact hp.writes.mem_imported.symm

/-- the types that the routines and adapters of a unit mention, but for its mapper -/
def mentionedTypes (m : Mapping) (f : Frame) (c : Capabilities) (ps : List Property) :
    List TypeName :=
  ps.flatMap (fun p => p.adapter?.toList.map m.directory.typeName)
    ++ (if c.generatesRead then f.rowStore :: f.written :: ps.map (·.type) else [])
    ++ if c.generatesWrite then
        f.written :: f.cellMap :: ps.flatMap fun p => p.factory?.toList.map m.directory.typeName
      else []

theorem exists_mem_mentionedTypes {c : Capabilities} {P : TypeName → Prop} :
    (∃ t ∈ m.mentionedTypes f c ps, P t) ↔
      (∃ p ∈ ps, ∃ cls ∈ p.adapter?, P (m.directory.typeName cls)) ∨
      (c.generatesRead = true ∧ (P f.rowStore ∨ P f.written ∨ ∃ p ∈ ps, P p.type)) ∨
      (c.generatesWrite = true ∧
        (P f.written ∨ P f.cellMap ∨ ∃ p ∈ ps, ∃ cls ∈ p.factory?, P (m.directory.typeName cls))) := by
  have hclasses : ∀ g : Property → Option ClassRef,
      (∃ t ∈ ps.flatMap fun p => (g p).toList.map m.directory.typeName, P t) ↔
        ∃ p ∈ ps, ∃ cls ∈ g p, P (m.directory.typeName cls) := by
    intro g
    constructor
    · rintro ⟨t, ht, hP⟩
      obtain ⟨p, hp, ht⟩ := List.mem_flatMap.mp ht
      obtain ⟨cls, hcls, rfl⟩ := List.mem_map.mp ht
      exact ⟨p, hp, cls, Option.mem_toList.mp hcls, hP⟩
    · rintro ⟨p, hp, cls, hcls, hP⟩
      exact ⟨_, List.mem_flatMap.mpr ⟨p, hp, List.mem_map_of_mem (Option.mem_toList.mpr hcls)⟩, hP⟩
  have happend : ∀ as bs : List TypeName,
      (∃ t ∈ as ++ bs, P t) ↔ (∃ t ∈ as, P t) ∨ ∃ t ∈ bs, P t := by
    intro as bs
    simp only [List.mem_append, or_and_right, exists_or]
  have hguard : ∀ (b : Bool) (as : List TypeName),
      (∃ t ∈ if b then as else [], P t) ↔ b = true ∧ ∃ t ∈ as, P t := by
    intro b as
    cases b <;> simp
  have hmap : (∃ t ∈ ps.map (·.type), P t) ↔ ∃ p ∈ ps, P p.type := by
    simp only [List.mem_map, exists_exists_and_eq_and]
  rw [mentionedTypes, happend, happend, hguard, hguard, hclasses, List.exists_mem_cons_iff,
    List.exists_mem_cons_iff, List.exists_mem_cons_iff, List.exists_mem_cons_iff, hclasses, hmap,
    or_assoc]

/-- the import of the callable type that a mapper is declared with -/
def callableImport : Import := Aliases.importOf [] TypeName.callableKey

theorem IsUnit.mem_imported_bindings {c : Capabilities} {reading : Routine ReadPlan}
    {writing : Routine WritePlan} {u : GeneratedUnit}
    (h : m.IsUnit s f c ps bindings reading writing u) :
    (∃ b ∈ bindings, i ∈ (Part.statement b.instantiation).imported) ↔
      ∃ p ∈ ps, ∃ cls ∈ p.adapter?, i ∈ (m.directory.typeName cls).imported := by
  constructor
  · rintro ⟨b, hb, hi⟩
    obtain ⟨⟨p, hp, hcls⟩, htype⟩ := h.adapters b hb
    refine ⟨p, hp, b.cls, hcls, ?_⟩
    rw [← htype]
    rwa [Part.imported, Part.types, AdapterBinding.instantiation, Statement.types,
      List.flatMap_singleton] at hi
  · rintro ⟨p, hp, cls, hcls, hi⟩
    obtain ⟨b, hb, rfl⟩ := h.bound p hp cls hcls
    refine ⟨b, hb, ?_⟩
    rw [← (h.adapters b hb).2] at hi
    exact List.mem_flatMap.mpr ⟨b.type, List.mem_singleton_self _, hi⟩

theorem ReadRoutine.mem_imported {read mapper : Option String} {reading : Routine ReadPlan}
    (h : m.ReadRoutine s f bindings ps mapper read reading)
    (hmapper : mapper.isSome = true → read.isSome = true) :
    (∃ part ∈ reading.parts, i ∈ part.imported) ↔
      read.isSome = true ∧ (i ∈ f.rowStore.imported ∨ i ∈ f.written.imported
        ∨ ∃ p ∈ ps, i ∈ p.type.imported) ∨ mapper.isSome = true ∧ i = callableImport := by
  cases h with
  | none =>
    cases mapper with
    | none => simp
    | some _ => cases hmapper rfl
  | @function name plan hplans =>
    have hfunction : i ∈ (Part.function (f.readFunctionText name plan.cursor plan)).imported ↔
        i ∈ f.rowStore.imported ∨ i ∈ f.written.imported ∨ ∃ p ∈ ps, i ∈ p.type.imported := by
      rw [Part.mem_imported_function, ← hplans.mem_imported, Frame.readFunctionText]
      simp [Statement.imported, Statement.types]
      grind
    rw [List.exists_mem_cons_iff, hfunction]
    cases mapper with
    | none => simp
    | some mapper =>
      have hstatement : i ∈ (Part.statement (f.mapperStatement mapper name)).imported ↔
          i = callableImport ∨ i ∈ f.rowStore.imported ∨ i ∈ f.written.imported := by
        show i ∈ [_].flatMap _ ↔ _
        rw [List.flatMap_singleton, TypeName.imported_callable]
        simp [callableImport]
      simp [hstatement]
      grind

theorem WriteRoutine.mem_imported {write : Option String} {writing : Routine WritePlan}
    (h : m.WriteRoutine s f bindings ps write writing) :
    (∃ part ∈ writing.parts, i ∈ part.imported) ↔
      write.isSome = true ∧ (i ∈ f.written.imported ∨ i ∈ f.cellMap.imported
        ∨ ∃ p ∈ ps, ∃ cls ∈ p.factory?, i ∈ (m.directory.typeName cls).imported) := by
  cases h with
  | none => simp
  | @function name plan hplans =>
    have hfunction : i ∈ (Part.function (f.writeFunctionText name plan)).imported ↔
        i ∈ f.written.imported ∨ i ∈ f.cellMap.imported
          ∨ ∃ p ∈ ps, ∃ cls ∈ p.factory?, i ∈ (m.directory.typeName cls).imported := by
      rw [Part.mem_imported_function, ← hplans.mem_imported, Frame.writeFunctionText]
      simp [Statement.imported, Statement.types]
    simp [hfunction]

/-- a unit imports what its types do, and for a mapper a callable type -/
theorem IsUnit.mem_imported {c : Capabilities} {reading : Routine ReadPlan}
    {writing : Routine WritePlan} {u : GeneratedUnit}
    (h : m.IsUnit s f c ps bindings reading writing u) :
    i ∈ u.text.imported ↔ (∃ t ∈ m.mentionedTypes f c ps, i ∈ t.imported) ∨
      c.exposesMapper = true ∧ i = callableImport := by
  have hmapper : u.mapper.isSome = true → u.readFunction.isSome = true := by
    rw [h.mapper, h.read]
    exact generatesRead_of_exposesMapper
  have hparts : i ∈ u.text.imported ↔ (∃ b ∈ bindings, i ∈ (Part.statement b.instantiation).imported)
      ∨ (∃ part ∈ reading.parts, i ∈ part.imported) ∨ ∃ part ∈ writing.parts, i ∈ part.imported := by
    rw [ModuleText.imported_eq, h.text, Frame.parts_unitText, List.flatMap_append,
      List.flatMap_append, List.flatMap_map, List.mem_append, List.mem_append]
    simp only [List.mem_flatMap]
  rw [hparts, h.mem_imported_bindings, h.reading.mem_imported hmapper, h.writing.mem_imported,
    h.read, h.mapper, h.write, exists_mem_mentionedTypes]
  constructor
  · rintro (hi | (hi | hi) | hi)
    · exact .inl (.inl hi)
    · exact .inl (.inr (.inl hi))
    · exact .inr hi
    · exact .inl (.inr (.inr hi))
  · rintro ((hi | hi | hi) | hi)
    · exact .inl hi
    · exact .inr (.inl (.inl hi))
    · exact .inr (.inr hi)
    · exact .inr (.inl (.inr hi))

/-! ### the unit of a class -/

/-- a frame over types as they are declared -/
def declaredFrame (m : Mapping) (target : TypeName) (c : Capabilities) : Frame :=
  { target := target, written := target, rowStore := m.settings.rowStoreType
    cellMap := m.settings.cellMapType, byKeyword := c.keywordConstruction }

/-- the keys of the declared types that a unit mentions, but for its mapper -/
def mentionedKeys (m : Mapping) (target : TypeName) (ps : List Property) (c : Capabilities) :
    List (String × String) :=
  (m.mentionedTypes (m.declaredFrame target c) c ps).flatMap TypeName.keys

theorem mentionedTypes_aliased (m : Mapping) (aliases : Aliases) (target : TypeName)
    (ps : List Property) (c : Capabilities) :
    (m.under aliases).mentionedTypes (m.frame aliases target c) c (ps.map (aliasType aliases))
      = (m.mentionedTypes (m.declaredFrame target c) c ps).map (TypeName.aliased aliases) := by
  have hclasses : ∀ g : Property → Option ClassRef, (∀ p, g (aliasType aliases p) = g p) →
      (ps.map (aliasType aliases)).flatMap
          (fun p => (g p).toList.map (m.under aliases).directory.typeName)
        = (ps.flatMap fun p => (g p).toList.map m.directory.typeName).map
          (TypeName.aliased aliases) := by
    intro g hg
    rw [List.flatMap_map, List.map_flatMap]
    refine List.flatMap_congr fun p _ => ?_
    rw [hg, List.map_map]
    rfl
  have hproperties : (ps.map (aliasType aliases)).map (·.type)
      = (ps.map (·.type)).map (TypeName.aliased aliases) := by
    rw [List.map_map, List.map_map]
    rfl
  rw [mentionedTypes, mentionedTypes, hclasses Property.adapter? fun _ => rfl,
    hclasses Property.factory? fun _ => rfl, hproperties, List.map_append, List.map_append]
  cases c.generatesRead <;> cases c.generatesWrite <;> rfl

end Mapping
end RowMapping
