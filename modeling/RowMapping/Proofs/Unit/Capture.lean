import RowMapping.Proofs.Imports.Consistency
import RowMapping.Proofs.Plan.Suggestions
import RowMapping.Proofs.TypeName.Same
import RowMapping.Proofs.Unit.Evaluated
import RowMapping.Proofs.Unit.Hygiene

/-!
# Captured types

A type that a unit evaluates is captured where the first segment that it is written with names
something else as well: a parameter or local of the function around it, another name of the
module, or the import of another type.

What is imported has its name before anything else is named, so only the callable type of a mapper
can capture it.  A type of the module `builtins` has its name without an import, and nothing keeps
that name free.

* `captures_iff`  where the types that a unit evaluates are captured.
-/

namespace RowMapping
open RowMapping.Text NameSupply

/-- the names that are local to a part -/
def Part.scope : Part → List String
  | .statement _ => []
  | .function f => f.parameters.map (·.1) ++ f.body.filterMap Statement.boundName?

theorem Part.mem_defined_of_mem_scope {part : Part} {n : String} (h : n ∈ part.scope) :
    n ∈ part.defined := by
  cases part with
  | statement st => cases h
  | function f => exact List.mem_cons_of_mem _ h

namespace GeneratedUnit

/-- the names that a unit and one of its parts give a value -/
def visible (u : GeneratedUnit) (part : Part) : List String :=
  u.text.assigned ++ u.readFunction.toList ++ u.mapper.toList ++ u.writeFunction.toList
    ++ part.scope

/-- In a part of a unit, the first segment that a type is written with names something else. -/
def Captures (u : GeneratedUnit) (part : Part) (t : TypeName) : Prop :=
  t.ownImport.bound ∈ u.visible part ∨
    ∃ i ∈ u.text.imported, i.bound = t.ownImport.bound ∧
      ¬ (t.isImportable = true ∧ i.key = t.ownImport.key)

end GeneratedUnit

theorem TypeName.not_mem_imports_builtins (t : TypeName) (root : String) :
    (builtins, root) ∉ t.imports := by
  intro h
  obtain ⟨i, hi, hentry⟩ := List.mem_map.mp h
  obtain ⟨part, hpart, rfl⟩ := List.mem_map.mp hi
  have himportable := (List.mem_filter.mp hpart).2
  have hmodule : part.module = builtins := by
    rw [ownImport, Import.entry] at hentry
    split at hentry <;> exact congrArg Prod.fst hentry
  simp [isImportable, hmodule] at himportable

namespace Mapping
open Naming
variable {m : Mapping} {target : TypeName} {ps : List Property} {c : Capabilities}
  {u : GeneratedUnit}

/-! ### where names come from -/

/-- what the parts of a unit suggest for their names -/
inductive SuggestsForUnit (m : Mapping) (c : Capabilities) (ps : List Property) : String → Prop
  | readFunction : c.generatesRead = true → SuggestsForUnit m c ps m.settings.readFunction
  | mapper : c.exposesMapper = true → SuggestsForUnit m c ps m.settings.mapperName
  | writeFunction {method : String} : c.valuesMethod = some method → SuggestsForUnit m c ps method
  | plan {suggestion : String} : m.Suggests ps suggestion → SuggestsForUnit m c ps suggestion

theorem suggests_of_aliased {aliases : Aliases} {suggestion : String}
    (h : (m.under aliases).Suggests (ps.map (aliasType aliases)) suggestion) :
    m.Suggests ps suggestion := by
  cases h with
  | cursor => exact .cursor
  | value => exact .value
  | values => exact .values
  | property hp =>
    obtain ⟨p, hmem, rfl⟩ := List.mem_map.mp hp
    exact Suggests.property (p := p) hmem
  | @adapter _ cls hp hcls =>
    obtain ⟨p, hmem, rfl⟩ := List.mem_map.mp hp
    have hname : ((m.under aliases).directory.typeName cls).simpleName
        = (m.directory.typeName cls).simpleName := TypeName.simpleName_aliased aliases _
    rw [hname]
    exact Suggests.adapter (p := p) hmem hcls
  | index name => exact .index name
  | factory hp =>
    obtain ⟨p, hmem, rfl⟩ := List.mem_map.mp hp
    exact Suggests.factory (p := p) hmem

theorem takesFrom_nameReader (m : Mapping) (c : Capabilities) (ps : List Property) :
    TakesFrom (m.SuggestsForUnit c ps) (m.nameReader c) := by
  unfold nameReader
  cases hread : c.generatesRead with
  | false => exact takesFrom_pure _
  | true =>
    have hmapper : TakesFrom (m.SuggestsForUnit c ps) (m.nameMapper c) := by
      unfold nameMapper
      cases hexposes : c.exposesMapper with
      | false => exact takesFrom_pure _
      | true => exact (takesFrom_newNameFor _ (.mapper hexposes)).map _
    refine (takesFrom_newNameFor _ (.readFunction hread)).bind fun _ => ?_
    exact hmapper.bind fun _ => (takesFrom_nameFor _ (.plan .cursor)).then_pure _

theorem takesFrom_nameWriter (m : Mapping) (c : Capabilities) (ps : List Property)
    (names : FunctionNames) : TakesFrom (m.SuggestsForUnit c ps) (m.nameWriter c names) := by
  unfold nameWriter
  cases hmethod : c.valuesMethod with
  | none => exact takesFrom_pure _
  | some method =>
    refine (takesFrom_newNameFor _ (.writeFunction hmethod)).bind fun _ => ?_
    refine (takesFrom_nameFor _ (.plan .value)).bind fun _ => ?_
    exact (takesFrom_nameFor _ (.plan .values)).then_pure _

/-- whether it succeeds or fails, a unit only takes names of what its parts suggest -/
theorem takesFrom_unitIn (m : Mapping) (f : Frame) (c : Capabilities) (ps : List Property) :
    TakesFrom (m.SuggestsForUnit c ps) (m.unitIn f c ps) := by
  have hplan : ∀ {α : Type} {step : Naming α}, TakesFrom (m.Suggests ps) step →
      TakesFrom (m.SuggestsForUnit c ps) step := fun h => h.mono fun _ => .plan
  have hreader : ∀ bindings names,
      TakesFrom (m.SuggestsForUnit c ps) (m.reader f bindings names ps) := by
    intro bindings names
    unfold reader
    cases names.read with
    | none => exact takesFrom_pure _
    | some name =>
      exact (hplan (takesFrom_readPlan _ _ _ ps)).bind fun _ => (takesFrom_boundName _).then_pure _
  have hwriter : ∀ bindings names,
      TakesFrom (m.SuggestsForUnit c ps) (m.writer f bindings names ps) := by
    intro bindings names
    unfold writer
    cases names.write with
    | none => exact takesFrom_pure _
    | some name => exact (hplan (takesFrom_writePlan _ ps)).then_pure _
  refine (takesFrom_nameReader m c ps).bind fun before => ?_
  refine (takesFrom_nameWriter m c ps before).bind fun names => ?_
  refine (hplan (takesFrom_nameLocals fun _ hp => hp)).bind fun _ => ?_
  refine (hplan (takesFrom_resolve _ ps)).bind fun bindings => ?_
  exact (hreader bindings names).bind fun _ => (hwriter bindings names).then_pure _

/-- what is visible in a part of a unit was named after the imports, from a suggestion -/
theorem visible_new (h : (m.unitRun target ps c).1 = .ok u) {part : Part}
    (hpart : part ∈ u.text.parts) {n : String} (hn : n ∈ u.visible part) :
    n ∉ (m.localNames target ps).supply.taken ∧
      ∃ suggestion, m.SuggestsForUnit c ps suggestion ∧ MadeOf suggestion n := by
  obtain ⟨bindings, reading, writing, hunit, ⟨gs, hgs, hall⟩, -⟩ := m.isUnit_of_unitRun h
  have hnames : n ∈ u.names (m.unitRun target ps c).2 ps := by
    rw [← names_aliasType (m.localNames target ps).aliases]
    simp only [GeneratedUnit.visible, List.mem_append] at hn
    rcases hn with hn | hn
    · simp only [GeneratedUnit.names, List.mem_append]
      grind
    · have hdefined := List.mem_flatMap.mpr ⟨part, hpart, Part.mem_defined_of_mem_scope hn⟩
      exact hunit.defined_mem n hdefined
  rw [← map_name_grants hunit.assigned_eq] at hnames
  obtain ⟨g, hg, rfl⟩ := List.mem_map.mp hnames
  have hname : g.name ∈ gs.map (·.name) := List.mem_map_of_mem (hall g hg)
  refine ⟨hgs.not_mem_taken _ hname, ?_⟩
  obtain ⟨hs, hhs, hmade⟩ := takesFrom_unitIn (m.under (m.localNames target ps).aliases) _ c _
    (m.localNames target ps).supply
  rw [hgs.map_name_eq hhs] at hname
  obtain ⟨g', hg', hsame⟩ := List.mem_map.mp hname
  obtain ⟨suggestion, hsuggests, hmadeOf⟩ := hmade g' hg'
  refine ⟨suggestion, ?_, hsame ▸ hmadeOf⟩
  cases hsuggests with
  | readFunction hread => exact .readFunction hread
  | mapper hexposes => exact .mapper hexposes
  | writeFunction hmethod => exact .writeFunction hmethod
  | plan hplan => exact .plan (suggests_of_aliased hplan)

/-! ### captured types -/

theorem mem_evaluated_unitRun (h : (m.unitRun target ps c).1 = .ok u) {t : TypeName} :
    (∃ part ∈ u.text.parts, t ∈ part.evaluated) ↔
      ∃ t', m.Evaluates (m.declaredFrame target c) c ps t' ∧
        t = t'.aliased (m.localNames target ps).aliases := by
  obtain ⟨bindings, reading, writing, hunit, -⟩ := m.isUnit_of_unitRun h
  rw [hunit.mem_evaluated, evaluates_aliased]

/-- what is imported is captured by the callable type of a mapper alone -/
theorem captures_importable_iff (hplain : PlainTypes m target ps)
    (h : (m.unitRun target ps c).1 = .ok u) {part : Part} (hpart : part ∈ u.text.parts)
    {t name : TypeName} (ht : t ∈ part.evaluated) (hname : name ∈ t.parts)
    (himportable : name.isImportable = true) :
    u.Captures part name ↔ c.exposesMapper = true ∧ name.ownImport.bound = "Callable" ∧
      name.ownImport.key ≠ TypeName.callableKey := by
  have hown : name.ownImport ∈ u.text.imported :=
    ModuleText.ownImport_mem_imported
      (List.mem_flatMap.mpr ⟨part, hpart, Part.mem_types_of_mem_evaluated ht⟩) hname himportable
  obtain ⟨t', ht', rfl⟩ := (mem_evaluated_unitRun h).mp ⟨part, hpart, ht⟩
  rw [TypeName.parts_aliased] at hname
  obtain ⟨declared, hdeclared, rfl⟩ := List.mem_map.mp hname
  have hkey : declared.ownImport.key ∈ m.mentionedKeys target ps c := by
    rw [TypeName.isImportable_aliased] at himportable
    refine List.mem_flatMap.mpr ⟨t', ht'.mem_mentionedTypes, List.mem_map_of_mem ?_⟩
    exact List.mem_map_of_mem (List.mem_filter.mpr ⟨hdeclared, himportable⟩)
  constructor
  · rintro (hvisible | ⟨i, hi, hbound, hother⟩)
    · exact absurd (bound_mem_reserved hplain h hown) (visible_new h hpart hvisible).1
    rcases (m.mem_imported_unitRun h).mp hi with ⟨key, hkey', rfl⟩ | ⟨hexposes, rfl⟩
    · rw [TypeName.ownImport_aliased] at hbound hother
      have hsame : key = declared.ownImport.key :=
        LocalNames.nameOf_inj (m.sound_localNames target ps) (knows_of_mentioned hplain hkey')
          (knows_of_mentioned hplain hkey) hbound
      exact absurd ⟨himportable, hsame⟩ hother
    · exact ⟨hexposes, hbound.symm, fun hsame => hother ⟨himportable, hsame.symm⟩⟩
  · rintro ⟨hexposes, hbound, hother⟩
    have hcallable := (m.mem_imported_unitRun h).mpr (.inr ⟨hexposes, rfl⟩)
    exact .inr ⟨_, hcallable, hbound.symm, fun hsame => hother hsame.2.symm⟩

theorem bound_builtins (h : (m.unitRun target ps c).1 = .ok u) {part : Part}
    (hpart : part ∈ u.text.parts) {t name : TypeName} (ht : t ∈ part.evaluated)
    (hname : name ∈ t.parts) (hmodule : name.module = builtins) :
    name.ownImport.bound = name.rootName := by
  obtain ⟨t', -, rfl⟩ := (mem_evaluated_unitRun h).mp ⟨part, hpart, ht⟩
  rw [TypeName.parts_aliased] at hname
  obtain ⟨declared, -, rfl⟩ := List.mem_map.mp hname
  have hkey : (declared.aliased (m.localNames target ps).aliases).ownImport.key
      = declared.ownImport.key := by rw [TypeName.ownImport_aliased]; rfl
  have hbuiltins : declared.ownImport.key
      = (builtins, (declared.aliased (m.localNames target ps).aliases).rootName) := by
    rw [← hkey, ← hmodule]
    rfl
  rw [TypeName.ownImport_aliased, hbuiltins]
  refine LocalNames.nameOf_ofImports_of_not_mem fun hmem => ?_
  obtain ⟨type, -, htype⟩ := List.mem_flatMap.mp hmem
  exact type.not_mem_imports_builtins _ htype

theorem captures_builtins_iff (h : (m.unitRun target ps c).1 = .ok u) {part : Part}
    (hpart : part ∈ u.text.parts) {t name : TypeName} (ht : t ∈ part.evaluated)
    (hname : name ∈ t.parts) (hmodule : name.module = builtins) :
    u.Captures part name ↔ name.rootName ∈ u.visible part ∨
      (∃ key ∈ m.mentionedKeys target ps c,
        (m.localNames target ps).nameOf key = name.rootName) ∨
      c.exposesMapper = true ∧ name.rootName = "Callable" := by
  have himportable : name.isImportable = false := by
    unfold TypeName.isImportable
    rw [hmodule]
    rfl
  unfold GeneratedUnit.Captures
  rw [bound_builtins h hpart ht hname hmodule, himportable]
  refine or_congr_right ⟨?_, ?_⟩
  · rintro ⟨i, hi, hbound, -⟩
    rcases (m.mem_imported_unitRun h).mp hi with ⟨key, hkey, rfl⟩ | ⟨hexposes, rfl⟩
    · exact .inl ⟨key, hkey, hbound⟩
    · exact .inr ⟨hexposes, hbound.symm⟩
  · rintro (⟨key, hkey, hbound⟩ | ⟨hexposes, hbound⟩)
    · exact ⟨_, (m.mem_imported_unitRun h).mpr (.inl ⟨key, hkey, rfl⟩), hbound, by simp⟩
    · exact ⟨_, (m.mem_imported_unitRun h).mpr (.inr ⟨hexposes, rfl⟩), hbound.symm, by simp⟩

/-- Of the types that a unit evaluates, what is imported is captured by the callable type of a
mapper alone, if no type comes with a local name; what needs no import is captured by whatever has
its name, and nothing has it that is not made of a suggestion. -/
theorem captures_iff (h : m.generateUnit target ps c = .ok u) :
    (∀ t, (∃ part ∈ u.text.parts, t ∈ part.evaluated) ↔
      ∃ t', m.Evaluates (m.declaredFrame target c) c ps t' ∧
        t = t'.aliased (m.localNames target ps).aliases) ∧
    ∀ part ∈ u.text.parts, ∀ t ∈ part.evaluated, ∀ name ∈ t.parts,
      (PlainTypes m target ps → name.isImportable = true →
        (u.Captures part name ↔ c.exposesMapper = true ∧ name.ownImport.bound = "Callable" ∧
          name.ownImport.key ≠ TypeName.callableKey)) ∧
      (name.module = builtins → name.ownImport.bound = name.rootName ∧
        (u.Captures part name ↔ name.rootName ∈ u.visible part ∨
          (∃ key ∈ m.mentionedKeys target ps c,
            (m.localNames target ps).nameOf key = name.rootName) ∨
          c.exposesMapper = true ∧ name.rootName = "Callable") ∧
        (name.rootName ∈ u.visible part →
          ∃ suggestion, m.SuggestsForUnit c ps suggestion ∧ MadeOf suggestion name.rootName)) := by
  have hrun := (generateUnit_eq_ok.mp h).2
  refine ⟨fun t => mem_evaluated_unitRun hrun, fun part hpart t ht name hname => ⟨?_, ?_⟩⟩
  · exact fun hplain => captures_importable_iff hplain hrun hpart ht hname
  · intro hmodule
    refine ⟨bound_builtins hrun hpart ht hname hmodule, ?_, ?_⟩
    · exact captures_builtins_iff hrun hpart ht hname hmodule
    · exact fun hvisible => (visible_new hrun hpart hvisible).2

set_option maxRecDepth 10000 in
/-- The unit of a class with a mapper and both routines captures nothing that it imports. -/
theorem captures_user :
    PlainTypes .default userType userProperties ∧
      ∃ u, Mapping.default.generateUnit userType userProperties userCapabilities = .ok u ∧
        ∀ part ∈ u.text.parts, ∀ t ∈ part.evaluated, ∀ name ∈ t.parts,
          name.isImportable = true → ¬ u.Captures part name := by
  have hok : ((Mapping.default.generateUnit userType userProperties
      userCapabilities).toOption.any fun u => u.text.parts.all fun part =>
        part.evaluated.all fun t => t.parts.all fun name =>
          name.ownImport.bound != "Callable") = true := by decide +kernel
  obtain ⟨u, hu, htest⟩ := Naming.exists_ok_of_any hok
  obtain ⟨-, hcaptures⟩ := captures_iff hu
  refine ⟨plainTypes_user, u, hu, fun part hpart t ht name hname himportable hcaptured => ?_⟩
  have hbound := ((hcaptures part hpart t ht name hname).1 plainTypes_user himportable).mp hcaptured
  have hname' := List.all_eq_true.mp (List.all_eq_true.mp (List.all_eq_true.mp htest part hpart)
    t ht) name hname
  exact bne_iff_ne.mp hname' hbound.2.1

/-- the settings of a host that keeps its cells in a `dict` -/
def dictMapping : Mapping :=
  { Mapping.default with
    settings := { cellMap := { type := "dict", put := "__setitem__", putAll := "update" } } }

def idProperty : Property := { name := "id", type := .int }

set_option maxRecDepth 10000 in
/-- a write function that is called `dict` like the map of cells captures its type -/
theorem captures_dict :
    PlainTypes dictMapping userType [idProperty] ∧
      ∃ u, dictMapping.generateUnit userType [idProperty] { valuesMethod := some "dict" } = .ok u ∧
        ∃ part ∈ u.text.parts, ∃ t ∈ part.evaluated, t.module = builtins ∧
          u.Captures part t := by
  have hplain : PlainTypes dictMapping userType [idProperty] :=
    ⟨plainTypes_user.target, fun p hp => by
      rw [List.mem_singleton.mp hp]
      exact TypeName.isPlain_of_args_nil rfl rfl, plainTypes_user.directory⟩
  have hok : ((dictMapping.generateUnit userType [idProperty]
      { valuesMethod := some "dict" }).toOption.any fun u => u.text.parts.any fun part =>
        part.evaluated.any fun t => decide (t.module = builtins ∧
          t.ownImport.bound ∈ u.visible part)) = true := by decide +kernel
  obtain ⟨u, hu, htest⟩ := Naming.exists_ok_of_any hok
  obtain ⟨part, hpart, htest⟩ := List.any_eq_true.mp htest
  obtain ⟨t, ht, htest⟩ := List.any_eq_true.mp htest
  obtain ⟨hmodule, hvisible⟩ := of_decide_eq_true htest
  exact ⟨hplain, u, hu, part, hpart, t, ht, hmodule, .inl hvisible⟩

end Mapping
end RowMapping
