import RowMapping.Proofs.Imports.Lines
import RowMapping.Proofs.Unit.Run

/-!
# When the imports of a unit fit its text

`ImportsConsistent` says that the import lines of a module bind every name once, import everything
under one name, and that every type in the text is written with the name of its own import.

A unit writes all its types as they are imported, but for the callable type of its mapper, which
it writes under its own name.  So the imports fit exactly where that is harmless:
`importsConsistent_iff`.
-/

namespace RowMapping
open RowMapping.Text NameSupply

/-! ### types in the text -/

theorem TypeName.writtenName_eq (t : TypeName) :
    t.writtenName = t.ownImport.bound ++ fromDot t.name := by
  unfold writtenName ownImport
  unfold Import.bound
  cases t.localName with
  | none => exact (beforeDot_append_fromDot t.name).symm
  | some l => rfl

/-- A statement shows the types that it lists, at a fixed place of its text, and no others. -/
inductive Statement.ShowsTypes : Statement → Prop
  | untyped (code : String) : ShowsTypes (.plain code [])
  | call (name rest : String) (type : TypeName) :
    ShowsTypes (.bind name (type.render ++ rest) [type])
  | result (rest : String) (type : TypeName) :
    ShowsTypes (.plain ("return " ++ type.render ++ rest) [type])
  | declaration (name rest : String) (type : TypeName) :
    ShowsTypes (.plain (name ++ ": " ++ type.render ++ rest) [type])
  | assign {a : Assignment} : a.types = [] → ShowsTypes (.assign a)

/-- the statements of a part -/
def Part.statements : Part → List Statement
  | .statement s => [s]
  | .function f => f.body

namespace ModuleText

def statements (t : ModuleText) : List Statement := t.parts.flatMap Part.statements

def types (t : ModuleText) : List TypeName := t.parts.flatMap Part.types

theorem imported_eq_flatMap_types (t : ModuleText) :
    t.imported = t.types.flatMap TypeName.imported := by
  unfold imported types
  rw [List.flatMap_assoc]

theorem ownImport_mem_imported {t : ModuleText} {type part : TypeName} (htype : type ∈ t.types)
    (hpart : part ∈ type.parts) (himportable : part.isImportable = true) :
    part.ownImport ∈ t.imported := by
  rw [imported_eq_flatMap_types]
  refine List.mem_flatMap.mpr ⟨type, htype, ?_⟩
  exact List.mem_map_of_mem (List.mem_filter.mpr ⟨hpart, himportable⟩)

/-- The import lines of a module fit each other and its text. -/
structure ImportsConsistent (t : ModuleText) : Prop where
  lines : ∀ entry, entry ∈ t.importEntries ↔ ∃ i ∈ t.imported, i.entry = entry
  unambiguous : ∀ i ∈ t.imported, ∀ j ∈ t.imported, i.bound = j.bound → i.key = j.key
  single : ∀ i ∈ t.imported, ∀ j ∈ t.imported, i.key = j.key → i.bound = j.bound
  written : ∀ type ∈ t.types, ∀ part ∈ type.parts, part.isImportable = true →
    (∃ i ∈ t.imported, i.key = part.ownImport.key) ∧
    ∀ i ∈ t.imported, i.key = part.ownImport.key → part.writtenName = i.bound ++ fromDot part.name

/-- imports fit where no two of them share a name or a key -/
theorem importsConsistent_of_iff {t : ModuleText}
    (h : ∀ i ∈ t.imported, ∀ j ∈ t.imported, i.bound = j.bound ↔ i.key = j.key) :
    t.ImportsConsistent where
  lines _ := mem_importEntries
  unambiguous i hi j hj := (h i hi j hj).mp
  single i hi j hj := (h i hi j hj).mpr
  written type htype part hpart himportable := by
    have hown := ownImport_mem_imported htype hpart himportable
    refine ⟨⟨_, hown, rfl⟩, fun i hi hkey => ?_⟩
    rw [TypeName.writtenName_eq, (h i hi _ hown).mpr hkey]

end ModuleText

namespace Mapping
variable {m : Mapping} {target : TypeName} {ps : List Property} {c : Capabilities}
  {u : GeneratedUnit}

/-! ### the statements of a unit -/

section
variable {s : NameSupply} {f : Frame} {bindings : List AdapterBinding}

theorem Reads.showsTypes {cursor name : String} {p : Property} {way : ReadWay}
    {statements : List Assignment} (h : m.Reads bindings cursor name p way statements) :
    ∀ a ∈ statements, (Statement.assign a).ShowsTypes :=
  fun a ha => .assign (h.type_eq a ha).1

theorem Writes.showsTypes {value values : String} {p : Property} {statements : List Statement}
    (h : m.Writes bindings value values p statements) : ∀ st ∈ statements, st.ShowsTypes := by
  intro st hst
  cases h with
  | @factory cls method name _ _ =>
    rcases List.mem_cons.mp hst with rfl | hst
    · have hcall : (m.directory.typeName cls).render ++ "." ++ method.name ++ "("
            ++ (value ++ "." ++ p.name) ++ ")"
          = (m.directory.typeName cls).render
            ++ ("." ++ method.name ++ "(" ++ (value ++ "." ++ p.name) ++ ")") := by
        simp only [String.append_assoc]
      rw [hcall]
      exact .call _ _ _
    · rw [List.mem_singleton.mp hst]
      exact .untyped _
  | adapter _ _ =>
    rw [List.mem_singleton.mp hst]
    exact .untyped _
  | native _ _ _ =>
    rw [List.mem_singleton.mp hst]
    exact .untyped _

theorem ReadRoutine.showsTypes {mapper read : Option String} {reading : Routine ReadPlan}
    (h : m.ReadRoutine s f bindings ps mapper read reading) :
    ∀ st ∈ reading.parts.flatMap Part.statements, st.ShowsTypes := by
  intro st hst
  cases h with
  | none => cases hst
  | @function name plan hplans =>
    rw [List.flatMap_cons] at hst
    rcases List.mem_append.mp hst with hst | hst
    · rcases List.mem_append.mp hst with hst | hst
      · obtain ⟨a, ha, rfl⟩ := List.mem_map.mp hst
        obtain ⟨g, hg, ha⟩ := List.mem_flatMap.mp ha
        obtain ⟨p, -, hp⟩ := exists_left_of_forall₂ hplans.readings hg
        obtain ⟨way, -, hreads⟩ := hp.reads
        exact hreads.showsTypes a ha
      · have hresult : "return " ++ plan.construction = "return " ++ f.written.render
            ++ ("(" ++ joined ", " plan.arguments ++ ")") := by
          simp only [ReadPlan.construction, hplans.target, String.append_assoc]
        rw [List.mem_singleton.mp hst, hresult]
        exact .result _ _
    · cases mapper with
      | none => cases hst
      | some mapper =>
        let type := TypeName.callable [f.rowStore] f.written
        have hdeclaration : mapper ++ ": " ++ type.render ++ " = " ++ name
            = mapper ++ ": " ++ type.render ++ (" = " ++ name) := String.append_assoc
        rw [List.mem_singleton.mp hst, Frame.mapperStatement, hdeclaration]
        exact .declaration _ _ _

theorem WriteRoutine.showsTypes {write : Option String} {writing : Routine WritePlan}
    (h : m.WriteRoutine s f bindings ps write writing) :
    ∀ st ∈ writing.parts.flatMap Part.statements, st.ShowsTypes := by
  intro st hst
  cases h with
  | none => cases hst
  | @function name plan hplans =>
    rw [List.flatMap_cons, List.flatMap_nil, List.append_nil] at hst
    rcases List.mem_cons.mp hst with rfl | hst
    · exact .call _ _ _
    rcases List.mem_append.mp hst with hst | hst
    · obtain ⟨g, hg, hst⟩ := List.mem_flatMap.mp hst
      obtain ⟨p, -, hp⟩ := exists_left_of_forall₂ hplans.writings hg
      exact hp.writes.showsTypes st hst
    · rw [List.mem_singleton.mp hst]
      exact .untyped _

theorem IsUnit.showsTypes {reading : Routine ReadPlan} {writing : Routine WritePlan}
    (h : m.IsUnit s f c ps bindings reading writing u) :
    ∀ st ∈ u.text.statements, st.ShowsTypes := by
  intro st hst
  rw [ModuleText.statements, h.text, Frame.parts_unitText, List.flatMap_append,
    List.flatMap_append] at hst
  rcases List.mem_append.mp hst with hst | hst
  · rw [List.flatMap_map] at hst
    obtain ⟨b, -, hst⟩ := List.mem_flatMap.mp hst
    rw [List.mem_singleton.mp hst]
    exact .call _ _ _
  rcases List.mem_append.mp hst with hst | hst
  · exact h.reading.showsTypes st hst
  · exact h.writing.showsTypes st hst

end

/-! ### the mapper -/

/-- The callable type of a mapper can be written under its own name: it has no other, or it is
mentioned nowhere else and nothing else goes by that name. -/
def MapperFits (m : Mapping) (target : TypeName) (ps : List Property) (c : Capabilities) : Prop :=
  c.exposesMapper = true →
    (m.localNames target ps).nameOf TypeName.callableKey = "Callable" ∨
    (TypeName.callableKey ∉ m.mentionedKeys target ps c ∧
      ∀ key ∈ m.mentionedKeys target ps c, (m.localNames target ps).nameOf key ≠ "Callable")

/-- Where a mapper fits, what goes by the name of the callable type is the callable type. -/
theorem MapperFits.nameOf_eq_iff (hfits : m.MapperFits target ps c)
    (hexposes : c.exposesMapper = true) (hplain : PlainTypes m target ps) {key : String × String}
    (hkey : key ∈ m.mentionedKeys target ps c) :
    (m.localNames target ps).nameOf key = "Callable" ↔ key = TypeName.callableKey := by
  rcases hfits hexposes with hname | ⟨hnone, hother⟩
  · rw [← hname]
    constructor
    · exact LocalNames.nameOf_inj (m.sound_localNames target ps) (knows_of_mentioned hplain hkey)
        (knows_callableKey hplain)
    · intro heq; rw [heq]
  · constructor
    · intro heq; exact absurd heq (hother key hkey)
    · intro heq; exact absurd (heq ▸ hkey) hnone

/-- The imports of a unit fit exactly where its mapper does. -/
theorem importsConsistent_iff (hplain : PlainTypes m target ps)
    (h : m.generateUnit target ps c = .ok u) :
    (∀ st ∈ u.text.statements, st.ShowsTypes) ∧
      (u.text.ImportsConsistent ↔ m.MapperFits target ps c) := by
  have hrun := (generateUnit_eq_ok.mp h).2
  obtain ⟨bindings, reading, writing, hunit, -⟩ := m.isUnit_of_unitRun hrun
  refine ⟨hunit.showsTypes, ?_⟩
  have hmem : ∀ i, i ∈ u.text.imported ↔ _ := fun i => m.mem_imported_unitRun hrun
  constructor
  · intro hconsistent hexposes
    have hcallable : callableImport ∈ u.text.imported := (hmem _).mpr (.inr ⟨hexposes, rfl⟩)
    by_cases hname : (m.localNames target ps).nameOf TypeName.callableKey = "Callable"
    · exact .inl hname
    refine .inr ⟨fun hkey => hname ?_, fun key hkey heq => ?_⟩
    · have himport := (hmem _).mpr (.inl ⟨_, hkey, rfl⟩)
      exact hconsistent.single _ himport _ hcallable rfl
    · have himport := (hmem _).mpr (.inl ⟨_, hkey, rfl⟩)
      have hsame : key = TypeName.callableKey := hconsistent.unambiguous _ himport _ hcallable heq
      rw [hsame] at heq
      exact hname heq
  · intro hfits
    refine ModuleText.importsConsistent_of_iff fun i hi j hj => ?_
    rcases (hmem i).mp hi with ⟨key, hkey, rfl⟩ | ⟨hexposes, rfl⟩ <;>
      rcases (hmem j).mp hj with ⟨key', hkey', rfl⟩ | ⟨hexposes', rfl⟩
    · constructor
      · exact LocalNames.nameOf_inj (m.sound_localNames target ps)
          (knows_of_mentioned hplain hkey) (knows_of_mentioned hplain hkey')
      · intro (heq : key = key')
        rw [heq]
    · exact hfits.nameOf_eq_iff hexposes' hplain hkey
    · have hiff := hfits.nameOf_eq_iff hexposes hplain hkey'
      constructor
      · intro heq; exact (hiff.mp heq.symm).symm
      · intro heq; exact (hiff.mpr heq.symm).symm
    · exact iff_of_true rfl rfl

/-- the imports of a unit with a mapper over a class of another name -/
theorem importsConsistent_user :
    PlainTypes .default userType userProperties ∧
      ∃ u, Mapping.default.generateUnit userType userProperties userCapabilities = .ok u ∧
        (∀ st ∈ u.text.statements, st.ShowsTypes) ∧ u.text.ImportsConsistent := by
  obtain ⟨u, hu⟩ := exists_generateUnit_user
  have hfits : Mapping.default.MapperFits userType userProperties userCapabilities :=
    fun _ => .inl (by decide +kernel)
  obtain ⟨hshows, hiff⟩ := importsConsistent_iff plainTypes_user hu
  exact ⟨plainTypes_user, u, hu, hshows, hiff.mpr hfits⟩

set_option maxRecDepth 10000 in
/-- A class that is called like the callable type shares its name with the type of its mapper. -/
theorem not_importsConsistent_callable :
    PlainTypes .default { name := "Callable", module := "app" } userProperties ∧
      ∃ u, Mapping.default.generateUnit { name := "Callable", module := "app" } userProperties
        userCapabilities = .ok u ∧ ¬ u.text.ImportsConsistent := by
  refine ⟨⟨TypeName.isPlain_of_args_nil rfl rfl, plainTypes_user.property,
    plainTypes_user.directory⟩, ?_⟩
  have hclash : ((Mapping.default.generateUnit { name := "Callable", module := "app" }
      userProperties userCapabilities).toOption.any fun u =>
        u.text.imported.any fun i => u.text.imported.any fun j =>
          decide (i.bound = j.bound ∧ i.key ≠ j.key)) = true := by decide +kernel
  obtain ⟨u, hu, hclash⟩ := Naming.exists_ok_of_any hclash
  refine ⟨u, hu, fun hconsistent => ?_⟩
  obtain ⟨i, hi, hclash⟩ := List.any_eq_true.mp hclash
  obtain ⟨j, hj, hclash⟩ := List.any_eq_true.mp hclash
  obtain ⟨hbound, hkey⟩ := of_decide_eq_true hclash
  exact hkey (hconsistent.unambiguous i hi j hj hbound)

end Mapping
end RowMapping
