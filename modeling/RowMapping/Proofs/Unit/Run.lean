import RowMapping.Proofs.Imports.Mentioned

/-!
# The unit of a class

A class has its unit over types as they are imported, under the local names that the imports of
all its referenced types take first.

* `isUnit_of_unitRun`     the unit is made of its two routines over these types;
* `mem_imported_unitRun`  it imports the keys that it mentions under their local names, and for a
  mapper a callable type under its own name;
* `knows_of_mentioned`    the local names of all these keys were taken before anything else.
-/

namespace RowMapping
open NameSupply

/-- A class, its properties and the classes of a directory come without local names. -/
structure PlainTypes (m : Mapping) (target : TypeName) (ps : List Property) : Prop where
  target : target.IsPlain
  property : ∀ p ∈ ps, p.type.IsPlain
  directory : ∀ cls, (m.directory.typeName cls).IsPlain

namespace Mapping
variable (m : Mapping) {target : TypeName} {ps : List Property} {c : Capabilities}
  {u : GeneratedUnit}

theorem sound_localNames (target : TypeName) (ps : List Property) :
    (m.localNames target ps).Sound := (LocalNames.sound_ofImports _).1

theorem isUnit_of_unitRun (h : (m.unitRun target ps c).1 = .ok u) :
    ∃ bindings reading writing,
      (m.under (m.localNames target ps).aliases).IsUnit (m.unitRun target ps c).2
        (m.frame (m.localNames target ps).aliases target c) c
        (ps.map (aliasType (m.localNames target ps).aliases)) bindings reading writing u ∧
      (∃ gs, Granted (m.localNames target ps).supply gs (m.unitRun target ps c).2 ∧
        ∀ g ∈ u.grants (m.unitRun target ps c).2 bindings ps, g ∈ gs) ∧
      ((ps.map (·.name)).Nodup →
        Granted (m.localNames target ps).supply
          (u.grants (m.unitRun target ps c).2 bindings ps) (m.unitRun target ps c).2 ∧
        ∀ p ∈ ps, (m.unitRun target ps c).2.HasLocal p) := by
  have hrun : m.unitRun target ps c = (.ok u, (m.unitRun target ps c).2) := by rw [← h]
  obtain ⟨bindings, reading, writing, hunit, hall, hgranted⟩ :=
    isUnit_of_unitIn _ (m.sound_localNames target ps).bindings hrun
  have hgrants : u.grants (m.unitRun target ps c).2 bindings
      (ps.map (aliasType (m.localNames target ps).aliases))
      = u.grants (m.unitRun target ps c).2 bindings ps := by
    rw [GeneratedUnit.grants, GeneratedUnit.grants, List.map_map]
    rfl
  rw [hgrants] at hall hgranted
  refine ⟨bindings, reading, writing, hunit, hall, fun hnames => ?_⟩
  obtain ⟨hgranted, hlocals⟩ := hgranted (by rw [List.map_map]; exact hnames)
  exact ⟨hgranted, fun p hp => hlocals (aliasType _ p) (List.mem_map_of_mem hp)⟩

/-- A unit imports the keys that it mentions under their local names, and for a mapper a callable
type under its own name. -/
theorem mem_imported_unitRun (h : (m.unitRun target ps c).1 = .ok u) {i : Import} :
    i ∈ u.text.imported ↔
      (∃ key ∈ m.mentionedKeys target ps c, i = (m.localNames target ps).aliases.importOf key) ∨
      c.exposesMapper = true ∧ i = callableImport := by
  obtain ⟨bindings, reading, writing, hunit, -⟩ := m.isUnit_of_unitRun h
  rw [hunit.mem_imported, mentionedTypes_aliased]
  refine or_congr_left ?_
  constructor
  · rintro ⟨t', ht', hi⟩
    obtain ⟨t, ht, rfl⟩ := List.mem_map.mp ht'
    rw [TypeName.imported_aliased] at hi
    obtain ⟨key, hkey, rfl⟩ := List.mem_map.mp hi
    exact ⟨key, List.mem_flatMap.mpr ⟨t, ht, hkey⟩, rfl⟩
  · rintro ⟨key, hkey, rfl⟩
    obtain ⟨t, ht, hkey⟩ := List.mem_flatMap.mp hkey
    refine ⟨_, List.mem_map_of_mem ht, ?_⟩
    rw [TypeName.imported_aliased]
    exact List.mem_map_of_mem hkey

variable {m}

theorem generateUnit_eq_ok : m.generateUnit target ps c = .ok u ↔
    checkImportable (m.referencedTypes target ps) = .ok () ∧ (m.unitRun target ps c).1 = .ok u := by
  unfold generateUnit
  cases checkImportable (m.referencedTypes target ps) with
  | error e =>
    constructor
    · intro h; cases h
    · rintro ⟨h, -⟩; cases h
  | ok _ =>
    constructor
    · intro h; exact ⟨rfl, h⟩
    · rintro ⟨-, h⟩; exact h

/-! ### reserved names -/

theorem mem_referencedTypes {t : TypeName} :
    t ∈ m.referencedTypes target ps ↔ (t = target ∨ t = m.settings.rowStoreType ∨
      t = m.settings.cellMapType ∨ t = .callable [] target) ∨
      ∃ p ∈ ps, t = p.type ∨ (∃ cls ∈ p.adapter?, m.directory.typeName cls = t) ∨
        ∃ cls ∈ p.factory?, m.directory.typeName cls = t := by
  simp [referencedTypes, or_assoc]

theorem isPlain_of_mem_referencedTypes (hplain : PlainTypes m target ps) :
    ∀ t ∈ m.referencedTypes target ps, t.IsPlain := by
  intro t ht
  rcases mem_referencedTypes.mp ht with (rfl | rfl | rfl | rfl) |
    ⟨p, hp, rfl | ⟨cls, -, rfl⟩ | ⟨cls, -, rfl⟩⟩
  · exact hplain.target
  · exact TypeName.isPlain_parse _
  · exact TypeName.isPlain_parse _
  · exact TypeName.isPlain_callable (fun t ht => by cases ht) hplain.target
  · exact hplain.property p hp
  · exact hplain.directory cls
  · exact hplain.directory cls

theorem knows_of_referenced (hplain : PlainTypes m target ps) {t : TypeName}
    (ht : t ∈ m.referencedTypes target ps) {key : String × String} (hkey : key ∈ t.keys) :
    (m.localNames target ps).knows key = true := by
  refine (LocalNames.sound_ofImports _).2 key ?_
  rw [List.mem_flatMap]
  refine ⟨t, ht, ?_⟩
  rw [TypeName.imports_of_isPlain (isPlain_of_mem_referencedTypes hplain t ht)]
  exact hkey

/-- the callable type takes its name for every unit, whether it has a mapper or not -/
theorem knows_callableKey (hplain : PlainTypes m target ps) :
    (m.localNames target ps).knows TypeName.callableKey = true := by
  have hmem : .callable [] target ∈ m.referencedTypes target ps :=
    mem_referencedTypes.mpr (.inl (.inr (.inr (.inr rfl))))
  exact knows_of_referenced hplain hmem (TypeName.mem_keys_callable.mpr (.inl rfl))

theorem knows_of_mentioned (hplain : PlainTypes m target ps) {key : String × String}
    (hkey : key ∈ m.mentionedKeys target ps c) : (m.localNames target ps).knows key = true := by
  have hmentioned := List.mem_flatMap.mp hkey
  have href : ∀ {t}, t ∈ m.referencedTypes target ps → key ∈ t.keys → _ :=
    fun ht hkey => knows_of_referenced hplain ht hkey
  rcases exists_mem_mentionedTypes.mp hmentioned with ⟨p, hp, cls, hcls, hkey⟩ |
    ⟨-, hkey | hkey | ⟨p, hp, hkey⟩⟩ | ⟨-, hkey | hkey | ⟨p, hp, cls, hcls, hkey⟩⟩
  · exact href (mem_referencedTypes.mpr (.inr ⟨p, hp, .inr (.inl ⟨cls, hcls, rfl⟩)⟩)) hkey
  · exact href (mem_referencedTypes.mpr (.inl (.inr (.inl rfl)))) hkey
  · exact href (mem_referencedTypes.mpr (.inl (.inl rfl))) hkey
  · exact href (mem_referencedTypes.mpr (.inr ⟨p, hp, .inl rfl⟩)) hkey
  · exact href (mem_referencedTypes.mpr (.inl (.inl rfl))) hkey
  · exact href (mem_referencedTypes.mpr (.inl (.inr (.inr (.inl rfl))))) hkey
  · exact href (mem_referencedTypes.mpr (.inr ⟨p, hp, .inr (.inr ⟨cls, hcls, rfl⟩)⟩)) hkey

/-! ### a class with two properties -/

/-- the settings by default, over classes without methods -/
def default : Mapping :=
  { settings := {}, directory := { typeName := .ofClass, methods := fun _ => [] } }

def userType : TypeName := { name := "User", module := "app" }

def userProperties : List Property :=
  [{ name := "id", type := .int },
   { name := "nick", type := { name := "str", nullable := true }, nullable := true }]

def userCapabilities : Capabilities := { exposesMapper := true, valuesMethod := some "to_values" }

theorem plainTypes_user : PlainTypes .default userType userProperties where
  target := TypeName.isPlain_of_args_nil rfl rfl
  property p hp := by
    rcases List.mem_cons.mp hp with rfl | hp
    · exact TypeName.isPlain_of_args_nil rfl rfl
    · rw [List.mem_singleton.mp hp]
      exact TypeName.isPlain_of_args_nil rfl rfl
  directory cls := TypeName.isPlain_of_args_nil rfl rfl

set_option maxRecDepth 10000 in
theorem exists_generateUnit_user :
    ∃ u, Mapping.default.generateUnit userType userProperties userCapabilities = .ok u := by
  have hok : ((Mapping.default.generateUnit userType userProperties
      userCapabilities).toOption.any fun _ => true) = true := by decide +kernel
  obtain ⟨u, hu, -⟩ := Naming.exists_ok_of_any hok
  exact ⟨u, hu⟩

end Mapping
end RowMapping
