import RowMapping.Proofs.Imports.Mentioned

/-!
# Types that a unit evaluates

When the module of a unit runs, it evaluates the classes of its adapters and factories, the class
that it builds and the type of its map of cells; the types of parameters, results and locals are
annotations, and never evaluated.

* `IsUnit.mem_evaluated`  which types the parts of a unit evaluate.
-/

namespace RowMapping

/-- the types that a statement evaluates; that of a typed local is an annotation -/
def Statement.evaluated : Statement → List TypeName
  | .plain _ types => types
  | .bind _ _ types => types
  | .assign a => a.types

/-- the types that a part of a module evaluates; outside functions only bound values are, as a
mapper is declared with its type -/
def Part.evaluated : Part → List TypeName
  | .statement (.bind _ _ types) => types
  | .statement _ => []
  | .function f => f.body.flatMap Statement.evaluated

theorem Statement.mem_types_of_mem_evaluated {st : Statement} {t : TypeName}
    (h : t ∈ st.evaluated) : t ∈ st.types := by
  cases st with
  | plain code types => exact h
  | bind name value types => exact h
  | assign a => exact List.mem_cons_of_mem _ h

theorem Part.mem_types_of_mem_evaluated {part : Part} {t : TypeName} (h : t ∈ part.evaluated) :
    t ∈ part.types := by
  cases part with
  | statement st =>
    cases st with
    | bind name value types => exact h
    | plain code types => cases h
    | assign a => cases h
  | function f =>
    obtain ⟨st, hst, ht⟩ := List.mem_flatMap.mp h
    have hbody := List.mem_flatMap.mpr ⟨st, hst, Statement.mem_types_of_mem_evaluated ht⟩
    exact List.mem_append_right _ (List.mem_cons_of_mem _ hbody)

namespace Mapping
variable {m : Mapping} {bindings : List AdapterBinding} {s : NameSupply} {f : Frame}
  {c : Capabilities} {ps : List Property} {t : TypeName}

/-- the types that a unit is to evaluate -/
inductive Evaluates (m : Mapping) (f : Frame) (c : Capabilities) (ps : List Property) :
    TypeName → Prop
  | adapter {p : Property} {cls : ClassRef} : p ∈ ps → p.adapter? = some cls →
    Evaluates m f c ps (m.directory.typeName cls)
  | result : c.generatesRead = true → Evaluates m f c ps f.written
  | cellMap : c.generatesWrite = true → Evaluates m f c ps f.cellMap
  | factory {p : Property} {cls : ClassRef} : c.generatesWrite = true → p ∈ ps →
    p.factory? = some cls → Evaluates m f c ps (m.directory.typeName cls)

theorem Evaluates.mem_mentionedTypes (h : m.Evaluates f c ps t) :
    t ∈ m.mentionedTypes f c ps := by
  have hmentioned : ∃ t' ∈ m.mentionedTypes f c ps, t' = t := by
    rw [exists_mem_mentionedTypes]
    cases h with
    | adapter hp hcls => exact .inl ⟨_, hp, _, hcls, rfl⟩
    | result hread => exact .inr (.inl ⟨hread, .inr (.inl rfl)⟩)
    | cellMap hwrite => exact .inr (.inr ⟨hwrite, .inr (.inl rfl)⟩)
    | factory hwrite hp hcls => exact .inr (.inr ⟨hwrite, .inr (.inr ⟨_, hp, _, hcls, rfl⟩)⟩)
  obtain ⟨t', ht', rfl⟩ := hmentioned
  exact ht'

theorem evaluates_aliased (m : Mapping) (aliases : Aliases) (target : TypeName) :
    (m.under aliases).Evaluates (m.frame aliases target c) c (ps.map (aliasType aliases)) t ↔
      ∃ t', m.Evaluates (m.declaredFrame target c) c ps t' ∧ t = t'.aliased aliases := by
  constructor
  · intro h
    cases h with
    | adapter hp hcls =>
      obtain ⟨p, hmem, rfl⟩ := List.mem_map.mp hp
      exact ⟨_, .adapter hmem hcls, rfl⟩
    | result hread => exact ⟨_, .result hread, rfl⟩
    | cellMap hwrite => exact ⟨_, .cellMap hwrite, rfl⟩
    | factory hwrite hp hcls =>
      obtain ⟨p, hmem, rfl⟩ := List.mem_map.mp hp
      exact ⟨_, .factory hwrite hmem hcls, rfl⟩
  · rintro ⟨t', h, rfl⟩
    cases h with
    | @adapter p cls hp hcls =>
      have hp' : aliasType aliases p ∈ ps.map (aliasType aliases) := List.mem_map_of_mem hp
      exact .adapter hp' hcls
    | result hread => exact .result hread
    | cellMap hwrite => exact .cellMap hwrite
    | @factory p cls hwrite hp hcls =>
      have hp' : aliasType aliases p ∈ ps.map (aliasType aliases) := List.mem_map_of_mem hp
      exact .factory hwrite hp' hcls

/-! ### the parts of a unit -/

theorem PlansRead.evaluated_eq_nil {byKeyword : Bool} {target : TypeName} {plan : ReadPlan}
    (h : m.PlansRead s target byKeyword bindings ps plan) :
    (plan.statements.map Statement.assign).flatMap Statement.evaluated = [] := by
  rw [List.flatMap_map]
  refine List.flatMap_eq_nil_iff.mpr fun a ha => ?_
  obtain ⟨g, hg, ha⟩ := List.mem_flatMap.mp ha
  obtain ⟨p, -, hp⟩ := exists_left_of_forall₂ h.readings hg
  obtain ⟨way, -, hreads⟩ := hp.reads
  exact (hreads.type_eq a ha).1

theorem Writes.evaluated_eq {value values : String} {p : Property} {statements : List Statement}
    (h : m.Writes bindings value values p statements) :
    statements.flatMap Statement.evaluated = p.factory?.toList.map m.directory.typeName := by
  unfold Property.factory?
  cases h with
  | factory hconversion _ => rw [hconversion]; rfl
  | adapter hconversion _ => rw [hconversion]; rfl
  | native hconversion _ _ => rw [hconversion]; rfl

theorem PlansWrite.mem_evaluated {plan : WritePlan} (h : m.PlansWrite s bindings ps plan) :
    t ∈ plan.statements.flatMap Statement.evaluated ↔
      ∃ p ∈ ps, ∃ cls ∈ p.factory?, t = m.directory.typeName cls := by
  rw [exists_iff_of_forall₂ h.writings (Q := fun g => t ∈ g.statements.flatMap Statement.evaluated)]
  · rw [WritePlan.statements, List.flatMap_assoc, List.mem_flatMap]
  · intro p g hg
    rw [hg.writes.evaluated_eq, List.mem_map]
    constructor
    · rintro ⟨cls, hcls, rfl⟩; exact ⟨cls, Option.mem_toList.mpr hcls, rfl⟩
    · rintro ⟨cls, hcls, rfl⟩; exact ⟨cls, Option.mem_toList.mp hcls, rfl⟩

/-- a reading routine evaluates the class that it builds, and its mapper nothing -/
theorem ReadRoutine.mem_evaluated {mapper read : Option String} {reading : Routine ReadPlan}
    (h : m.ReadRoutine s f bindings ps mapper read reading) :
    t ∈ reading.parts.flatMap Part.evaluated ↔ read.isSome = true ∧ t = f.written := by
  cases h with
  | none => simp
  | @function name plan hplans =>
    have hmapper : (mapper.toList.map fun mapper => Part.statement
        (f.mapperStatement mapper name)).flatMap Part.evaluated = [] := by
      cases mapper <;> rfl
    rw [List.flatMap_cons, hmapper, List.append_nil]
    show t ∈ (_ ++ [Statement.plain _ [f.written]]).flatMap Statement.evaluated ↔ _
    rw [List.flatMap_append, hplans.evaluated_eq_nil, List.flatMap_singleton, List.nil_append]
    simp [Statement.evaluated]

theorem WriteRoutine.mem_evaluated {write : Option String} {writing : Routine WritePlan}
    (h : m.WriteRoutine s f bindings ps write writing) :
    t ∈ writing.parts.flatMap Part.evaluated ↔ write.isSome = true ∧
      (t = f.cellMap ∨ ∃ p ∈ ps, ∃ cls ∈ p.factory?, t = m.directory.typeName cls) := by
  cases h with
  | none => simp
  | @function name plan hplans =>
    rw [List.flatMap_singleton]
    show t ∈ ([Statement.bind _ _ [f.cellMap]] ++ plan.statements
      ++ [Statement.plain _ []]).flatMap Statement.evaluated ↔ _
    rw [List.flatMap_append, List.flatMap_append, List.mem_append, List.mem_append,
      hplans.mem_evaluated]
    simp [Statement.evaluated]

/-- A unit evaluates the classes of its adapters and factories, the class that it builds and the
type of its map of cells. -/
theorem IsUnit.mem_evaluated {reading : Routine ReadPlan} {writing : Routine WritePlan}
    {u : GeneratedUnit} (h : m.IsUnit s f c ps bindings reading writing u) :
    (∃ part ∈ u.text.parts, t ∈ part.evaluated) ↔ m.Evaluates f c ps t := by
  have hbindings : t ∈ (bindings.map fun b => Part.statement b.instantiation).flatMap
      Part.evaluated ↔ ∃ b ∈ bindings, t = b.type := by
    rw [List.flatMap_map, List.mem_flatMap]
    refine exists_congr fun b => and_congr_right fun _ => List.mem_singleton
  rw [← List.mem_flatMap, h.text, Frame.parts_unitText, List.flatMap_append, List.flatMap_append,
    List.mem_append, List.mem_append, hbindings, h.reading.mem_evaluated, h.writing.mem_evaluated,
    h.read, h.write]
  constructor
  · rintro (⟨b, hb, rfl⟩ | ⟨hread, rfl⟩ | ⟨hwrite, rfl | ⟨p, hp, cls, hcls, rfl⟩⟩)
    · obtain ⟨⟨p, hp, hcls⟩, htype⟩ := h.adapters b hb
      rw [htype]
      exact .adapter hp hcls
    · exact .result hread
    · exact .cellMap hwrite
    · exact .factory hwrite hp hcls
  · intro ht
    cases ht with
    | adapter hp hcls =>
      obtain ⟨b, hb, rfl⟩ := h.bound _ hp _ hcls
      exact .inl ⟨b, hb, (h.adapters b hb).2.symm⟩
    | result hread => exact .inr (.inl ⟨hread, rfl⟩)
    | cellMap hwrite => exact .inr (.inr ⟨hwrite, .inl rfl⟩)
    | factory hwrite hp hcls => exact .inr (.inr ⟨hwrite, .inr ⟨_, hp, _, hcls, rfl⟩⟩)

end Mapping
end RowMapping
