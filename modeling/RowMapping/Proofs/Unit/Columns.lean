import RowMapping.Proofs.Source.Blocks
import RowMapping.Proofs.Text.Literal
import RowMapping.Proofs.Unit.Aliased
import RowMapping.Proofs.Unit.Run

/-!
# Column names in the source of a unit

Every property that is read or written natively or by an adapter has a statement with the literal
of its column.  `KeepsColumn` says that the lines of its statements stand in the source of the
unit, and that one of them shows the literal exactly if the column has no line end that a literal
keeps.

* `keepsColumn_of_generateUnit`  this holds of every property and both routines of a unit.
-/

namespace RowMapping
open RowMapping.Text NameSupply

/-- The lines of statements stand in a source, and one of them shows the literal of a column
exactly if the column has no line end that a literal keeps. -/
structure KeepsColumn (source : String) (statements : List Statement) (column : String) : Prop where
  standsIn : StandsIn (statements.flatMap Statement.sourceLines) source
  oneLine : ∀ line ∈ statements.flatMap Statement.sourceLines, OneLine line
  shows_iff : (∃ line ∈ statements.flatMap Statement.sourceLines, Occurs (literal column) line) ↔
    EscapesLineEnds column

/-- whether a property is read from a column -/
def Property.IsReadFromColumn (p : Property) : Prop :=
  p.adapter?.isSome = true ∨ p.isSupported = true

/-- statements of a function whose code has the literal of a column keep the column -/
theorem keepsColumn_of_occurs {t : ModuleText} {f : FunctionText} {column : String}
    {before part after : List Statement} (hf : .function f ∈ t.parts)
    (hbody : f.body = before ++ part ++ after) (hafter : after.flatMap Statement.lines ≠ [])
    (hcolumn : ∃ st ∈ part, Occurs (literal column) st.code) :
    KeepsColumn t.render part column := by
  obtain ⟨st, hst, hoccurs⟩ := hcolumn
  have honeLine : ∀ line ∈ part.flatMap Statement.sourceLines, OneLine line := by
    intro line hline
    obtain ⟨st', -, hline⟩ := List.mem_flatMap.mp hline
    exact oneLine_of_mem_sourceLines hline
  refine ⟨ModuleText.standsIn_sourceLines hf hbody hafter ?_, honeLine, ?_⟩
  · have hcode : st.code ≠ "" := by
      intro hempty
      have hnil : (literal column).toList = [] := by
        rw [hempty] at hoccurs
        exact List.infix_nil.mp hoccurs
      exact literal_ne_empty column (String.toList_eq_nil_iff.mp hnil)
    obtain ⟨line, lines, hlines⟩ := List.exists_cons_of_ne_nil (sourceLines_ne_nil hcode)
    have hline : line ∈ st.sourceLines := by
      rw [hlines]
      exact List.mem_cons_self
    exact List.ne_nil_of_mem (List.mem_flatMap.mpr ⟨st, hst, hline⟩)
  · rw [← oneLine_literal_iff]
    constructor
    · rintro ⟨line, hline, hshows⟩
      exact hshows.oneLine (honeLine line hline)
    · intro hliteral
      obtain ⟨line, hline, hshows⟩ :=
        exists_mem_sourceLines (literal_ne_empty column) hliteral hoccurs
      exact ⟨line, List.mem_flatMap.mpr ⟨st, hst, hline⟩, hshows⟩

/-! ### literals in statements -/

namespace Property
variable {p : Property} {settings : Settings}

theorem occurs_readExpression {cursor index value : String}
    (h : p.readExpression settings cursor index = .ok value) : Occurs index value := by
  unfold readExpression at h
  cases hoperations : p.operations with
  | error e => rw [hoperations] at h; cases h
  | ok ops =>
    rw [hoperations] at h
    change ops.readExpression settings cursor index = .ok value at h
    unfold CellOperations.readExpression at h
    cases hgetter : settings.rowStore.getter ops.accessor with
    | error e => rw [hgetter] at h; cases h
    | ok getter =>
      rw [hgetter] at h
      have haccess : Occurs index (cursor ++ "." ++ getter ++ "(" ++ index ++ ")") :=
        ((Occurs.refl index).append_left _).append_right _
      cases hnarrowing : ops.narrowing with
      | none =>
        rw [hnarrowing] at h
        cases h
        exact haccess
      | some narrowing =>
        rw [hnarrowing] at h
        cases h
        exact (haccess.append_right _).append_right _

theorem occurs_putStatement {values access put : String}
    (h : p.putStatement settings values access = .ok put) : Occurs (literal p.column) put := by
  unfold putStatement at h
  cases hoperations : p.operations with
  | error e => rw [hoperations] at h; cases h
  | ok ops =>
    rw [hoperations] at h
    cases h
    exact ((((Occurs.refl _).append_left _).append_right _).append_right _).append_right _

theorem readWay_ne_absent (h : p.IsReadFromColumn) : p.readWay ≠ .ok .absent := by
  unfold readWay
  cases hadapter : p.adapter? with
  | some cls => exact nofun
  | none =>
    rcases h with h | h
    · rw [hadapter] at h; cases h
    · rw [h]
      cases p.nullable <;> exact nofun

end Property

namespace Mapping
variable {m : Mapping} {bindings : List AdapterBinding}

theorem occurs_lookup (cursor method : String) (p : Property) :
    Occurs (literal p.column) (lookup cursor method p) :=
  ((Occurs.refl _).append_left _).append_right _

theorem occurs_code_of_value {part : String} {a : Assignment} (h : Occurs part a.value) :
    Occurs part (Statement.assign a).code := (h.append_left _).append_right _

/-- Where a property is read from a column, one of its statements has the literal of the column. -/
theorem Reads.occurs_column {cursor name : String} {p : Property} {way : ReadWay}
    {statements : List Assignment} (h : m.Reads bindings cursor name p way statements)
    (hway : way ≠ .absent) :
    ∃ st ∈ statements.map Statement.assign, Occurs (literal p.column) st.code := by
  cases h with
  | adapter _ =>
    exact ⟨_, List.mem_cons_self,
      occurs_code_of_value (((Occurs.refl _).append_left _).append_right _)⟩
  | cell hvalue =>
    exact ⟨_, List.mem_cons_self,
      occurs_code_of_value ((occurs_lookup _ _ p).trans (Property.occurs_readExpression hvalue))⟩
  | optionalCell _ => exact ⟨_, List.mem_cons_self, occurs_code_of_value (occurs_lookup _ _ p)⟩
  | absent => exact absurd rfl hway

theorem Writes.occurs_column {value values : String} {p : Property} {statements : List Statement}
    (h : m.Writes bindings value values p statements) (hfactory : p.factory? = none) :
    ∃ st ∈ statements, Occurs (literal p.column) st.code := by
  cases h with
  | factory hconversion _ =>
    unfold Property.factory? at hfactory
    rw [hconversion] at hfactory
    cases hfactory
  | adapter _ _ =>
    exact ⟨_, List.mem_cons_self,
      ((((Occurs.refl _).append_left _).append_right _).append_right _).append_right _⟩
  | native _ _ hput => exact ⟨_, List.mem_cons_self, Property.occurs_putStatement hput⟩

/-! ### routines -/

variable {target : TypeName} {ps : List Property} {c : Capabilities} {u : GeneratedUnit}
  {s : NameSupply} {f : Frame}

theorem keepsColumn_of_plansRead {byKeyword : Bool} {plan : ReadPlan} {t : ModuleText}
    {name : String} (h : m.PlansRead s target byKeyword bindings ps plan)
    (hf : .function (f.readFunctionText name plan.cursor plan) ∈ t.parts) :
    List.Forall₂ (fun p g => p.IsReadFromColumn →
      KeepsColumn t.render (g.statements.map .assign) p.column) ps plan.readings := by
  refine forall₂_imp_of_mem h.readings fun p _ g hg hreads hp => ?_
  obtain ⟨before, after, hsplit⟩ := List.append_of_mem hg
  have hbody : (f.readFunctionText name plan.cursor plan).body
      = (before.flatMap (·.statements)).map .assign ++ g.statements.map .assign
        ++ ((after.flatMap (·.statements)).map .assign
          ++ [.plain ("return " ++ plan.construction) [f.written]]) := by
    unfold Frame.readFunctionText ReadPlan.statements
    rw [hsplit]
    simp only [List.flatMap_append, List.flatMap_cons, List.map_append, List.append_assoc]
  obtain ⟨way, hway, hstatements⟩ := hreads.reads
  refine keepsColumn_of_occurs hf hbody ?_ (hstatements.occurs_column ?_)
  · rw [List.flatMap_append, List.flatMap_singleton]
    exact List.append_ne_nil_of_right_ne_nil _ (lines_ne_nil (by simp [Statement.code]))
  · rintro rfl
    exact Property.readWay_ne_absent hp hway

theorem keepsColumn_of_plansWrite {plan : WritePlan} {t : ModuleText} {name : String}
    (h : m.PlansWrite s bindings ps plan)
    (hf : .function (f.writeFunctionText name plan) ∈ t.parts) :
    List.Forall₂ (fun p g => p.factory? = none → KeepsColumn t.render g.statements p.column)
      ps plan.writings := by
  refine forall₂_imp_of_mem h.writings fun p _ g hg hwrites hp => ?_
  obtain ⟨before, after, hsplit⟩ := List.append_of_mem hg
  have hbody : (f.writeFunctionText name plan).body
      = (.bind plan.values (f.cellMap.render ++ "()") [f.cellMap] :: before.flatMap (·.statements))
        ++ g.statements ++ (after.flatMap (·.statements)
          ++ [.plain ("return " ++ plan.values) []]) := by
    unfold Frame.writeFunctionText WritePlan.statements
    rw [hsplit]
    simp only [List.flatMap_append, List.flatMap_cons, List.cons_append, List.append_assoc]
  refine keepsColumn_of_occurs hf hbody ?_ (hwrites.writes.occurs_column hp)
  rw [List.flatMap_append, List.flatMap_singleton]
  exact List.append_ne_nil_of_right_ne_nil _ (lines_ne_nil (by simp [Statement.code]))

/-! ### local names -/

theorem isReadFromColumn_aliasType (aliases : Aliases) (p : Property) :
    (aliasType aliases p).IsReadFromColumn ↔ p.IsReadFromColumn := by
  have hsupported : (aliasType aliases p).isSupported = p.isSupported :=
    congrArg Option.isSome (operations?_aliasType aliases p)
  unfold Property.IsReadFromColumn
  rw [hsupported]
  rfl

/-! ### the unit of a class -/

/-- Every property that is read or written natively or by an adapter keeps its column in the
source of a unit. -/
theorem keepsColumn_of_generateUnit (h : m.generateUnit target ps c = .ok u) :
    u.readPlan.isSome = c.generatesRead ∧ u.writePlan.isSome = c.generatesWrite ∧
      (∀ plan ∈ u.readPlan, List.Forall₂ (fun p g => p.IsReadFromColumn →
        KeepsColumn u.source (g.statements.map .assign) p.column) ps plan.readings) ∧
      ∀ plan ∈ u.writePlan, List.Forall₂ (fun p g => p.factory? = none →
        KeepsColumn u.source g.statements p.column) ps plan.writings := by
  have hrun := (generateUnit_eq_ok.mp h).2
  obtain ⟨bindings, reading, writing, hunit, -⟩ := m.isUnit_of_unitRun hrun
  refine ⟨?_, ?_, fun plan hplan => ?_, fun plan hplan => ?_⟩
  · rw [hunit.readPlan, hunit.reading.isSome_plan, hunit.read]
  · rw [hunit.writePlan, hunit.writing.isSome_plan, hunit.write]
  · rw [hunit.readPlan] at hplan
    obtain ⟨name, hplans, hf⟩ := hunit.reading.of_plan hplan
    have hkeeps := keepsColumn_of_plansRead hplans
      (hunit.mem_parts (List.mem_append_left _ hf))
    rw [List.forall₂_map_left_iff] at hkeeps
    exact hkeeps.imp fun p g hp hread => hp ((isReadFromColumn_aliasType _ p).mpr hread)
  · rw [hunit.writePlan] at hplan
    obtain ⟨name, hplans, hf⟩ := hunit.writing.of_plan hplan
    have hkeeps := keepsColumn_of_plansWrite hplans
      (hunit.mem_parts (List.mem_append_right _ hf))
    rw [List.forall₂_map_left_iff] at hkeeps
    exact hkeeps

/-- the columns of a class with two properties stand in both its routines -/
theorem keepsColumn_user :
    ∃ u, Mapping.default.generateUnit userType userProperties userCapabilities = .ok u ∧
      (∀ plan ∈ u.readPlan, List.Forall₂ (fun p g => p.IsReadFromColumn →
        KeepsColumn u.source (g.statements.map .assign) p.column) userProperties plan.readings) ∧
      ∀ plan ∈ u.writePlan, List.Forall₂ (fun p g => p.factory? = none →
        KeepsColumn u.source g.statements p.column) userProperties plan.writings := by
  obtain ⟨u, hu⟩ := exists_generateUnit_user
  obtain ⟨-, -, hreads, hwrites⟩ := keepsColumn_of_generateUnit hu
  exact ⟨u, hu, hreads, hwrites⟩

set_option maxRecDepth 10000 in
/-- a line separator in a column is no longer in the source: the text is cut there -/
theorem not_occurs_literal_separator :
    ∃ u, Mapping.default.generateUnit userType
        [{ name := "id", type := .int, columnOverride := some "user\u2028id" }]
        { readsFromCursor := true } = .ok u ∧
      ¬ Occurs (literal "user\u2028id") u.source := by
  have hfree : ((Mapping.default.generateUnit userType
      [{ name := "id", type := .int, columnOverride := some "user\u2028id" }]
      { readsFromCursor := true }).toOption.any fun u => u.text.parts.all Part.isFunction
        && u.text.headerSections.all fun text => text.toList.all (· != '\u2028')) = true := by
    decide +kernel
  obtain ⟨u, hu, hfree⟩ := Naming.exists_ok_of_any hfree
  obtain ⟨hparts, hsections⟩ := Bool.and_eq_true_iff.mp hfree
  refine ⟨u, hu, fun hoccurs => ?_⟩
  have hmem : '\u2028' ∈ u.source.toList := hoccurs.subset (by decide)
  obtain ⟨text, htext, hmem⟩ :=
    ModuleText.exists_section_of_mem_render hparts (by decide) (by decide) hmem
  exact bne_iff_ne.mp (List.all_eq_true.mp (List.all_eq_true.mp hsections _ htext) _ hmem) rfl

end Mapping
end RowMapping
