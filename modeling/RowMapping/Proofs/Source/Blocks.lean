import RowMapping.Proofs.Text.Lines
import RowMapping.Source

/-!
# Where statements stand in a module

The text of a function is cut into lines once more when the module is written.  So what a
statement leaves in the source are its lines, indented and cut again (`sourceLines`), and they stand
there one behind the other: `ModuleText.standsIn_sourceLines`.
-/

namespace RowMapping
open RowMapping.Text

/-- the lines that a statement of a function leaves in the source of a module -/
def Statement.sourceLines (st : Statement) : List String :=
  (st.lines.map indent).flatMap fun line => Text.lines (line ++ "\n")

/-- `part` stands in `source` as whole lines -/
def StandsIn (part : List String) (source : String) : Prop :=
  ∃ before after, source = before ++ "\n" ++ joined "\n" part ++ "\n" ++ after

theorem oneLine_of_mem_sourceLines {st : Statement} {line : String} (h : line ∈ st.sourceLines) :
    OneLine line := by
  obtain ⟨l, -, hline⟩ := List.mem_flatMap.mp h
  exact oneLine_of_mem_lines hline

/-- What stands in the code of a statement and has no line end stands in one of its lines. -/
theorem exists_mem_sourceLines {st : Statement} {part : String} (hne : part ≠ "")
    (hpart : OneLine part) (h : Occurs part st.code) : ∃ line ∈ st.sourceLines, Occurs part line := by
  have hline : ∃ line ∈ st.lines, Occurs part line := by
    cases st with
    | plain code types => exact exists_mem_lines hne hpart h
    | bind name value types => exact exists_mem_lines hne hpart h
    | assign a => exact ⟨a.code, List.mem_singleton_self _, h⟩
  obtain ⟨line, hmem, hoccurs⟩ := hline
  obtain ⟨line', hmem', hoccurs'⟩ :=
    exists_mem_lines hne hpart ((hoccurs.append_left "    ").append_right "\n")
  exact ⟨line', List.mem_flatMap.mpr ⟨indent line, List.mem_map_of_mem hmem, hmem'⟩, hoccurs'⟩

theorem sourceLines_ne_nil {st : Statement} (h : st.code ≠ "") : st.sourceLines ≠ [] := by
  have hlines : st.lines ≠ [] := by
    cases st with
    | plain code types => exact lines_ne_nil h
    | bind name value types => exact lines_ne_nil h
    | assign a => exact nofun
  obtain ⟨line, rest, hline⟩ := List.exists_cons_of_ne_nil hlines
  unfold Statement.sourceLines
  rw [hline, List.map_cons, List.flatMap_cons]
  exact List.append_ne_nil_of_left_ne_nil (lines_ne_nil (by simp)) _

/-! ### functions -/

theorem exists_ne_newline_indent (line : String) : ∃ c ∈ (indent line ++ "\n").toList, c ≠ '\n' := by
  refine ⟨' ', ?_, by decide⟩
  unfold indent
  rw [String.append_assoc, String.toList_append]
  exact List.mem_append_left _ (by decide)

/-- The block of a function is the header, the lines of its statements and more behind them. -/
theorem FunctionText.exists_blockLines_eq {f : FunctionText} {before part after : List Statement}
    (hbody : f.body = before ++ part ++ after) (hafter : after.flatMap Statement.lines ≠ []) :
    ∃ above below, above ≠ [] ∧ below ≠ [] ∧
      f.blockLines = above ++ part.flatMap Statement.sourceLines ++ below := by
  obtain ⟨init, last, hlast⟩ : ∃ init last, after.flatMap Statement.lines = init ++ [last] :=
    ⟨_, _, (List.dropLast_append_getLast hafter).symm⟩
  let above := f.header :: (f.docLines ++ (before.flatMap Statement.lines).map indent)
  let lines := above ++ (part.flatMap Statement.lines).map indent ++ init.map indent
  have hbodyLines : f.header :: f.bodyLines = lines ++ [indent last] := by
    unfold bodyLines
    rw [if_neg, hbody, List.flatMap_append, List.flatMap_append, hlast]
    · simp only [lines, above, List.map_append, List.map_cons, List.map_nil, List.append_assoc,
        List.cons_append]
    · rw [hbody, List.flatMap_append, hlast]
      simp
  have hrender : f.render = unlines lines ++ (indent last ++ "\n") := by
    rw [render, hbodyLines, joined_newline (by simp), unlines_append, unlines_cons, unlines_nil,
      String.append_empty]
  refine ⟨above.flatMap fun line => Text.lines (line ++ "\n"), (init.map indent).flatMap
    (fun line => Text.lines (line ++ "\n")) ++ Text.lines (dropFinalNewlines (indent last ++ "\n")),
    ?_, ?_, ?_⟩
  · rw [List.flatMap_cons]
    exact List.append_ne_nil_of_left_ne_nil (lines_ne_nil (by simp)) _
  · refine List.append_ne_nil_of_right_ne_nil _ (lines_ne_nil ?_)
    exact dropFinalNewlines_ne_empty (exists_ne_newline_indent last)
  · have hpart : part.flatMap Statement.sourceLines
        = ((part.flatMap Statement.lines).map indent).flatMap fun line =>
          Text.lines (line ++ "\n") := by
      rw [List.map_flatMap, List.flatMap_assoc]
      rfl
    rw [blockLines, hrender, dropFinalNewlines_append _ (exists_ne_newline_indent last),
      lines_unlines_append, hpart, List.flatMap_append, List.flatMap_append]
    simp only [List.append_assoc]

/-! ### modules -/

/-- A function of a module is one of its blocks, and not the first where a statement comes first. -/
theorem ModuleText.exists_blocks_eq {f : FunctionText} {parts : List Part}
    (h : .function f ∈ parts) : ∃ above below, blocks parts = above ++ f.blockLines :: below ∧
      ((∃ st rest, parts = .statement st :: rest) → above ≠ []) := by
  induction parts with
  | nil => cases h
  | cons part rest ih =>
    cases part with
    | function g =>
      rcases List.mem_cons.mp h with heq | hrest
      · cases heq
        exact ⟨[], blocks rest, rfl, fun ⟨_, _, h⟩ => by cases h⟩
      · obtain ⟨above, below, hblocks, -⟩ := ih hrest
        refine ⟨g.blockLines :: above, below, ?_, fun _ => nofun⟩
        rw [blocks_function, hblocks, List.cons_append]
    | statement st =>
      have hrest : .function f ∈ rest := by
        rcases List.mem_cons.mp h with heq | hrest
        · cases heq
        · exact hrest
      obtain ⟨above, below, hblocks, habove⟩ := ih hrest
      rw [blocks_statement, hblocks]
      cases rest with
      | nil => cases hrest
      | cons next rest =>
        cases next with
        | function g => exact ⟨st.lines :: above, below, rfl, fun _ => nofun⟩
        | statement st' =>
          obtain ⟨block, above, rfl⟩ := List.exists_cons_of_ne_nil (habove ⟨st', rest, rfl⟩)
          exact ⟨(st.lines ++ block) :: above, below, rfl, fun _ => nofun⟩

theorem ModuleText.standsIn_blockLines {t : ModuleText} {f : FunctionText}
    (h : .function f ∈ t.parts) : StandsIn f.blockLines t.render := by
  obtain ⟨above, below, hblocks, -⟩ := exists_blocks_eq h
  let write := fun block : List String => "\n\n\n" ++ joined "\n" block
  obtain ⟨rest, hrest⟩ : ∃ rest, String.join (below.map write) ++ "\n" = "\n" ++ rest := by
    cases below with
    | nil => exact ⟨"", rfl⟩
    | cons block below =>
      refine ⟨"\n\n" ++ joined "\n" block ++ (String.join (below.map write) ++ "\n"), ?_⟩
      have hnewlines : "\n\n\n" = "\n" ++ "\n\n" := by decide
      rw [List.map_cons, String.join_cons]
      simp only [write, hnewlines, String.append_assoc]
  refine ⟨joined "\n\n" t.headerSections ++ String.join (above.map write) ++ "\n\n", rest, ?_⟩
  have hnewlines : "\n\n\n" = "\n\n" ++ "\n" := by decide
  have hrender : t.render = joined "\n\n" t.headerSections
      ++ String.join ((above ++ f.blockLines :: below).map write) ++ "\n" := by
    unfold render
    rw [hblocks]
  rw [hrender, List.map_append, List.map_cons, String.join_append, String.join_cons]
  simp only [String.append_assoc] at hrest ⊢
  rw [hrest]
  simp only [write, hnewlines, String.append_assoc]

/-- The lines of statements in the middle of a function stand in the source of its module. -/
theorem ModuleText.standsIn_sourceLines {t : ModuleText} {f : FunctionText}
    (h : .function f ∈ t.parts) {before part after : List Statement}
    (hbody : f.body = before ++ part ++ after) (hafter : after.flatMap Statement.lines ≠ [])
    (hpart : part.flatMap Statement.sourceLines ≠ []) :
    StandsIn (part.flatMap Statement.sourceLines) t.render := by
  obtain ⟨above, below, habove, hbelow, hblock⟩ := FunctionText.exists_blockLines_eq hbody hafter
  obtain ⟨first, last, hrender⟩ := standsIn_blockLines h
  refine ⟨first ++ "\n" ++ joined "\n" above, joined "\n" below ++ "\n" ++ last, ?_⟩
  rw [hrender, hblock, joined_append _ (List.append_ne_nil_of_left_ne_nil habove _) hbelow,
    joined_append _ habove hpart]
  simp only [String.append_assoc]

/-! ### line ends -/

def Part.isFunction : Part → Bool
  | .function _ => true
  | .statement _ => false

theorem ModuleText.blocks_statements_append {sts : List Statement} {rest : List Part}
    (hne : sts ≠ []) (hrest : ∀ part ∈ rest.head?, part.isFunction = true) :
    blocks (sts.map .statement ++ rest) = sts.flatMap Statement.lines :: blocks rest := by
  induction sts with
  | nil => exact absurd rfl hne
  | cons st sts ih =>
    rw [List.map_cons, List.cons_append, blocks_statement, List.flatMap_cons]
    cases sts with
    | nil =>
      rw [List.flatMap_nil, List.append_nil]
      cases rest with
      | nil => rfl
      | cons part rest =>
        cases part with
        | function f => rfl
        | statement st' => cases hrest _ rfl
    | cons st' sts =>
      rw [ih nofun]
      rfl

theorem ModuleText.oneLine_of_mem_blocks {parts : List Part}
    (hparts : parts.all Part.isFunction = true) {block : List String}
    (hblock : block ∈ blocks parts) : ∀ line ∈ block, OneLine line := by
  induction parts with
  | nil => cases hblock
  | cons part rest ih =>
    rw [List.all_cons, Bool.and_eq_true] at hparts
    cases part with
    | statement st => cases hparts.1
    | function f =>
      rw [blocks_function, List.mem_cons] at hblock
      rcases hblock with heq | hblock
      · intro line hline
        rw [heq, FunctionText.blockLines] at hline
        exact oneLine_of_mem_lines hline
      · exact ih hparts.2 hblock

/-- In a module of functions, a line end other than a line feed can only stand above them. -/
theorem ModuleText.exists_section_of_mem_render {t : ModuleText} {c : Char}
    (hparts : t.parts.all Part.isFunction = true) (hend : isLineEnd c = true) (hne : c ≠ '\n')
    (h : c ∈ t.render.toList) : ∃ text ∈ t.headerSections, c ∈ text.toList := by
  have hone : c ∉ "\n".toList := by simp [hne]
  have htwo : c ∉ "\n\n".toList := by simp [hne]
  have hthree : c ∉ "\n\n\n".toList := by simp [hne]
  unfold render at h
  rw [String.toList_append, String.toList_append, List.mem_append, List.mem_append] at h
  rcases h with (h | h) | h
  · exact (mem_joined h).resolve_left htwo
  · obtain ⟨text, htext, hc⟩ := mem_join h
    obtain ⟨block, hblock, rfl⟩ := List.mem_map.mp htext
    rw [String.toList_append, List.mem_append] at hc
    obtain ⟨line, hline, hc⟩ := (mem_joined (hc.resolve_left hthree)).resolve_left hone
    have hfree := oneLine_of_mem_blocks hparts hblock line hline c hc
    rw [hend] at hfree
    cases hfree
  · exact absurd h hone

end RowMapping
