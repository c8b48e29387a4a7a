import Mathlib.Data.List.Chain
import RowMapping.Proofs.Imports.Lines
import RowMapping.Proofs.Source.Blocks

/-!
# The lines of a module

A module whose texts keep to their lines is written line by line: the docstring, the import lines,
and then the lines of its parts in blocks, each block two blank lines below what stands above it.

* `TypeName.oneLine_render`  the text of a type has no line end that its names do not have;
* `FunctionText.blockLines_eq`  the block of a function is its header and the lines below it;
* `exists_inBlocks`  statements next to each other share a block, a function has its own;
* `keepsLines_of_tidy`  all lines of a module, and the names on its import lines.
-/

namespace RowMapping
open RowMapping.Text

/-! ### texts that keep to their lines -/

/-- a type whose names have no line ends, at any depth -/
def TypeName.Tidy (t : TypeName) : Prop :=
  ∀ part ∈ t.parts, OneLine part.name ∧ OneLine part.module ∧ ∀ l ∈ part.localName, OneLine l

/-- code that starts and ends with other characters than line ends -/
structure TidyCode (code : String) : Prop where
  ne_empty : code ≠ ""
  first : ∀ c ∈ code.toList.head?, isLineEnd c = false
  last : ∀ c ∈ code.toList.getLast?, isLineEnd c = false

/-- Code may have lines of its own, but a typed local is one line. -/
def Statement.Tidy : Statement → Prop
  | assign a => OneLine a.name ∧ OneLine a.value ∧ ∀ c ∈ a.comment, OneLine c
  | st => TidyCode st.code

structure FunctionText.Tidy (f : FunctionText) : Prop where
  name : OneLine f.name
  parameters : ∀ p ∈ f.parameters, OneLine p.1
  doc : ∀ d ∈ f.doc, OneLine d
  body : ∀ st ∈ f.body, st.Tidy

def Part.Tidy : Part → Prop
  | .statement st => st.Tidy
  | .function f => f.Tidy

/-- a module whose texts have line ends only inside of code -/
structure ModuleText.Tidy (m : ModuleText) : Prop where
  doc : OneLine m.doc
  parts : ∀ p ∈ m.parts, p.Tidy
  types : ∀ p ∈ m.parts, ∀ t ∈ p.types, t.Tidy

/-! Whether a module is tidy can be computed. -/

instance (t : TypeName) : Decidable t.Tidy := inferInstanceAs (Decidable (∀ part ∈ t.parts, _))

instance (code : String) : Decidable (TidyCode code) :=
  decidable_of_iff (code ≠ "" ∧ code.toList.head?.all (!isLineEnd ·) = true ∧
      code.toList.getLast?.all (!isLineEnd ·) = true) <| by
    simp only [Option.all_eq_true, Bool.not_eq_true']
    exact ⟨fun ⟨hne, hfirst, hlast⟩ => ⟨hne, hfirst, hlast⟩,
      fun h => ⟨h.ne_empty, h.first, h.last⟩⟩

instance : (st : Statement) → Decidable st.Tidy
  | .plain code _ => inferInstanceAs (Decidable (TidyCode code))
  | .bind name value _ => inferInstanceAs (Decidable (TidyCode (name ++ " = " ++ value)))
  | .assign a => inferInstanceAs
      (Decidable (OneLine a.name ∧ OneLine a.value ∧ ∀ c ∈ a.comment, OneLine c))

instance (f : FunctionText) : Decidable f.Tidy :=
  decidable_of_iff (OneLine f.name ∧ (∀ p ∈ f.parameters, OneLine p.1) ∧
      (∀ d ∈ f.doc, OneLine d) ∧ ∀ st ∈ f.body, st.Tidy)
    ⟨fun ⟨hname, hparameters, hdoc, hbody⟩ => ⟨hname, hparameters, hdoc, hbody⟩,
      fun h => ⟨h.name, h.parameters, h.doc, h.body⟩⟩

instance : (p : Part) → Decidable p.Tidy
  | .statement st => inferInstanceAs (Decidable st.Tidy)
  | .function f => inferInstanceAs (Decidable f.Tidy)

instance (m : ModuleText) : Decidable m.Tidy :=
  decidable_of_iff (OneLine m.doc ∧ (∀ p ∈ m.parts, p.Tidy) ∧
      ∀ p ∈ m.parts, ∀ t ∈ p.types, t.Tidy)
    ⟨fun ⟨hdoc, hparts, htypes⟩ => ⟨hdoc, hparts, htypes⟩, fun h => ⟨h.doc, h.parts, h.types⟩⟩

/-! ### lines of blocks -/

/-- lines of which neither the first nor the last is blank -/
structure SetOff (block : List String) : Prop where
  ne_nil : block ≠ []
  first : block.head? ≠ some ""
  last : block.getLast? ≠ some ""

/-- the lines of a part: those of a statement, or the `def` line of a function and, below it and
indented, its docstring and its body, or a lone `...` -/
def Part.lines : Part → List String
  | .statement st => st.lines
  | .function f =>
    ("def " ++ f.name ++ "(" ++ joined ", " (f.parameters.map fun p => p.1 ++ ": " ++ p.2.render)
        ++ ") -> " ++ f.returns.render ++ ":")
      :: let below := ((present f.doc).toList.map fun d => "    " ++ ("\"\"\"" ++ d ++ "\"\"\""))
          ++ (f.body.flatMap Statement.lines).map fun line => "    " ++ line
        if below.isEmpty then ["    " ++ "..."] else below

/-- Parts cut into blocks: a function is a block, and so are statements next to each other. -/
structure InBlocks (parts : List Part) (groups : List (List Part)) : Prop where
  flatten : groups.flatten = parts
  kinds : ∀ g ∈ groups, (∃ f, g = [.function f]) ∨ g ≠ [] ∧ ∀ p ∈ g, p.isFunction = false
  apart : groups.IsChain fun g g' => ∃ p ∈ g ++ g', p.isFunction = true

namespace ModuleText

/-- the docstring, and for each imported module a line with its names -/
def headerLines (m : ModuleText) : List String :=
  ["\"\"\"" ++ m.doc ++ "\"\"\"", "", "from __future__ import annotations"]
    ++ if m.imports.isEmpty then []
      else "" :: m.imports.map fun line => "from " ++ line.1 ++ " import " ++ joined ", " line.2

/-- Nothing is lost in the text of a module: behind the header stand the lines of the parts, each
block two blank lines apart, and the import lines name in order what the parts import. -/
structure KeepsLines (m : ModuleText) : Prop where
  lines : ∃ groups, InBlocks m.parts groups ∧ (∀ g ∈ groups, SetOff (g.flatMap Part.lines)) ∧
    Text.lines m.render
      = m.headerLines ++ groups.flatMap fun g => "" :: "" :: g.flatMap Part.lines
  nonblank : ((Text.lines m.render).drop m.headerLines.length).filter (· ≠ "")
    = (m.parts.flatMap Part.lines).filter (· ≠ "")
  modules : (m.imports.map (·.1)).Pairwise (· < ·)
  names : ∀ line ∈ m.imports, line.2 ≠ [] ∧ line.2.Pairwise (· < ·)
  entries : ∀ entry, entry ∈ m.importEntries ↔
    ∃ p ∈ m.parts, ∃ t ∈ p.types, entry ∈ t.imports

end ModuleText

theorem SetOff.append {as bs : List String} (ha : SetOff as) (hb : SetOff bs) : SetOff (as ++ bs) where
  ne_nil := List.append_ne_nil_of_left_ne_nil ha.ne_nil _
  first := by
    obtain ⟨a, as, rfl⟩ := List.exists_cons_of_ne_nil ha.ne_nil
    exact ha.first
  last := by
    rw [List.getLast?_append_of_ne_nil _ hb.ne_nil]
    exact hb.last

theorem setOff_flatMap {g : List Part} (hne : g ≠ []) (h : ∀ p ∈ g, SetOff p.lines) :
    SetOff (g.flatMap Part.lines) := by
  induction g with
  | nil => exact absurd rfl hne
  | cons p rest ih =>
    obtain ⟨hp, hrest⟩ := List.forall_mem_cons.mp h
    rw [List.flatMap_cons]
    by_cases hnil : rest = []
    · rwa [hnil, List.flatMap_nil, List.append_nil]
    · exact hp.append (ih hnil hrest)

/-! ### types -/

namespace TypeName

theorem oneLine_writtenName {t : TypeName} (hname : OneLine t.name)
    (hlocal : ∀ l ∈ t.localName, OneLine l) : OneLine t.writtenName := by
  have hroot : OneLine (beforeDot t.name ++ fromDot t.name) := by
    rwa [beforeDot_append_fromDot]
  unfold writtenName
  cases hlocalName : t.localName with
  | none => exact hname
  | some l => exact oneLine_append_iff.mpr ⟨hlocal l hlocalName, (oneLine_append_iff.mp hroot).2⟩

theorem oneLine_compose {t : TypeName} {args : List String} (hname : OneLine t.name)
    (hlocal : ∀ l ∈ t.localName, OneLine l) (hargs : ∀ a ∈ args, OneLine a) :
    OneLine (t.compose args) := by
  have hwritten := oneLine_writtenName hname hlocal
  have hcommas : OneLine (joined ", " args) := oneLine_joined (by decide) hargs
  unfold compose
  split
  · simp only [oneLine_append_iff]
    exact ⟨⟨by decide, hcommas⟩, by decide⟩
  split
  · exact oneLine_joined (by decide) hargs
  split
  · exact hwritten
  · simp only [oneLine_append_iff]
    exact ⟨⟨⟨hwritten, by decide⟩, hcommas⟩, by decide⟩

theorem oneLine_render : ∀ {t : TypeName}, t.Tidy → OneLine t.render
  | ⟨name, module, args, nullable, localName⟩, h => by
    unfold Tidy at h
    rw [parts, partsAll_eq_flatMap, List.forall_mem_cons] at h
    obtain ⟨⟨hname, -, hlocal⟩, hargs⟩ := h
    have hall : ∀ text ∈ args.map render, OneLine text := by
      intro text htext
      obtain ⟨a, ha, rfl⟩ := List.mem_map.mp htext
      exact oneLine_render fun part hpart => hargs part (List.mem_flatMap.mpr ⟨a, ha, hpart⟩)
    rw [render, renderAll_eq_map, oneLine_append_iff]
    refine ⟨oneLine_compose hname hlocal hall, ?_⟩
    split <;> decide

end TypeName

/-! ### statements -/

theorem oneLine_commentText {comment : Option String} (h : ∀ c ∈ comment, OneLine c) :
    OneLine (commentText comment) := by
  unfold commentText
  cases hpresent : present comment with
  | none => exact fun c hc => by cases hc
  | some c =>
    have hc : c ∈ comment := (Option.filter_eq_some_iff.mp hpresent).1
    exact oneLine_append_iff.mpr ⟨by decide, h c hc⟩

namespace Statement
variable {st : Statement}

theorem oneLine_of_mem_lines (h : st.Tidy) (htypes : ∀ t ∈ st.types, t.Tidy) {line : String}
    (hline : line ∈ st.lines) : OneLine line := by
  cases st with
  | plain code types => exact Text.oneLine_of_mem_lines hline
  | bind name value types => exact Text.oneLine_of_mem_lines hline
  | assign a =>
    obtain ⟨hname, hvalue, hcomment⟩ := h
    have htype := TypeName.oneLine_render (htypes a.type List.mem_cons_self)
    rw [List.mem_singleton.mp hline, Assignment.code]
    simp only [oneLine_append_iff]
    exact ⟨⟨⟨⟨⟨hname, by decide⟩, htype⟩, by decide⟩, hvalue⟩, oneLine_commentText hcomment⟩

theorem setOff_lines (h : st.Tidy) : SetOff st.lines := by
  have hcode : ∀ {code : String}, TidyCode code → SetOff (Text.lines code) := fun hcode =>
    ⟨lines_ne_nil hcode.ne_empty, head?_lines hcode.first, getLast?_lines hcode.last⟩
  cases st with
  | plain code types => exact hcode h
  | bind name value types => exact hcode h
  | assign a =>
    have hne : a.code ≠ "" := by simp [Assignment.code]
    exact ⟨nofun, fun heq => hne (Option.some.inj heq), fun heq => hne (Option.some.inj heq)⟩

end Statement

/-! ### functions -/

namespace FunctionText
variable {f : FunctionText}

theorem oneLine_header (h : f.Tidy) (htypes : ∀ t ∈ f.types, t.Tidy) : OneLine f.header := by
  have hparameters : ∀ text ∈ f.parameters.map parameterText, OneLine text := by
    intro text htext
    obtain ⟨p, hp, rfl⟩ := List.mem_map.mp htext
    have htype : p.2 ∈ f.types := List.mem_append_left _ (List.mem_map_of_mem hp)
    simp only [parameterText, oneLine_append_iff]
    exact ⟨⟨h.parameters p hp, by decide⟩, TypeName.oneLine_render (htypes _ htype)⟩
  have hreturns : f.returns ∈ f.types := List.mem_append_right _ List.mem_cons_self
  simp only [header, oneLine_append_iff]
  exact ⟨⟨⟨⟨⟨⟨by decide, h.name⟩, by decide⟩, oneLine_joined (by decide) hparameters⟩, by decide⟩,
    TypeName.oneLine_render (htypes _ hreturns)⟩, by decide⟩

theorem exists_indent_of_mem_bodyLines {line : String} (h : line ∈ f.bodyLines) :
    ∃ text, line = indent text ∧ (text = "..." ∨ (∃ d ∈ f.doc, text = "\"\"\"" ++ d ++ "\"\"\"") ∨
      ∃ st ∈ f.body, text ∈ st.lines) := by
  dsimp only [bodyLines] at h
  split at h
  · exact ⟨_, List.mem_singleton.mp h, .inl rfl⟩
  rcases List.mem_append.mp h with h | h
  · unfold docLines at h
    split at h
    next d hd =>
      have hdoc : d ∈ f.doc := (Option.filter_eq_some_iff.mp hd).1
      exact ⟨_, List.mem_singleton.mp h, .inr (.inl ⟨d, hdoc, rfl⟩)⟩
    next => cases h
  · obtain ⟨text, htext, rfl⟩ := List.mem_map.mp h
    exact ⟨text, rfl, .inr (.inr (List.mem_flatMap.mp htext))⟩

theorem oneLine_of_mem_bodyLines (h : f.Tidy) (htypes : ∀ t ∈ f.types, t.Tidy) {line : String}
    (hline : line ∈ f.bodyLines) : OneLine line := by
  obtain ⟨text, rfl, htext⟩ := exists_indent_of_mem_bodyLines hline
  refine oneLine_append_iff.mpr ⟨by decide, ?_⟩
  rcases htext with rfl | ⟨d, hd, rfl⟩ | ⟨st, hst, htext⟩
  · decide
  · simp only [oneLine_append_iff]
    exact ⟨⟨by decide, h.doc d hd⟩, by decide⟩
  · refine Statement.oneLine_of_mem_lines (h.body st hst) (fun t ht => htypes t ?_) htext
    exact List.mem_append_right _ (List.mem_cons_of_mem _ (List.mem_flatMap.mpr ⟨st, hst, ht⟩))

theorem setOff_lines (f : FunctionText) : SetOff (f.header :: f.bodyLines) where
  ne_nil := nofun
  first heq := by
    have hne : f.header ≠ "" := by simp [header]
    exact hne (Option.some.inj heq)
  last heq := by
    have hbody : f.bodyLines ≠ [] := by
      dsimp only [bodyLines]
      split
      · exact nofun
      next hlines => exact fun hnil => hlines (List.isEmpty_iff.mpr hnil)
    rw [List.getLast?_cons_of_ne_nil hbody] at heq
    obtain ⟨text, htext, -⟩ := exists_indent_of_mem_bodyLines (List.mem_of_getLast? heq)
    simp [indent] at htext

/-- The text of a function, without the line feed at its end, is cut into its own lines again. -/
theorem blockLines_eq (h : f.Tidy) (htypes : ∀ t ∈ f.types, t.Tidy) :
    f.blockLines = f.header :: f.bodyLines := by
  have honeLine : ∀ line ∈ f.header :: f.bodyLines, OneLine line :=
    List.forall_mem_cons.mpr
      ⟨oneLine_header h htypes, fun _ hline => oneLine_of_mem_bodyLines h htypes hline⟩
  rw [blockLines, render, joined_newline (List.cons_ne_nil _ _)]
  exact lines_dropFinalNewlines_unlines honeLine (setOff_lines f).last

end FunctionText

namespace Part
variable {p : Part}

theorem lines_function (f : FunctionText) : lines (.function f) = f.header :: f.bodyLines := by
  unfold FunctionText.bodyLines FunctionText.docLines
  cases hdoc : present f.doc <;> simp only [lines, hdoc] <;> rfl

theorem oneLine_of_mem_lines (h : p.Tidy) (htypes : ∀ t ∈ p.types, t.Tidy) {line : String}
    (hline : line ∈ p.lines) : OneLine line := by
  cases p with
  | statement st => exact Statement.oneLine_of_mem_lines h htypes hline
  | function f =>
    rw [lines_function] at hline
    rcases List.mem_cons.mp hline with rfl | hline
    · exact FunctionText.oneLine_header h htypes
    · exact FunctionText.oneLine_of_mem_bodyLines h htypes hline

theorem setOff_lines (h : p.Tidy) : SetOff p.lines := by
  cases p with
  | statement st => exact Statement.setOff_lines h
  | function f =>
    rw [lines_function]
    exact f.setOff_lines

end Part

/-! ### blocks -/

namespace InBlocks
variable {parts : List Part} {groups : List (List Part)}

theorem exists_cons {p : Part} (h : InBlocks (p :: parts) groups) :
    ∃ g rest, groups = (p :: g) :: rest := by
  cases groups with
  | nil => cases h.flatten
  | cons g rest =>
    cases g with
    | nil =>
      rcases h.kinds [] List.mem_cons_self with ⟨f, hf⟩ | ⟨hne, -⟩
      · cases hf
      · exact absurd rfl hne
    | cons q g =>
      cases h.flatten
      exact ⟨g, rest, rfl⟩

theorem cons_function (h : InBlocks parts groups) (f : FunctionText) :
    InBlocks (.function f :: parts) ([.function f] :: groups) where
  flatten := by rw [List.flatten_cons, h.flatten, List.singleton_append]
  kinds := List.forall_mem_cons.mpr ⟨.inl ⟨f, rfl⟩, h.kinds⟩
  apart := List.isChain_cons.mpr ⟨fun _ _ => ⟨_, List.mem_cons_self, rfl⟩, h.apart⟩

theorem cons_statement (h : InBlocks parts groups) (st : Statement)
    (hnext : ∀ p ∈ parts.head?, p.isFunction = true) :
    InBlocks (.statement st :: parts) ([.statement st] :: groups) where
  flatten := by rw [List.flatten_cons, h.flatten, List.singleton_append]
  kinds := List.forall_mem_cons.mpr
    ⟨.inr ⟨nofun, List.forall_mem_singleton.mpr rfl⟩, h.kinds⟩
  apart := by
    refine List.isChain_cons.mpr ⟨fun g hg => ?_, h.apart⟩
    cases parts with
    | nil =>
      obtain ⟨rest, rfl⟩ : ∃ rest, groups = g :: rest := ⟨_, List.eq_cons_of_mem_head? hg⟩
      have hnil := List.append_eq_nil_iff.mp h.flatten
      rcases h.kinds g List.mem_cons_self with ⟨f, rfl⟩ | ⟨hne, -⟩
      · cases hnil.1
      · exact absurd hnil.1 hne
    | cons p parts =>
      obtain ⟨g', rest, rfl⟩ := h.exists_cons
      cases hg
      exact ⟨p, List.mem_cons_of_mem _ List.mem_cons_self, hnext p rfl⟩

theorem cons_cons_statement {st' : Statement} {g : List Part}
    (h : InBlocks (.statement st' :: parts) ((.statement st' :: g) :: groups)) (st : Statement) :
    InBlocks (.statement st :: .statement st' :: parts)
      ((.statement st :: .statement st' :: g) :: groups) := by
  obtain ⟨hgroup, hgroups⟩ := List.forall_mem_cons.mp h.kinds
  obtain ⟨hfirst, hrest⟩ := List.isChain_cons.mp h.apart
  have hflatten := congrArg (List.cons (Part.statement st)) h.flatten
  have hstatements : ∀ p ∈ Part.statement st :: .statement st' :: g, p.isFunction = false := by
    rcases hgroup with ⟨f, hf⟩ | ⟨-, hall⟩
    · cases hf
    · exact List.forall_mem_cons.mpr ⟨rfl, hall⟩
  refine ⟨hflatten, List.forall_mem_cons.mpr ⟨.inr ⟨nofun, hstatements⟩, hgroups⟩,
    List.isChain_cons.mpr ⟨fun g' hg' => ?_, hrest⟩⟩
  obtain ⟨p, hp, hfunction⟩ := hfirst g' hg'
  exact ⟨p, List.mem_cons_of_mem _ hp, hfunction⟩

end InBlocks

/-- The lines of a module stand in blocks: a function is a block of its own, and statements next to
each other share one. -/
theorem exists_inBlocks {parts : List Part}
    (h : ∀ f, .function f ∈ parts → f.blockLines = f.header :: f.bodyLines) :
    ∃ groups, InBlocks parts groups ∧
      ModuleText.blocks parts = groups.map fun g => g.flatMap Part.lines := by
  induction parts with
  | nil => exact ⟨[], ⟨rfl, nofun, .nil⟩, rfl⟩
  | cons p rest ih =>
    obtain ⟨groups, hgroups, hblocks⟩ := ih fun f hf => h f (List.mem_cons_of_mem _ hf)
    cases p with
    | function f =>
      refine ⟨_, hgroups.cons_function f, ?_⟩
      rw [ModuleText.blocks_function, hblocks, h f List.mem_cons_self, List.map_cons,
        List.flatMap_singleton, Part.lines_function]
    | statement st =>
      rw [ModuleText.blocks_statement, hblocks]
      have halone : (∀ p ∈ rest.head?, p.isFunction = true) →
          ModuleText.addStatement st.lines rest (groups.map fun g => g.flatMap Part.lines)
            = ([.statement st] :: groups).map fun g => g.flatMap Part.lines := by
        intro hnext
        rw [List.map_cons, List.flatMap_singleton]
        match rest, hnext with
        | [], _ => rfl
        | .function f :: rest, _ => rfl
        | .statement st' :: rest, hnext => cases hnext _ rfl
      match rest, hgroups, halone with
      | [], hgroups, halone => exact ⟨_, hgroups.cons_statement st nofun, halone nofun⟩
      | .function f :: rest, hgroups, halone =>
        have hnext : ∀ p ∈ (Part.function f :: rest).head?, p.isFunction = true := by
          rintro p ⟨⟩
          rfl
        exact ⟨_, hgroups.cons_statement st hnext, halone hnext⟩
      | .statement st' :: rest, hgroups, _ =>
        obtain ⟨g, groups, rfl⟩ := hgroups.exists_cons
        exact ⟨_, hgroups.cons_cons_statement st, rfl⟩

/-! ### modules -/

namespace ModuleText
variable {m : ModuleText}

theorem headerLines_eq (m : ModuleText) : m.headerLines
    = ["\"\"\"" ++ m.doc ++ "\"\"\"", "", "from __future__ import annotations"]
      ++ if m.imports.isEmpty then [] else "" :: m.imports.map importLine := rfl

theorem joined_headerSections (m : ModuleText) :
    joined "\n\n" m.headerSections ++ "\n" = unlines m.headerLines := by
  have htwo : "\n\n" = "\n" ++ "\n" := by decide
  rw [headerSections, headerLines_eq]
  cases himports : m.imports with
  | nil =>
    simp only [List.isEmpty_nil, if_true, List.append_nil, joined_cons_cons, joined_singleton,
      unlines_cons, unlines_nil, htwo, String.append_assoc, String.append_empty, String.empty_append]
  | cons entry rest =>
    have hlines : joined "\n" ((entry :: rest).map importLine) ++ "\n"
        = unlines ((entry :: rest).map importLine) := joined_newline (List.cons_ne_nil _ _)
    simp only [List.isEmpty_cons, Bool.false_eq_true, if_false, List.cons_append, List.nil_append,
      joined_cons_cons, joined_singleton, unlines_cons, htwo, String.append_assoc,
      String.empty_append]
    rw [hlines]

/-- blocks stand two blank lines below each other -/
theorem join_blocks {blocks : List (List String)} (h : ∀ block ∈ blocks, block ≠ []) :
    String.join (blocks.map fun block => "\n\n\n" ++ joined "\n" block) ++ "\n"
      = "\n" ++ unlines (blocks.flatMap fun block => "" :: "" :: block) := by
  have hthree : "\n\n\n" = "\n" ++ "\n" ++ "\n" := by decide
  induction blocks with
  | nil => rfl
  | cons block rest ih =>
    obtain ⟨hblock, hrest⟩ := List.forall_mem_cons.mp h
    rw [List.map_cons, String.join_cons, List.flatMap_cons, List.cons_append, List.cons_append,
      unlines_cons, unlines_cons, unlines_append, ← joined_newline hblock, String.append_assoc,
      ih hrest]
    simp only [hthree, String.append_assoc, String.empty_append]

theorem oneLine_of_mem_headerLines (h : m.Tidy) {line : String} (hline : line ∈ m.headerLines) :
    OneLine line := by
  have hentry : ∀ entry ∈ m.importEntries, OneLine entry.1 ∧ OneLine entry.2 := by
    intro entry hentry
    obtain ⟨i, hi, rfl⟩ := mem_importEntries.mp hentry
    obtain ⟨p, hp, hi⟩ := List.mem_flatMap.mp hi
    obtain ⟨t, ht, hi⟩ := List.mem_flatMap.mp hi
    obtain ⟨part, hpart, rfl⟩ := List.mem_map.mp hi
    obtain ⟨hname, hmodule, hlocal⟩ := h.types p hp t ht part (List.mem_filter.mp hpart).1
    have hroot : OneLine (beforeDot part.name ++ fromDot part.name) := by
      rwa [beforeDot_append_fromDot]
    obtain ⟨hroot, -⟩ := oneLine_append_iff.mp hroot
    unfold TypeName.ownImport Import.entry
    cases hl : part.localName with
    | none => exact ⟨hmodule, hroot⟩
    | some l =>
      refine ⟨hmodule, ?_⟩
      simp only [oneLine_append_iff]
      exact ⟨⟨hroot, by decide⟩, hlocal l hl⟩
  have himport : ∀ line ∈ m.imports, OneLine (importLine line) := by
    intro line hmem
    have hnames : ∀ name ∈ line.2, OneLine line.1 ∧ OneLine name := fun name hname =>
      hentry (line.1, name) (List.mem_flatMap.mpr ⟨line, hmem, List.mem_map_of_mem hname⟩)
    obtain ⟨name, hname⟩ := List.exists_mem_of_ne_nil _ (names_of_mem_imports hmem).1
    simp only [importLine, oneLine_append_iff]
    exact ⟨⟨⟨by decide, (hnames name hname).1⟩, by decide⟩,
      oneLine_joined (by decide) fun name hname => (hnames name hname).2⟩
  rcases List.mem_append.mp hline with hline | hline
  · have hdoc : OneLine ("\"\"\"" ++ m.doc ++ "\"\"\"") := by
      simp only [oneLine_append_iff]
      exact ⟨⟨by decide, h.doc⟩, by decide⟩
    have hfixed : ∀ line ∈ ["", "from __future__ import annotations"], OneLine line := by decide
    exact List.forall_mem_cons.mpr ⟨hdoc, hfixed⟩ line hline
  · split at hline
    · cases hline
    · rcases List.mem_cons.mp hline with rfl | hline
      · decide
      · obtain ⟨entry, hmem, rfl⟩ := List.mem_map.mp hline
        exact himport entry hmem

/-- The lines of a module whose texts keep to their lines: the header, and behind it, two blank
lines apart, the lines of every block. -/
theorem lines_render (h : m.Tidy) {groups : List (List Part)} (hgroups : InBlocks m.parts groups)
    (hblocks : blocks m.parts = groups.map fun g => g.flatMap Part.lines)
    (hsetOff : ∀ g ∈ groups, SetOff (g.flatMap Part.lines)) :
    Text.lines m.render
      = m.headerLines ++ groups.flatMap fun g => "" :: "" :: g.flatMap Part.lines := by
  have hne : ∀ block ∈ groups.map fun g => g.flatMap Part.lines, block ≠ [] :=
    List.forall_mem_map.mpr fun g hg => (hsetOff g hg).ne_nil
  have hrender : m.render = unlines
      (m.headerLines ++ groups.flatMap fun g => "" :: "" :: g.flatMap Part.lines) := by
    rw [render, hblocks, String.append_assoc, join_blocks hne, ← String.append_assoc,
      joined_headerSections, ← unlines_append, List.flatMap_map]
  rw [hrender]
  refine lines_unlines fun line hline => ?_
  rcases List.mem_append.mp hline with hline | hline
  · exact oneLine_of_mem_headerLines h hline
  obtain ⟨g, hg, hline⟩ := List.mem_flatMap.mp hline
  rcases List.mem_cons.mp hline with rfl | hline
  · decide
  rcases List.mem_cons.mp hline with rfl | hline
  · decide
  obtain ⟨p, hp, hline⟩ := List.mem_flatMap.mp hline
  have hmem : p ∈ m.parts := hgroups.flatten ▸ List.mem_flatten.mpr ⟨g, hg, hp⟩
  exact Part.oneLine_of_mem_lines (h.parts p hmem) (h.types p hmem) hline

/-- In the text of a module whose texts keep to their lines nothing is lost. -/
theorem keepsLines_of_tidy (h : m.Tidy) : m.KeepsLines := by
  obtain ⟨groups, hgroups, hblocks⟩ := exists_inBlocks fun f hf =>
    FunctionText.blockLines_eq (h.parts _ hf) (h.types _ hf)
  have hsetOff : ∀ g ∈ groups, SetOff (g.flatMap Part.lines) := by
    intro g hg
    have hne : g ≠ [] := by
      rcases hgroups.kinds g hg with ⟨f, rfl⟩ | ⟨hne, -⟩
      · exact nofun
      · exact hne
    exact setOff_flatMap hne fun p hp => Part.setOff_lines
      (h.parts p (hgroups.flatten ▸ List.mem_flatten.mpr ⟨g, hg, hp⟩))
  have hlines := lines_render h hgroups hblocks hsetOff
  refine ⟨⟨groups, hgroups, hsetOff, hlines⟩, ?_, pairwise_imports m,
    fun line hline => names_of_mem_imports hline, fun entry => ?_⟩
  · rw [hlines, List.drop_left, ← hgroups.flatten, ← List.flatMap_id, List.flatMap_assoc,
      List.filter_flatMap, List.filter_flatMap]
    rfl
  · rw [mem_importEntries]
    constructor
    · rintro ⟨i, hi, rfl⟩
      obtain ⟨p, hp, hi⟩ := List.mem_flatMap.mp hi
      obtain ⟨t, ht, hi⟩ := List.mem_flatMap.mp hi
      exact ⟨p, hp, t, ht, List.mem_map_of_mem hi⟩
    · rintro ⟨p, hp, t, ht, hentry⟩
      obtain ⟨i, hi, rfl⟩ := List.mem_map.mp hentry
      exact ⟨i, List.mem_flatMap.mpr ⟨p, hp, List.mem_flatMap.mpr ⟨t, ht, hi⟩⟩, rfl⟩

/-- a module with a binding, a table of two lines with a blank one between them, and two functions -/
def loading : ModuleText :=
  { doc := "Rows of users."
    parts := [
      .statement (.bind "codec" "Codec_()"
        [{ name := "Codec", module := "app.codecs", localName := some "Codec_" }]),
      .statement (.plain "LIMITS = \x7b\n\n\x7d" [{ name := "Limit", module := "app" }]),
      .function
        { name := "load"
          parameters := [("row", { name := "Row", module := "app", nullable := true })]
          returns := { name := "User", module := "app" }
          doc := some "Read one."
          body := [.assign { type := .int, name := "id", value := "1" },
            .plain "if row:\n    id = 2\nreturn User(id)" []] },
      .function { name := "skip", parameters := [], returns := .noneType }] }

/-- the table and the functions come out line by line, and the imports in order -/
theorem keepsLines_loading : loading.Tidy ∧
    (Text.lines loading.render).take 6 =
      ["\"\"\"Rows of users.\"\"\"", "", "from __future__ import annotations", "",
        "from app import Limit, Row, User", "from app.codecs import Codec as Codec_"] ∧
    ((Text.lines loading.render).drop 6).filter (· ≠ "") =
      ["codec = Codec_()", "LIMITS = \x7b", "\x7d", "def load(row: Row | None) -> User:",
        "    \"\"\"Read one.\"\"\"", "    id: int = 1", "    if row:", "        id = 2",
        "    return User(id)", "def skip() -> None:", "    ..."] ∧
    (loading.imports.map (·.1)).Pairwise (· < ·) ∧
    ("app.codecs", "Codec as Codec_") ∈ loading.importEntries := by
  have htidy : loading.Tidy := by decide +kernel
  have hkeeps := keepsLines_of_tidy htidy
  have hlength : loading.headerLines.length = 6 := by decide +kernel
  obtain ⟨_, -, -, hlines⟩ := hkeeps.lines
  refine ⟨htidy, ?_, ?_, hkeeps.modules, (hkeeps.entries _).mpr ⟨_, List.mem_cons_self, _,
    List.mem_cons_self, ?_⟩⟩
  · rw [hlines, ← hlength, List.take_left]
    decide +kernel
  · rw [← hlength, hkeeps.nonblank]
    decide +kernel
  · decide +kernel

end ModuleText
end RowMapping
