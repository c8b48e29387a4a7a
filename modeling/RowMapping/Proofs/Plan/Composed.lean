import RowMapping.Proofs.Plan.Calls
import RowMapping.Proofs.Plan.Suggested
import RowMapping.Proofs.Text.LanguageNames

/-!
# Plans of more properties

A plan meets the faults of its properties, so properties can be mapped together exactly if their
parts can be mapped.  Where moreover the identifiers of all suggested names are different and no
keywords, the plan for them all is put together from the plans for the parts: no name depends on
what was named before.

* `ReadsAsSuggested`, `WritesAsSuggested`  how a property is read and written by itself;
* `readPlan_of_room`, `writePlan_of_room`  each property of a plan is read and written like this;
* `plans_compose`  so plans are put together as their properties are.
-/

namespace RowMapping
open RowMapping.Text NameSupply

namespace Mapping
variable {m : Mapping} {p : Property} {ps qs : List Property} {byKeyword : Bool}

/-! ### properties by themselves -/

/-- what reads a property where all names are as suggested -/
structure ReadsAsSuggested (m : Mapping) (byKeyword : Bool) (p : Property) (g : PropertyReading) :
    Prop where
  property : g.property = p
  argument : g.argument = argumentFor byKeyword p (toIdentifier p.name)
  reads : ∃ (way : ReadWay) (classes : List ClassRef), p.readWay = .ok way ∧
    m.Reads (classes.map m.adapterNamed) (toIdentifier m.settings.cursorParam)
      (toIdentifier p.name) p way g.statements
  own : ∀ n ∈ g.ownLocals, n = toIdentifier (indexSuggestion p)

/-- what writes a property where all names are as suggested -/
structure WritesAsSuggested (m : Mapping) (p : Property) (g : PropertyWriting) : Prop where
  property : g.property = p
  writes : ∃ classes : List ClassRef, m.Writes (classes.map m.adapterNamed)
    (toIdentifier m.settings.valueParam) (toIdentifier m.settings.valuesVar) p g.statements
  own : ∀ n ∈ g.ownLocals, n = toIdentifier (factorySuggestion p)

/-- whatever other classes are bound, a class has the binding that is suggested for it -/
theorem eq_adapterNamed {classes : List ClassRef} {cls : ClassRef} {b : AdapterBinding}
    (h : (classes.map m.adapterNamed).find? (·.cls = cls) = some b) : b = m.adapterNamed cls := by
  have hcls := List.find?_some h
  obtain ⟨c, -, rfl⟩ := List.mem_map.mp (List.mem_of_find?_eq_some h)
  obtain rfl : c = cls := of_decide_eq_true hcls
  rfl

variable {classes classes' : List ClassRef}

theorem Reads.unique {cursor name index : String} {way : ReadWay}
    {statements statements' : List Assignment}
    (h : m.Reads (classes.map m.adapterNamed) cursor name p way statements)
    (h' : m.Reads (classes'.map m.adapterNamed) cursor name p way statements')
    (hown : ∀ n ∈ statements.dropLast.map (·.name), n = index)
    (hown' : ∀ n ∈ statements'.dropLast.map (·.name), n = index) : statements = statements' := by
  cases h with
  | adapter hfind =>
    cases h' with
    | adapter hfind' => rw [eq_adapterNamed hfind, eq_adapterNamed hfind']
  | cell hvalue =>
    cases h' with
    | cell hvalue' => rw [Except.ok.inj (hvalue.symm.trans hvalue')]
  | optionalCell haccess =>
    cases h' with
    | optionalCell haccess' =>
      obtain rfl := hown _ List.mem_cons_self
      obtain rfl := hown' _ List.mem_cons_self
      rw [Except.ok.inj (haccess.symm.trans haccess')]
  | absent =>
    cases h' with
    | absent => rfl

theorem Writes.unique {value values own : String} {statements statements' : List Statement}
    (h : m.Writes (classes.map m.adapterNamed) value values p statements)
    (h' : m.Writes (classes'.map m.adapterNamed) value values p statements')
    (hown : ∀ n ∈ statements.filterMap (·.boundName?), n = own)
    (hown' : ∀ n ∈ statements'.filterMap (·.boundName?), n = own) : statements = statements' := by
  cases h with
  | factory hconversion hmethod =>
    cases h' with
    | factory hconversion' hmethod' =>
      cases hconversion.symm.trans hconversion'
      cases hmethod.symm.trans hmethod'
      obtain rfl := hown _ List.mem_cons_self
      obtain rfl := hown' _ List.mem_cons_self
      rfl
    | adapter hconversion' => cases hconversion.symm.trans hconversion'
    | native hconversion' => cases hconversion.symm.trans hconversion'
  | adapter hconversion hfind =>
    cases h' with
    | factory hconversion' => cases hconversion.symm.trans hconversion'
    | adapter hconversion' hfind' =>
      cases hconversion.symm.trans hconversion'
      rw [eq_adapterNamed hfind, eq_adapterNamed hfind']
    | native hconversion' => cases hconversion.symm.trans hconversion'
  | native hconversion _ hput =>
    cases h' with
    | factory hconversion' => cases hconversion.symm.trans hconversion'
    | adapter hconversion' => cases hconversion.symm.trans hconversion'
    | native _ _ hput' => rw [Except.ok.inj (hput.symm.trans hput')]

theorem rightUnique_readsAsSuggested : Relator.RightUnique (m.ReadsAsSuggested byKeyword) := by
  intro p g k hg hk
  obtain ⟨way, classes, hway, hreads⟩ := hg.reads
  obtain ⟨way', classes', hway', hreads'⟩ := hk.reads
  obtain rfl : way = way' := Except.ok.inj (hway.symm.trans hway')
  have hproperty : g.property = k.property := hg.property.trans hk.property.symm
  have hargument : g.argument = k.argument := hg.argument.trans hk.argument.symm
  have hstatements : g.statements = k.statements := hreads.unique hreads' hg.own hk.own
  cases g
  cases k
  cases hproperty
  cases hargument
  cases hstatements
  rfl

theorem rightUnique_writesAsSuggested : Relator.RightUnique m.WritesAsSuggested := by
  intro p g k hg hk
  obtain ⟨classes, hwrites⟩ := hg.writes
  obtain ⟨classes', hwrites'⟩ := hk.writes
  have hproperty : g.property = k.property := hg.property.trans hk.property.symm
  have hstatements : g.statements = k.statements := hwrites.unique hwrites' hg.own hk.own
  cases g
  cases k
  cases hproperty
  cases hstatements
  rfl

/-! ### what is suggested -/

/-- all that a read plan may suggest -/
def readSuggestions (m : Mapping) (ps : List Property) : List String :=
  m.settings.cursorParam
    :: (ps.map (·.name) ++ ((adapterClasses ps).map m.adapterSuggestion ++ ps.map indexSuggestion))

/-- all that a write plan may suggest -/
def writeSuggestions (m : Mapping) (ps : List Property) : List String :=
  m.settings.valueParam :: m.settings.valuesVar
    :: ((adapterClasses ps).map m.adapterSuggestion ++ ps.map factorySuggestion)

/-- the identifiers of suggestions are different, and no keywords -/
structure DistinctNames (suggestions : List String) : Prop where
  nodup : (suggestions.map toIdentifier).Nodup
  not_keyword : ∀ n ∈ suggestions, isKeyword (toIdentifier n) = false

/-- different names of word characters are their own identifiers -/
theorem DistinctNames.of_languageNames {suggestions : List String} (hnodup : suggestions.Nodup)
    (hnames : ∀ n ∈ suggestions,
      isLanguageName n = true ∧ n.toList.all isWordChar = true ∧ isKeyword n = false) :
    DistinctNames suggestions := by
  have hself : ∀ n ∈ suggestions, toIdentifier n = n := fun n hn =>
    toIdentifier_of_isLanguageName (hnames n hn).1 (List.all_eq_true.mp (hnames n hn).2.1)
  refine ⟨?_, fun n hn => ?_⟩
  · rwa [List.map_congr_left hself, List.map_id']
  · rw [hself n hn]
    exact (hnames n hn).2.2

theorem DistinctNames.roomFor {suggestions some : List String} (h : DistinctNames suggestions)
    (hsub : some.Subperm suggestions) : empty.RoomFor some :=
  (roomFor_empty h.nodup h.not_keyword).subperm hsub

theorem subperm_adapterSuggestions (h : ps.Sublist qs) :
    ((adapterClasses ps).map m.adapterSuggestion).Subperm
      ((adapterClasses qs).map m.adapterSuggestion) := by
  have hsubset : adapterClasses ps ⊆ adapterClasses qs := by
    intro cls hcls
    obtain ⟨p, hp, hadapter⟩ := mem_adapterClasses.mp hcls
    exact mem_adapterClasses.mpr ⟨p, h.mem hp, hadapter⟩
  obtain ⟨some, hperm, hsub⟩ := (nodup_eraseDups _).subperm hsubset
  exact ⟨some.map m.adapterSuggestion, hperm.map _, hsub.map _⟩

theorem subperm_readSuggestions (h : ps.Sublist qs) :
    (m.readSuggestions ps).Subperm (m.readSuggestions qs) :=
  (List.subperm_cons _).mpr ((h.map _).subperm.append
    ((subperm_adapterSuggestions h).append (h.map _).subperm))

theorem subperm_writeSuggestions (h : ps.Sublist qs) :
    (m.writeSuggestions ps).Subperm (m.writeSuggestions qs) :=
  (List.subperm_cons _).mpr ((List.subperm_cons _).mpr
    ((subperm_adapterSuggestions h).append (h.map _).subperm))

/-! ### plans by themselves -/

/-- a plan whose suggestions have room reads each property as it is read by itself -/
theorem readPlan_of_room {target : TypeName} {plan : ReadPlan}
    (hroom : empty.RoomFor (m.readSuggestions ps))
    (h : (m.readPlan target byKeyword none ps).runFresh = .ok plan) :
    plan.adapters = (adapterClasses ps).map m.adapterNamed ∧
      List.Forall₂ (m.ReadsAsSuggested byKeyword) ps plan.readings := by
  obtain ⟨cursor, s₁, hcursor, h⟩ := Naming.runFrom_bind_eq_ok.mp (Prod.ext h rfl)
  obtain ⟨_, s₂, hlocals, h⟩ := Naming.runFrom_bind_eq_ok.mp h
  obtain ⟨bindings, s₃, hbindings, h⟩ := Naming.runFrom_bind_eq_ok.mp h
  obtain ⟨readings, s₄, hreadings, hpure⟩ := Naming.runFrom_bind_eq_ok.mp h
  obtain ⟨rfl, -⟩ := Naming.runFrom_pure_eq_ok.mp hpure
  obtain ⟨rfl, hgranted, hroom₁⟩ := Naming.nameFor_of_room hroom rfl hcursor
  have hnew : ∀ p ∈ ps, s₁.find? (.property p.name) = none := fun _ _ =>
    hgranted.find?_of_tagged nofun
  obtain ⟨hnamed, hroom₂⟩ := nameLocals_of_room hroom₁ hnew hlocals
  have hgranted₃ := (m.granted_resolve hbindings).1
  obtain ⟨rfl, hroom₃⟩ := m.resolve_of_room hroom₂ hbindings
  have hnamed₃ : ∀ p ∈ ps, s₃.localOf p = toIdentifier p.name := fun p hp =>
    (hgranted₃.hasLocal (hasLocal_of_nameLocals hlocals p hp)).2.trans (hnamed p hp)
  have hreads := (m.forall₂_readAll hreadings).1
  have hown := m.readAll_of_room hroom₃ hnamed₃ hreadings
  refine ⟨rfl, forall₂_imp_of_mem (forall₂_and hreads hown) fun p hp g _ hg => ?_⟩
  obtain ⟨⟨hproperty, -, hargument, way, hway, hstatements⟩, hown⟩ := hg
  rw [hnamed₃ p hp] at hargument hstatements
  exact ⟨hproperty, hargument, ⟨way, _, hway, hstatements⟩, hown⟩

theorem writePlan_of_room {plan : WritePlan} (hroom : empty.RoomFor (m.writeSuggestions ps))
    (h : (m.writePlan none ps).runFresh = .ok plan) :
    plan.adapters = (adapterClasses ps).map m.adapterNamed ∧
      List.Forall₂ m.WritesAsSuggested ps plan.writings := by
  obtain ⟨value, s₁, hvalue, h⟩ := Naming.runFrom_bind_eq_ok.mp (Prod.ext h rfl)
  obtain ⟨values, s₂, hvalues, h⟩ := Naming.runFrom_bind_eq_ok.mp h
  obtain ⟨bindings, s₃, hbindings, h⟩ := Naming.runFrom_bind_eq_ok.mp h
  obtain ⟨writings, s₄, hwritings, hpure⟩ := Naming.runFrom_bind_eq_ok.mp h
  obtain ⟨rfl, -⟩ := Naming.runFrom_pure_eq_ok.mp hpure
  obtain ⟨rfl, hgranted, hroom₁⟩ := Naming.nameFor_of_room hroom rfl hvalue
  have hnew : s₁.find? (.role .values) = none := hgranted.find?_of_tagged nofun
  obtain ⟨rfl, -, hroom₂⟩ := Naming.nameFor_of_room hroom₁ hnew hvalues
  obtain ⟨rfl, hroom₃⟩ := m.resolve_of_room hroom₂ hbindings
  have hwrites := (m.forall₂_writeAll hwritings).1
  have hown := m.writeAll_of_room hroom₃ hwritings
  refine ⟨rfl, (forall₂_and hwrites hown).imp fun p g hg => ?_⟩
  obtain ⟨⟨hproperty, hstatements⟩, hown⟩ := hg
  exact ⟨hproperty, ⟨_, hstatements⟩, hown⟩

/-! ### plans of two parts -/

theorem adapterClasses_append (ps qs : List Property) :
    adapterClasses (ps ++ qs) = adapterClasses ps
      ++ (adapterClasses qs).filter fun cls => !(adapterClasses ps).contains cls := by
  unfold adapterClasses
  rw [List.filterMap_append, eraseDups_append_eq]
  congr 1
  refine List.filter_congr fun cls _ => ?_
  rw [Bool.eq_iff_iff]
  simp

/-- bindings of two parts: those of the first, and those of classes that only the second has -/
def mergedBindings (first second : List AdapterBinding) : List AdapterBinding :=
  first ++ second.filter fun b => !(first.map (·.cls)).contains b.cls

theorem map_adapterNamed_append (ps qs : List Property) :
    (adapterClasses (ps ++ qs)).map m.adapterNamed
      = mergedBindings ((adapterClasses ps).map m.adapterNamed)
        ((adapterClasses qs).map m.adapterNamed) := by
  have hclasses : ((adapterClasses ps).map m.adapterNamed).map (·.cls) = adapterClasses ps := by
    rw [List.map_map]
    exact List.map_id _
  rw [mergedBindings, hclasses, adapterClasses_append, List.map_append, List.filter_map]
  rfl

theorem planFaults_append_eq_nil_iff {directions : Directions} :
    m.planFaults directions (ps ++ qs) = [] ↔
      m.planFaults directions ps = [] ∧ m.planFaults directions qs = [] := by
  simp only [planFaults_eq_nil_iff, List.forall_mem_append]
  constructor
  · rintro ⟨⟨hcontracts, hcontracts'⟩, hreads, hwrites⟩
    exact ⟨⟨hcontracts, fun hread => (hreads hread).1, fun hwrite => (hwrites hwrite).1⟩,
      hcontracts', fun hread => (hreads hread).2, fun hwrite => (hwrites hwrite).2⟩
  · rintro ⟨⟨hcontracts, hreads, hwrites⟩, hcontracts', hreads', hwrites'⟩
    exact ⟨⟨hcontracts, hcontracts'⟩, fun hread => ⟨hreads hread, hreads' hread⟩,
      fun hwrite => ⟨hwrites hwrite, hwrites' hwrite⟩⟩

/-- A read plan of two parts whose names are as suggested consists of those of the parts. -/
theorem readings_append {target : TypeName} {plan left right : ReadPlan}
    (hnames : DistinctNames (m.readSuggestions (ps ++ qs)))
    (hplan : (m.readPlan target byKeyword none (ps ++ qs)).runFresh = .ok plan)
    (hleft : (m.readPlan target byKeyword none ps).runFresh = .ok left)
    (hright : (m.readPlan target byKeyword none qs).runFresh = .ok right) :
    plan.readings = left.readings ++ right.readings ∧
      plan.adapters = mergedBindings left.adapters right.adapters := by
  obtain ⟨hadapters, hreads⟩ := readPlan_of_room (hnames.roomFor (.refl _)) hplan
  obtain ⟨hadaptersL, hreadsL⟩ := readPlan_of_room
    (hnames.roomFor (subperm_readSuggestions (List.sublist_append_left ps qs))) hleft
  obtain ⟨hadaptersR, hreadsR⟩ := readPlan_of_room
    (hnames.roomFor (subperm_readSuggestions (List.sublist_append_right ps qs))) hright
  refine ⟨List.right_unique_forall₂' rightUnique_readsAsSuggested hreads
    (List.rel_append hreadsL hreadsR), ?_⟩
  rw [hadapters, hadaptersL, hadaptersR]
  exact map_adapterNamed_append ps qs

theorem writings_append {plan left right : WritePlan}
    (hnames : DistinctNames (m.writeSuggestions (ps ++ qs)))
    (hplan : (m.writePlan none (ps ++ qs)).runFresh = .ok plan)
    (hleft : (m.writePlan none ps).runFresh = .ok left)
    (hright : (m.writePlan none qs).runFresh = .ok right) :
    plan.writings = left.writings ++ right.writings ∧
      plan.adapters = mergedBindings left.adapters right.adapters := by
  obtain ⟨hadapters, hwrites⟩ := writePlan_of_room (hnames.roomFor (.refl _)) hplan
  obtain ⟨hadaptersL, hwritesL⟩ := writePlan_of_room
    (hnames.roomFor (subperm_writeSuggestions (List.sublist_append_left ps qs))) hleft
  obtain ⟨hadaptersR, hwritesR⟩ := writePlan_of_room
    (hnames.roomFor (subperm_writeSuggestions (List.sublist_append_right ps qs))) hright
  refine ⟨List.right_unique_forall₂' rightUnique_writesAsSuggested hwrites
    (List.rel_append hwritesL hwritesR), ?_⟩
  rw [hadapters, hadaptersL, hadaptersR]
  exact map_adapterNamed_append ps qs

/-- Properties can be read, or written, together exactly if their parts can.  Where the identifiers
of all suggested names are different and no keywords, statements and arguments are those of the
first part and then those of the second, and the adapters are those of the first part and then
those that only the second one uses. -/
theorem plans_compose (m : Mapping) (target : TypeName) (byKeyword : Bool) (ps qs : List Property) :
    let read := fun ps => (m.readPlan target byKeyword none ps).runFresh
    let write := fun ps => (m.writePlan none ps).runFresh
    ((∃ plan, read (ps ++ qs) = .ok plan) ↔
      (∃ plan, read ps = .ok plan) ∧ ∃ plan, read qs = .ok plan) ∧
    ((∃ plan, write (ps ++ qs) = .ok plan) ↔
      (∃ plan, write ps = .ok plan) ∧ ∃ plan, write qs = .ok plan) ∧
    (DistinctNames (m.readSuggestions (ps ++ qs)) → ∀ plan left right,
      read (ps ++ qs) = .ok plan → read ps = .ok left → read qs = .ok right →
        plan.statements = left.statements ++ right.statements ∧
        plan.arguments = left.arguments ++ right.arguments ∧
        plan.adapters = mergedBindings left.adapters right.adapters) ∧
    (DistinctNames (m.writeSuggestions (ps ++ qs)) → ∀ plan left right,
      write (ps ++ qs) = .ok plan → write ps = .ok left → write qs = .ok right →
        plan.statements = left.statements ++ right.statements ∧
        plan.adapters = mergedBindings left.adapters right.adapters) := by
  intro read write
  refine ⟨?_, ?_, ?_, ?_⟩
  · rw [(m.meets_readPlan_fresh target byKeyword _).exists_ok_iff,
      (m.meets_readPlan_fresh target byKeyword _).exists_ok_iff,
      (m.meets_readPlan_fresh target byKeyword _).exists_ok_iff]
    exact planFaults_append_eq_nil_iff
  · rw [(m.meets_writePlan_fresh _).exists_ok_iff, (m.meets_writePlan_fresh _).exists_ok_iff,
      (m.meets_writePlan_fresh _).exists_ok_iff]
    exact planFaults_append_eq_nil_iff
  · intro hnames plan left right hplan hleft hright
    obtain ⟨hreadings, hadapters⟩ := readings_append hnames hplan hleft hright
    refine ⟨?_, ?_, hadapters⟩
    · unfold ReadPlan.statements
      rw [hreadings, List.flatMap_append]
    · unfold ReadPlan.arguments
      rw [hreadings, List.map_append]
  · intro hnames plan left right hplan hleft hright
    obtain ⟨hwritings, hadapters⟩ := writings_append hnames hplan hleft hright
    refine ⟨?_, hadapters⟩
    unfold WritePlan.statements
    rw [hwritings, List.flatMap_append]

set_option maxRecDepth 10000 in
/-- Three numbers through adapters and one that may be missing, in two parts that share an adapter.
-/
theorem plans_compose_shaded :
    let shade : ClassRef := { name := "ShadeAdapter", module := "app" }
    let paint : ClassRef := { name := "PaintAdapter", module := "app" }
    let ps : List Property := [{ name := "light", type := .int, conversion := .adapter shade }]
    let qs : List Property :=
      [{ name := "tint", type := .int, conversion := .adapter paint },
       { name := "age", type := .int, nullable := true },
       { name := "dark", type := .int, conversion := .adapter shade }]
    let read := fun ps =>
      (shading.readPlan { name := "User", module := "app" } true none ps).runFresh
    let write := fun ps => (shading.writePlan none ps).runFresh
    DistinctNames (shading.readSuggestions (ps ++ qs)) ∧
    DistinctNames (shading.writeSuggestions (ps ++ qs)) ∧
    (∃ plan left right, read (ps ++ qs) = .ok plan ∧ read ps = .ok left ∧ read qs = .ok right ∧
      plan.statements = left.statements ++ right.statements ∧
      plan.arguments = left.arguments ++ right.arguments ∧
      plan.adapters = mergedBindings left.adapters right.adapters) ∧
    ∃ plan left right, write (ps ++ qs) = .ok plan ∧ write ps = .ok left ∧ write qs = .ok right ∧
      plan.statements = left.statements ++ right.statements ∧
      plan.adapters = mergedBindings left.adapters right.adapters := by
  intro shade paint ps qs read write
  have hread : DistinctNames (shading.readSuggestions (ps ++ qs)) :=
    .of_languageNames (by decide +kernel) (by decide +kernel)
  have hwrite : DistinctNames (shading.writeSuggestions (ps ++ qs)) :=
    .of_languageNames (by decide +kernel) (by decide +kernel)
  obtain ⟨hreads, hwrites, hreadings, hwritings⟩ :=
    plans_compose shading { name := "User", module := "app" } true ps qs
  have hleft : (read ps).toOption.any (fun _ => true) = true := by decide +kernel
  have hright : (read qs).toOption.any (fun _ => true) = true := by decide +kernel
  have hleft' : (write ps).toOption.any (fun _ => true) = true := by decide +kernel
  have hright' : (write qs).toOption.any (fun _ => true) = true := by decide +kernel
  obtain ⟨left, hleft, -⟩ := Naming.exists_ok_of_any hleft
  obtain ⟨right, hright, -⟩ := Naming.exists_ok_of_any hright
  obtain ⟨left', hleft', -⟩ := Naming.exists_ok_of_any hleft'
  obtain ⟨right', hright', -⟩ := Naming.exists_ok_of_any hright'
  obtain ⟨plan, hplan⟩ := hreads.mpr ⟨⟨left, hleft⟩, right, hright⟩
  obtain ⟨plan', hplan'⟩ := hwrites.mpr ⟨⟨left', hleft'⟩, right', hright'⟩
  exact ⟨hread, hwrite,
    ⟨plan, left, right, hplan, hleft, hright,
      hreadings hread plan left right hplan hleft hright⟩,
    plan', left', right', hplan', hleft', hright',
    hwritings hwrite plan' left' right' hplan' hleft' hright'⟩

/-- Signs that names contain become underscores all the same: two names that only differ in such a
sign suggest the same local, and only the plan for both has to tell them apart. -/
theorem not_plans_compose_marked :
    let ps : List Property := [{ name := "कि", type := .int }]
    let qs : List Property := [{ name := "की", type := .int }]
    let names := (ps ++ qs).map (·.name)
    let suggestions := ["cursor", "value", "values"] ++ names ++ names.map (· ++ "_column_index")
      ++ names.map (· ++ "_values") ++ (adapterClasses (ps ++ qs)).map shading.adapterSuggestion
    let read := fun ps =>
      (shading.readPlan { name := "User", module := "app" } false none ps).runFresh
    suggestions.Nodup ∧ (∀ n ∈ suggestions, isLanguageName n = true ∧ isKeyword n = false) ∧
    ∃ plan left right, read (ps ++ qs) = .ok plan ∧ read ps = .ok left ∧ read qs = .ok right ∧
      plan.statements ≠ left.statements ++ right.statements ∧
      plan.arguments ≠ left.arguments ++ right.arguments := by
  intro ps qs names suggestions read
  have hplans : ((read (ps ++ qs)).toOption.any fun plan => (read ps).toOption.any fun left =>
      (read qs).toOption.any fun right =>
        plan.statements.map (·.name) ≠ (left.statements ++ right.statements).map (·.name) ∧
          plan.arguments ≠ left.arguments ++ right.arguments) = true := by
    decide +kernel
  obtain ⟨plan, hplan, hplans⟩ := Naming.exists_ok_of_any hplans
  obtain ⟨left, hleft, hplans⟩ := Naming.exists_ok_of_any hplans
  obtain ⟨right, hright, hplans⟩ := Naming.exists_ok_of_any hplans
  obtain ⟨hassigned, harguments⟩ := of_decide_eq_true hplans
  exact ⟨by decide +kernel, by decide +kernel, plan, left, right, hplan, hleft, hright,
    fun heq => hassigned (congrArg (List.map (·.name)) heq), harguments⟩

end Mapping
end RowMapping
