import RowMapping.Proofs.Plan.Calls
import RowMapping.Proofs.Plan.Expressions
import RowMapping.Proofs.Supply.Requests

/-!
# The scope of read plans

The statements of a read plan stand one after the other in the body of a function that has the
cursor as its parameter and sees the instances of the adapters.  `ReadPlan.WellScoped` says what the
names of the plan are worth there.

* `wellScoped_readPlan`  a plan is well scoped, whatever was asked of its supply before, and where
  its adapters were bound over the same supply as well.
-/

namespace RowMapping
open NameSupply

/-- what the names of a read plan are worth, given the locals of the properties -/
structure ReadPlan.WellScoped (settings : Settings) (localOf : Property → String)
    (byKeyword : Bool) (ps : List Property) (plan : ReadPlan) : Prop where
  assigned_once : (plan.statements.map (·.name)).Nodup
  not_cursor : ∀ a ∈ plan.statements, a.name ≠ plan.cursor
  not_adapter : ∀ a ∈ plan.statements, ∀ b ∈ plan.adapters, a.name ≠ b.name
  arguments : plan.arguments
    = ps.map fun p => if byKeyword then p.name ++ "=" ++ localOf p else localOf p
  /-- The statements stand property by property. -/
  order : plan.readings.map (·.property) = ps ∧
    plan.statements = plan.readings.flatMap (·.statements)
  assigned : ∀ g ∈ plan.readings, localOf g.property ∈ g.statements.map (·.name)
  code : plan.code.map (fun c => (c.1, c.2.text settings))
    = plan.statements.map fun a => (a.name, a.value)
  /-- An index is mentioned by the next statement, and by no other. -/
  index : ∀ c ∈ plan.code, (∀ p ∈ ps, c.1 ≠ localOf p) → ∃ before d after,
    plan.code = before ++ c :: d :: after ∧ c.1 ∈ d.2.names ∧
      ∀ e ∈ before ++ c :: after, c.1 ∉ e.2.names
  /-- All that a statement mentions is there before it. -/
  mentioned : ∀ c ∈ plan.code, ∀ n ∈ c.2.names,
    n = plan.cursor ∨ n ∈ plan.adapters.map (·.name) ∨
      ∃ before d after, plan.code = before ++ d :: c :: after ∧ d.1 = n

namespace Mapping
variable {m : Mapping} {s s' : NameSupply} {target : TypeName} {byKeyword : Bool}
  {ps : List Property} {plan : ReadPlan}

/-! ### what is assigned -/

theorem ReadsProperty.map_name_statements {bindings : List AdapterBinding} {cursor : String}
    {p : Property} {g : PropertyReading} (h : m.ReadsProperty s bindings cursor byKeyword p g) :
    g.statements.map (·.name) = g.ownLocals ++ [s.localOf p] := by
  obtain ⟨way, -, hreads⟩ := h.reads
  obtain ⟨last, hlast, hname, -⟩ := hreads.exists_last
  rw [hlast, List.map_append, List.map_singleton, hname, PropertyReading.ownLocals]

namespace PlansRead

theorem map_property (h : m.PlansRead s target byKeyword plan.adapters ps plan) :
    plan.readings.map (·.property) = ps := by
  have hmap := map_eq_of_forall₂ (f := id) (g := PropertyReading.property)
    (fun _ _ hreads => hreads.property) h.readings
  rw [hmap, List.map_id]

/-- a plan assigns the locals of its readings and of the properties, in some order -/
theorem perm_assigned (h : m.PlansRead s target byKeyword plan.adapters ps plan) :
    (plan.statements.map (·.name)).Perm (plan.ownLocals ++ ps.map s.localOf) := by
  have hnames : plan.statements.map (·.name)
      = plan.readings.flatMap fun g => g.ownLocals ++ [s.localOf g.property] := by
    rw [ReadPlan.statements, List.map_flatMap]
    refine List.flatMap_congr fun g hg => ?_
    obtain ⟨p, -, hreads⟩ := exists_left_of_forall₂ h.readings hg
    rw [hreads.map_name_statements, hreads.property]
  have hlocals : (plan.readings.flatMap fun g => [s.localOf g.property]) = ps.map s.localOf := by
    rw [← h.map_property, List.map_map]
    exact List.flatMap_pure_eq_map _ _
  rw [hnames, ← hlocals]
  exact (List.flatMap_append_perm _ _ _).symm

end PlansRead

theorem mem_taken_of_plansRead (hs : s.Apart) (hnamed : Named s plan.adapters)
    (h : m.PlansRead s target byKeyword plan.adapters ps plan) :
    ∀ n ∈ plan.cursor :: plan.adapters.map (·.name), n ∈ s.taken := by
  intro n hn
  rcases List.mem_cons.mp hn with rfl | hn
  · exact hs.taken _ (mem_bindings_of_find? h.cursor)
  · obtain ⟨b, hb, rfl⟩ := List.mem_map.mp hn
    exact hs.taken _ (mem_bindings_of_find? (hnamed b hb))

/-- the locals of its readings are all different, and none was taken before -/
theorem free_ownLocals (hgranted : Granted s (plan.ownLocals.map Grant.plain) s') :
    plan.ownLocals.Nodup ∧ ∀ n ∈ plan.ownLocals, n ∉ s.taken := by
  have hmap : (plan.ownLocals.map Grant.plain).map (·.name) = plan.ownLocals := by
    rw [List.map_map]
    exact List.map_id _
  have hnodup := hgranted.nodup
  have hfree := hgranted.not_mem_taken
  rw [hmap] at hnodup hfree
  exact ⟨hnodup, hfree⟩

theorem nodup_assigned (hs : s.Apart) (hnames : (ps.map (·.name)).Nodup)
    (h : m.PlansRead s target byKeyword plan.adapters ps plan)
    (hgranted : Granted s (plan.ownLocals.map Grant.plain) s') :
    (plan.statements.map (·.name)).Nodup := by
  obtain ⟨hown, hfree⟩ := free_ownLocals hgranted
  have hlocals : (ps.map s.localOf).Nodup := hs.nodup_locals hnames h.hasLocal
  rw [h.perm_assigned.nodup_iff, List.nodup_append]
  refine ⟨hown, hlocals, fun n hn other hother heq => ?_⟩
  obtain ⟨p, hp, rfl⟩ := List.mem_map.mp hother
  have htaken := hs.taken _ (mem_bindings_of_find? (h.hasLocal p hp))
  exact hfree n hn (heq ▸ htaken)

theorem assigned_ne_of_bound (hs : s.Apart)
    (h : m.PlansRead s target byKeyword plan.adapters ps plan)
    (hgranted : Granted s (plan.ownLocals.map Grant.plain) s') {tag : Tag} {name : String}
    (hbound : s.find? tag = some name) (htag : ∀ p : Property, tag ≠ .property p.name) :
    ∀ a ∈ plan.statements, a.name ≠ name := by
  rintro a ha rfl
  have hmem := h.perm_assigned.mem_iff.mp (List.mem_map_of_mem ha)
  rcases List.mem_append.mp hmem with hown | hlocal
  · exact (free_ownLocals hgranted).2 _ hown (hs.taken _ (mem_bindings_of_find? hbound))
  · obtain ⟨p, hp, hname⟩ := List.mem_map.mp hlocal
    have hproperty : s.find? (.property p.name) = some a.name := hname ▸ h.hasLocal p hp
    exact htag p (hs.tag_eq hbound hproperty)

/-! ### what is mentioned -/

/-- a reading mentions what a plan finds and the locals that the reading takes -/
theorem ReadsProperty.names_subset {bindings : List AdapterBinding} {cursor : String} {p : Property}
    {g : PropertyReading} (h : m.ReadsProperty s bindings cursor byKeyword p g) :
    ∀ c ∈ g.code bindings cursor,
      c.2.names ⊆ g.ownLocals ++ cursor :: bindings.map (·.name) := by
  intro c hc
  rcases h.code_cases with
    ⟨e, hown, hcode, hnames⟩ | ⟨index, e, e', hown, hcode, hnames, -, hnames'⟩
  · rw [hcode] at hc
    rw [List.mem_singleton.mp hc, hown]
    exact hnames
  · rw [hcode] at hc
    rw [hown]
    rcases List.mem_cons.mp hc with rfl | hc
    · exact List.Subset.trans hnames (List.subset_cons_self _ _)
    · rw [List.mem_singleton.mp hc]
      exact hnames'

/-- the code of a reading stands together, and its locals are mentioned nowhere else -/
theorem exists_code_eq (hs : s.Apart) (hnamed : Named s plan.adapters)
    (h : m.PlansRead s target byKeyword plan.adapters ps plan)
    (hgranted : Granted s (plan.ownLocals.map Grant.plain) s') {g : PropertyReading}
    (hg : g ∈ plan.readings) :
    ∃ before after, plan.code = before ++ g.code plan.adapters plan.cursor ++ after ∧
      ∀ c ∈ before ++ after, ∀ index ∈ g.ownLocals, index ∉ c.2.names := by
  obtain ⟨before, after, hsplit⟩ := List.append_of_mem hg
  obtain ⟨hnodup, hfree⟩ := free_ownLocals hgranted
  have hown : plan.ownLocals = before.flatMap PropertyReading.ownLocals
      ++ (g.ownLocals ++ after.flatMap PropertyReading.ownLocals) := by
    rw [ReadPlan.ownLocals, hsplit, List.flatMap_append, List.flatMap_cons]
  let code := PropertyReading.code plan.adapters plan.cursor
  refine ⟨before.flatMap code, after.flatMap code, ?_, fun c hc index hindex hmentioned => ?_⟩
  · rw [ReadPlan.code, hsplit, List.flatMap_append, List.flatMap_cons, List.append_assoc]
  rw [← List.flatMap_append] at hc
  obtain ⟨other, hother, hc⟩ := List.mem_flatMap.mp hc
  have hmem : other ∈ plan.readings := by
    rw [hsplit]
    rcases List.mem_append.mp hother with hother | hother
    · exact List.mem_append_left _ hother
    · exact List.mem_append_right _ (List.mem_cons_of_mem _ hother)
  obtain ⟨p, -, hreads⟩ := exists_left_of_forall₂ h.readings hmem
  rcases List.mem_append.mp (hreads.names_subset c hc hmentioned) with hotherOwn | houter
  · -- two readings would have taken the same local
    rw [hown, List.nodup_append, List.nodup_append] at hnodup
    obtain ⟨-, ⟨-, -, hafter⟩, hbefore⟩ := hnodup
    rcases List.mem_append.mp hother with hother | hother
    · exact hbefore _ (List.mem_flatMap.mpr ⟨other, hother, hotherOwn⟩) _
        (List.mem_append_left _ hindex) rfl
    · exact hafter _ hindex _ (List.mem_flatMap.mpr ⟨other, hother, hotherOwn⟩) rfl
  · refine hfree index ?_ (mem_taken_of_plansRead hs hnamed h index houter)
    rw [hown]
    exact List.mem_append_right _ (List.mem_append_left _ hindex)

/-- A local that is no property's is mentioned by the statement behind its own, and by no other. -/
theorem exists_mentioned_next (hs : s.Apart) (hnamed : Named s plan.adapters)
    (h : m.PlansRead s target byKeyword plan.adapters ps plan)
    (hgranted : Granted s (plan.ownLocals.map Grant.plain) s') {c : String × Expression}
    (hc : c ∈ plan.code) (hlocal : ∀ p ∈ ps, c.1 ≠ s.localOf p) :
    ∃ before d after, plan.code = before ++ c :: d :: after ∧ c.1 ∈ d.2.names ∧
      ∀ e ∈ before ++ c :: after, c.1 ∉ e.2.names := by
  obtain ⟨g, hg, hc⟩ := List.mem_flatMap.mp hc
  obtain ⟨p, hp, hreads⟩ := exists_left_of_forall₂ h.readings hg
  obtain ⟨before, after, hsplit, hother⟩ := exists_code_eq hs hnamed h hgranted hg
  rcases hreads.code_cases with
    ⟨e, -, hcode, -⟩ | ⟨index, e, e', hown, hcode, hfinds, hmentions, -⟩
  · rw [hcode] at hc
    rw [List.mem_singleton.mp hc] at hlocal
    exact absurd rfl (hlocal p hp)
  rw [hcode] at hc hsplit
  rcases List.mem_cons.mp hc with rfl | hc
  · refine ⟨before, (s.localOf p, e'), after, ?_, hmentions, fun other hmem hmentioned => ?_⟩
    · rw [hsplit, List.append_assoc]
      rfl
    have hindex : index ∈ g.ownLocals := hown ▸ List.mem_singleton_self _
    rcases List.mem_append.mp hmem with hmem | hmem
    · exact hother other (List.mem_append_left _ hmem) index hindex hmentioned
    rcases List.mem_cons.mp hmem with rfl | hmem
    · -- the index is looked up with names that were taken before
      have howned : index ∈ plan.ownLocals := List.mem_flatMap.mpr ⟨g, hg, hindex⟩
      exact (free_ownLocals hgranted).2 index howned
        (mem_taken_of_plansRead hs hnamed h index (hfinds hmentioned))
    · exact hother other (List.mem_append_right _ hmem) index hindex hmentioned
  · rw [List.mem_singleton.mp hc] at hlocal
    exact absurd rfl (hlocal p hp)

/-- A statement mentions what the plan finds and what the statement in front of it assigns. -/
theorem found_or_assigned (h : m.PlansRead s target byKeyword plan.adapters ps plan)
    {c : String × Expression} (hc : c ∈ plan.code) {n : String} (hn : n ∈ c.2.names) :
    n ∈ plan.cursor :: plan.adapters.map (·.name) ∨
      ∃ before d after, plan.code = before ++ d :: c :: after ∧ d.1 = n := by
  obtain ⟨g, hg, hc⟩ := List.mem_flatMap.mp hc
  obtain ⟨p, -, hreads⟩ := exists_left_of_forall₂ h.readings hg
  obtain ⟨before, after, hsplit⟩ := List.append_of_mem hg
  rcases hreads.code_cases with ⟨e, -, hcode, hfinds⟩ | ⟨index, e, e', -, hcode, hfinds, -, hfinds'⟩
  · rw [hcode] at hc
    rw [List.mem_singleton.mp hc] at hn
    exact .inl (hfinds hn)
  rw [hcode] at hc
  rcases List.mem_cons.mp hc with rfl | hc
  · exact .inl (hfinds hn)
  obtain rfl := List.mem_singleton.mp hc
  rcases List.mem_cons.mp (hfinds' hn) with rfl | hn
  · refine .inr ⟨before.flatMap (PropertyReading.code plan.adapters plan.cursor), (n, e),
      after.flatMap (PropertyReading.code plan.adapters plan.cursor), ?_, rfl⟩
    rw [ReadPlan.code, hsplit, List.flatMap_append, List.flatMap_cons, hcode]
    rfl
  · exact .inl hn

/-! ### plans -/

theorem PlansRead.wellScoped (hs : s.Apart) (hnamed : Named s plan.adapters)
    (hnames : (ps.map (·.name)).Nodup)
    (h : m.PlansRead s target byKeyword plan.adapters ps plan)
    (hgranted : Granted s (plan.ownLocals.map Grant.plain) s') :
    plan.WellScoped m.settings s.localOf byKeyword ps where
  assigned_once := nodup_assigned hs hnames h hgranted
  not_cursor := assigned_ne_of_bound hs h hgranted h.cursor fun _ => nofun
  not_adapter := fun a ha b hb =>
    assigned_ne_of_bound hs h hgranted (hnamed b hb) (fun _ => nofun) a ha
  arguments := by
    refine map_eq_of_forall₂ (fun p g hreads => ?_) h.readings
    rw [hreads.argument]
    cases byKeyword <;> rfl
  order := ⟨h.map_property, rfl⟩
  assigned := by
    intro g hg
    obtain ⟨p, -, hreads⟩ := exists_left_of_forall₂ h.readings hg
    rw [hreads.map_name_statements, hreads.property]
    exact List.mem_append_right _ (List.mem_singleton_self _)
  code := h.map_text_code
  index := fun _ hc hlocal => exists_mentioned_next hs hnamed h hgranted hc hlocal
  mentioned := by
    intro c hc n hn
    rcases found_or_assigned h hc hn with hfound | hassigned
    · rcases List.mem_cons.mp hfound with hcursor | hadapter
      · exact .inl hcursor
      · exact .inr (.inl hadapter)
    · exact .inr (.inr hassigned)

/-- The adapters that a plan is given, none or those that were bound over its supply, and the supply
after whatever else was asked of it. -/
inductive Prepared : Option (List AdapterBinding) → NameSupply → Prop
  | omitted (requests : List Request) : Prepared none (empty.after requests)
  | resolved {requests : List Request} {m : Mapping} {directions : Directions} {ps : List Property}
    {bindings : List AdapterBinding} {s : NameSupply} (later : List Request) :
    (m.resolve directions ps).runFrom (empty.after requests) = (.ok bindings, s) →
    Prepared (some bindings) (s.after later)

theorem Prepared.apart {shared : Option (List AdapterBinding)} (h : Prepared shared s) :
    s.Apart := by
  have hempty : empty.Apart := .of_bindings_nil rfl
  cases h with
  | omitted requests => exact hempty.after requests
  | @resolved requests m directions ps bindings s later hresolve =>
    exact ((m.granted_resolve hresolve).1.apart (hempty.after requests)).after later

theorem Prepared.named {shared : Option (List AdapterBinding)} (h : Prepared shared s)
    {directions : Directions} {bindings : List AdapterBinding} {s₁ s₂ : NameSupply}
    {gs : List Grant} (hgranted : Granted s gs s₁)
    (hrun : (m.bindingsFor directions ps shared).runFrom s₁ = (.ok bindings, s₂)) :
    Named s₂ bindings := by
  cases h with
  | omitted _ => exact m.named_resolveFrom (named_nil _) hrun
  | @resolved requests m directions ps bindings s later hresolve =>
    obtain ⟨rfl, rfl⟩ := Naming.runFrom_pure_eq_ok.mp hrun
    intro b hb
    have hfirst : s.find? (.adapter b.cls) = some b.name :=
      m.named_resolveFrom (named_nil _) hresolve b hb
    exact hgranted.find?_of_some ((s.keeps_after later).bound _ _ hfirst)

/-- Whatever was asked of its supply before, a read plan for properties of different names is well
scoped, with the locals that the properties have in the supply. -/
theorem wellScoped_readPlan (m : Mapping) {shared : Option (List AdapterBinding)}
    (hprepared : Prepared shared s) (hnames : (ps.map (·.name)).Nodup)
    (h : (m.readPlan target byKeyword shared ps).runFrom s = (.ok plan, s')) :
    (∀ p ∈ ps, s'.HasLocal p) ∧ plan.WellScoped m.settings s'.localOf byKeyword ps := by
  obtain ⟨s₁, s₂, s₃, hcursor, hlocals, hbindings, hplans, hgranted⟩ := m.plansRead_of_readPlan h
  obtain ⟨-, gs₁, hgs₁⟩ := Naming.exists_granted_nameFor hcursor
  obtain ⟨gs₂, hgs₂⟩ := exists_granted_nameLocals hlocals
  obtain ⟨gs₃, hgs₃⟩ := m.exists_granted_bindingsFor hbindings
  have hnamed : Named s₃ plan.adapters := hprepared.named (hgs₁.append hgs₂) hbindings
  have hapart : s₃.Apart := ((hgs₁.append hgs₂).append hgs₃).apart hprepared.apart
  have hsame : s'.localOf = s₃.localOf := by
    funext p
    rw [localOf, hgranted.find?_of_plain, localOf]
  rw [hsame]
  exact ⟨(hplans.mono hgranted).hasLocal, hplans.wellScoped hapart hnamed hnames hgranted⟩

/-- properties whose names are, or become, the names of other things -/
def clashingProperties : List Property :=
  let shade : ClassRef := { name := "ShadeAdapter", module := "app" }
  [{ name := "full-name", type := { name := "int", nullable := true }, nullable := true },
   { name := "full_name", type := .int },
   { name := "full_name_column_index", type := { name := "bool" } },
   { name := "cursor", type := .str },
   { name := "shade_adapter", type := .int, conversion := .adapter shade }]

/-- A plan tells apart what clashes in a supply in which one of its properties has a name already,
and which has bound an adapter. -/
theorem wellScoped_readPlan_clashing :
    let requests : List Request := [.nameFor (.property "full_name") "value", .reserve "cursor"]
    let later : List Request := [.newName "shade_adapter" none]
    let target : TypeName := { name := "User", module := "app" }
    ∃ bindings bound plan s,
      (shading.resolve {} clashingProperties).runFrom (empty.after requests)
        = (.ok bindings, bound) ∧
      Prepared (some bindings) (bound.after later) ∧ (clashingProperties.map (·.name)).Nodup ∧
      (shading.readPlan target true (some bindings) clashingProperties).runFrom (bound.after later)
        = (.ok plan, s) ∧
      plan.statements.map (·.name) = ["full_name_column_index_", "full_name", "value",
        "full_name_column_index", "cursor__", "shade_adapter__"] ∧
      (∀ p ∈ clashingProperties, s.HasLocal p) ∧
      plan.WellScoped shading.settings s.localOf true clashingProperties := by
  intro requests later target
  have hruns : (((shading.resolve {} clashingProperties).runFrom (empty.after requests)).1
      |>.toOption.any fun bindings =>
        let bound := ((shading.resolve {} clashingProperties).runFrom (empty.after requests)).2
        ((shading.readPlan target true (some bindings) clashingProperties).runFrom
          (bound.after later)).1.toOption.any fun plan =>
            plan.statements.map (·.name) = ["full_name_column_index_", "full_name", "value",
              "full_name_column_index", "cursor__", "shade_adapter__"]) = true := by
    decide +kernel
  obtain ⟨bindings, bound, hbound, hruns⟩ := Naming.exists_runFrom_of_any hruns
  rw [hbound] at hruns
  obtain ⟨plan, s, hplan, hassigned⟩ := Naming.exists_runFrom_of_any hruns
  have hprepared : Prepared (some bindings) (bound.after later) := .resolved later hbound
  have hnames : (clashingProperties.map (·.name)).Nodup := by decide
  obtain ⟨hlocals, hscoped⟩ := wellScoped_readPlan shading hprepared hnames hplan
  exact ⟨bindings, bound, plan, s, hbound, hprepared, hnames, hplan, of_decide_eq_true hassigned,
    hlocals, hscoped⟩

end Mapping
end RowMapping
