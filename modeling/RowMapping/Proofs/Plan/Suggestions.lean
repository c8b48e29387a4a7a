import RowMapping.Plan.WritePlan
import RowMapping.Proofs.Supply.Steps

/-!
# What names are made of

A new name is the identifier of its suggestion with underscores behind it (`MadeOf`).  Whether a
step succeeds or fails, all that it does to its supply is to take such names (`TakesFrom`), and
what plans suggest comes from settings, properties and adapter classes (`Mapping.Suggests`).
-/

namespace RowMapping
open RowMapping.Text NameSupply

/-- A name is the identifier of a suggestion with underscores behind it. -/
def MadeOf (suggestion name : String) : Prop := ∃ k, name = padded (toIdentifier suggestion) k

theorem madeOf_fresh (s : NameSupply) (suggestion : String) :
    MadeOf suggestion (s.fresh suggestion) := by
  obtain ⟨k, -, heq, -⟩ := s.firstFree_eq_padded (s.taken.length + 2) (toIdentifier suggestion)
  exact ⟨k, heq⟩

/-! ### steps that only take names -/

namespace Naming
variable {α β : Type} {S : String → Prop}

/-- Whether it succeeds or fails, a step only takes names of certain suggestions. -/
def TakesFrom (S : String → Prop) (step : Naming α) : Prop :=
  ∀ s, ∃ gs, Granted s gs (step.runFrom s).2 ∧
    ∀ g ∈ gs, ∃ suggestion, S suggestion ∧ MadeOf suggestion g.name

theorem exists_granted_same (s : NameSupply) : ∃ gs, Granted s gs s ∧
    ∀ g ∈ gs, ∃ suggestion, S suggestion ∧ MadeOf suggestion g.name :=
  ⟨[], .nil s, List.forall_mem_nil _⟩

theorem takesFrom_of_same {step : Naming α} (h : ∀ s, (step.runFrom s).2 = s) :
    TakesFrom S step := by
  intro s
  rw [h s]
  exact exists_granted_same s

theorem takesFrom_pure (x : α) : TakesFrom S (pure x) := takesFrom_of_same fun _ => rfl

theorem takesFrom_throw (f : Failure) : TakesFrom S (throw f : Naming α) :=
  takesFrom_of_same fun _ => rfl

theorem takesFrom_ofExcept (result : Except Failure α) : TakesFrom S (ofExcept result) :=
  takesFrom_of_same fun _ => rfl

theorem takesFrom_boundName (tag : Tag) : TakesFrom S (boundName tag) := by
  refine takesFrom_of_same fun s => ?_
  rw [runFrom_boundName]
  cases s.get tag <;> rfl

theorem takesFrom_newName {suggestion : String} (h : S suggestion) :
    TakesFrom S (newName suggestion) := by
  intro s
  refine ⟨_, granted_newName (runFrom_newName suggestion s), fun g hg => ?_⟩
  rw [List.mem_singleton.mp hg]
  exact ⟨suggestion, h, madeOf_fresh s suggestion⟩

theorem exists_granted_bind (s : NameSupply) (tag : Tag) {suggestion : String} (h : S suggestion) :
    ∃ gs, Granted s gs (s.bind tag (s.fresh suggestion)) ∧
      ∀ g ∈ gs, ∃ suggestion, S suggestion ∧ MadeOf suggestion g.name := by
  let g := Grant.tagged tag (s.fresh suggestion)
  have hgranted : Granted s [g] (s.take g) := .single (s.blocked_fresh suggestion)
  refine ⟨[g], hgranted, fun g' hg' => ?_⟩
  rw [List.mem_singleton.mp hg']
  exact ⟨suggestion, h, madeOf_fresh s suggestion⟩

theorem takesFrom_newNameFor (tag : Tag) {suggestion : String} (h : S suggestion) :
    TakesFrom S (newNameFor tag suggestion) := by
  intro s
  rw [runFrom_newNameFor, NameSupply.newNameFor]
  cases s.find? tag with
  | some name => exact exists_granted_same s
  | none => exact exists_granted_bind s tag h

theorem takesFrom_nameFor (tag : Tag) {suggestion : String} (h : S suggestion) :
    TakesFrom S (nameFor tag suggestion) := by
  intro s
  rw [runFrom_nameFor, NameSupply.nameFor]
  cases s.find? tag with
  | some name => exact exists_granted_same s
  | none => exact exists_granted_bind s tag h

theorem TakesFrom.bind {step : Naming α} {next : α → Naming β} (h : TakesFrom S step)
    (hnext : ∀ x, TakesFrom S (next x)) : TakesFrom S (step >>= next) := by
  intro s
  obtain ⟨gs, hgs, hmade⟩ := h s
  rw [runFrom_bind]
  rcases hrun : step.runFrom s with ⟨result, s₁⟩
  rw [hrun] at hgs
  cases result with
  | error f => exact ⟨gs, hgs, hmade⟩
  | ok x =>
    obtain ⟨hs, hhs, hmade'⟩ := hnext x s₁
    refine ⟨gs ++ hs, hgs.append hhs, fun g hg => ?_⟩
    rcases List.mem_append.mp hg with hg | hg
    · exact hmade g hg
    · exact hmade' g hg

theorem TakesFrom.then_pure {step : Naming α} (h : TakesFrom S step) (f : α → β) :
    TakesFrom S (do return f (← step)) := h.bind fun x => takesFrom_pure (f x)

theorem TakesFrom.map {step : Naming α} (h : TakesFrom S step) (f : α → β) :
    TakesFrom S (f <$> step) := by
  intro s
  rw [runFrom_map]
  exact h s

theorem TakesFrom.mono {T : String → Prop} {step : Naming α} (h : TakesFrom S step)
    (himp : ∀ suggestion, S suggestion → T suggestion) : TakesFrom T step := by
  intro s
  obtain ⟨gs, hgs, hmade⟩ := h s
  refine ⟨gs, hgs, fun g hg => ?_⟩
  obtain ⟨suggestion, hS, hname⟩ := hmade g hg
  exact ⟨suggestion, himp suggestion hS, hname⟩

end Naming

namespace Mapping
open Naming
variable (m : Mapping)

/-! ### what plans suggest -/

/-- what the plans of properties suggest for their names -/
inductive Suggests (ps : List Property) : String → Prop
  | cursor : Suggests ps m.settings.cursorParam
  | value : Suggests ps m.settings.valueParam
  | values : Suggests ps m.settings.valuesVar
  | property {p : Property} : p ∈ ps → Suggests ps p.name
  | adapter {p : Property} {cls : ClassRef} : p ∈ ps → p.adapter? = some cls →
    Suggests ps (snakeCase (m.directory.typeName cls).simpleName)
  | index (name : String) : Suggests ps (name ++ "_column_index")
  | factory {p : Property} : p ∈ ps → Suggests ps (p.name ++ "_values")

variable {m} {all ps : List Property}

theorem takesFrom_adapterName (bindings : List AdapterBinding) (cls : ClassRef) :
    TakesFrom (m.Suggests all) (adapterName bindings cls) := by
  unfold adapterName
  cases bindings.find? (·.cls = cls) with
  | none => exact takesFrom_throw _
  | some b => exact takesFrom_pure b.name

theorem takesFrom_nameLocals (h : ∀ p ∈ ps, p ∈ all) :
    TakesFrom (m.Suggests all) (nameLocals ps) := by
  induction ps with
  | nil => exact takesFrom_pure ()
  | cons p ps ih =>
    refine (takesFrom_nameFor _ (.property (h p List.mem_cons_self))).bind fun _ => ih fun q hq => ?_
    exact h q (List.mem_cons_of_mem _ hq)

theorem takesFrom_bindAdapter (bindings : List AdapterBinding) {p : Property} {cls : ClassRef}
    (hp : p ∈ all) (hcls : p.adapter? = some cls) :
    TakesFrom (m.Suggests all) (m.bindAdapter bindings cls) := by
  unfold bindAdapter
  split
  · exact takesFrom_pure bindings
  · exact (takesFrom_newNameFor _ (.adapter hp hcls)).then_pure _

theorem takesFrom_resolveFrom (directions : Directions) (bindings : List AdapterBinding)
    (h : ∀ p ∈ ps, p ∈ all) :
    TakesFrom (m.Suggests all) (m.resolveFrom directions bindings ps) := by
  induction ps generalizing bindings with
  | nil => exact takesFrom_pure bindings
  | cons p ps ih =>
    have hrest : ∀ q ∈ ps, q ∈ all := fun q hq => h q (List.mem_cons_of_mem _ hq)
    unfold resolveFrom
    cases hadapter : p.adapter? with
    | none => exact ih bindings hrest
    | some cls =>
      refine (takesFrom_ofExcept _).bind fun _ => ?_
      exact (takesFrom_bindAdapter bindings (h p List.mem_cons_self) hadapter).bind fun bound =>
        ih bound hrest

theorem takesFrom_resolve (directions : Directions) (ps : List Property) :
    TakesFrom (m.Suggests ps) (m.resolve directions ps) :=
  takesFrom_resolveFrom directions [] fun _ hp => hp

theorem takesFrom_readBy (bindings : List AdapterBinding) (cursor name : String) (p : Property)
    (way : ReadWay) : TakesFrom (m.Suggests all) (m.readBy bindings cursor name p way) := by
  cases way with
  | adapter cls => exact (takesFrom_adapterName bindings cls).then_pure _
  | cell => exact (takesFrom_ofExcept _).then_pure _
  | optionalCell =>
    exact (takesFrom_newName (.index name)).bind fun _ => (takesFrom_ofExcept _).then_pure _
  | absent => exact takesFrom_pure _

theorem takesFrom_readAll (bindings : List AdapterBinding) (cursor : String) (byKeyword : Bool)
    (ps : List Property) :
    TakesFrom (m.Suggests all) (m.readAll bindings cursor byKeyword ps) := by
  have hread : ∀ p, TakesFrom (m.Suggests all) (m.readProperty bindings cursor byKeyword p) :=
    fun p => (takesFrom_boundName _).bind fun name => (takesFrom_ofExcept _).bind fun way =>
      (takesFrom_readBy bindings cursor name p way).then_pure _
  induction ps with
  | nil => exact takesFrom_pure []
  | cons p ps ih => exact (hread p).bind fun _ => ih.then_pure _

theorem takesFrom_writeProperty (bindings : List AdapterBinding) (value values : String)
    {p : Property} (hp : p ∈ all) :
    TakesFrom (m.Suggests all) (m.writeProperty bindings value values p) := by
  unfold writeProperty
  cases p.conversion with
  | factory cls =>
    show TakesFrom _ (m.writeByFactory values _ p cls)
    unfold writeByFactory
    cases m.directory.findMethod cls (m.factoryShape p.type) with
    | none => exact takesFrom_throw _
    | some method => exact (takesFrom_newName (.factory hp)).then_pure _
  | adapter cls => exact (takesFrom_adapterName bindings cls).then_pure _
  | native =>
    cases p.isSupported with
    | false => exact takesFrom_throw _
    | true => exact (takesFrom_ofExcept _).then_pure _

theorem takesFrom_writeAll (bindings : List AdapterBinding) (value values : String)
    (h : ∀ p ∈ ps, p ∈ all) :
    TakesFrom (m.Suggests all) (m.writeAll bindings value values ps) := by
  induction ps with
  | nil => exact takesFrom_pure []
  | cons p ps ih =>
    have hrest : ∀ q ∈ ps, q ∈ all := fun q hq => h q (List.mem_cons_of_mem _ hq)
    exact (takesFrom_writeProperty bindings value values (h p List.mem_cons_self)).bind fun _ =>
      (ih hrest).then_pure _

theorem takesFrom_bindingsFor (directions : Directions) (shared : Option (List AdapterBinding))
    (ps : List Property) : TakesFrom (m.Suggests ps) (m.bindingsFor directions ps shared) := by
  cases shared with
  | none => exact takesFrom_resolve directions ps
  | some bindings => exact takesFrom_pure bindings

theorem takesFrom_readPlan (target : TypeName) (byKeyword : Bool)
    (shared : Option (List AdapterBinding)) (ps : List Property) :
    TakesFrom (m.Suggests ps) (m.readPlan target byKeyword shared ps) :=
  (takesFrom_nameFor _ .cursor).bind fun cursor =>
    (takesFrom_nameLocals fun _ hp => hp).bind fun _ =>
      (takesFrom_bindingsFor _ shared ps).bind fun bindings =>
        (takesFrom_readAll bindings cursor byKeyword ps).then_pure _

theorem takesFrom_writePlan (shared : Option (List AdapterBinding)) (ps : List Property) :
    TakesFrom (m.Suggests ps) (m.writePlan shared ps) :=
  (takesFrom_nameFor _ .value).bind fun value => (takesFrom_nameFor _ .values).bind fun values =>
    (takesFrom_bindingsFor _ shared ps).bind fun bindings =>
      (takesFrom_writeAll bindings value values fun _ hp => hp).then_pure _

end Mapping
end RowMapping
