import RowMapping.Proofs.Plan.Faults
import RowMapping.Proofs.Plan.Suggestions
import RowMapping.Proofs.Unit.Routines

/-!
# Calls that share a supply

Adapters are bound, and read and write plans are made, in calls that share one supply of names.
Whatever a call does, and also where it fails, it only takes more names, so a name that a class
has once stays its only one.

A call binds the adapter classes of its properties itself, by tags that have to be free.  So a call
without other faults succeeds exactly if none of its classes has a name yet:

* `bindings_of_calls`  what is bound after any calls, and what one more call answers then.
-/

namespace RowMapping
open RowMapping.Text NameSupply

namespace Mapping
variable (m : Mapping) {s s' : NameSupply}

/-! ### the names of bindings -/

/-- Every binding has the name that its class has in the supply. -/
def Named (s : NameSupply) (bindings : List AdapterBinding) : Prop :=
  ∀ b ∈ bindings, s.find? (.adapter b.cls) = some b.name

theorem named_nil (s : NameSupply) : Named s [] := fun _ hb => absurd hb List.not_mem_nil

theorem Named.mono {bindings : List AdapterBinding} {gs : List Grant} (h : Named s bindings)
    (hgranted : Granted s gs s') : Named s' bindings :=
  fun b hb => hgranted.find?_of_some (h b hb)

theorem named_bindAdapter {bindings result : List AdapterBinding} {cls : ClassRef}
    (hnamed : Named s bindings)
    (h : (m.bindAdapter bindings cls).runFrom s = (.ok result, s')) : Named s' result := by
  unfold bindAdapter at h
  cases hany : bindings.any (·.cls = cls) with
  | true =>
    rw [hany] at h
    obtain ⟨rfl, rfl⟩ := Naming.runFrom_pure_eq_ok.mp h
    exact hnamed
  | false =>
    rw [hany] at h
    obtain ⟨name, s₁, hname, hpure⟩ := Naming.runFrom_bind_eq_ok.mp h
    obtain ⟨rfl, rfl⟩ := Naming.runFrom_pure_eq_ok.mp hpure
    obtain ⟨hfind, hgranted⟩ := Naming.granted_newNameFor hname
    intro b hb
    rcases List.mem_append.mp hb with hb | hb
    · exact hgranted.find?_of_some (hnamed b hb)
    · rw [List.mem_singleton.mp hb, hgranted.find?_eq, hfind, Option.none_or]
      exact List.lookup_cons_self

theorem named_resolveFrom {directions : Directions} {ps : List Property}
    {bindings result : List AdapterBinding} (hnamed : Named s bindings)
    (h : (m.resolveFrom directions bindings ps).runFrom s = (.ok result, s')) : Named s' result := by
  induction ps generalizing s bindings with
  | nil =>
    obtain ⟨rfl, rfl⟩ := Naming.runFrom_pure_eq_ok.mp h
    exact hnamed
  | cons p ps ih =>
    unfold resolveFrom at h
    cases hadapter : p.adapter? with
    | none =>
      rw [hadapter] at h
      exact ih hnamed h
    | some cls =>
      rw [hadapter] at h
      obtain ⟨_, s₁, hcheck, h⟩ := Naming.runFrom_bind_eq_ok.mp h
      obtain ⟨-, rfl⟩ := Naming.runFrom_ofExcept_eq_ok.mp hcheck
      obtain ⟨bound, s₂, hbind, hrest⟩ := Naming.runFrom_bind_eq_ok.mp h
      exact ih (m.named_bindAdapter hnamed hbind) hrest

/-! ### calls -/

/-- A call that takes names: adapters are bound, something that reads or writes is made, which has
the names of its parameters from then on, or it makes a plan. -/
inductive Call where
  | resolve (directions : Directions) (ps : List Property)
  | reader
  | writer
  | read (target : TypeName) (byKeyword : Bool) (ps : List Property)
  | write (ps : List Property)

namespace Call

def properties : Call → List Property
  | resolve _ ps => ps
  | reader => []
  | writer => []
  | read _ _ ps => ps
  | write ps => ps

/-- what keeps a call from being answered, whatever names are taken -/
def faults (m : Mapping) : Call → List Fault
  | resolve directions ps => ps.flatMap (m.contractFaults directions)
  | reader => []
  | writer => []
  | read _ _ ps => m.planFaults { read := true, write := false } ps
  | write ps => m.planFaults { read := false, write := true } ps

/-- what keeps a call from being answered in a supply -/
def faultsIn (m : Mapping) (s : NameSupply) : Call → List Fault
  | resolve directions ps => m.resolveFaults s directions ps
  | reader => []
  | writer => []
  | read _ _ ps => m.resolveFaults s { read := true, write := false } ps ++ ps.flatMap m.readFaults
  | write ps => m.resolveFaults s { read := false, write := true } ps ++ ps.flatMap m.writeFaults

end Call

/-- the bindings of a call's answer -/
def answer (m : Mapping) : Call → Naming (List AdapterBinding)
  | .resolve directions ps => m.resolve directions ps
  | .reader => do
    let _ ← Naming.nameFor (.role .cursor) m.settings.cursorParam
    return []
  | .writer => do
    let _ ← Naming.nameFor (.role .value) m.settings.valueParam
    let _ ← Naming.nameFor (.role .values) m.settings.valuesVar
    return []
  | .read target byKeyword ps => do return (← m.readPlan target byKeyword none ps).adapters
  | .write ps => do return (← m.writePlan none ps).adapters

theorem takesFrom_answer (call : Call) :
    Naming.TakesFrom (m.Suggests call.properties) (m.answer call) := by
  cases call with
  | resolve directions ps => exact takesFrom_resolve directions ps
  | reader => exact (Naming.takesFrom_nameFor _ .cursor).then_pure _
  | writer =>
    exact (Naming.takesFrom_nameFor _ .value).bind fun _ =>
      (Naming.takesFrom_nameFor _ .values).then_pure _
  | read target byKeyword ps => exact (takesFrom_readPlan target byKeyword none ps).then_pure _
  | write ps => exact (takesFrom_writePlan none ps).then_pure _

theorem resolveFaults_congr (h : ∀ cls, s'.find? (.adapter cls) = s.find? (.adapter cls))
    (directions : Directions) (ps : List Property) :
    m.resolveFaults s' directions ps = m.resolveFaults s directions ps := by
  have htaken : ∀ p, takenFaults s' [] p = takenFaults s [] p :=
    takenFaults_congr fun cls => by rw [takenName?, takenName?, h cls]
  unfold resolveFaults
  simp only [htaken]

theorem meets_answer (s : NameSupply) (call : Call) :
    MeetsFaults (call.faultsIn m s) ((m.answer call).runFrom s).1 := by
  cases call with
  | resolve directions ps => exact m.meets_resolveFaults s directions ps
  | reader => exact ⟨[], rfl⟩
  | writer => exact ⟨[], rfl⟩
  | read target byKeyword ps =>
    refine .then_pure (m.meets_readPlan_of (fun s' hsame => ?_) nofun)
    rw [← m.resolveFaults_congr hsame]
    exact m.meets_resolveFaults s' _ ps
  | write ps =>
    refine .then_pure (m.meets_writePlan_of (fun s' hsame => ?_) nofun)
    rw [← m.resolveFaults_congr hsame]
    exact m.meets_resolveFaults s' _ ps

/-- A call that succeeds has one binding for each of its classes, in the order of their first use,
under the name that the class has. -/
theorem named_answer {call : Call} {bindings : List AdapterBinding}
    (h : (m.answer call).runFrom s = (.ok bindings, s')) :
    bindings.map (·.cls) = adapterClasses call.properties ∧ Named s' bindings := by
  have hresolve : ∀ {directions ps s₁ s₂} {bound : List AdapterBinding},
      (m.resolve directions ps).runFrom s₁ = (.ok bound, s₂) →
      bound.map (·.cls) = adapterClasses ps ∧ Named s₂ bound :=
    fun hrun => ⟨m.map_cls_resolve hrun, m.named_resolveFrom (named_nil _) hrun⟩
  cases call with
  | resolve directions ps => exact hresolve h
  | reader =>
    obtain ⟨_, s₁, -, hpure⟩ := Naming.runFrom_bind_eq_ok.mp h
    obtain ⟨rfl, -⟩ := Naming.runFrom_pure_eq_ok.mp hpure
    exact ⟨rfl, named_nil _⟩
  | writer =>
    obtain ⟨_, s₁, -, h⟩ := Naming.runFrom_bind_eq_ok.mp h
    obtain ⟨_, s₂, -, hpure⟩ := Naming.runFrom_bind_eq_ok.mp h
    obtain ⟨rfl, -⟩ := Naming.runFrom_pure_eq_ok.mp hpure
    exact ⟨rfl, named_nil _⟩
  | read target byKeyword ps =>
    obtain ⟨plan, s₁, hplan, hpure⟩ := Naming.runFrom_bind_eq_ok.mp h
    obtain ⟨rfl, rfl⟩ := Naming.runFrom_pure_eq_ok.mp hpure
    obtain ⟨_, _, s₂, -, -, hbindings, -, hgranted⟩ := m.plansRead_of_readPlan hplan
    obtain ⟨hclasses, hnamed⟩ := hresolve hbindings
    exact ⟨hclasses, hnamed.mono hgranted⟩
  | write ps =>
    obtain ⟨plan, s₁, hplan, hpure⟩ := Naming.runFrom_bind_eq_ok.mp h
    obtain ⟨rfl, rfl⟩ := Naming.runFrom_pure_eq_ok.mp hpure
    obtain ⟨_, _, s₂, -, -, hbindings, -, hgranted⟩ := m.plansWrite_of_writePlan hplan
    obtain ⟨hclasses, hnamed⟩ := hresolve hbindings
    exact ⟨hclasses, hnamed.mono hgranted⟩

/-! ### runs of calls -/

/-- What calls answer one after the other, each with its own settings and directory, and the supply
that they leave behind.  After a failure the next call goes on. -/
def answers : List (Mapping × Call) → NameSupply →
    List (Except Failure (List AdapterBinding)) × NameSupply
  | [], s => ([], s)
  | (m, call) :: calls, s =>
    let (first, s') := (m.answer call).runFrom s
    let (others, s'') := answers calls s'
    (first :: others, s'')

theorem granted_answers (calls : List (Mapping × Call)) (s : NameSupply) :
    ∃ gs, Granted s gs (answers calls s).2 := by
  induction calls generalizing s with
  | nil => exact ⟨[], .nil s⟩
  | cons call calls ih =>
    obtain ⟨gs, hgs, -⟩ := call.1.takesFrom_answer call.2 s
    obtain ⟨hs, hhs⟩ := ih ((call.1.answer call.2).runFrom s).2
    exact ⟨gs ++ hs, hgs.append hhs⟩

/-- a class keeps the name that the first of its bindings has -/
theorem named_answers {calls : List (Mapping × Call)} {bindings : List AdapterBinding}
    (h : .ok bindings ∈ (answers calls s).1) : Named (answers calls s).2 bindings := by
  induction calls generalizing s with
  | nil => cases h
  | cons call calls ih =>
    rcases List.mem_cons.mp h with hfirst | hrest
    · have hrun : (call.1.answer call.2).runFrom s
          = (.ok bindings, ((call.1.answer call.2).runFrom s).2) := Prod.ext hfirst.symm rfl
      obtain ⟨gs, hgs⟩ := granted_answers calls ((call.1.answer call.2).runFrom s).2
      exact (call.1.named_answer hrun).2.mono hgs
    · exact ih hrest

/-! ### one more call -/

theorem mem_adapterClasses {ps : List Property} {cls : ClassRef} :
    cls ∈ adapterClasses ps ↔ ∃ p ∈ ps, p.adapter? = some cls := by
  unfold adapterClasses
  rw [List.mem_eraseDups, List.mem_filterMap]

theorem mem_takenFaults {ps : List Property} {fault : Fault}
    (h : fault ∈ ps.flatMap (takenFaults s [])) : ∃ cls ∈ adapterClasses ps, ∃ name,
      s.find? (.adapter cls) = some name ∧ fault.failure = .naming (.bound (.adapter cls) name) := by
  obtain ⟨p, hp, hfault⟩ := List.mem_flatMap.mp h
  obtain ⟨cls, hcls, hfault⟩ := List.mem_flatMap.mp hfault
  obtain ⟨name, hname, rfl⟩ := List.mem_map.mp hfault
  exact ⟨cls, mem_adapterClasses.mpr ⟨p, hp, Option.mem_toList.mp hcls⟩, name,
    Option.mem_toList.mp hname, rfl⟩

theorem takenFaults_eq_nil_iff {ps : List Property} : ps.flatMap (takenFaults s []) = [] ↔
    ∀ cls ∈ adapterClasses ps, s.find? (.adapter cls) = none := by
  constructor
  · intro hnil cls hcls
    obtain ⟨p, hp, hadapter⟩ := mem_adapterClasses.mp hcls
    cases hfind : s.find? (.adapter cls) with
    | none => rfl
    | some name =>
      have hfault : ⟨p, .naming (.bound (.adapter cls) name)⟩ ∈ ps.flatMap (takenFaults s []) :=
        List.mem_flatMap.mpr ⟨p, hp, List.mem_flatMap.mpr ⟨cls, Option.mem_toList.mpr hadapter,
          List.mem_map.mpr ⟨name, Option.mem_toList.mpr hfind, rfl⟩⟩⟩
      rw [hnil] at hfault
      cases hfault
  · intro hfree
    refine List.eq_nil_iff_forall_not_mem.mpr fun fault hfault => ?_
    obtain ⟨cls, hcls, name, hname, -⟩ := mem_takenFaults hfault
    rw [hfree cls hcls] at hname
    cases hname

theorem Call.faultsIn_eq {m : Mapping} {call : Call} (h : call.faults m = []) (s : NameSupply) :
    call.faultsIn m s = call.properties.flatMap (takenFaults s []) := by
  have hresolve : ∀ {directions ps}, ps.flatMap (m.contractFaults directions) = [] →
      m.resolveFaults s directions ps = ps.flatMap (takenFaults s []) := by
    intro directions ps hnil
    refine List.flatMap_congr fun p hp => ?_
    rw [List.flatMap_eq_nil_iff.mp hnil p hp, List.nil_append]
  cases call with
  | resolve directions ps => exact hresolve h
  | reader => rfl
  | writer => rfl
  | read target byKeyword ps =>
    obtain ⟨hfront, -⟩ := List.append_eq_nil_iff.mp h
    obtain ⟨hcontracts, hreads⟩ := List.append_eq_nil_iff.mp hfront
    show m.resolveFaults s _ ps ++ ps.flatMap m.readFaults = _
    rw [hresolve hcontracts, show ps.flatMap m.readFaults = [] from hreads, List.append_nil]
    rfl
  | write ps =>
    obtain ⟨hfront, hwrites⟩ := List.append_eq_nil_iff.mp h
    obtain ⟨hcontracts, -⟩ := List.append_eq_nil_iff.mp hfront
    show m.resolveFaults s _ ps ++ ps.flatMap m.writeFaults = _
    rw [hresolve hcontracts, show ps.flatMap m.writeFaults = [] from hwrites, List.append_nil]
    rfl

/-- After any calls every class has one name, which all its bindings have.  One more call meets the
faults of its properties and the names that its classes have already: without faults of the other
kind it succeeds exactly if none of them has a name. -/
theorem bindings_of_calls (calls : List (Mapping × Call)) (s : NameSupply) (m : Mapping)
    (call : Call) :
    let after := answers calls s
    let next := ((m.answer call).runFrom after.2).1
    (∀ bindings, .ok bindings ∈ after.1 → Named after.2 bindings) ∧
      MeetsFaults (call.faultsIn m after.2) next ∧
      (call.faults m = [] →
        ((∃ bindings, next = .ok bindings) ↔
          ∀ cls ∈ adapterClasses call.properties, after.2.find? (.adapter cls) = none) ∧
        ∀ f, next = .error f → ∃ cls ∈ adapterClasses call.properties, ∃ name,
          after.2.find? (.adapter cls) = some name ∧ f = .naming (.bound (.adapter cls) name)) ∧
      ∀ bindings, next = .ok bindings → bindings.map (·.cls) = adapterClasses call.properties := by
  intro after next
  have hmeets : MeetsFaults (call.faultsIn m after.2) next := m.meets_answer after.2 call
  refine ⟨fun bindings h => named_answers h, hmeets, fun hfaults => ?_, fun bindings h => ?_⟩
  · rw [Call.faultsIn_eq hfaults] at hmeets
    refine ⟨hmeets.exists_ok_iff.trans takenFaults_eq_nil_iff, fun f hf => ?_⟩
    obtain ⟨fault, hfault, rfl⟩ :=
      List.mem_map.mp (List.mem_of_head? (hmeets.eq_error_iff.mp hf))
    exact mem_takenFaults hfault
  · exact (m.named_answer (Prod.ext h rfl)).1

/-- After a number was read through one adapter, another is written through a class of the same
name. -/
theorem bindings_of_calls_shaded :
    let light := shadedProperties.take 1
    let tint := (shadedProperties.drop 1).take 1
    let after := answers [(shading, .read { name := "User", module := "app" } false light)] .empty
    (Call.write tint).faults shading = [] ∧
      (∀ cls ∈ adapterClasses tint, after.2.find? (.adapter cls) = none) ∧
      ∃ bindings, ((shading.answer (.write tint)).runFrom after.2).1 = .ok bindings ∧
        bindings.map (·.cls) = [{ name := "ShadeAdapter", module := "other" }] := by
  intro light tint after
  have hfaults : (Call.write tint).faults shading = [] := List.map_eq_nil_iff.mp
    (show ((Call.write tint).faults shading).map (·.failure) = [] by decide +kernel)
  have hfree : ∀ cls ∈ adapterClasses tint, after.2.find? (.adapter cls) = none := by
    decide +kernel
  obtain ⟨-, -, hanswer, hclasses⟩ := bindings_of_calls
    [(shading, .read { name := "User", module := "app" } false light)] .empty shading (.write tint)
  obtain ⟨bindings, hok⟩ := (hanswer hfaults).1.mpr hfree
  have htint : adapterClasses tint = [{ name := "ShadeAdapter", module := "other" }] := by decide
  exact ⟨hfaults, hfree, bindings, hok, (hclasses bindings hok).trans htint⟩

/-- What was read through an adapter is not written through it: its class has a name already. -/
theorem not_answered_shaded :
    let cls : ClassRef := { name := "ShadeAdapter", module := "app" }
    let light := shadedProperties.take 1
    let after := answers [(shading, .read { name := "User", module := "app" } false light)] .empty
    (Call.write light).faults shading = [] ∧ cls ∈ adapterClasses light ∧
      after.2.find? (.adapter cls) = some "shade_adapter" ∧
      ((shading.answer (.write light)).runFrom after.2).1
        = .error (.naming (.bound (.adapter cls) "shade_adapter")) := by
  intro cls light after
  have hfaults : (Call.write light).faults shading = [] := List.map_eq_nil_iff.mp
    (show ((Call.write light).faults shading).map (·.failure) = [] by decide +kernel)
  refine ⟨hfaults, by decide, by decide +kernel, ?_⟩
  exact (shading.meets_answer after.2 (.write light)).eq_error_iff.mpr (by decide +kernel)

end Mapping
end RowMapping
