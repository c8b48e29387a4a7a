import RowMapping.Proofs.Plan.Readings
import RowMapping.Proofs.Plan.Writings

/-!
# What is wrong with properties

`planFaults` lists all that keeps properties from being mapped, in the order in which a plan meets
it: first the adapters without a method that their use asks for, property by property and reading
before writing, then what can not be read, then what can not be written.

`MeetsFaults` says that a result is there if there are no faults, and is the failure of the first
one otherwise:

* `MeetsFaults.bind`  two steps in turn meet the faults of the first and then of the second;
* `meets_readPlan_fresh`, `meets_writePlan_fresh`  plans that are made from the start meet the
  faults of their direction.
-/

namespace RowMapping
open RowMapping.Text NameSupply

/-- what keeps a property from being mapped, and how that is reported -/
structure Fault where
  property : Property
  failure : Failure

/-- The result is there without faults, and the failure of the first fault otherwise. -/
def MeetsFaults {α : Type} (faults : List Fault) (result : Except Failure α) : Prop :=
  match faults with
  | [] => ∃ x, result = .ok x
  | fault :: _ => result = .error fault.failure

namespace MeetsFaults
variable {α β : Type} {faults others : List Fault} {result : Except Failure α} {s : NameSupply}

theorem eq_error_iff (h : MeetsFaults faults result) {f : Failure} :
    result = .error f ↔ (faults.map (·.failure)).head? = some f := by
  cases faults with
  | nil =>
    obtain ⟨x, rfl⟩ := h
    constructor <;> exact nofun
  | cons fault rest =>
    have herror : result = .error fault.failure := h
    rw [herror, List.map_cons, List.head?_cons, Except.error.injEq, Option.some.injEq]

theorem exists_ok_iff (h : MeetsFaults faults result) : (∃ x, result = .ok x) ↔ faults = [] := by
  cases faults with
  | nil => exact iff_of_true h rfl
  | cons fault rest =>
    have herror : result = .error fault.failure := h
    rw [herror]
    exact iff_of_false nofun nofun

/-- two steps in turn meet the faults of the first, and then those of the second -/
theorem bind {step : Naming α} {next : α → Naming β} (h : MeetsFaults faults (step.runFrom s).1)
    (hnext : ∀ x s', step.runFrom s = (.ok x, s') → MeetsFaults others ((next x).runFrom s').1) :
    MeetsFaults (faults ++ others) ((step >>= next).runFrom s).1 := by
  rw [Naming.runFrom_bind]
  rcases hrun : step.runFrom s with ⟨first, s'⟩
  rw [hrun] at h
  cases faults with
  | nil =>
    obtain ⟨x, rfl⟩ := h
    exact hnext x s' hrun
  | cons fault rest =>
    obtain rfl : first = .error fault.failure := h
    exact rfl

theorem bind_of_ok {step : Naming α} {next : α → Naming β} {x : α} {s' : NameSupply}
    (hrun : step.runFrom s = (.ok x, s')) (hnext : MeetsFaults others ((next x).runFrom s').1) :
    MeetsFaults others ((step >>= next).runFrom s).1 := by
  rw [Naming.runFrom_bind, hrun]
  exact hnext

theorem then_ok {step : Naming α} {next : α → Naming β} (h : MeetsFaults faults (step.runFrom s).1)
    (hnext : ∀ x s', step.runFrom s = (.ok x, s') → ∃ y, ((next x).runFrom s').1 = .ok y) :
    MeetsFaults faults ((step >>= next).runFrom s).1 := by
  have hbind : MeetsFaults (faults ++ []) ((step >>= next).runFrom s).1 := h.bind hnext
  rwa [List.append_nil] at hbind

theorem then_pure {step : Naming α} {f : α → β} (h : MeetsFaults faults (step.runFrom s).1) :
    MeetsFaults faults ((do return f (← step)).runFrom s).1 := h.then_ok fun x _ _ => ⟨f x, rfl⟩

end MeetsFaults

namespace Mapping
variable (m : Mapping)

/-! ### the faults of a property -/

/-- the methods that an adapter is asked for and does not have, the one that reads before the one
that writes -/
def adapterFaults (directions : Directions) (p : Property) (cls : ClassRef) : List Fault :=
  (if directions.read && !m.directory.hasMethod cls (m.readShape p.type) then
    [⟨p, m.violation p cls (m.readContract p.type)⟩] else [])
  ++ (if directions.write && !m.directory.hasMethod cls (m.writeShape p.type) then
    [⟨p, m.violation p cls (m.writeContract p.type)⟩] else [])

def contractFaults (directions : Directions) (p : Property) : List Fault :=
  match p.adapter? with
  | none => []
  | some cls => m.adapterFaults directions p cls

/-- a native type without an accessor, or another type that can not be left out -/
def nativeReadFaults (p : Property) : List Fault :=
  match p.operations? with
  | some ops =>
    if (m.settings.rowStore.getter? ops.accessor).isSome then []
    else [⟨p, .noGetter ops.accessor⟩]
  | none => if p.nullable && !p.hasExplicitColumn then [] else [⟨p, p.unsupported .read⟩]

def readFaults (p : Property) : List Fault :=
  match p.adapter? with
  | some _ => []
  | none => m.nativeReadFaults p

/-- a factory without its method, or a type that is neither native nor converted -/
def writeFaults (p : Property) : List Fault :=
  match p.conversion with
  | .factory cls =>
    if m.directory.hasMethod cls (m.factoryShape p.type) then []
    else [⟨p, m.factoryViolation p cls⟩]
  | .adapter _ => []
  | .native => if p.isSupported then [] else [⟨p, p.unsupported .write⟩]

/-- all that is wrong with properties that are mapped in these directions, in the order in which it
comes up -/
def planFaults (directions : Directions) (ps : List Property) : List Fault :=
  ps.flatMap (m.contractFaults directions)
    ++ (if directions.read then ps.flatMap m.readFaults else [])
    ++ (if directions.write then ps.flatMap m.writeFaults else [])

theorem planFaults_eq_nil_iff {directions : Directions} {ps : List Property} :
    m.planFaults directions ps = [] ↔
      (∀ p ∈ ps, m.contractFaults directions p = []) ∧
        (directions.read = true → ∀ p ∈ ps, m.readFaults p = []) ∧
        (directions.write = true → ∀ p ∈ ps, m.writeFaults p = []) := by
  unfold planFaults
  rw [List.append_eq_nil_iff, List.append_eq_nil_iff, List.flatMap_eq_nil_iff, and_assoc]
  cases directions.read <;> cases directions.write <;> simp [List.flatMap_eq_nil_iff]

variable {s s' : NameSupply} {bindings : List AdapterBinding}

/-! ### adapters -/

/-- The tags of classes that have no binding yet are free. -/
def FreeAdapters (s : NameSupply) (bindings : List AdapterBinding) : Prop :=
  ∀ cls, (bindings.any (·.cls = cls)) = false → s.find? (.adapter cls) = none

/-- the name of a class that has no binding yet, if it has one from elsewhere -/
def takenName? (s : NameSupply) (bindings : List AdapterBinding) (cls : ClassRef) :
    Option String :=
  if bindings.any (·.cls = cls) then none else s.find? (.adapter cls)

/-- an adapter whose class can not be bound, since it has a name already -/
def takenFaults (s : NameSupply) (bindings : List AdapterBinding) (p : Property) : List Fault :=
  p.adapter?.toList.flatMap fun cls =>
    (takenName? s bindings cls).toList.map fun name => ⟨p, .naming (.bound (.adapter cls) name)⟩

/-- all that keeps the adapters of properties from being bound in a supply -/
def resolveFaults (s : NameSupply) (directions : Directions) (ps : List Property) : List Fault :=
  ps.flatMap fun p => m.contractFaults directions p ++ takenFaults s [] p

/-- All adapters of the properties have a binding. -/
def BindsAll (bindings : List AdapterBinding) (ps : List Property) : Prop :=
  ∀ p ∈ ps, ∀ cls, p.adapter? = some cls → ∃ b ∈ bindings, b.cls = cls

theorem FreeAdapters.of_bindings_nil (h : s.bindings = []) : FreeAdapters s bindings := by
  intro cls _
  rw [find?, h, List.lookup_nil]

theorem FreeAdapters.of_find?_eq (h : FreeAdapters s bindings)
    (hsame : ∀ cls, s'.find? (.adapter cls) = s.find? (.adapter cls)) :
    FreeAdapters s' bindings := by
  intro cls hcls
  rw [hsame cls]
  exact h cls hcls

theorem FreeAdapters.mono {gs : List Grant} (h : FreeAdapters s bindings)
    (hgranted : Granted s gs s') (htags : ∀ g ∈ gs, ∀ cls, g.tag? ≠ some (.adapter cls)) :
    FreeAdapters s' bindings :=
  h.of_find?_eq fun cls => hgranted.find?_of_other fun g hg => htags g hg cls

theorem meets_checkAdapter (directions : Directions) (p : Property) (cls : ClassRef) :
    MeetsFaults (m.adapterFaults directions p cls) (m.checkAdapter directions p cls) := by
  unfold adapterFaults checkAdapter
  cases directions.read && !m.directory.hasMethod cls (m.readShape p.type) with
  | true => exact rfl
  | false =>
    cases directions.write && !m.directory.hasMethod cls (m.writeShape p.type) with
    | true => exact rfl
    | false => exact ⟨(), rfl⟩

theorem takenName?_of_any {cls : ClassRef} (h : bindings.any (·.cls = cls) = true) :
    takenName? s bindings cls = none := if_pos h

theorem takenName?_of_any_eq_false {cls : ClassRef} (h : bindings.any (·.cls = cls) = false) :
    takenName? s bindings cls = s.find? (.adapter cls) :=
  if_neg (ne_true_of_eq_false h)

theorem takenFaults_congr {others : List AdapterBinding}
    (h : ∀ cls, takenName? s' others cls = takenName? s bindings cls) (p : Property) :
    takenFaults s' others p = takenFaults s bindings p := by
  unfold takenFaults
  simp only [h]

theorem FreeAdapters.takenName?_eq_none (h : FreeAdapters s bindings) (cls : ClassRef) :
    takenName? s bindings cls = none := by
  cases hany : bindings.any (·.cls = cls) with
  | true => exact takenName?_of_any hany
  | false => rw [takenName?_of_any_eq_false hany, h cls hany]

/-- where no class has a name yet, only the methods of the adapters are in the way -/
theorem FreeAdapters.resolveFaults_eq (h : FreeAdapters s []) (directions : Directions)
    (ps : List Property) :
    m.resolveFaults s directions ps = ps.flatMap (m.contractFaults directions) := by
  have hnone : ∀ p, takenFaults s [] p = [] := by
    intro p
    simp [takenFaults, h.takenName?_eq_none]
  unfold resolveFaults
  simp only [hnone, List.append_nil]

theorem exists_bindAdapter {cls : ClassRef} (h : takenName? s bindings cls = none) :
    ∃ result s', (m.bindAdapter bindings cls).runFrom s = (.ok result, s') := by
  unfold bindAdapter
  cases hany : bindings.any (·.cls = cls) with
  | true => exact ⟨bindings, s, rfl⟩
  | false =>
    rw [takenName?_of_any_eq_false hany] at h
    obtain ⟨name, s', hname⟩ := Naming.exists_newNameFor h
      (snakeCase (m.directory.typeName cls).simpleName)
    exact ⟨_, s', Naming.runFrom_bind_eq_ok.mpr ⟨name, s', hname, rfl⟩⟩

theorem runFrom_bindAdapter_of_taken {cls : ClassRef} {name : String}
    (h : takenName? s bindings cls = some name) :
    (m.bindAdapter bindings cls).runFrom s = (.error (.naming (.bound (.adapter cls) name)), s) := by
  cases hany : bindings.any (·.cls = cls) with
  | true =>
    rw [takenName?_of_any hany] at h
    cases h
  | false =>
    rw [takenName?_of_any_eq_false hany] at h
    unfold bindAdapter
    rw [hany]
    show ((Naming.newNameFor _ _ >>= _ : Naming (List AdapterBinding))).runFrom s = _
    rw [Naming.runFrom_bind, Naming.runFrom_newNameFor, NameSupply.newNameFor, h]

theorem meets_bindAdapter {p : Property} {cls : ClassRef} (hadapter : p.adapter? = some cls) :
    MeetsFaults (takenFaults s bindings p) ((m.bindAdapter bindings cls).runFrom s).1 := by
  have hfaults : takenFaults s bindings p = (takenName? s bindings cls).toList.map
      fun name => ⟨p, .naming (.bound (.adapter cls) name)⟩ := by
    rw [takenFaults, hadapter, Option.toList_some, List.flatMap_singleton]
  rw [hfaults]
  cases htaken : takenName? s bindings cls with
  | none =>
    obtain ⟨result, s', hrun⟩ := m.exists_bindAdapter htaken
    exact ⟨result, congrArg Prod.fst hrun⟩
  | some name => exact congrArg Prod.fst (m.runFrom_bindAdapter_of_taken htaken)

theorem takenName?_bindAdapter {cls : ClassRef} {result : List AdapterBinding}
    (h : (m.bindAdapter bindings cls).runFrom s = (.ok result, s')) (other : ClassRef) :
    takenName? s' result other = takenName? s bindings other := by
  obtain ⟨new, rfl, hgranted, hnew, own, hown, howncls⟩ := m.granted_bindAdapter h
  by_cases hsame : other = cls
  · -- the class is bound now, and it was no other's before
    have hany : (bindings ++ new).any (·.cls = other) = true :=
      List.any_eq_true.mpr ⟨own, hown, decide_eq_true (howncls.trans hsame.symm)⟩
    rw [takenName?_of_any hany]
    cases htaken : takenName? s bindings other with
    | none => rfl
    | some name =>
      rw [hsame] at htaken
      rw [m.runFrom_bindAdapter_of_taken htaken] at h
      cases h
  · have hnone : new.any (·.cls = other) = false := by
      rw [List.any_eq_false]
      intro b hb heq
      exact hsame ((of_decide_eq_true heq).symm.trans (hnew b hb).1)
    have hfind : s'.find? (.adapter other) = s.find? (.adapter other) := by
      refine hgranted.find?_of_other fun g hg htag => ?_
      obtain ⟨b, hb, rfl⟩ := List.mem_map.mp hg
      have hcls : b.cls = other := Tag.adapter.inj (Option.some.inj htag)
      exact hsame (hcls.symm.trans (hnew b hb).1)
    unfold takenName?
    rw [List.any_append, hnone, Bool.or_false, hfind]

/-- binding adapters one after the other meets what keeps each of them from being bound -/
theorem meets_resolveFrom {directions : Directions} {ps : List Property} :
    MeetsFaults (ps.flatMap fun p => m.contractFaults directions p ++ takenFaults s bindings p)
      ((m.resolveFrom directions bindings ps).runFrom s).1 := by
  induction ps generalizing s bindings with
  | nil => exact ⟨bindings, rfl⟩
  | cons p ps ih =>
    rw [List.flatMap_cons]
    unfold resolveFrom
    cases hadapter : p.adapter? with
    | none =>
      have hnone : m.contractFaults directions p ++ takenFaults s bindings p = [] := by
        rw [contractFaults, takenFaults, hadapter]
        rfl
      rw [hnone]
      exact ih
    | some cls =>
      have hsome : m.contractFaults directions p = m.adapterFaults directions p cls := by
        unfold contractFaults
        rw [hadapter]
      rw [hsome, List.append_assoc]
      refine .bind ?_ fun _ s₁ hcheck => ?_
      · rw [Naming.runFrom_ofExcept]
        exact m.meets_checkAdapter directions p cls
      · obtain ⟨-, rfl⟩ := Naming.runFrom_ofExcept_eq_ok.mp hcheck
        refine (m.meets_bindAdapter hadapter).bind fun result s₂ hbind => ?_
        simp only [← takenFaults_congr (m.takenName?_bindAdapter hbind)]
        exact ih

theorem meets_resolveFaults (s : NameSupply) (directions : Directions) (ps : List Property) :
    MeetsFaults (m.resolveFaults s directions ps) ((m.resolve directions ps).runFrom s).1 :=
  m.meets_resolveFrom

theorem meets_resolve {directions : Directions} {ps : List Property} (hfree : FreeAdapters s []) :
    MeetsFaults (ps.flatMap (m.contractFaults directions))
      ((m.resolve directions ps).runFrom s).1 := by
  rw [← hfree.resolveFaults_eq m]
  exact m.meets_resolveFaults s directions ps

theorem exists_adapterName {cls : ClassRef} (hbound : ∃ b ∈ bindings, b.cls = cls) :
    ∃ name, (adapterName bindings cls).runFrom s = (.ok name, s) := by
  obtain ⟨b, hb, hcls⟩ := hbound
  cases hfind : bindings.find? (·.cls = cls) with
  | none => exact absurd (decide_eq_true hcls) (List.find?_eq_none.mp hfind b hb)
  | some b' => exact ⟨b'.name, runFrom_adapterName_eq_ok.mpr ⟨⟨b', hfind, rfl⟩, rfl⟩⟩

/-! ### readings -/

theorem meets_readExpression {p : Property} {ops : CellOperations} (cursor index : String)
    (hops : p.operations? = some ops) :
    MeetsFaults (m.nativeReadFaults p) (p.readExpression m.settings cursor index) := by
  unfold nativeReadFaults Property.readExpression Property.operations
  rw [hops]
  show MeetsFaults (if _ then _ else _) (ops.readExpression m.settings cursor index)
  unfold CellOperations.readExpression RowStoreSettings.getter
  cases m.settings.rowStore.getter? ops.accessor with
  | none => exact rfl
  | some getter => exact ⟨_, rfl⟩

/-- What a native property needs in the way of names is always there, so it meets its own faults. -/
theorem meets_native {cursor name : String} {p : Property} (hadapter : p.adapter? = none) :
    MeetsFaults (m.nativeReadFaults p)
      ((Naming.ofExcept p.readWay >>= m.readBy bindings cursor name p).runFrom s).1 := by
  have hway : p.readWay = if p.isSupported then .ok (if p.nullable then .optionalCell else .cell)
      else if p.nullable && !p.hasExplicitColumn then .ok .absent
      else .error (p.unsupported .read) := by
    unfold Property.readWay
    rw [hadapter]
  cases hops : p.operations? with
  | some ops =>
    have hsupported : p.isSupported = true := by rw [Property.isSupported, hops]; rfl
    rw [hsupported, if_pos rfl] at hway
    refine .bind_of_ok (Naming.runFrom_ofExcept_eq_ok.mpr ⟨hway, rfl⟩) ?_
    cases p.nullable with
    | true =>
      refine .bind_of_ok (Naming.runFrom_newName _ s) (.then_pure ?_)
      exact m.meets_readExpression _ _ hops
    | false => exact .then_pure (m.meets_readExpression _ _ hops)
  | none =>
    have hsupported : p.isSupported = false := by rw [Property.isSupported, hops]; rfl
    rw [hsupported, if_neg Bool.false_ne_true] at hway
    unfold nativeReadFaults
    rw [hops, Naming.runFrom_bind, Naming.runFrom_ofExcept, hway]
    show MeetsFaults (if _ then _ else _) _
    cases p.nullable && !p.hasExplicitColumn with
    | true => exact ⟨_, rfl⟩
    | false => exact rfl

theorem meets_readProperty {cursor : String} {byKeyword : Bool} {p : Property}
    (hlocal : s.HasLocal p)
    (hbound : ∀ cls, p.adapter? = some cls → ∃ b ∈ bindings, b.cls = cls) :
    MeetsFaults (m.readFaults p) ((m.readProperty bindings cursor byKeyword p).runFrom s).1 := by
  refine .bind_of_ok (Naming.runFrom_boundName_eq_ok.mpr ⟨hlocal, rfl⟩) ?_
  rw [← bind_assoc]
  refine .then_pure ?_
  unfold readFaults
  cases hadapter : p.adapter? with
  | none => exact m.meets_native hadapter
  | some cls =>
    have hway : p.readWay = .ok (.adapter cls) := by unfold Property.readWay; rw [hadapter]
    obtain ⟨name, hname⟩ := exists_adapterName (s := s) (hbound cls hadapter)
    refine .bind_of_ok (Naming.runFrom_ofExcept_eq_ok.mpr ⟨hway, rfl⟩) ?_
    exact .bind_of_ok hname ⟨_, rfl⟩

theorem meets_readAll {cursor : String} {byKeyword : Bool} {ps : List Property}
    (hlocals : ∀ p ∈ ps, s.HasLocal p)
    (hbound : BindsAll bindings ps) :
    MeetsFaults (ps.flatMap m.readFaults)
      ((m.readAll bindings cursor byKeyword ps).runFrom s).1 := by
  induction ps generalizing s with
  | nil => exact ⟨[], rfl⟩
  | cons p ps ih =>
    rw [List.flatMap_cons]
    refine .bind (m.meets_readProperty (hlocals p List.mem_cons_self)
      (hbound p List.mem_cons_self)) fun g s₁ hg => .then_pure (ih ?_ ?_)
    · -- a reading takes names of its own, but no local of another property
      obtain ⟨-, hgranted⟩ := m.reads_readProperty hg
      exact fun q hq => (hgranted.hasLocal (hlocals q (List.mem_cons_of_mem _ hq))).1
    · exact fun q hq => hbound q (List.mem_cons_of_mem _ hq)

/-! ### writings -/

theorem meets_writeProperty {value values : String} {p : Property}
    (hbound : ∀ cls, p.adapter? = some cls → ∃ b ∈ bindings, b.cls = cls) :
    MeetsFaults (m.writeFaults p) ((m.writeProperty bindings value values p).runFrom s).1 := by
  unfold writeFaults writeProperty
  cases hconversion : p.conversion with
  | factory cls =>
    show MeetsFaults (if _ then _ else _)
      ((m.writeByFactory values (value ++ "." ++ p.name) p cls).runFrom s).1
    unfold writeByFactory Directory.hasMethod
    cases m.directory.findMethod cls (m.factoryShape p.type) with
    | none => exact rfl
    | some method => exact .bind_of_ok (Naming.runFrom_newName _ s) ⟨_, rfl⟩
  | adapter cls =>
    have hadapter : p.adapter? = some cls := by rw [Property.adapter?, hconversion]; rfl
    obtain ⟨name, hname⟩ := exists_adapterName (s := s) (hbound cls hadapter)
    exact .bind_of_ok hname ⟨_, rfl⟩
  | native =>
    cases hsupported : p.isSupported with
    | false => exact rfl
    | true =>
      obtain ⟨ops, hops⟩ := Option.isSome_iff_exists.mp hsupported
      have hput : p.putStatement m.settings values (value ++ "." ++ p.name)
          = .ok (putStatement m.settings values p.column (value ++ "." ++ p.name)) := by
        unfold Property.putStatement Property.operations
        rw [hops]
        rfl
      exact .bind_of_ok (Naming.runFrom_ofExcept_eq_ok.mpr ⟨hput, rfl⟩) ⟨_, rfl⟩

theorem meets_writeAll {value values : String} {ps : List Property}
    (hbound : BindsAll bindings ps) :
    MeetsFaults (ps.flatMap m.writeFaults)
      ((m.writeAll bindings value values ps).runFrom s).1 := by
  induction ps generalizing s with
  | nil => exact ⟨[], rfl⟩
  | cons p ps ih =>
    rw [List.flatMap_cons]
    refine .bind (m.meets_writeProperty (hbound p List.mem_cons_self)) fun statements s₁ _ =>
      .then_pure (ih ?_)
    exact fun q hq => hbound q (List.mem_cons_of_mem _ hq)

/-! ### plans -/

/-- the faults of the adapters that a plan binds itself -/
def bindingFaults (directions : Directions) (ps : List Property) :
    Option (List AdapterBinding) → List Fault
  | some _ => []
  | none => ps.flatMap (m.contractFaults directions)

theorem meets_bindingsFor {directions : Directions} {ps : List Property}
    {shared : Option (List AdapterBinding)} (hfree : shared = none → FreeAdapters s []) :
    MeetsFaults (m.bindingFaults directions ps shared)
      ((m.bindingsFor directions ps shared).runFrom s).1 := by
  cases shared with
  | none => exact m.meets_resolve (hfree rfl)
  | some bindings => exact ⟨bindings, rfl⟩

theorem bindsAll_bindingsFor {directions : Directions} {ps : List Property}
    {shared : Option (List AdapterBinding)} (hshared : ∀ bound ∈ shared, BindsAll bound ps)
    (h : (m.bindingsFor directions ps shared).runFrom s = (.ok bindings, s')) :
    BindsAll bindings ps := by
  cases shared with
  | none => exact (m.granted_resolve h).2.2
  | some bound =>
    obtain ⟨rfl, -⟩ := Naming.runFrom_pure_eq_ok.mp h
    exact hshared bound rfl

variable {ps : List Property} {shared : Option (List AdapterBinding)}

/-- Reading meets the faults of its bindings, made when only cursor and locals have their names,
and then of what it reads. -/
theorem meets_readPlan_of {target : TypeName} {byKeyword : Bool} {faults : List Fault}
    (hbindings : ∀ s', (∀ cls, s'.find? (.adapter cls) = s.find? (.adapter cls)) →
      MeetsFaults faults
        ((m.bindingsFor { read := true, write := false } ps shared).runFrom s').1)
    (hshared : ∀ bound ∈ shared, BindsAll bound ps) :
    MeetsFaults (faults ++ ps.flatMap m.readFaults)
      ((m.readPlan target byKeyword shared ps).runFrom s).1 := by
  obtain ⟨cursor, s₁, gs₁, hcursor, -, hgranted, htag⟩ :=
    Naming.exists_nameFor (.role .cursor) m.settings.cursorParam s
  obtain ⟨s₂, gs₂, hlocals, hgranted', htags, hhas⟩ := exists_nameLocals ps s₁
  refine .bind_of_ok hcursor (.bind_of_ok hlocals (.bind (hbindings s₂ fun cls => ?_)
    fun bindings s₃ hrun => ?_))
  · rw [hgranted'.find?_of_other, hgranted.find?_of_other]
    · intro g hg
      rw [htag g hg]
      exact nofun
    · intro g hg
      obtain ⟨name, hname⟩ := htags g hg
      rw [hname]
      exact nofun
  · obtain ⟨gs₃, hgranted₃⟩ := m.exists_granted_bindingsFor hrun
    have hhas₃ : ∀ p ∈ ps, s₃.HasLocal p := fun p hp => (hgranted₃.hasLocal (hhas p hp)).1
    exact .then_pure (m.meets_readAll hhas₃ (m.bindsAll_bindingsFor hshared hrun))

theorem meets_writePlan_of {faults : List Fault}
    (hbindings : ∀ s', (∀ cls, s'.find? (.adapter cls) = s.find? (.adapter cls)) →
      MeetsFaults faults
        ((m.bindingsFor { read := false, write := true } ps shared).runFrom s').1)
    (hshared : ∀ bound ∈ shared, BindsAll bound ps) :
    MeetsFaults (faults ++ ps.flatMap m.writeFaults) ((m.writePlan shared ps).runFrom s).1 := by
  obtain ⟨value, s₁, gs₁, hvalue, -, hgranted, htag⟩ :=
    Naming.exists_nameFor (.role .value) m.settings.valueParam s
  obtain ⟨values, s₂, gs₂, hvalues, -, hgranted', htag'⟩ :=
    Naming.exists_nameFor (.role .values) m.settings.valuesVar s₁
  refine .bind_of_ok hvalue (.bind_of_ok hvalues (.bind (hbindings s₂ fun cls => ?_)
    fun bindings s₃ hrun => ?_))
  · rw [hgranted'.find?_of_other, hgranted.find?_of_other]
    · intro g hg
      rw [htag g hg]
      exact nofun
    · intro g hg
      rw [htag' g hg]
      exact nofun
  · exact .then_pure (m.meets_writeAll (m.bindsAll_bindingsFor hshared hrun))

theorem meets_readPlan {target : TypeName} {byKeyword : Bool}
    (hfree : shared = none → FreeAdapters s []) (hshared : ∀ bound ∈ shared, BindsAll bound ps) :
    MeetsFaults (m.bindingFaults { read := true, write := false } ps shared
        ++ ps.flatMap m.readFaults)
      ((m.readPlan target byKeyword shared ps).runFrom s).1 := by
  refine m.meets_readPlan_of (fun s' hsame => m.meets_bindingsFor fun hnone => ?_) hshared
  exact (hfree hnone).of_find?_eq hsame

theorem meets_writePlan (hfree : shared = none → FreeAdapters s [])
    (hshared : ∀ bound ∈ shared, BindsAll bound ps) :
    MeetsFaults (m.bindingFaults { read := false, write := true } ps shared
        ++ ps.flatMap m.writeFaults)
      ((m.writePlan shared ps).runFrom s).1 := by
  refine m.meets_writePlan_of (fun s' hsame => m.meets_bindingsFor fun hnone => ?_) hshared
  exact (hfree hnone).of_find?_eq hsame

/-! ### plans over given bindings -/

theorem meets_readPlan_some {target : TypeName} {byKeyword : Bool} (hbound : BindsAll bindings ps) :
    MeetsFaults (ps.flatMap m.readFaults)
      ((m.readPlan target byKeyword (some bindings) ps).runFrom s).1 := by
  have hshared : ∀ bound ∈ some bindings, BindsAll bound ps := by
    intro bound hsome
    rwa [← Option.some.inj hsome]
  exact m.meets_readPlan (fun hnone => by cases hnone) hshared

theorem meets_writePlan_some (hbound : BindsAll bindings ps) :
    MeetsFaults (ps.flatMap m.writeFaults) ((m.writePlan (some bindings) ps).runFrom s).1 := by
  have hshared : ∀ bound ∈ some bindings, BindsAll bound ps := by
    intro bound hsome
    rwa [← Option.some.inj hsome]
  exact m.meets_writePlan (fun hnone => by cases hnone) hshared

/-! ### plans on their own -/

theorem meets_readPlan_fresh (target : TypeName) (byKeyword : Bool) (ps : List Property) :
    MeetsFaults (m.planFaults { read := true, write := false } ps)
      (m.readPlan target byKeyword none ps).runFresh := by
  have hfree : FreeAdapters .empty [] := .of_bindings_nil rfl
  have hplan : MeetsFaults (m.bindingFaults { read := true, write := false } ps none
      ++ ps.flatMap m.readFaults) ((m.readPlan target byKeyword none ps).runFrom .empty).1 :=
    m.meets_readPlan (fun _ => hfree) nofun
  rwa [← List.append_nil (_ ++ _)] at hplan

theorem meets_writePlan_fresh (ps : List Property) :
    MeetsFaults (m.planFaults { read := false, write := true } ps)
      (m.writePlan none ps).runFresh := by
  have hfree : FreeAdapters .empty [] := .of_bindings_nil rfl
  have hplan : MeetsFaults (m.bindingFaults { read := false, write := true } ps none
      ++ ps.flatMap m.writeFaults) ((m.writePlan none ps).runFrom .empty).1 :=
    m.meets_writePlan (fun _ => hfree) nofun
  rwa [← List.append_nil (m.bindingFaults _ _ _)] at hplan

end Mapping
end RowMapping
