import RowMapping.GeneratedUnit.Basic
import RowMapping.Proofs.Plan.Readings
import RowMapping.Proofs.Plan.Writings

/-!
# The routines of a unit

What a routine is where its steps succeed, as data: a `ReadRoutine` is empty or one function over
the readings of the properties, with the mapper behind it; a `WriteRoutine` is empty or one
function over their writings.  `IsUnit` says that a unit is made of two such routines and the
instances of its adapters.
-/

namespace RowMapping
open NameSupply

/-- the locals that the readings of a plan take for themselves -/
def ReadPlan.ownLocals (plan : ReadPlan) : List String :=
  plan.readings.flatMap PropertyReading.ownLocals

/-- the locals that the writings of a plan take for themselves -/
def WritePlan.ownLocals (plan : WritePlan) : List String :=
  plan.writings.flatMap PropertyWriting.ownLocals

namespace Mapping
variable (m : Mapping)

/-! ### plans over given bindings -/

/-- the plan that reads properties with given bindings, in a supply that has their locals -/
structure PlansRead (s : NameSupply) (target : TypeName) (byKeyword : Bool)
    (bindings : List AdapterBinding) (ps : List Property) (plan : ReadPlan) : Prop where
  target : plan.target = target
  adapters : plan.adapters = bindings
  cursor : s.find? (.role .cursor) = some plan.cursor
  readings : List.Forall₂ (m.ReadsProperty s bindings plan.cursor byKeyword) ps plan.readings

/-- the plan that writes properties with given bindings -/
structure PlansWrite (s : NameSupply) (bindings : List AdapterBinding) (ps : List Property)
    (plan : WritePlan) : Prop where
  adapters : plan.adapters = bindings
  value : s.find? (.role .value) = some plan.value
  values : s.find? (.role .values) = some plan.values
  writings : List.Forall₂ (m.WritesProperty bindings plan.value plan.values) ps plan.writings

variable {s s' : NameSupply} {bindings : List AdapterBinding} {ps : List Property}

theorem PlansRead.mono {m : Mapping} {target : TypeName} {byKeyword : Bool} {plan : ReadPlan}
    {gs : List Grant} (h : m.PlansRead s target byKeyword bindings ps plan)
    (hgranted : Granted s gs s') : m.PlansRead s' target byKeyword bindings ps plan :=
  ⟨h.target, h.adapters, hgranted.find?_of_some h.cursor,
    h.readings.imp fun _ _ hp => hp.mono hgranted⟩

theorem PlansRead.hasLocal {m : Mapping} {target : TypeName} {byKeyword : Bool} {plan : ReadPlan}
    (h : m.PlansRead s target byKeyword bindings ps plan) : ∀ p ∈ ps, s.HasLocal p := by
  intro p hp
  obtain ⟨g, -, hreads⟩ := exists_right_of_forall₂ h.readings hp
  exact hreads.hasLocal

theorem PlansWrite.mono {m : Mapping} {plan : WritePlan} {gs : List Grant}
    (h : m.PlansWrite s bindings ps plan) (hgranted : Granted s gs s') :
    m.PlansWrite s' bindings ps plan :=
  ⟨h.adapters, hgranted.find?_of_some h.value, hgranted.find?_of_some h.values, h.writings⟩

/-- A read plan names its cursor, the locals of the properties and the adapters that it is not
given, and then takes the locals of its readings. -/
theorem plansRead_of_readPlan {target : TypeName} {byKeyword : Bool}
    {shared : Option (List AdapterBinding)} {plan : ReadPlan}
    (h : (m.readPlan target byKeyword shared ps).runFrom s = (.ok plan, s')) :
    ∃ s₁ s₂ s₃, (Naming.nameFor (.role .cursor) m.settings.cursorParam).runFrom s
        = (.ok plan.cursor, s₁) ∧
      (nameLocals ps).runFrom s₁ = (.ok (), s₂) ∧
      (m.bindingsFor { read := true, write := false } ps shared).runFrom s₂
        = (.ok plan.adapters, s₃) ∧
      m.PlansRead s₃ target byKeyword plan.adapters ps plan ∧
      Granted s₃ (plan.ownLocals.map Grant.plain) s' := by
  obtain ⟨cursor, s₁, hcursor, h⟩ := Naming.runFrom_bind_eq_ok.mp h
  obtain ⟨_, s₂, hlocals, h⟩ := Naming.runFrom_bind_eq_ok.mp h
  obtain ⟨bindings, s₃, hbindings, h⟩ := Naming.runFrom_bind_eq_ok.mp h
  obtain ⟨readings, s₄, hreadings, hpure⟩ := Naming.runFrom_bind_eq_ok.mp h
  obtain ⟨rfl, rfl⟩ := Naming.runFrom_pure_eq_ok.mp hpure
  obtain ⟨hreads, hgranted⟩ := m.forall₂_readAll hreadings
  obtain ⟨gs, hgs⟩ := exists_granted_nameLocals hlocals
  obtain ⟨hs, hhs⟩ := m.exists_granted_bindingsFor hbindings
  have hbound := (hgs.append hhs).find?_of_some (Naming.exists_granted_nameFor hcursor).1
  exact ⟨s₁, s₂, s₃, hcursor, hlocals, hbindings, ⟨rfl, rfl, hbound, hreads⟩, hgranted⟩

theorem plansRead_readPlan {target : TypeName} {byKeyword : Bool} {plan : ReadPlan}
    (h : (m.readPlan target byKeyword (some bindings) ps).runFrom s = (.ok plan, s')) :
    ∃ s₁ s₂, (Naming.nameFor (.role .cursor) m.settings.cursorParam).runFrom s
        = (.ok plan.cursor, s₁) ∧
      (nameLocals ps).runFrom s₁ = (.ok (), s₂) ∧
      m.PlansRead s₂ target byKeyword bindings ps plan ∧
      Granted s₂ (plan.ownLocals.map Grant.plain) s' := by
  obtain ⟨s₁, s₂, s₃, hcursor, hlocals, hbindings, hplans, hgranted⟩ := m.plansRead_of_readPlan h
  obtain ⟨rfl, rfl⟩ := Naming.runFrom_pure_eq_ok.mp hbindings
  exact ⟨s₁, s₂, hcursor, hlocals, hplans, hgranted⟩

/-- what a read plan leaves behind: its readings with their locals, and only more names -/
theorem exists_granted_readPlan {target : TypeName} {byKeyword : Bool}
    {shared : Option (List AdapterBinding)} {plan : ReadPlan}
    (h : (m.readPlan target byKeyword shared ps).runFrom s = (.ok plan, s')) :
    m.PlansRead s' target byKeyword plan.adapters ps plan ∧ ∃ gs, Granted s gs s' := by
  obtain ⟨s₁, s₂, s₃, hcursor, hlocals, hbindings, hplans, hgranted⟩ := m.plansRead_of_readPlan h
  obtain ⟨-, gs₁, hgs₁⟩ := Naming.exists_granted_nameFor hcursor
  obtain ⟨gs₂, hgs₂⟩ := exists_granted_nameLocals hlocals
  obtain ⟨gs₃, hgs₃⟩ := m.exists_granted_bindingsFor hbindings
  exact ⟨hplans.mono hgranted, _, ((hgs₁.append hgs₂).append hgs₃).append hgranted⟩

theorem plansWrite_of_writePlan {shared : Option (List AdapterBinding)} {plan : WritePlan}
    (h : (m.writePlan shared ps).runFrom s = (.ok plan, s')) :
    ∃ s₁ s₂ s₃, (Naming.nameFor (.role .value) m.settings.valueParam).runFrom s
        = (.ok plan.value, s₁) ∧
      (Naming.nameFor (.role .values) m.settings.valuesVar).runFrom s₁ = (.ok plan.values, s₂) ∧
      (m.bindingsFor { read := false, write := true } ps shared).runFrom s₂
        = (.ok plan.adapters, s₃) ∧
      m.PlansWrite s₃ plan.adapters ps plan ∧
      Granted s₃ (plan.ownLocals.map Grant.plain) s' := by
  obtain ⟨value, s₁, hvalue, h⟩ := Naming.runFrom_bind_eq_ok.mp h
  obtain ⟨values, s₂, hvalues, h⟩ := Naming.runFrom_bind_eq_ok.mp h
  obtain ⟨bindings, s₃, hbindings, h⟩ := Naming.runFrom_bind_eq_ok.mp h
  obtain ⟨writings, s₄, hwritings, hpure⟩ := Naming.runFrom_bind_eq_ok.mp h
  obtain ⟨rfl, rfl⟩ := Naming.runFrom_pure_eq_ok.mp hpure
  obtain ⟨hwrites, hgranted⟩ := m.forall₂_writeAll hwritings
  obtain ⟨hvaluesBound, gs, hgs⟩ := Naming.exists_granted_nameFor hvalues
  have hvalueBound := hgs.find?_of_some (Naming.exists_granted_nameFor hvalue).1
  obtain ⟨hs, hhs⟩ := m.exists_granted_bindingsFor hbindings
  exact ⟨s₁, s₂, s₃, hvalue, hvalues, hbindings, ⟨rfl, hhs.find?_of_some hvalueBound,
    hhs.find?_of_some hvaluesBound, hwrites⟩, hgranted⟩

theorem plansWrite_writePlan {plan : WritePlan}
    (h : (m.writePlan (some bindings) ps).runFrom s = (.ok plan, s')) :
    ∃ s₁ s₂, (Naming.nameFor (.role .value) m.settings.valueParam).runFrom s
        = (.ok plan.value, s₁) ∧
      (Naming.nameFor (.role .values) m.settings.valuesVar).runFrom s₁ = (.ok plan.values, s₂) ∧
      m.PlansWrite s₂ bindings ps plan ∧
      Granted s₂ (plan.ownLocals.map Grant.plain) s' := by
  obtain ⟨s₁, s₂, s₃, hvalue, hvalues, hbindings, hplans, hgranted⟩ := m.plansWrite_of_writePlan h
  obtain ⟨rfl, rfl⟩ := Naming.runFrom_pure_eq_ok.mp hbindings
  exact ⟨s₁, s₂, hvalue, hvalues, hplans, hgranted⟩

/-! ### routines -/

/-- the routine that reads, given the names of its function and of the mapper -/
inductive ReadRoutine (s : NameSupply) (f : Frame) (bindings : List AdapterBinding)
    (ps : List Property) (mapper : Option String) : Option String → Routine ReadPlan → Prop
  | none : ReadRoutine s f bindings ps mapper none {}
  | function {name : String} {plan : ReadPlan} :
    m.PlansRead s f.written f.byKeyword bindings ps plan →
    ReadRoutine s f bindings ps mapper (some name) {
      plan := some plan
      parts := .function (f.readFunctionText name plan.cursor plan)
        :: mapper.toList.map fun mapper => .statement (f.mapperStatement mapper name) }

/-- the routine that writes, given the name of its function -/
inductive WriteRoutine (s : NameSupply) (f : Frame) (bindings : List AdapterBinding)
    (ps : List Property) : Option String → Routine WritePlan → Prop
  | none : WriteRoutine s f bindings ps none {}
  | function {name : String} {plan : WritePlan} :
    m.PlansWrite s bindings ps plan →
    WriteRoutine s f bindings ps (some name) {
      plan := some plan, parts := [.function (f.writeFunctionText name plan)] }

theorem ReadRoutine.mono {m : Mapping} {f : Frame} {mapper read : Option String}
    {reading : Routine ReadPlan} {gs : List Grant}
    (h : m.ReadRoutine s f bindings ps mapper read reading) (hgranted : Granted s gs s') :
    m.ReadRoutine s' f bindings ps mapper read reading := by
  cases h with
  | none => exact .none
  | function hplans => exact .function (hplans.mono hgranted)

theorem ReadRoutine.isSome_plan {m : Mapping} {f : Frame} {mapper read : Option String}
    {reading : Routine ReadPlan} (h : m.ReadRoutine s f bindings ps mapper read reading) :
    reading.plan.isSome = read.isSome := by
  cases h <;> rfl

theorem WriteRoutine.isSome_plan {m : Mapping} {f : Frame} {write : Option String}
    {writing : Routine WritePlan} (h : m.WriteRoutine s f bindings ps write writing) :
    writing.plan.isSome = write.isSome := by
  cases h <;> rfl

theorem ReadRoutine.of_plan {m : Mapping} {f : Frame} {mapper read : Option String}
    {reading : Routine ReadPlan} {plan : ReadPlan}
    (h : m.ReadRoutine s f bindings ps mapper read reading) (hplan : reading.plan = some plan) :
    ∃ name, m.PlansRead s f.written f.byKeyword bindings ps plan ∧
      .function (f.readFunctionText name plan.cursor plan) ∈ reading.parts := by
  cases h with
  | none => cases hplan
  | @function name _ hplans =>
    cases hplan
    exact ⟨name, hplans, List.mem_cons_self⟩

theorem WriteRoutine.of_plan {m : Mapping} {f : Frame} {write : Option String}
    {writing : Routine WritePlan} {plan : WritePlan}
    (h : m.WriteRoutine s f bindings ps write writing) (hplan : writing.plan = some plan) :
    ∃ name, m.PlansWrite s bindings ps plan ∧
      .function (f.writeFunctionText name plan) ∈ writing.parts := by
  cases h with
  | none => cases hplan
  | @function name _ hplans =>
    cases hplan
    exact ⟨name, hplans, List.mem_cons_self⟩

/-- the reading routine is empty, or made of the plan that its last steps made -/
theorem reader_eq_ok {f : Frame} {names : FunctionNames} {reading : Routine ReadPlan}
    (h : (m.reader f bindings names ps).runFrom s = (.ok reading, s')) :
    (names.read = none ∧ reading = {} ∧ s = s') ∨
    ∃ name plan, names.read = some name ∧
      (m.readPlan f.written f.byKeyword (some bindings) ps).runFrom s = (.ok plan, s') ∧
      reading = {
        plan := some plan
        parts := .function (f.readFunctionText name plan.cursor plan)
          :: names.mapper.toList.map fun mapper => .statement (f.mapperStatement mapper name) } := by
  unfold reader at h
  cases hread : names.read with
  | none =>
    rw [hread] at h
    obtain ⟨rfl, rfl⟩ := Naming.runFrom_pure_eq_ok.mp h
    exact .inl ⟨rfl, rfl, rfl⟩
  | some name =>
    rw [hread] at h
    obtain ⟨plan, s₁, hplan, h⟩ := Naming.runFrom_bind_eq_ok.mp h
    obtain ⟨cursor, s₂, hcursor, hpure⟩ := Naming.runFrom_bind_eq_ok.mp h
    obtain ⟨rfl, rfl⟩ := Naming.runFrom_pure_eq_ok.mp hpure
    obtain ⟨hbound, rfl⟩ := Naming.runFrom_boundName_eq_ok.mp hcursor
    obtain ⟨-, s₃, -, -, hplans, hgranted⟩ := m.plansRead_readPlan hplan
    obtain rfl : plan.cursor = cursor :=
      Option.some.inj ((hgranted.find?_of_some hplans.cursor).symm.trans hbound)
    exact .inr ⟨name, plan, rfl, hplan, rfl⟩

theorem writer_eq_ok {f : Frame} {names : FunctionNames} {writing : Routine WritePlan}
    (h : (m.writer f bindings names ps).runFrom s = (.ok writing, s')) :
    (names.write = none ∧ writing = {} ∧ s = s') ∨
    ∃ name plan, names.write = some name ∧
      (m.writePlan (some bindings) ps).runFrom s = (.ok plan, s') ∧
      writing = { plan := some plan, parts := [.function (f.writeFunctionText name plan)] } := by
  unfold writer at h
  cases hwrite : names.write with
  | none =>
    rw [hwrite] at h
    obtain ⟨rfl, rfl⟩ := Naming.runFrom_pure_eq_ok.mp h
    exact .inl ⟨rfl, rfl, rfl⟩
  | some name =>
    rw [hwrite] at h
    obtain ⟨plan, s₁, hplan, hpure⟩ := Naming.runFrom_bind_eq_ok.mp h
    obtain ⟨rfl, rfl⟩ := Naming.runFrom_pure_eq_ok.mp hpure
    exact .inr ⟨name, plan, rfl, hplan, rfl⟩

theorem readRoutine_reader {f : Frame} {names : FunctionNames} {reading : Routine ReadPlan}
    (h : (m.reader f bindings names ps).runFrom s = (.ok reading, s')) :
    m.ReadRoutine s' f bindings ps names.mapper names.read reading := by
  obtain ⟨hread, rfl, -⟩ | ⟨name, plan, hread, hplan, rfl⟩ := m.reader_eq_ok h
  · rw [hread]
    exact .none
  · rw [hread]
    obtain ⟨-, s₁, -, -, hplans, hgranted⟩ := m.plansRead_readPlan hplan
    exact .function (hplans.mono hgranted)

theorem writeRoutine_writer {f : Frame} {names : FunctionNames} {writing : Routine WritePlan}
    (h : (m.writer f bindings names ps).runFrom s = (.ok writing, s')) :
    m.WriteRoutine s' f bindings ps names.write writing ∧ ∃ gs, Granted s gs s' := by
  obtain ⟨hwrite, rfl, rfl⟩ | ⟨name, plan, hwrite, hplan, rfl⟩ := m.writer_eq_ok h
  · rw [hwrite]
    exact ⟨.none, [], .nil _⟩
  · rw [hwrite]
    obtain ⟨s₁, s₂, hvalue, hvalues, hplans, hgranted⟩ := m.plansWrite_writePlan hplan
    obtain ⟨-, gs, hgs⟩ := Naming.exists_granted_nameFor hvalue
    obtain ⟨-, gs', hgs'⟩ := Naming.exists_granted_nameFor hvalues
    exact ⟨.function (hplans.mono hgranted), _, (hgs.append hgs').append hgranted⟩

/-- Where the cursor and the locals have their names, a reading routine takes only the locals of
its readings. -/
theorem granted_reader {f : Frame} {names : FunctionNames} {reading : Routine ReadPlan}
    {cursor : Option String} (hcursor : ∀ n ∈ cursor, s.find? (.role .cursor) = some n)
    (hread : cursor.isSome = names.read.isSome) (hlocals : ∀ p ∈ ps, s.HasLocal p)
    (h : (m.reader f bindings names ps).runFrom s = (.ok reading, s')) :
    reading.plan.map (·.cursor) = cursor ∧
      Granted s ((reading.plan.toList.flatMap ReadPlan.ownLocals).map Grant.plain) s' := by
  obtain ⟨hnone, rfl, rfl⟩ | ⟨name, plan, hsome, hplan, rfl⟩ := m.reader_eq_ok h
  · rw [hnone] at hread
    exact ⟨(Option.isNone_iff_eq_none.mp (by simpa using hread)).symm, .nil _⟩
  · rw [hsome] at hread
    obtain ⟨bound, rfl⟩ := Option.isSome_iff_exists.mp hread
    obtain ⟨s₁, s₂, hname, hrun, -, hgranted⟩ := m.plansRead_readPlan hplan
    rw [Naming.runFrom_nameFor_of_bound (hcursor bound rfl)] at hname
    obtain ⟨hbound, rfl⟩ : bound = plan.cursor ∧ s = s₁ := by simpa using hname
    rw [runFrom_nameLocals_of_bound hlocals] at hrun
    obtain rfl : s = s₂ := by simpa using hrun
    refine ⟨?_, ?_⟩
    · rw [Option.map_some, hbound]
    · rw [Option.toList_some, List.flatMap_singleton]
      exact hgranted

theorem granted_writer {f : Frame} {names : FunctionNames} {writing : Routine WritePlan}
    {value values : Option String} (hvalue : ∀ n ∈ value, s.find? (.role .value) = some n)
    (hvalues : ∀ n ∈ values, s.find? (.role .values) = some n)
    (hwrite : value.isSome = names.write.isSome) (hwrite' : values.isSome = names.write.isSome)
    (h : (m.writer f bindings names ps).runFrom s = (.ok writing, s')) :
    writing.plan.map (·.value) = value ∧ writing.plan.map (·.values) = values ∧
      Granted s ((writing.plan.toList.flatMap WritePlan.ownLocals).map Grant.plain) s' := by
  obtain ⟨hnone, rfl, rfl⟩ | ⟨name, plan, hsome, hplan, rfl⟩ := m.writer_eq_ok h
  · rw [hnone] at hwrite hwrite'
    exact ⟨(Option.isNone_iff_eq_none.mp (by simpa using hwrite)).symm,
      (Option.isNone_iff_eq_none.mp (by simpa using hwrite')).symm, .nil _⟩
  · rw [hsome] at hwrite hwrite'
    obtain ⟨bound, rfl⟩ := Option.isSome_iff_exists.mp hwrite
    obtain ⟨bound', rfl⟩ := Option.isSome_iff_exists.mp hwrite'
    obtain ⟨s₁, s₂, hname, hname', -, hgranted⟩ := m.plansWrite_writePlan hplan
    rw [Naming.runFrom_nameFor_of_bound (hvalue bound rfl)] at hname
    obtain ⟨hbound, rfl⟩ : bound = plan.value ∧ s = s₁ := by simpa using hname
    rw [Naming.runFrom_nameFor_of_bound (hvalues bound' rfl)] at hname'
    obtain ⟨hbound', rfl⟩ : bound' = plan.values ∧ s = s₂ := by simpa using hname'
    refine ⟨?_, ?_, ?_⟩
    · rw [Option.map_some, hbound]
    · rw [Option.map_some, hbound']
    · rw [Option.toList_some, List.flatMap_singleton]
      exact hgranted

theorem exists_granted_reader {f : Frame} {names : FunctionNames} {reading : Routine ReadPlan}
    (h : (m.reader f bindings names ps).runFrom s = (.ok reading, s')) :
    ∃ gs, Granted s gs s' ∧
      ∀ g ∈ (reading.plan.toList.flatMap ReadPlan.ownLocals).map Grant.plain, g ∈ gs := by
  obtain ⟨-, rfl, rfl⟩ | ⟨name, plan, -, hplan, rfl⟩ := m.reader_eq_ok h
  · exact ⟨[], .nil _, nofun⟩
  · obtain ⟨s₁, s₂, hcursor, hlocals, -, hgranted⟩ := m.plansRead_readPlan hplan
    obtain ⟨-, gs₁, hgs₁⟩ := Naming.exists_granted_nameFor hcursor
    obtain ⟨gs₂, hgs₂⟩ := exists_granted_nameLocals hlocals
    refine ⟨_, (hgs₁.append hgs₂).append hgranted, fun g hg => ?_⟩
    rw [Option.toList_some, List.flatMap_singleton] at hg
    exact List.mem_append_right _ hg

theorem exists_granted_writer {f : Frame} {names : FunctionNames} {writing : Routine WritePlan}
    (h : (m.writer f bindings names ps).runFrom s = (.ok writing, s')) :
    ∃ gs, Granted s gs s' ∧
      ∀ g ∈ (writing.plan.toList.flatMap WritePlan.ownLocals).map Grant.plain, g ∈ gs := by
  obtain ⟨-, rfl, rfl⟩ | ⟨name, plan, -, hplan, rfl⟩ := m.writer_eq_ok h
  · exact ⟨[], .nil _, nofun⟩
  · obtain ⟨s₁, s₂, hvalue, hvalues, -, hgranted⟩ := m.plansWrite_writePlan hplan
    obtain ⟨-, gs₁, hgs₁⟩ := Naming.exists_granted_nameFor hvalue
    obtain ⟨-, gs₂, hgs₂⟩ := Naming.exists_granted_nameFor hvalues
    refine ⟨_, (hgs₁.append hgs₂).append hgranted, fun g hg => ?_⟩
    rw [Option.toList_some, List.flatMap_singleton] at hg
    exact List.mem_append_right _ hg

/-! ### the unit -/

/-- what a unit is made of, where `s` is the supply that it leaves behind -/
structure IsUnit (s : NameSupply) (f : Frame) (c : Capabilities) (ps : List Property)
    (bindings : List AdapterBinding) (reading : Routine ReadPlan) (writing : Routine WritePlan)
    (u : GeneratedUnit) : Prop where
  target : u.target = f.target
  text : u.text = f.unitText bindings (reading.parts ++ writing.parts)
  readPlan : u.readPlan = reading.plan
  writePlan : u.writePlan = writing.plan
  read : u.readFunction.isSome = c.generatesRead
  mapper : u.mapper.isSome = c.exposesMapper
  write : u.writeFunction.isSome = c.generatesWrite
  reading : m.ReadRoutine s f bindings ps u.mapper u.readFunction reading
  writing : m.WriteRoutine s f bindings ps u.writeFunction writing
  classes : bindings.map (·.cls) = adapterClasses ps
  names : (bindings.map (·.name)).Nodup
  adapters : ∀ b ∈ bindings,
    (∃ p ∈ ps, p.adapter? = some b.cls) ∧ b.type = m.directory.typeName b.cls
  bound : ∀ p ∈ ps, ∀ cls, p.adapter? = some cls → ∃ b ∈ bindings, b.cls = cls

theorem IsUnit.mem_parts {m : Mapping} {f : Frame} {c : Capabilities} {reading : Routine ReadPlan}
    {writing : Routine WritePlan} {u : GeneratedUnit} {part : Part}
    (h : m.IsUnit s f c ps bindings reading writing u)
    (hpart : part ∈ reading.parts ++ writing.parts) : part ∈ u.text.parts := by
  rw [h.text, Frame.parts_unitText]
  exact List.mem_append_right _ hpart

end Mapping
end RowMapping
