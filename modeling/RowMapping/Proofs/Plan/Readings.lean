import RowMapping.Proofs.Plan.Bindings
import RowMapping.Proofs.Plan.Locals

/-!
# The readings of properties

`Reads` lists the statements that read a property, way by way.  `forall₂_readAll` says of all the
readings of a plan which property they read, into which local, and by which statements, and that
the plan takes no new name but the locals of indexes (`PropertyReading.ownLocals`).
-/

namespace RowMapping
open RowMapping.Text NameSupply

/-- the locals that a reading takes for itself: all it assigns but the last -/
def PropertyReading.ownLocals (g : PropertyReading) : List String :=
  g.statements.dropLast.map (·.name)

namespace Mapping
variable (m : Mapping)

/-- the statements that read a property of a way into the local `name` -/
inductive Reads (bindings : List AdapterBinding) (cursor name : String) (p : Property) :
    ReadWay → List Assignment → Prop
  | adapter {cls : ClassRef} {b : AdapterBinding} :
    bindings.find? (·.cls = cls) = some b →
    Reads bindings cursor name p (.adapter cls)
      [{ type := p.type, name := name,
         value := b.name ++ "." ++ m.settings.adapter.readMethod ++ "(" ++ cursor ++ ", "
          ++ literal p.column ++ ")" }]
  | cell {value : String} :
    p.readExpression m.settings cursor (lookup cursor m.settings.rowStore.indexOrThrow p)
      = .ok value →
    Reads bindings cursor name p .cell [{ type := p.type, name := name, value := value }]
  | optionalCell {index access : String} :
    p.readExpression m.settings cursor index = .ok access →
    Reads bindings cursor name p .optionalCell [
      { type := .int, name := index, value := lookup cursor m.settings.rowStore.index p },
      { type := p.type, name := name, value := m.optionalExpression cursor index access }]
  | absent :
    Reads bindings cursor name p .absent [
      { type := p.type, name := name, value := "None", comment := some "can't be read from cursor" }]

/-- what the reading of a property is, given the supply that has the property's local -/
structure ReadsProperty (s : NameSupply) (bindings : List AdapterBinding) (cursor : String)
    (byKeyword : Bool) (p : Property) (g : PropertyReading) : Prop where
  property : g.property = p
  hasLocal : s.HasLocal p
  argument : g.argument = argumentFor byKeyword p (s.localOf p)
  reads : ∃ way, p.readWay = .ok way ∧ m.Reads bindings cursor (s.localOf p) p way g.statements

namespace Reads
variable {m} {bindings : List AdapterBinding} {cursor name : String} {p : Property} {way : ReadWay}
  {statements : List Assignment}

theorem type_eq (h : m.Reads bindings cursor name p way statements) :
    ∀ a ∈ statements, a.types = [] ∧ (a.type = p.type ∨ a.type = .int) := by
  cases h <;> simp

theorem exists_last (h : m.Reads bindings cursor name p way statements) :
    ∃ a, statements = statements.dropLast ++ [a] ∧ a.name = name ∧ a.type = p.type := by
  cases h with
  | adapter _ => exact ⟨_, rfl, rfl, rfl⟩
  | cell _ => exact ⟨_, rfl, rfl, rfl⟩
  | optionalCell _ => exact ⟨_, rfl, rfl, rfl⟩
  | absent => exact ⟨_, rfl, rfl, rfl⟩

end Reads

variable {s s' : NameSupply}

theorem ReadsProperty.mono {m : Mapping} {bindings : List AdapterBinding} {cursor : String}
    {byKeyword : Bool} {p : Property} {g : PropertyReading} {gs : List Grant}
    (h : m.ReadsProperty s bindings cursor byKeyword p g) (hgranted : Granted s gs s') :
    m.ReadsProperty s' bindings cursor byKeyword p g := by
  obtain ⟨hlocal, hsame⟩ := hgranted.hasLocal h.hasLocal
  refine ⟨h.property, hlocal, ?_, ?_⟩
  · rw [hsame]; exact h.argument
  · rw [hsame]; exact h.reads

theorem reads_readBy {bindings : List AdapterBinding} {cursor name : String} {p : Property}
    {way : ReadWay} {statements : List Assignment}
    (h : (m.readBy bindings cursor name p way).runFrom s = (.ok statements, s')) :
    m.Reads bindings cursor name p way statements ∧
      Granted s ((statements.dropLast.map (·.name)).map Grant.plain) s' := by
  cases way with
  | adapter cls =>
    obtain ⟨adapter, s₁, hadapter, hpure⟩ := Naming.runFrom_bind_eq_ok.mp h
    obtain ⟨rfl, rfl⟩ := Naming.runFrom_pure_eq_ok.mp hpure
    obtain ⟨⟨b, hfind, rfl⟩, rfl⟩ := runFrom_adapterName_eq_ok.mp hadapter
    exact ⟨.adapter hfind, .nil _⟩
  | cell =>
    obtain ⟨value, s₁, hrun, hpure⟩ := Naming.runFrom_bind_eq_ok.mp h
    obtain ⟨rfl, rfl⟩ := Naming.runFrom_pure_eq_ok.mp hpure
    obtain ⟨hvalue, rfl⟩ := Naming.runFrom_ofExcept_eq_ok.mp hrun
    exact ⟨.cell hvalue, .nil _⟩
  | optionalCell =>
    obtain ⟨index, s₁, hindex, h⟩ := Naming.runFrom_bind_eq_ok.mp h
    obtain ⟨access, s₂, hrun, hpure⟩ := Naming.runFrom_bind_eq_ok.mp h
    obtain ⟨rfl, rfl⟩ := Naming.runFrom_pure_eq_ok.mp hpure
    obtain ⟨haccess, rfl⟩ := Naming.runFrom_ofExcept_eq_ok.mp hrun
    exact ⟨.optionalCell haccess, Naming.granted_newName hindex⟩
  | absent =>
    obtain ⟨rfl, rfl⟩ := Naming.runFrom_pure_eq_ok.mp h
    exact ⟨.absent, .nil _⟩

theorem reads_readProperty {bindings : List AdapterBinding} {cursor : String} {byKeyword : Bool}
    {p : Property} {g : PropertyReading}
    (h : (m.readProperty bindings cursor byKeyword p).runFrom s = (.ok g, s')) :
    m.ReadsProperty s bindings cursor byKeyword p g ∧
      Granted s (g.ownLocals.map Grant.plain) s' := by
  obtain ⟨name, s₁, hbound, h⟩ := Naming.runFrom_bind_eq_ok.mp h
  obtain ⟨way, s₂, hrun, h⟩ := Naming.runFrom_bind_eq_ok.mp h
  obtain ⟨statements, s₃, hstatements, hpure⟩ := Naming.runFrom_bind_eq_ok.mp h
  obtain ⟨rfl, rfl⟩ := Naming.runFrom_pure_eq_ok.mp hpure
  obtain ⟨hname, rfl⟩ := Naming.runFrom_boundName_eq_ok.mp hbound
  obtain ⟨hway, rfl⟩ := Naming.runFrom_ofExcept_eq_ok.mp hrun
  obtain ⟨hreads, hgranted⟩ := m.reads_readBy hstatements
  have hlocal := localOf_of_find? hname
  refine ⟨⟨rfl, hasLocal_of_find? hname, ?_, way, hway, ?_⟩, hgranted⟩
  · rw [hlocal]
  · rw [hlocal]; exact hreads

/-- A plan has one reading for each property, in their order, and its only new names are the
locals that its readings take for themselves. -/
theorem forall₂_readAll {bindings : List AdapterBinding} {cursor : String} {byKeyword : Bool}
    {ps : List Property} {readings : List PropertyReading}
    (h : (m.readAll bindings cursor byKeyword ps).runFrom s = (.ok readings, s')) :
    List.Forall₂ (m.ReadsProperty s bindings cursor byKeyword) ps readings ∧
      Granted s ((readings.flatMap PropertyReading.ownLocals).map Grant.plain) s' := by
  induction ps generalizing s readings with
  | nil =>
    obtain ⟨rfl, rfl⟩ := Naming.runFrom_pure_eq_ok.mp h
    exact ⟨.nil, .nil _⟩
  | cons p ps ih =>
    obtain ⟨g, s₁, hg, h⟩ := Naming.runFrom_bind_eq_ok.mp h
    obtain ⟨others, s₂, hothers, hpure⟩ := Naming.runFrom_bind_eq_ok.mp h
    obtain ⟨rfl, rfl⟩ := Naming.runFrom_pure_eq_ok.mp hpure
    obtain ⟨hfirst, hgranted⟩ := m.reads_readProperty hg
    obtain ⟨hrest, hgranted'⟩ := ih hothers
    refine ⟨.cons hfirst (hrest.imp fun q r hq => ?_), ?_⟩
    · -- the locals of the first reading leave the locals of the properties as they are
      have hsame : s₁.localOf q = s.localOf q := by
        rw [localOf, hgranted.find?_of_plain, localOf]
      refine ⟨hq.property, ?_, ?_, ?_⟩
      · have := hq.hasLocal
        rwa [HasLocal, hgranted.find?_of_plain, hsame] at this
      · rw [← hsame]; exact hq.argument
      · rw [← hsame]; exact hq.reads
    · rw [List.flatMap_cons, List.map_append]
      exact hgranted.append hgranted'

/-- bindings that are given take no name, and those that are made take new ones -/
theorem exists_granted_bindingsFor {directions : Directions} {ps : List Property}
    {shared : Option (List AdapterBinding)} {bindings : List AdapterBinding}
    (h : (m.bindingsFor directions ps shared).runFrom s = (.ok bindings, s')) :
    ∃ gs, Granted s gs s' := by
  cases shared with
  | none => exact ⟨_, (m.granted_resolve h).1⟩
  | some _ =>
    obtain ⟨-, rfl⟩ := Naming.runFrom_pure_eq_ok.mp h
    exact ⟨[], .nil _⟩

end Mapping
end RowMapping
