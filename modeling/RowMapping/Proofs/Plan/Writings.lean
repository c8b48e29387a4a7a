import RowMapping.Plan.WritePlan
import RowMapping.Proofs.Plan.Bindings

/-!
# The writings of properties

`Writes` lists the statements that write a property, one case for each conversion.
`forall₂_writeAll` says of all the writings of a plan which property they write and by which
statements, and that the plan takes no new name but those that its statements bind: the maps that
factories give (`PropertyWriting.ownLocals`).
-/

namespace RowMapping
open RowMapping.Text NameSupply

/-- the locals that a writing takes for itself -/
def PropertyWriting.ownLocals (g : PropertyWriting) : List String :=
  g.statements.filterMap (·.boundName?)

namespace Mapping
variable (m : Mapping)

/-- the statements that write a property of `value` into `values` -/
inductive Writes (bindings : List AdapterBinding) (value values : String) (p : Property) :
    List Statement → Prop
  | factory {cls : ClassRef} {method : Method} {name : String} :
    p.conversion = .factory cls →
    m.directory.findMethod cls (m.factoryShape p.type) = some method →
    Writes bindings value values p [
      .bind name ((m.directory.typeName cls).render ++ "." ++ method.name ++ "(" ++ (value ++ "."
        ++ p.name) ++ ")") [m.directory.typeName cls],
      .plain ("if " ++ name ++ ":\n    " ++ values ++ "." ++ m.settings.cellMap.putAll ++ "("
        ++ name ++ ")") []]
  | adapter {cls : ClassRef} {b : AdapterBinding} :
    p.conversion = .adapter cls →
    bindings.find? (·.cls = cls) = some b →
    Writes bindings value values p [
      .plain (b.name ++ "." ++ m.settings.adapter.writeMethod ++ "(" ++ values ++ ", "
        ++ literal p.column ++ ", " ++ (value ++ "." ++ p.name) ++ ")") []]
  | native {put : String} :
    p.conversion = .native → p.isSupported = true →
    p.putStatement m.settings values (value ++ "." ++ p.name) = .ok put →
    Writes bindings value values p [.plain put []]

/-- what the writing of a property is -/
structure WritesProperty (bindings : List AdapterBinding) (value values : String) (p : Property)
    (g : PropertyWriting) : Prop where
  property : g.property = p
  writes : m.Writes bindings value values p g.statements

variable {s s' : NameSupply}

theorem writes_writeByFactory {bindings : List AdapterBinding} {value values : String} {p : Property}
    {cls : ClassRef} {statements : List Statement} (hfactory : p.conversion = .factory cls)
    (h : (m.writeByFactory values (value ++ "." ++ p.name) p cls).runFrom s = (.ok statements, s')) :
    m.Writes bindings value values p statements ∧
      Granted s ((statements.filterMap (·.boundName?)).map Grant.plain) s' := by
  unfold writeByFactory at h
  cases hmethod : m.directory.findMethod cls (m.factoryShape p.type) with
  | none =>
    rw [hmethod] at h
    exact absurd h Naming.runFrom_throw_ne_ok
  | some method =>
    rw [hmethod] at h
    obtain ⟨name, s₁, hname, hpure⟩ := Naming.runFrom_bind_eq_ok.mp h
    obtain ⟨rfl, rfl⟩ := Naming.runFrom_pure_eq_ok.mp hpure
    exact ⟨.factory hfactory hmethod, Naming.granted_newName hname⟩

theorem writes_writeProperty {bindings : List AdapterBinding} {value values : String} {p : Property}
    {statements : List Statement}
    (h : (m.writeProperty bindings value values p).runFrom s = (.ok statements, s')) :
    m.Writes bindings value values p statements ∧
      Granted s ((statements.filterMap (·.boundName?)).map Grant.plain) s' := by
  unfold writeProperty at h
  cases hconversion : p.conversion with
  | factory cls =>
    rw [hconversion] at h
    exact m.writes_writeByFactory hconversion h
  | adapter cls =>
    rw [hconversion] at h
    obtain ⟨adapter, s₁, hadapter, hpure⟩ := Naming.runFrom_bind_eq_ok.mp h
    obtain ⟨rfl, rfl⟩ := Naming.runFrom_pure_eq_ok.mp hpure
    obtain ⟨⟨b, hfind, rfl⟩, rfl⟩ := runFrom_adapterName_eq_ok.mp hadapter
    exact ⟨.adapter hconversion hfind, .nil _⟩
  | native =>
    rw [hconversion] at h
    cases hsupported : p.isSupported with
    | false =>
      rw [hsupported] at h
      exact absurd h Naming.runFrom_throw_ne_ok
    | true =>
      rw [hsupported] at h
      obtain ⟨put, s₁, hrun, hpure⟩ := Naming.runFrom_bind_eq_ok.mp h
      obtain ⟨rfl, rfl⟩ := Naming.runFrom_pure_eq_ok.mp hpure
      obtain ⟨hput, rfl⟩ := Naming.runFrom_ofExcept_eq_ok.mp hrun
      exact ⟨.native hconversion hsupported hput, .nil _⟩

theorem forall₂_writeAll {bindings : List AdapterBinding} {value values : String}
    {ps : List Property} {writings : List PropertyWriting}
    (h : (m.writeAll bindings value values ps).runFrom s = (.ok writings, s')) :
    List.Forall₂ (m.WritesProperty bindings value values) ps writings ∧
      Granted s ((writings.flatMap PropertyWriting.ownLocals).map Grant.plain) s' := by
  induction ps generalizing s writings with
  | nil =>
    obtain ⟨rfl, rfl⟩ := Naming.runFrom_pure_eq_ok.mp h
    exact ⟨.nil, .nil _⟩
  | cons p ps ih =>
    obtain ⟨statements, s₁, hfirst, h⟩ := Naming.runFrom_bind_eq_ok.mp h
    obtain ⟨others, s₂, hothers, hpure⟩ := Naming.runFrom_bind_eq_ok.mp h
    obtain ⟨rfl, rfl⟩ := Naming.runFrom_pure_eq_ok.mp hpure
    obtain ⟨hwrites, hgranted⟩ := m.writes_writeProperty hfirst
    obtain ⟨hrest, hgranted'⟩ := ih hothers
    refine ⟨.cons ⟨rfl, hwrites⟩ hrest, ?_⟩
    rw [List.flatMap_cons, List.map_append]
    exact hgranted.append hgranted'

end Mapping
end RowMapping
