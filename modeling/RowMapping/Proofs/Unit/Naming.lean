import RowMapping.GeneratedUnit.Basic
import RowMapping.Proofs.Supply.Steps

/-!
# The names of functions and parameters

What `nameReader` and `nameWriter` take from a supply that has no tags yet: the function and its
parameters, each only where its routine is generated.  They never fail (`exists_functionNames`).
-/

namespace RowMapping
open NameSupply

/-- a name for a role, if there is one -/
def Role.grants (r : Role) (name : Option String) : List Grant :=
  name.toList.map (.tagged (.role r))

theorem Role.tag?_of_mem_grants {r : Role} {name : Option String} {g : Grant}
    (h : g ∈ r.grants name) : g.tag? = some (.role r) := by
  obtain ⟨n, -, rfl⟩ := List.mem_map.mp h
  rfl

theorem Role.tag?_of_mem_append {r₁ r₂ r₃ : Role} {a b c : Option String} {g : Grant}
    (h : g ∈ r₁.grants a ++ r₂.grants b ++ r₃.grants c) :
    ∃ r, (r = r₁ ∨ r = r₂ ∨ r = r₃) ∧ g.tag? = some (.role r) := by
  rcases List.mem_append.mp h with h | h
  · rcases List.mem_append.mp h with h | h
    · exact ⟨r₁, .inl rfl, Role.tag?_of_mem_grants h⟩
    · exact ⟨r₂, .inr (.inl rfl), Role.tag?_of_mem_grants h⟩
  · exact ⟨r₃, .inr (.inr rfl), Role.tag?_of_mem_grants h⟩

theorem Role.map_name_grants (r : Role) (name : Option String) :
    (r.grants name).map (·.name) = name.toList := by
  cases name <;> rfl

namespace Mapping
variable (m : Mapping) {s s₁ : NameSupply} {c : Capabilities}

theorem generatesRead_of_exposesMapper (h : c.exposesMapper = true) : c.generatesRead = true := by
  unfold Capabilities.generatesRead
  rw [h, Bool.or_true]

theorem granted_nameMapper {mapper : Option String}
    (h : (m.nameMapper c).runFrom s = (.ok mapper, s₁)) :
    mapper.isSome = c.exposesMapper ∧ Granted s (Role.mapper.grants mapper) s₁ := by
  unfold nameMapper at h
  cases hexposes : c.exposesMapper with
  | false =>
    rw [hexposes] at h
    obtain ⟨rfl, rfl⟩ := Naming.runFrom_pure_eq_ok.mp h
    exact ⟨rfl, .nil _⟩
  | true =>
    rw [hexposes] at h
    obtain ⟨name, hname, rfl⟩ := Naming.runFrom_map_eq_ok.mp h
    exact ⟨rfl, (Naming.granted_newNameFor hname).2⟩

/-- The read function, the mapper and the cursor have new names where a read function is generated.
-/
theorem granted_nameReader {names : FunctionNames} (hcursor : s.find? (.role .cursor) = none)
    (h : (m.nameReader c).runFrom s = (.ok names, s₁)) :
    names.write = none ∧ names.read.isSome = c.generatesRead ∧
      names.mapper.isSome = c.exposesMapper ∧
      ∃ cursor : Option String, cursor.isSome = c.generatesRead ∧
        (∀ n ∈ cursor, s₁.find? (.role .cursor) = some n) ∧
        Granted s (Role.readFunction.grants names.read ++ Role.mapper.grants names.mapper
          ++ Role.cursor.grants cursor) s₁ := by
  unfold nameReader at h
  cases hread : c.generatesRead with
  | false =>
    rw [hread] at h
    obtain ⟨rfl, rfl⟩ := Naming.runFrom_pure_eq_ok.mp h
    have hmapper : c.exposesMapper = false := by
      unfold Capabilities.generatesRead at hread
      rw [Bool.or_eq_false_iff] at hread
      exact hread.2
    exact ⟨rfl, rfl, hmapper.symm, none, rfl, nofun, .nil _⟩
  | true =>
    rw [hread] at h
    obtain ⟨read, s₂, hrunRead, h⟩ := Naming.runFrom_bind_eq_ok.mp h
    obtain ⟨mapper, s₃, hrunMapper, h⟩ := Naming.runFrom_bind_eq_ok.mp h
    obtain ⟨cursor, s₄, hrunCursor, hpure⟩ := Naming.runFrom_bind_eq_ok.mp h
    obtain ⟨rfl, rfl⟩ := Naming.runFrom_pure_eq_ok.mp hpure
    obtain ⟨-, hgranted⟩ := Naming.granted_newNameFor hrunRead
    have hmapper := m.granted_nameMapper hrunMapper
    have hboth := hgranted.append hmapper.2
    have hfree : s₃.find? (.role .cursor) = none := by
      rw [← hcursor]
      refine hboth.find?_of_other fun g hg => ?_
      rcases List.mem_append.mp hg with hg | hg
      · rw [List.mem_singleton.mp hg]; exact nofun
      · rw [Role.tag?_of_mem_grants hg]; exact nofun
    have hbound := (Naming.exists_granted_nameFor hrunCursor).1
    exact ⟨rfl, rfl, hmapper.1, some cursor, rfl, fun n hn => by cases hn; exact hbound,
      hboth.append (Naming.granted_nameFor hfree hrunCursor)⟩

theorem granted_nameWriter {before names : FunctionNames} (hwrite : before.write = none)
    (hvalue : s.find? (.role .value) = none) (hvalues : s.find? (.role .values) = none)
    (h : (m.nameWriter c before).runFrom s = (.ok names, s₁)) :
    names.read = before.read ∧ names.mapper = before.mapper ∧
      names.write.isSome = c.generatesWrite ∧
      ∃ value values : Option String, value.isSome = c.generatesWrite ∧
        values.isSome = c.generatesWrite ∧
        (∀ n ∈ value, s₁.find? (.role .value) = some n) ∧
        (∀ n ∈ values, s₁.find? (.role .values) = some n) ∧
        Granted s (Role.writeFunction.grants names.write ++ Role.value.grants value
          ++ Role.values.grants values) s₁ := by
  unfold nameWriter at h
  cases hmethod : c.valuesMethod with
  | none =>
    rw [hmethod] at h
    obtain ⟨rfl, rfl⟩ := Naming.runFrom_pure_eq_ok.mp h
    have hgenerates : c.generatesWrite = false := by rw [Capabilities.generatesWrite, hmethod]; rfl
    rw [hgenerates, hwrite]
    exact ⟨rfl, rfl, rfl, none, none, rfl, rfl, nofun, nofun, .nil _⟩
  | some method =>
    rw [hmethod] at h
    obtain ⟨write, s₂, hrunWrite, h⟩ := Naming.runFrom_bind_eq_ok.mp h
    obtain ⟨value, s₃, hrunValue, h⟩ := Naming.runFrom_bind_eq_ok.mp h
    obtain ⟨values, s₄, hrunValues, hpure⟩ := Naming.runFrom_bind_eq_ok.mp h
    obtain ⟨rfl, rfl⟩ := Naming.runFrom_pure_eq_ok.mp hpure
    have hgenerates : c.generatesWrite = true := by rw [Capabilities.generatesWrite, hmethod]; rfl
    obtain ⟨-, hgranted⟩ := Naming.granted_newNameFor hrunWrite
    have hfreeValue : s₂.find? (.role .value) = none := by
      rw [hgranted.find?_of_tagged, hvalue]
      exact nofun
    have hboth := hgranted.append (Naming.granted_nameFor hfreeValue hrunValue)
    have hfreeValues : s₃.find? (.role .values) = none := by
      rw [← hvalues]
      refine hboth.find?_of_other fun g hg => ?_
      rcases List.mem_append.mp hg with hg | hg
      · rw [List.mem_singleton.mp hg]; exact nofun
      · rw [List.mem_singleton.mp hg]; exact nofun
    have hgrantedValues := Naming.granted_nameFor hfreeValues hrunValues
    have hboundValue := hgrantedValues.find?_of_some (Naming.exists_granted_nameFor hrunValue).1
    have hboundValues := (Naming.exists_granted_nameFor hrunValues).1
    rw [hgenerates]
    exact ⟨rfl, rfl, rfl, some value, some values, rfl, rfl,
      fun n hn => by cases hn; exact hboundValue, fun n hn => by cases hn; exact hboundValues,
      hboth.append hgrantedValues⟩

/-- From a supply without tags, functions and parameters get new names, their tags are bound
where they are expected, and no property has a tag yet. -/
theorem granted_functionNames {before names : FunctionNames} {s₂ : NameSupply}
    (hs : s.bindings = []) (hreader : (m.nameReader c).runFrom s = (.ok before, s₁))
    (hwriter : (m.nameWriter c before).runFrom s₁ = (.ok names, s₂)) :
    names.read.isSome = c.generatesRead ∧ names.mapper.isSome = c.exposesMapper ∧
      names.write.isSome = c.generatesWrite ∧
      ∃ cursor value values : Option String, cursor.isSome = names.read.isSome ∧
        value.isSome = names.write.isSome ∧ values.isSome = names.write.isSome ∧
        (∀ n ∈ cursor, s₂.find? (.role .cursor) = some n) ∧
        (∀ n ∈ value, s₂.find? (.role .value) = some n) ∧
        (∀ n ∈ values, s₂.find? (.role .values) = some n) ∧
        (∀ name, s₂.find? (.property name) = none) ∧
        Granted s (Role.readFunction.grants names.read ++ Role.mapper.grants names.mapper
          ++ Role.cursor.grants cursor ++ (Role.writeFunction.grants names.write
          ++ Role.value.grants value ++ Role.values.grants values)) s₂ := by
  have hfree : ∀ tag, s.find? tag = none := fun tag => by rw [find?, hs, List.lookup_nil]
  obtain ⟨hnone, hread, hmapper, cursor, hcursor, hboundCursor, hgranted⟩ :=
    m.granted_nameReader (hfree _) hreader
  have hother : ∀ tag, tag ≠ .role .readFunction → tag ≠ .role .mapper → tag ≠ .role .cursor →
      s₁.find? tag = none := by
    intro tag h₁ h₂ h₃
    rw [← hfree tag]
    refine hgranted.find?_of_other fun g hg heq => ?_
    obtain ⟨r, rfl | rfl | rfl, hr⟩ := Role.tag?_of_mem_append hg
    · exact h₁ (Option.some.inj (heq.symm.trans hr))
    · exact h₂ (Option.some.inj (heq.symm.trans hr))
    · exact h₃ (Option.some.inj (heq.symm.trans hr))
  have hfreeValue := hother (.role .value) (by decide) (by decide) (by decide)
  have hfreeValues := hother (.role .values) (by decide) (by decide) (by decide)
  obtain ⟨hsame, hsame', hwrite, value, values, hvalue, hvalues, hboundValue, hboundValues,
    hgranted'⟩ := m.granted_nameWriter hnone hfreeValue hfreeValues hwriter
  rw [hsame, hsame', hread, hmapper, hwrite]
  refine ⟨rfl, rfl, rfl, cursor, value, values, hcursor, hvalue, hvalues, ?_, hboundValue,
    hboundValues, ?_, hgranted.append hgranted'⟩
  · intro n hn
    exact hgranted'.find?_of_some (hboundCursor n hn)
  · intro name
    rw [← hother (.property name) (by simp) (by simp) (by simp)]
    refine hgranted'.find?_of_other fun g hg heq => ?_
    obtain ⟨r, -, hr⟩ := Role.tag?_of_mem_append hg
    rw [hr] at heq
    cases heq

/-! ### naming always succeeds -/

/-- From a supply without tags, the read function and what belongs to it get their names. -/
theorem exists_nameReader (hs : s.bindings = []) (c : Capabilities) :
    ∃ names s₁, (m.nameReader c).runFrom s = (.ok names, s₁) := by
  unfold nameReader
  cases c.generatesRead with
  | false => exact ⟨{}, s, rfl⟩
  | true =>
    have hfree : s.find? (.role .readFunction) = none := by rw [find?, hs, List.lookup_nil]
    obtain ⟨read, s₂, hread⟩ := Naming.exists_newNameFor hfree m.settings.readFunction
    have hgranted := (Naming.granted_newNameFor hread).2
    have hfree' : s₂.find? (.role .mapper) = none := by
      rw [hgranted.find?_of_tagged, find?, hs, List.lookup_nil]
      exact fun h => by cases h
    have hmapper : ∃ mapper s₃, (m.nameMapper c).runFrom s₂ = (.ok mapper, s₃) := by
      unfold nameMapper
      cases c.exposesMapper with
      | false => exact ⟨none, s₂, rfl⟩
      | true =>
        obtain ⟨name, s₃, hname⟩ := Naming.exists_newNameFor hfree' m.settings.mapperName
        exact ⟨some name, s₃, Naming.runFrom_map_eq_ok.mpr ⟨name, hname, rfl⟩⟩
    obtain ⟨mapper, s₃, hmapper⟩ := hmapper
    obtain ⟨cursor, s₄, -, hcursor, -⟩ :=
      Naming.exists_nameFor (.role .cursor) m.settings.cursorParam s₃
    refine ⟨{ read := some read, mapper := mapper }, s₄, ?_⟩
    refine Naming.runFrom_bind_eq_ok.mpr ⟨read, s₂, hread, ?_⟩
    refine Naming.runFrom_bind_eq_ok.mpr ⟨mapper, s₃, hmapper, ?_⟩
    exact Naming.runFrom_bind_eq_ok.mpr ⟨cursor, s₄, hcursor, rfl⟩

theorem exists_nameWriter (hfree : s.find? (.role .writeFunction) = none) (c : Capabilities)
    (before : FunctionNames) :
    ∃ names s₁, (m.nameWriter c before).runFrom s = (.ok names, s₁) := by
  unfold nameWriter
  cases c.valuesMethod with
  | none => exact ⟨before, s, rfl⟩
  | some method =>
    obtain ⟨write, s₂, hwrite⟩ := Naming.exists_newNameFor hfree method
    obtain ⟨value, s₃, -, hvalue, -⟩ :=
      Naming.exists_nameFor (.role .value) m.settings.valueParam s₂
    obtain ⟨values, s₄, -, hvalues, -⟩ :=
      Naming.exists_nameFor (.role .values) m.settings.valuesVar s₃
    refine ⟨{ before with write := some write }, s₄, ?_⟩
    refine Naming.runFrom_bind_eq_ok.mpr ⟨write, s₂, hwrite, ?_⟩
    refine Naming.runFrom_bind_eq_ok.mpr ⟨value, s₃, hvalue, ?_⟩
    exact Naming.runFrom_bind_eq_ok.mpr ⟨values, s₄, hvalues, rfl⟩

theorem exists_functionNames (hs : s.bindings = []) (c : Capabilities) :
    ∃ before s₁ names s₂, (m.nameReader c).runFrom s = (.ok before, s₁) ∧
      (m.nameWriter c before).runFrom s₁ = (.ok names, s₂) := by
  have hfree : ∀ tag, s.find? tag = none := fun tag => by rw [find?, hs, List.lookup_nil]
  obtain ⟨before, s₁, hreader⟩ := m.exists_nameReader hs c
  obtain ⟨-, -, -, cursor, -, -, hgranted⟩ := m.granted_nameReader (hfree _) hreader
  have hfreeWriter : s₁.find? (.role .writeFunction) = none := by
    rw [← hfree (.role .writeFunction)]
    refine hgranted.find?_of_other fun g hg => ?_
    obtain ⟨r, rfl | rfl | rfl, hr⟩ := Role.tag?_of_mem_append hg <;> rw [hr] <;> decide
  obtain ⟨names, s₂, hwriter⟩ := m.exists_nameWriter hfreeWriter c before
  exact ⟨before, s₁, names, s₂, hreader, hwriter⟩

end Mapping
end RowMapping
