import RowMapping.Proofs.Plan.Readings
import RowMapping.Proofs.Plan.Writings
import RowMapping.Proofs.Supply.Suggested

/-!
# Plans whose names are as suggested

Where the identifiers of all suggestions of a plan are different and no keywords, every name of
the plan is the identifier of its suggestion.

* `nameLocals_of_room`  the locals of properties;
* `resolve_of_room`     the bindings of adapters;
* `readAll_of_room`, `writeAll_of_room`  the locals that readings and writings take for themselves.
-/

namespace RowMapping
open RowMapping.Text NameSupply

variable {s s' : NameSupply} {rest : List String}

namespace Naming
variable {suggestion name : String}

theorem newName_eq (h : runFrom (newName suggestion) s = (.ok name, s')) :
    name = s.fresh suggestion := by
  rw [runFrom_newName] at h
  cases h
  rfl

theorem newNameFor_eq {tag : Tag} (h : runFrom (newNameFor tag suggestion) s = (.ok name, s')) :
    name = s.fresh suggestion := by
  have hfind := (granted_newNameFor h).1
  rw [runFrom_newNameFor, NameSupply.newNameFor, hfind] at h
  cases h
  rfl

theorem nameFor_of_room {tag : Tag} (hroom : s.RoomFor (suggestion :: rest))
    (hfind : s.find? tag = none) (h : runFrom (nameFor tag suggestion) s = (.ok name, s')) :
    name = toIdentifier suggestion ∧ Granted s [.tagged tag name] s' ∧ s'.RoomFor rest := by
  have hgranted := granted_nameFor hfind h
  obtain rfl : s.fresh suggestion = name := by
    rw [runFrom_nameFor, NameSupply.nameFor, hfind] at h
    cases h
    rfl
  refine ⟨hroom.fresh_eq, hgranted, hroom.granted_cons hgranted ?_⟩
  exact List.forall_mem_singleton.mpr hroom.fresh_eq

end Naming

namespace Mapping
variable (m : Mapping)

/-! ### locals -/

theorem nameLocals_of_room {ps : List Property} (hroom : s.RoomFor (ps.map (·.name) ++ rest))
    (hnew : ∀ p ∈ ps, s.find? (.property p.name) = none)
    (h : (nameLocals ps).runFrom s = (.ok (), s')) :
    (∀ p ∈ ps, s'.localOf p = toIdentifier p.name) ∧ s'.RoomFor rest := by
  induction ps generalizing s with
  | nil =>
    obtain ⟨-, rfl⟩ := Naming.runFrom_pure_eq_ok.mp h
    exact ⟨nofun, hroom⟩
  | cons p ps ih =>
    rw [nameLocals_cons] at h
    obtain ⟨name, s₁, hname, hrest⟩ := Naming.runFrom_bind_eq_ok.mp h
    obtain ⟨rfl, hgranted, hroom'⟩ :=
      Naming.nameFor_of_room hroom (hnew p List.mem_cons_self) hname
    have hbound := (Naming.exists_granted_nameFor hname).1
    have hnew' : ∀ q ∈ ps, s₁.find? (.property q.name) = none := by
      intro q hq
      have hne : q.name ≠ p.name := by
        intro heq
        have hmem : toIdentifier p.name ∈ (ps.map (·.name) ++ rest).map toIdentifier :=
          List.mem_map_of_mem (List.mem_append_left _ (heq ▸ List.mem_map_of_mem hq))
        exact (List.nodup_cons.mp hroom.nodup).1 hmem
      rw [hgranted.find?_of_tagged fun htag => hne (Tag.property.inj htag).symm]
      exact hnew q (List.mem_cons_of_mem _ hq)
    obtain ⟨hlocals, hroom''⟩ := ih hroom' hnew' hrest
    obtain ⟨gs, hgs⟩ := exists_granted_nameLocals hrest
    refine ⟨List.forall_mem_cons.mpr ⟨?_, hlocals⟩, hroom''⟩
    exact localOf_of_find? (hgs.find?_of_some hbound)

/-! ### bindings -/

/-- what the name of an adapter class suggests for its binding -/
def adapterSuggestion (cls : ClassRef) : String := snakeCase (m.directory.typeName cls).simpleName

/-- the binding of an adapter class to the name that is suggested for it -/
def adapterNamed (cls : ClassRef) : AdapterBinding :=
  ⟨cls, m.directory.typeName cls, toIdentifier (m.adapterSuggestion cls)⟩

theorem bindAdapter_eq {bindings new : List AdapterBinding} {cls : ClassRef}
    (h : (m.bindAdapter bindings cls).runFrom s = (.ok (bindings ++ new), s')) :
    ∀ b ∈ new, b = ⟨cls, m.directory.typeName cls, s.fresh (m.adapterSuggestion cls)⟩ := by
  unfold bindAdapter at h
  cases hany : bindings.any (·.cls = cls) with
  | true =>
    rw [hany] at h
    obtain ⟨heq, -⟩ := Naming.runFrom_pure_eq_ok.mp h
    rw [List.self_eq_append_right.mp heq]
    exact nofun
  | false =>
    rw [hany] at h
    obtain ⟨name, s₁, hname, hpure⟩ := Naming.runFrom_bind_eq_ok.mp h
    obtain ⟨heq, -⟩ := Naming.runFrom_pure_eq_ok.mp hpure
    rw [← List.append_cancel_left heq, Naming.newNameFor_eq hname]
    exact List.forall_mem_singleton.mpr rfl

theorem resolveFrom_of_room {directions : Directions} {ps : List Property}
    {bindings new : List AdapterBinding}
    (hroom : s.RoomFor (new.map (m.adapterSuggestion ·.cls) ++ rest))
    (h : (m.resolveFrom directions bindings ps).runFrom s = (.ok (bindings ++ new), s')) :
    (∀ b ∈ new, b = m.adapterNamed b.cls) ∧ s'.RoomFor rest := by
  induction ps generalizing s bindings new with
  | nil =>
    obtain ⟨heq, rfl⟩ := Naming.runFrom_pure_eq_ok.mp h
    rw [List.self_eq_append_right.mp heq] at hroom ⊢
    exact ⟨nofun, hroom⟩
  | cons p ps ih =>
    unfold resolveFrom at h
    cases hadapter : p.adapter? with
    | none =>
      rw [hadapter] at h
      exact ih hroom h
    | some cls =>
      rw [hadapter] at h
      obtain ⟨_, s₁, hcheck, h⟩ := Naming.runFrom_bind_eq_ok.mp h
      obtain ⟨-, rfl⟩ := Naming.runFrom_ofExcept_eq_ok.mp hcheck
      obtain ⟨bound, s₂, hbind, hrest⟩ := Naming.runFrom_bind_eq_ok.mp h
      obtain ⟨first, rfl, hgranted, -, -⟩ := m.granted_bindAdapter hbind
      obtain ⟨others, heq, -, -, -⟩ := m.granted_resolveFrom hrest
      rw [List.append_assoc] at heq
      obtain rfl := List.append_cancel_left heq
      rw [List.map_append, List.append_assoc] at hroom
      have hfirst : ∀ b ∈ first, b = m.adapterNamed b.cls := by
        intro b hb
        have hfree := hroom.free _ (List.mem_append_left _ (List.mem_map_of_mem hb))
        obtain rfl := m.bindAdapter_eq hbind b hb
        rw [fresh_of_free hfree]
        rfl
      have hroom' := hroom.granted hgranted fun g hg => ?_
      · rw [← List.append_assoc] at hrest
        obtain ⟨hothers, hroom''⟩ := ih hroom' hrest
        exact ⟨List.forall_mem_append.mpr ⟨hfirst, hothers⟩, hroom''⟩
      · obtain ⟨b, hb, rfl⟩ := List.mem_map.mp hg
        rw [List.map_map]
        refine List.mem_map.mpr ⟨b, hb, ?_⟩
        rw [hfirst b hb]
        rfl

theorem resolve_of_room {directions : Directions} {ps : List Property}
    {bindings : List AdapterBinding}
    (hroom : s.RoomFor ((adapterClasses ps).map m.adapterSuggestion ++ rest))
    (h : (m.resolve directions ps).runFrom s = (.ok bindings, s')) :
    bindings = (adapterClasses ps).map m.adapterNamed ∧ s'.RoomFor rest := by
  rw [← m.map_cls_resolve h, List.map_map] at hroom ⊢
  have hrun : (m.resolveFrom directions [] ps).runFrom s = (.ok ([] ++ bindings), s') := h
  obtain ⟨hnamed, hroom'⟩ := m.resolveFrom_of_room hroom hrun
  refine ⟨?_, hroom'⟩
  conv_lhs => rw [← List.map_id bindings]
  exact List.map_congr_left hnamed

/-! ### readings and writings -/

/-- what the local of a property suggests for that of its index -/
def indexSuggestion (p : Property) : String := toIdentifier p.name ++ "_column_index"

/-- what a property suggests for the map that its factory gives -/
def factorySuggestion (p : Property) : String := p.name ++ "_values"

variable {bindings : List AdapterBinding} {p : Property} {ps : List Property}

theorem ownLocals_of_readProperty {cursor : String} {byKeyword : Bool} {g : PropertyReading}
    (h : (m.readProperty bindings cursor byKeyword p).runFrom s = (.ok g, s')) :
    ∀ n ∈ g.ownLocals, n = s.fresh (s.localOf p ++ "_column_index") := by
  obtain ⟨name, s₁, hbound, h⟩ := Naming.runFrom_bind_eq_ok.mp h
  obtain ⟨way, s₂, hrun, h⟩ := Naming.runFrom_bind_eq_ok.mp h
  obtain ⟨statements, s₃, hstatements, hpure⟩ := Naming.runFrom_bind_eq_ok.mp h
  obtain ⟨rfl, rfl⟩ := Naming.runFrom_pure_eq_ok.mp hpure
  obtain ⟨hname, rfl⟩ := Naming.runFrom_boundName_eq_ok.mp hbound
  obtain ⟨-, rfl⟩ := Naming.runFrom_ofExcept_eq_ok.mp hrun
  rw [localOf_of_find? hname]
  cases way with
  | optionalCell =>
    obtain ⟨index, s₁, hindex, h⟩ := Naming.runFrom_bind_eq_ok.mp hstatements
    obtain ⟨access, s₂, -, hpure⟩ := Naming.runFrom_bind_eq_ok.mp h
    obtain ⟨rfl, -⟩ := Naming.runFrom_pure_eq_ok.mp hpure
    exact List.forall_mem_singleton.mpr (Naming.newName_eq hindex)
  | _ =>
    have hreads := (m.reads_readBy hstatements).1
    unfold PropertyReading.ownLocals
    cases hreads
    exact nofun

/-- the locals that readings take for themselves are those that are suggested -/
theorem readAll_of_room {cursor : String} {byKeyword : Bool} {readings : List PropertyReading}
    (hroom : s.RoomFor (ps.map indexSuggestion))
    (hlocals : ∀ p ∈ ps, s.localOf p = toIdentifier p.name)
    (h : (m.readAll bindings cursor byKeyword ps).runFrom s = (.ok readings, s')) :
    List.Forall₂ (fun p g => ∀ n ∈ g.ownLocals, n = toIdentifier (indexSuggestion p)) ps
      readings := by
  induction ps generalizing s readings with
  | nil =>
    obtain ⟨rfl, -⟩ := Naming.runFrom_pure_eq_ok.mp h
    exact .nil
  | cons p ps ih =>
    obtain ⟨g, s₁, hg, h⟩ := Naming.runFrom_bind_eq_ok.mp h
    obtain ⟨others, s₂, hothers, hpure⟩ := Naming.runFrom_bind_eq_ok.mp h
    obtain ⟨rfl, rfl⟩ := Naming.runFrom_pure_eq_ok.mp hpure
    obtain ⟨hlocal, hlocals⟩ := List.forall_mem_cons.mp hlocals
    have hgranted := (m.reads_readProperty hg).2
    have hown := m.ownLocals_of_readProperty hg
    rw [hlocal] at hown
    have hfirst : ∀ n ∈ g.ownLocals, n = toIdentifier (indexSuggestion p) := fun n hn =>
      (hown n hn).trans hroom.fresh_eq
    have hroom' : s₁.RoomFor (ps.map indexSuggestion) :=
      hroom.granted_cons hgranted (List.forall_mem_map.mpr hfirst)
    refine .cons hfirst (ih hroom' (fun q hq => ?_) hothers)
    rw [localOf, hgranted.find?_of_plain]
    exact hlocals q hq

theorem ownLocals_of_writeByFactory {values access : String} {cls : ClassRef}
    {statements : List Statement}
    (h : (m.writeByFactory values access p cls).runFrom s = (.ok statements, s')) :
    ∀ n ∈ statements.filterMap (·.boundName?), n = s.fresh (factorySuggestion p) := by
  unfold writeByFactory at h
  cases hmethod : m.directory.findMethod cls (m.factoryShape p.type) with
  | none =>
    rw [hmethod] at h
    exact absurd h Naming.runFrom_throw_ne_ok
  | some method =>
    rw [hmethod] at h
    obtain ⟨name, s₁, hname, hpure⟩ := Naming.runFrom_bind_eq_ok.mp h
    obtain ⟨rfl, -⟩ := Naming.runFrom_pure_eq_ok.mp hpure
    exact List.forall_mem_singleton.mpr (Naming.newName_eq hname)

theorem ownLocals_of_writeProperty {value values : String} {statements : List Statement}
    (h : (m.writeProperty bindings value values p).runFrom s = (.ok statements, s')) :
    ∀ n ∈ statements.filterMap (·.boundName?), n = s.fresh (factorySuggestion p) := by
  have hwrites := (m.writes_writeProperty h).1
  unfold writeProperty at h
  cases hwrites with
  | factory hconversion _ =>
    rw [hconversion] at h
    exact m.ownLocals_of_writeByFactory h
  | adapter => exact nofun
  | native => exact nofun

theorem writeAll_of_room {value values : String} {writings : List PropertyWriting}
    (hroom : s.RoomFor (ps.map factorySuggestion))
    (h : (m.writeAll bindings value values ps).runFrom s = (.ok writings, s')) :
    List.Forall₂ (fun p g => ∀ n ∈ g.ownLocals, n = toIdentifier (factorySuggestion p)) ps
      writings := by
  induction ps generalizing s writings with
  | nil =>
    obtain ⟨rfl, -⟩ := Naming.runFrom_pure_eq_ok.mp h
    exact .nil
  | cons p ps ih =>
    obtain ⟨statements, s₁, hstatements, h⟩ := Naming.runFrom_bind_eq_ok.mp h
    obtain ⟨others, s₂, hothers, hpure⟩ := Naming.runFrom_bind_eq_ok.mp h
    obtain ⟨rfl, rfl⟩ := Naming.runFrom_pure_eq_ok.mp hpure
    have hgranted := (m.writes_writeProperty hstatements).2
    have hfirst : ∀ n ∈ statements.filterMap (·.boundName?), n = toIdentifier (factorySuggestion p) :=
      fun n hn => (m.ownLocals_of_writeProperty hstatements n hn).trans hroom.fresh_eq
    exact .cons hfirst
      (ih (hroom.granted_cons hgranted (List.forall_mem_map.mpr hfirst)) hothers)

end Mapping
end RowMapping
