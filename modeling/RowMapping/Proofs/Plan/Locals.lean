import RowMapping.Plan.ReadPlan
import RowMapping.Proofs.Supply.Steps

/-!
# The locals of properties

`nameLocals` gives each property a name of its own, bound to the property's tag.  On a supply that
has the tags it does nothing.

* `granted_nameLocals`     properties of different names get one new name each;
* `runFrom_nameLocals_of_bound`  properties that have their locals keep them.
-/

namespace RowMapping
open NameSupply

/-- the local of a property in a supply -/
def NameSupply.localOf (s : NameSupply) (p : Property) : String :=
  (s.find? (.property p.name)).getD ""

/-- whether a supply has a local for a property -/
def NameSupply.HasLocal (s : NameSupply) (p : Property) : Prop :=
  s.find? (.property p.name) = some (s.localOf p)

namespace NameSupply
variable {s s' : NameSupply} {gs : List Grant} {p : Property}

theorem localOf_of_find? {name : String} (h : s.find? (.property p.name) = some name) :
    s.localOf p = name := by
  unfold localOf
  rw [h, Option.getD_some]

theorem hasLocal_of_find? {name : String} (h : s.find? (.property p.name) = some name) :
    s.HasLocal p := by
  unfold HasLocal
  rw [localOf_of_find? h, h]

theorem Granted.hasLocal (h : Granted s gs s') (hp : s.HasLocal p) :
    s'.HasLocal p ∧ s'.localOf p = s.localOf p := by
  have hfind := h.find?_of_some hp
  exact ⟨hasLocal_of_find? hfind, localOf_of_find? hfind⟩

theorem Apart.nodup_locals (h : s.Apart) {ps : List Property} (hnames : (ps.map (·.name)).Nodup)
    (hlocals : ∀ p ∈ ps, s.HasLocal p) : (ps.map s.localOf).Nodup := by
  refine List.Nodup.map_on ?_ hnames.of_map
  intro p hp q hq heq
  have hq' : s.find? (.property q.name) = some (s.localOf p) := heq ▸ hlocals q hq
  have hname : p.name = q.name := Tag.property.inj (h.tag_eq (hlocals p hp) hq')
  exact List.inj_on_of_nodup_map hnames hp hq hname

end NameSupply

namespace Mapping
variable {s s' : NameSupply}

theorem nameLocals_cons (p : Property) (ps : List Property) :
    nameLocals (p :: ps) = (do
      let _ ← Naming.nameFor (.property p.name) p.name
      nameLocals ps) := rfl

theorem runFrom_nameLocals_of_bound {ps : List Property} (h : ∀ p ∈ ps, s.HasLocal p) :
    (nameLocals ps).runFrom s = (.ok (), s) := by
  induction ps with
  | nil => rfl
  | cons p ps ih =>
    rw [nameLocals_cons, Naming.runFrom_bind,
      Naming.runFrom_nameFor_of_bound (h p List.mem_cons_self)]
    exact ih fun q hq => h q (List.mem_cons_of_mem _ hq)

theorem exists_granted_nameLocals {ps : List Property}
    (h : (nameLocals ps).runFrom s = (.ok (), s')) : ∃ gs, Granted s gs s' := by
  induction ps generalizing s with
  | nil =>
    obtain ⟨-, rfl⟩ := Naming.runFrom_pure_eq_ok.mp h
    exact ⟨[], .nil _⟩
  | cons p ps ih =>
    rw [nameLocals_cons] at h
    obtain ⟨name, s₁, hname, hrest⟩ := Naming.runFrom_bind_eq_ok.mp h
    obtain ⟨-, gs, hgs⟩ := Naming.exists_granted_nameFor hname
    obtain ⟨hs, hhs⟩ := ih hrest
    exact ⟨gs ++ hs, hgs.append hhs⟩

/-- properties always get their locals, whatever their names, and no other tag is bound -/
theorem exists_nameLocals (ps : List Property) (s : NameSupply) :
    ∃ s' gs, (nameLocals ps).runFrom s = (.ok (), s') ∧ Granted s gs s' ∧
      (∀ g ∈ gs, ∃ name, g.tag? = some (.property name)) ∧ ∀ p ∈ ps, s'.HasLocal p := by
  induction ps generalizing s with
  | nil => exact ⟨s, [], rfl, .nil _, nofun, nofun⟩
  | cons p ps ih =>
    obtain ⟨name, s₁, gs₁, hname, hbound, hgranted, htag⟩ :=
      Naming.exists_nameFor (.property p.name) p.name s
    obtain ⟨s₂, gs₂, hrest, hgranted', htags, hlocals⟩ := ih s₁
    refine ⟨s₂, gs₁ ++ gs₂, ?_, hgranted.append hgranted', fun g hg => ?_, fun q hq => ?_⟩
    · rw [nameLocals_cons]
      exact Naming.runFrom_bind_eq_ok.mpr ⟨name, s₁, hname, hrest⟩
    · rcases List.mem_append.mp hg with hg | hg
      · exact ⟨p.name, htag g hg⟩
      · exact htags g hg
    · rcases List.mem_cons.mp hq with rfl | hq
      · exact hasLocal_of_find? (hgranted'.find?_of_some hbound)
      · exact hlocals q hq

theorem hasLocal_of_nameLocals {ps : List Property} (h : (nameLocals ps).runFrom s = (.ok (), s')) :
    ∀ p ∈ ps, s'.HasLocal p := by
  obtain ⟨s₁, -, hrun, -, -, hlocals⟩ := exists_nameLocals ps s
  obtain rfl : s' = s₁ := congrArg Prod.snd (h.symm.trans hrun)
  exact hlocals

theorem granted_nameLocals {ps : List Property} (hnames : (ps.map (·.name)).Nodup)
    (hnew : ∀ p ∈ ps, s.find? (.property p.name) = none)
    (h : (nameLocals ps).runFrom s = (.ok (), s')) :
    Granted s (ps.map fun p => .tagged (.property p.name) (s'.localOf p)) s' ∧
      ∀ p ∈ ps, s'.HasLocal p := by
  induction ps generalizing s with
  | nil =>
    obtain ⟨-, rfl⟩ := Naming.runFrom_pure_eq_ok.mp h
    exact ⟨.nil _, fun p hp => by cases hp⟩
  | cons p ps ih =>
    rw [nameLocals_cons] at h
    obtain ⟨name, s₁, hname, hrest⟩ := Naming.runFrom_bind_eq_ok.mp h
    rw [List.map_cons, List.nodup_cons] at hnames
    have hfirst := Naming.granted_nameFor (hnew p List.mem_cons_self) hname
    have hfind : s₁.find? (.property p.name) = some name := by
      rw [hfirst.find?_eq, hnew p List.mem_cons_self]
      simp [Grant.binding?_tagged]
    have hnew' : ∀ q ∈ ps, s₁.find? (.property q.name) = none := by
      intro q hq
      have hne : q.name ≠ p.name := fun e => hnames.1 (e ▸ List.mem_map_of_mem hq)
      rw [hfirst.find?_eq, hnew q (List.mem_cons_of_mem _ hq)]
      simp [Grant.binding?_tagged, hne]
    obtain ⟨hgranted, hlocals⟩ := ih hnames.2 hnew' hrest
    have hp := hgranted.find?_of_some hfind
    refine ⟨?_, ?_⟩
    · rw [List.map_cons, localOf_of_find? hp]
      exact hfirst.append hgranted
    · intro q hq
      rcases List.mem_cons.mp hq with rfl | hq
      · exact hasLocal_of_find? hp
      · exact hlocals q hq

end Mapping
end RowMapping
