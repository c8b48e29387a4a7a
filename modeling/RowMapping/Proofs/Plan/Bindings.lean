import RowMapping.Plan.AdapterBinding
import RowMapping.Proofs.Correspondence
import RowMapping.Proofs.FirstSeen
import RowMapping.Proofs.Supply.Steps

/-!
# The bindings of adapters

What `resolve` leaves behind when it succeeds: one new name for each new binding, bindings for
the adapters of all properties, and every binding of a class that some property uses, with the
type that the directory knows the class by.  The classes come in the order of their first use,
each once (`map_cls_resolve`).
-/

namespace RowMapping
open NameSupply

/-- the adapter classes of properties, in the order of their first use -/
def adapterClasses (ps : List Property) : List ClassRef :=
  (ps.filterMap Property.adapter?).eraseDups

def AdapterBinding.grant (b : AdapterBinding) : Grant := .tagged (.adapter b.cls) b.name

theorem runFrom_adapterName_eq_ok {bindings : List AdapterBinding} {cls : ClassRef} {name : String}
    {s s' : NameSupply} :
    (adapterName bindings cls).runFrom s = (.ok name, s') ↔
      (∃ b, bindings.find? (·.cls = cls) = some b ∧ b.name = name) ∧ s = s' := by
  unfold adapterName
  cases hfind : bindings.find? (·.cls = cls) with
  | none =>
    constructor
    · intro h; exact absurd h Naming.runFrom_throw_ne_ok
    · rintro ⟨⟨b, h, -⟩, -⟩; cases h
  | some b =>
    rw [Naming.runFrom_pure_eq_ok]
    constructor
    · rintro ⟨hname, hs⟩; exact ⟨⟨b, rfl, hname⟩, hs⟩
    · rintro ⟨⟨b', h, hname⟩, hs⟩; cases h; exact ⟨hname, hs⟩

namespace Mapping
variable (m : Mapping) {s s' : NameSupply}

/-- The bindings of a class are those given and at most a new one, and one of them is its own. -/
theorem granted_bindAdapter {bindings result : List AdapterBinding} {cls : ClassRef}
    (h : (m.bindAdapter bindings cls).runFrom s = (.ok result, s')) :
    ∃ new, result = bindings ++ new ∧ Granted s (new.map AdapterBinding.grant) s' ∧
      (∀ b ∈ new, b.cls = cls ∧ b.type = m.directory.typeName b.cls) ∧ ∃ b ∈ result, b.cls = cls := by
  unfold bindAdapter at h
  cases hany : bindings.any (·.cls = cls) with
  | true =>
    rw [hany] at h
    obtain ⟨rfl, rfl⟩ := Naming.runFrom_pure_eq_ok.mp h
    refine ⟨[], (List.append_nil _).symm, .nil _, fun b hb => (by cases hb), ?_⟩
    obtain ⟨b, hb, hcls⟩ := List.any_eq_true.mp hany
    exact ⟨b, hb, of_decide_eq_true hcls⟩
  | false =>
    rw [hany] at h
    obtain ⟨name, s₁, hname, hpure⟩ := Naming.runFrom_bind_eq_ok.mp h
    obtain ⟨rfl, rfl⟩ := Naming.runFrom_pure_eq_ok.mp hpure
    obtain ⟨-, hgranted⟩ := Naming.granted_newNameFor hname
    refine ⟨[⟨cls, m.directory.typeName cls, name⟩], rfl, hgranted, ?_, ?_⟩
    · intro b hb
      rw [List.mem_singleton.mp hb]
      exact ⟨rfl, rfl⟩
    · exact ⟨_, List.mem_append_right _ (List.mem_singleton_self _), rfl⟩

theorem granted_resolveFrom {directions : Directions} {ps : List Property}
    {bindings result : List AdapterBinding}
    (h : (m.resolveFrom directions bindings ps).runFrom s = (.ok result, s')) :
    ∃ new, result = bindings ++ new ∧ Granted s (new.map AdapterBinding.grant) s' ∧
      (∀ b ∈ new, (∃ p ∈ ps, p.adapter? = some b.cls) ∧ b.type = m.directory.typeName b.cls) ∧
      ∀ p ∈ ps, ∀ cls, p.adapter? = some cls → ∃ b ∈ result, b.cls = cls := by
  induction ps generalizing s bindings with
  | nil =>
    obtain ⟨rfl, rfl⟩ := Naming.runFrom_pure_eq_ok.mp h
    exact ⟨[], (List.append_nil _).symm, .nil _, fun b hb => (by cases hb), fun p hp => by cases hp⟩
  | cons p ps ih =>
    unfold resolveFrom at h
    cases hadapter : p.adapter? with
    | none =>
      rw [hadapter] at h
      obtain ⟨new, hresult, hgranted, hnew, hall⟩ := ih h
      refine ⟨new, hresult, hgranted, fun b hb => ?_, fun q hq cls hcls => ?_⟩
      · obtain ⟨⟨q, hq, hcls⟩, htype⟩ := hnew b hb
        exact ⟨⟨q, List.mem_cons_of_mem _ hq, hcls⟩, htype⟩
      · rcases List.mem_cons.mp hq with rfl | hq
        · rw [hadapter] at hcls; cases hcls
        · exact hall q hq cls hcls
    | some cls =>
      rw [hadapter] at h
      obtain ⟨_, s₁, hcheck, h⟩ := Naming.runFrom_bind_eq_ok.mp h
      obtain ⟨-, rfl⟩ := Naming.runFrom_ofExcept_eq_ok.mp hcheck
      obtain ⟨bound, s₂, hbind, hrest⟩ := Naming.runFrom_bind_eq_ok.mp h
      obtain ⟨first, rfl, hfirst, htype, hown⟩ := m.granted_bindAdapter hbind
      obtain ⟨new, rfl, hgranted, hnew, hall⟩ := ih hrest
      refine ⟨first ++ new, List.append_assoc _ _ _, ?_, ?_, ?_⟩
      · rw [List.map_append]
        exact hfirst.append hgranted
      · intro b hb
        rcases List.mem_append.mp hb with hb | hb
        · obtain ⟨rfl, ht⟩ := htype b hb
          exact ⟨⟨p, List.mem_cons_self, hadapter⟩, ht⟩
        · obtain ⟨⟨q, hq, hcls⟩, ht⟩ := hnew b hb
          exact ⟨⟨q, List.mem_cons_of_mem _ hq, hcls⟩, ht⟩
      · intro q hq other hother
        rcases List.mem_cons.mp hq with rfl | hq
        · rw [hadapter] at hother
          cases hother
          obtain ⟨b, hb, hcls⟩ := hown
          exact ⟨b, List.mem_append_left _ hb, hcls⟩
        · exact hall q hq other hother

/-- Every property's adapter has a binding, every binding is some property's, and each took a new
name. -/
theorem granted_resolve {directions : Directions} {ps : List Property}
    {bindings : List AdapterBinding}
    (h : (m.resolve directions ps).runFrom s = (.ok bindings, s')) :
    Granted s (bindings.map AdapterBinding.grant) s' ∧
      (∀ b ∈ bindings, (∃ p ∈ ps, p.adapter? = some b.cls) ∧ b.type = m.directory.typeName b.cls) ∧
      ∀ p ∈ ps, ∀ cls, p.adapter? = some cls → ∃ b ∈ bindings, b.cls = cls := by
  obtain ⟨new, hresult, hgranted, hnew, hall⟩ := m.granted_resolveFrom h
  rw [List.nil_append] at hresult
  subst hresult
  exact ⟨hgranted, hnew, hall⟩

/-! ### the order of the bindings

The loop remembers the classes of its bindings, which are those that came up so far. -/

theorem map_cls_bindAdapter {bindings result : List AdapterBinding} {cls : ClassRef}
    {seen : List ClassRef} (hseen : bindings.map (·.cls) = seen.eraseDups)
    (h : (m.bindAdapter bindings cls).runFrom s = (.ok result, s')) :
    result.map (·.cls) = (seen ++ [cls]).eraseDups := by
  have hmem : cls ∈ seen ↔ bindings.any (·.cls = cls) = true := by
    rw [← List.mem_eraseDups, ← hseen, List.mem_map, List.any_eq_true]
    exact exists_congr fun b => and_congr_right fun _ => decide_eq_true_iff.symm
  unfold bindAdapter at h
  cases hany : bindings.any (·.cls = cls) with
  | true =>
    rw [hany] at h
    obtain ⟨rfl, -⟩ := Naming.runFrom_pure_eq_ok.mp h
    rw [eraseDups_concat_of_mem (hmem.mpr hany), hseen]
  | false =>
    rw [hany] at h
    obtain ⟨name, s₁, -, hpure⟩ := Naming.runFrom_bind_eq_ok.mp h
    obtain ⟨rfl, -⟩ := Naming.runFrom_pure_eq_ok.mp hpure
    have hnew : cls ∉ seen := fun hin => Bool.false_ne_true (hany.symm.trans (hmem.mp hin))
    rw [eraseDups_concat_of_not_mem hnew, List.map_append, hseen]
    rfl

theorem map_cls_resolveFrom {directions : Directions} {ps : List Property}
    {bindings result : List AdapterBinding} {seen : List ClassRef}
    (hseen : bindings.map (·.cls) = seen.eraseDups)
    (h : (m.resolveFrom directions bindings ps).runFrom s = (.ok result, s')) :
    result.map (·.cls) = (seen ++ ps.filterMap Property.adapter?).eraseDups := by
  induction ps generalizing s bindings seen with
  | nil =>
    obtain ⟨rfl, -⟩ := Naming.runFrom_pure_eq_ok.mp h
    rw [List.filterMap_nil, List.append_nil, hseen]
  | cons p ps ih =>
    unfold resolveFrom at h
    cases hadapter : p.adapter? with
    | none =>
      rw [hadapter] at h
      rw [List.filterMap_cons_none hadapter]
      exact ih hseen h
    | some cls =>
      rw [hadapter] at h
      obtain ⟨_, s₁, -, h⟩ := Naming.runFrom_bind_eq_ok.mp h
      obtain ⟨bound, s₂, hbind, hrest⟩ := Naming.runFrom_bind_eq_ok.mp h
      rw [List.filterMap_cons_some hadapter, List.append_cons]
      exact ih (m.map_cls_bindAdapter hseen hbind) hrest

theorem map_cls_resolve {directions : Directions} {ps : List Property}
    {bindings : List AdapterBinding}
    (h : (m.resolve directions ps).runFrom s = (.ok bindings, s')) :
    bindings.map (·.cls) = adapterClasses ps := by
  have hnone : ([] : List AdapterBinding).map (·.cls) = ([] : List ClassRef).eraseDups := rfl
  exact m.map_cls_resolveFrom hnone h

/-! ### adapters of the same name -/

/-- two numbers of one adapter and one between them of another with the same name -/
def shadedProperties : List Property :=
  let cls (module : String) : ClassRef := { name := "ShadeAdapter", module := module }
  [{ name := "light", type := .int, conversion := .adapter (cls "app") },
   { name := "tint", type := .int, conversion := .adapter (cls "other") },
   { name := "dark", type := .int, conversion := .adapter (cls "app") }]

/-- the settings by default, over classes that convert numbers -/
def shading : Mapping :=
  { settings := {}
    directory :=
      { typeName := .ofClass
        methods := fun cls => [
          { owner := .ofClass cls, name := "from_cursor", returns := .int
            params := [.ofClass .cursor, .str] },
          { owner := .ofClass cls, name := "to_content_values", returns := .noneType
            params := [.ofClass .contentValues, .str, .int] }] } }

end Mapping
end RowMapping
