import Mathlib.Data.List.Forall2

/-!
# Corresponding members

Lists whose members correspond one to one, in their order: what is made of every property, reading
or declaration of a list has one member for each of them.
-/

namespace RowMapping
variable {α β γ δ ε : Type} {R S : α → β → Prop} {as : List α} {bs : List β}

theorem exists_right_of_forall₂ (h : List.Forall₂ R as bs) {a : α} (ha : a ∈ as) :
    ∃ b ∈ bs, R a b := by
  induction h with
  | nil => cases ha
  | cons hab _ ih =>
    rcases List.mem_cons.mp ha with rfl | ha
    · exact ⟨_, List.mem_cons_self, hab⟩
    · obtain ⟨b, hb, hr⟩ := ih ha
      exact ⟨b, List.mem_cons_of_mem _ hb, hr⟩

theorem exists_left_of_forall₂ (h : List.Forall₂ R as bs) {b : β} (hb : b ∈ bs) :
    ∃ a ∈ as, R a b := exists_right_of_forall₂ h.flip hb

theorem exists_iff_of_forall₂ {P : α → Prop} {Q : β → Prop} (h : List.Forall₂ R as bs)
    (hiff : ∀ a b, R a b → (P a ↔ Q b)) : (∃ a ∈ as, P a) ↔ ∃ b ∈ bs, Q b := by
  constructor
  · rintro ⟨a, ha, hP⟩
    obtain ⟨b, hb, hR⟩ := exists_right_of_forall₂ h ha
    exact ⟨b, hb, (hiff a b hR).mp hP⟩
  · rintro ⟨b, hb, hQ⟩
    obtain ⟨a, ha, hR⟩ := exists_left_of_forall₂ h hb
    exact ⟨a, ha, (hiff a b hR).mpr hQ⟩

theorem forall₂_imp_of_mem (h : List.Forall₂ R as bs)
    (himp : ∀ a ∈ as, ∀ b ∈ bs, R a b → S a b) : List.Forall₂ S as bs := by
  induction h with
  | nil => exact .nil
  | cons hab _ ih =>
    refine .cons (himp _ List.mem_cons_self _ List.mem_cons_self hab) (ih fun a ha b hb => ?_)
    exact himp a (List.mem_cons_of_mem _ ha) b (List.mem_cons_of_mem _ hb)

theorem forall₂_and (h : List.Forall₂ R as bs) (h' : List.Forall₂ S as bs) :
    List.Forall₂ (fun a b => R a b ∧ S a b) as bs := by
  induction h with
  | nil => exact .nil
  | cons hab _ ih =>
    obtain ⟨hab', hrest⟩ := List.forall₂_cons.mp h'
    exact .cons ⟨hab, hab'⟩ (ih hrest)

theorem map_eq_of_forall₂ {f : α → γ} {g : β → γ} (hR : ∀ a b, R a b → g b = f a)
    (h : List.Forall₂ R as bs) : bs.map g = as.map f := by
  induction h with
  | nil => rfl
  | cons hab _ ih => rw [List.map_cons, List.map_cons, hR _ _ hab, ih]

/-- Where corresponding members that agree in one thing agree in another, so do the lists. -/
theorem map_eq_map_of_forall₂ {f : α → γ} {f' : β → γ} {g : α → δ} {g' : β → δ}
    (h : List.Forall₂ (fun a b => f a = f' b → g a = g' b) as bs) (e : as.map f = bs.map f') :
    as.map g = bs.map g' := by
  induction h with
  | nil => rfl
  | cons hab _ ih =>
    obtain ⟨ehead, etail⟩ := List.cons_eq_cons.mp e
    rw [List.map_cons, List.map_cons, hab ehead, ih etail]

/-- results of steps that all succeed correspond to what they were made of -/
theorem forall₂_of_mapM_eq_ok {f : α → Except ε β} (h : as.mapM f = .ok bs) :
    List.Forall₂ (fun a b => f a = .ok b) as bs := by
  induction as generalizing bs with
  | nil =>
    cases h
    exact .nil
  | cons a as ih =>
    rw [List.mapM_cons] at h
    cases hfirst : f a with
    | error e => rw [hfirst] at h; cases h
    | ok b =>
      rw [hfirst] at h
      cases hrest : as.mapM f with
      | error e => rw [hrest] at h; cases h
      | ok rest =>
        rw [hrest] at h
        cases h
        exact .cons hfirst (ih hrest)

theorem mapM_congr_of_forall₂ {f : α → Except ε γ} {g : β → Except ε γ}
    (h : List.Forall₂ (fun a b => f a = g b) as bs) : as.mapM f = bs.mapM g := by
  induction h with
  | nil => rfl
  | cons hab _ ih => rw [List.mapM_cons, List.mapM_cons, hab, ih]

/-- steps all succeed, or one of them fails and decides -/
theorem mapM_eq_ok_or_error (f : α → Except ε β) (as : List α) :
    (∃ bs, as.mapM f = .ok bs) ∨ ∃ a ∈ as, ∃ e, f a = .error e ∧ as.mapM f = .error e := by
  induction as with
  | nil => exact .inl ⟨[], rfl⟩
  | cons a as ih =>
    rw [List.mapM_cons]
    cases hfirst : f a with
    | error e => exact .inr ⟨a, List.mem_cons_self, e, hfirst, rfl⟩
    | ok b =>
      rcases ih with ⟨bs, hbs⟩ | ⟨other, hother, e, herror, hfails⟩
      · rw [hbs]
        exact .inl ⟨b :: bs, rfl⟩
      · rw [hfails]
        exact .inr ⟨other, List.mem_cons_of_mem _ hother, e, herror, rfl⟩

theorem exists_sublist_filterMap (f : α → Option β) (as : List α) :
    ∃ made : List α, made.Sublist as ∧
      List.Forall₂ (fun a b => f a = some b) made (as.filterMap f) := by
  induction as with
  | nil => exact ⟨[], .slnil, .nil⟩
  | cons a as ih =>
    obtain ⟨made, hsub, hmade⟩ := ih
    cases h : f a with
    | none =>
      rw [List.filterMap_cons_none h]
      exact ⟨made, hsub.cons _, hmade⟩
    | some b =>
      rw [List.filterMap_cons_some h]
      exact ⟨a :: made, hsub.cons_cons _, .cons h hmade⟩

theorem pairwise_zipIdx (as : List α) : as.zipIdx.Pairwise (·.2 < ·.2) := by
  rw [List.pairwise_iff_getElem]
  intro i j hi hj hlt
  rw [List.getElem_zipIdx, List.getElem_zipIdx]
  omega

end RowMapping
