import RowMapping.Proofs.Hint.Nameable

/-!
# Unions in normal form

`distinct` keeps the first of equal hints, so it does not matter whether parts of a list were made
distinct before, nor whether a hint is left out that comes after an equal one.  A hint is `Normal`
if each union in it is what `unionOf` makes: of two or more members, all different and none a union
itself.

* `distinct_append_congr`, `distinct_flatMap_congr`, `distinct_flatMap_distinct`  lists with the
  same distinct hints may stand for each other;
* `normal_unionOf`, `unionOf_singleton`  `unionOf` makes a normal hint and leaves one as it is;
* `members_unionOf`  the members of a union of unions;
* `same_unionOf`  unions of equal hints are equal.
-/

namespace RowMapping
namespace Hint

/-! ### distinct hints -/

/-- hints of which no two are equal -/
abbrev Different (hs : List Hint) : Prop := hs.Pairwise fun h k => same h k = false

theorem distinct_sublist (hs : List Hint) : (distinct hs).Sublist hs := by
  induction hs with
  | nil => exact .refl _
  | cons h hs ih => exact ((List.filter_sublist).trans ih).cons_cons h

theorem different_distinct (hs : List Hint) : Different (distinct hs) := by
  induction hs with
  | nil => exact .nil
  | cons h hs ih =>
    refine List.pairwise_cons.mpr ⟨?_, ih.filter _⟩
    intro k hk
    simpa using (List.mem_filter.mp hk).2

theorem distinct_eq_self {hs : List Hint} (hp : Different hs) : distinct hs = hs := by
  induction hs with
  | nil => rfl
  | cons h hs ih =>
    obtain ⟨hfirst, hrest⟩ := List.pairwise_cons.mp hp
    rw [distinct, ih hrest, List.filter_eq_self.mpr]
    intro k hk
    rw [hfirst k hk, Bool.not_false]

/-- a hint that is equal to itself has an equal one among the distinct ones -/
theorem exists_same_distinct {hs : List Hint} {h : Hint} (hmem : h ∈ hs) (hrefl : same h h = true) :
    ∃ k ∈ distinct hs, same k h = true := by
  induction hs with
  | nil => cases hmem
  | cons k ks ih =>
    rcases List.mem_cons.mp hmem with rfl | hmem
    · exact ⟨h, List.mem_cons_self, hrefl⟩
    · obtain ⟨l, hl, elh⟩ := ih hmem
      by_cases ekl : same k l = true
      · exact ⟨k, List.mem_cons_self, same_trans ekl elh⟩
      · refine ⟨l, List.mem_cons_of_mem k (List.mem_filter.mpr ⟨hl, ?_⟩), elh⟩
        rw [Bool.not_eq_true] at ekl
        rw [ekl, Bool.not_false]

theorem any_same_distinct (hs : List Hint) (k : Hint) :
    (distinct hs).any (same · k) = hs.any (same · k) := by
  rw [Bool.eq_iff_iff, List.any_eq_true, List.any_eq_true]
  constructor
  · rintro ⟨h, hmem, e⟩
    exact ⟨h, (distinct_sublist hs).mem hmem, e⟩
  · rintro ⟨h, hmem, e⟩
    obtain ⟨l, hl, elh⟩ := exists_same_distinct hmem (same_trans e (same_symm e))
    exact ⟨l, hl, same_trans elh e⟩

theorem distinct_append (hs ks : List Hint) : distinct (hs ++ ks) =
    distinct hs ++ (distinct ks).filter fun k => !hs.any (same · k) := by
  induction hs with
  | nil => simp [distinct]
  | cons h hs ih =>
    rw [List.cons_append, distinct, ih, distinct, List.filter_append, List.filter_filter,
      List.cons_append]
    simp [Bool.not_or]

variable {hs hs' ks ks' ls : List Hint}

theorem distinct_append_congr (h : distinct hs = distinct hs') (k : distinct ks = distinct ks') :
    distinct (hs ++ ks) = distinct (hs' ++ ks') := by
  have hany : ∀ l, hs.any (same · l) = hs'.any (same · l) := by
    intro l
    rw [← any_same_distinct hs, h, any_same_distinct]
  rw [distinct_append, distinct_append, h, k]
  simp only [hany]

theorem distinct_distinct (hs : List Hint) : distinct (distinct hs) = distinct hs :=
  distinct_eq_self (different_distinct hs)

theorem distinct_flatMap_congr {f g : Hint → List Hint}
    (h : ∀ l ∈ ls, distinct (f l) = distinct (g l)) :
    distinct (ls.flatMap f) = distinct (ls.flatMap g) := by
  induction ls with
  | nil => rfl
  | cons l ls ih =>
    obtain ⟨hfirst, hrest⟩ := List.forall_mem_cons.mp h
    rw [List.flatMap_cons, List.flatMap_cons]
    exact distinct_append_congr hfirst (ih hrest)

theorem distinct_append_of_forall_same (h : ∀ k ∈ ks, ∃ h ∈ hs, same h k = true) :
    distinct (hs ++ ks) = distinct hs := by
  rw [distinct_append, List.filter_eq_nil_iff.mpr, List.append_nil]
  intro k hk
  obtain ⟨l, hl, e⟩ := h k ((distinct_sublist ks).mem hk)
  have hany : hs.any (same · k) = true := List.any_eq_true.mpr ⟨l, hl, e⟩
  rw [hany]
  decide

theorem distinct_append_flatMap_filter {p : Hint → Bool} {f : Hint → List Hint}
    (h : ∀ l ∈ ls, p l = false → ∀ k ∈ f l, ∃ h ∈ hs, same h k = true) :
    distinct (hs ++ (ls.filter p).flatMap f) = distinct (hs ++ ls.flatMap f) := by
  induction ls generalizing hs with
  | nil => rfl
  | cons l ls ih =>
    obtain ⟨hfirst, hrest⟩ := List.forall_mem_cons.mp h
    rw [List.flatMap_cons, ← List.append_assoc]
    by_cases hp : p l = true
    · rw [List.filter_cons_of_pos hp, List.flatMap_cons, ← List.append_assoc]
      apply ih
      intro m hm hpm k hk
      obtain ⟨n, hn, e⟩ := hrest m hm hpm k hk
      exact ⟨n, List.mem_append_left _ hn, e⟩
    · rw [List.filter_cons_of_neg hp, ih hrest]
      rw [Bool.not_eq_true] at hp
      exact distinct_append_congr (distinct_append_of_forall_same (hfirst hp)).symm rfl

/-- Where equal hints are replaced by equal lists, it is enough to replace the distinct ones. -/
theorem distinct_flatMap_distinct {f : Hint → List Hint}
    (hf : ∀ h k, same h k = true → ∀ y ∈ f k, ∃ x ∈ f h, same x y = true) (hs : List Hint) :
    distinct ((distinct hs).flatMap f) = distinct (hs.flatMap f) := by
  induction hs with
  | nil => rfl
  | cons h hs ih =>
    rw [distinct, List.flatMap_cons, List.flatMap_cons, distinct_append_flatMap_filter]
    · exact distinct_append_congr rfl ih
    · intro k _ hk
      rw [Bool.not_eq_false'] at hk
      exact hf h k hk

theorem filter_distinct {p : Hint → Bool} (hp : ∀ h k, same h k = true → p h = p k)
    (hs : List Hint) : (distinct hs).filter p = distinct (hs.filter p) := by
  induction hs with
  | nil => rfl
  | cons h hs ih =>
    have hcomm : ((distinct hs).filter fun k => !same h k).filter p =
        ((distinct hs).filter p).filter fun k => !same h k := by
      rw [List.filter_filter, List.filter_filter]
      simp only [Bool.and_comm]
    rw [distinct]
    by_cases hh : p h = true
    · rw [List.filter_cons_of_pos hh, List.filter_cons_of_pos hh, distinct, hcomm, ih]
    · rw [List.filter_cons_of_neg hh, List.filter_cons_of_neg hh, hcomm, ih,
        List.filter_eq_self.mpr]
      intro k hk
      have hpk := (List.mem_filter.mp ((distinct_sublist _).mem hk)).2
      rw [Bool.not_eq_true', Bool.eq_false_iff]
      intro e
      exact hh ((hp h k e).trans hpk)

/-! ### normal hints -/

/-- a hint that is no union and no quoted name, and so its own only member -/
def Flat (h : Hint) : Prop := members h = [h]

/-- a hint whose unions are in normal form, whatever stands in parts that are not looked into -/
inductive Normal : Hint → Prop
  | atomic {h : Hint} (ha : h.atomic = true) : Normal h
  | union {hs : List Hint} (htwo : 2 ≤ hs.length) (hdifferent : Different hs)
      (hflat : ∀ h ∈ hs, h.Flat) (hall : ∀ h ∈ hs, h.Normal) : Normal (union hs)
  | generic {c : ClassRef} {hs : List Hint} (hall : ∀ h ∈ hs, h.Normal) : Normal (generic c hs)
  | callable {ps : List Hint} {r : Hint} (hall : ∀ p ∈ ps, p.Normal) (hr : r.Normal) :
      Normal (callable ps r)
  | annotated {h : Hint} {ms : List Marker} (hn : h.Normal) : Normal (annotated h ms)
  | list {hs : List Hint} (hall : ∀ h ∈ hs, h.Normal) : Normal (list hs)
  | classVar {h : Hint} (hn : h.Normal) : Normal (classVar h)

/-- Lists that are the members of some normal hint. -/
structure Summands (hs : List Hint) : Prop where
  ne_nil : hs ≠ []
  different : Different hs
  flat : ∀ h ∈ hs, h.Flat
  normal : ∀ h ∈ hs, h.Normal

theorem normal_union_iff : (union hs).Normal ↔ 2 ≤ hs.length ∧ Summands hs := by
  constructor
  · intro hn
    cases hn with
    | atomic ha => cases ha
    | union htwo hp hflat hall =>
      have hne := List.ne_nil_of_length_pos (Nat.lt_of_lt_of_le Nat.zero_lt_two htwo)
      exact ⟨htwo, hne, hp, hflat, hall⟩
  · rintro ⟨htwo, h⟩
    exact .union htwo h.different h.flat h.normal

theorem normal_generic_iff {c : ClassRef} : (generic c hs).Normal ↔ ∀ h ∈ hs, h.Normal := by
  refine ⟨fun hn => ?_, .generic⟩
  cases hn with
  | atomic ha => cases ha
  | generic hall => exact hall

theorem normal_callable_iff {r : Hint} :
    (callable hs r).Normal ↔ (∀ h ∈ hs, h.Normal) ∧ r.Normal := by
  refine ⟨fun hn => ?_, fun hn => .callable hn.1 hn.2⟩
  cases hn with
  | atomic ha => cases ha
  | callable hall hr => exact ⟨hall, hr⟩

theorem normal_annotated_iff {h : Hint} {ms : List Marker} :
    (annotated h ms).Normal ↔ h.Normal := by
  refine ⟨fun hn => ?_, .annotated⟩
  cases hn with
  | atomic ha => cases ha
  | annotated hn => exact hn

theorem normal_list_iff : (list hs).Normal ↔ ∀ h ∈ hs, h.Normal := by
  refine ⟨fun hn => ?_, .list⟩
  cases hn with
  | atomic ha => cases ha
  | list hall => exact hall

theorem normal_classVar_iff {h : Hint} : (classVar h).Normal ↔ h.Normal := by
  refine ⟨fun hn => ?_, .classVar⟩
  cases hn with
  | atomic ha => cases ha
  | classVar hn => exact hn

theorem union_or_members (h : Hint) :
    (∃ hs, h = union hs) ∨ (members h = [named h] ∧ (named h).Flat) := by
  cases h <;> simp [named, Flat, members]

theorem text_or_named (h : Hint) : (∃ n e, h = text n e) ∨ named h = h := by
  cases h <;> simp [named]

theorem normal_named {h : Hint} (hn : h.Normal) : (named h).Normal := by
  rcases text_or_named h with ⟨n, e, rfl⟩ | hnamed
  · exact .atomic rfl
  · rw [hnamed]
    exact hn

theorem summands_members {h : Hint} (hn : h.Normal) : Summands (members h) := by
  rcases union_or_members h with ⟨hs, rfl⟩ | ⟨hmembers, hflat⟩
  · exact (normal_union_iff.mp hn).2
  · rw [hmembers]
    exact ⟨List.cons_ne_nil _ _, List.pairwise_singleton _ _, List.forall_mem_singleton.mpr hflat,
      List.forall_mem_singleton.mpr (normal_named hn)⟩

theorem normal_ofMembers (h : Summands hs) : (ofMembers hs).Normal := by
  match hs, h with
  | [], h => exact absurd rfl h.ne_nil
  | [k], h => exact h.normal k List.mem_cons_self
  | k :: l :: rest, h => exact .union (by simp) h.different h.flat h.normal

theorem members_ofMembers (h : Summands hs) : members (ofMembers hs) = hs := by
  match hs, h with
  | [], _ => rfl
  | [k], h => exact h.flat k List.mem_cons_self
  | k :: l :: rest, _ => rfl

theorem ofMembers_members {h : Hint} (hn : h.Normal) : ofMembers (members h) = named h := by
  rcases union_or_members h with ⟨hs, rfl⟩ | ⟨hmembers, -⟩
  · match hs, (normal_union_iff.mp hn).1 with
    | h :: k :: rest, _ => rfl
  · rw [hmembers]
    rfl

/-! ### unions of normal hints -/

theorem summands_distinct (hne : hs ≠ []) (hall : ∀ h ∈ hs, h.Normal) :
    Summands (distinct (hs.flatMap members)) := by
  have hfrom : ∀ k ∈ distinct (hs.flatMap members), ∃ h ∈ hs, k ∈ members h := fun k hk =>
    List.mem_flatMap.mp ((distinct_sublist _).mem hk)
  refine ⟨?_, different_distinct _, ?_, ?_⟩
  · obtain ⟨h, rest, rfl⟩ := List.exists_cons_of_ne_nil hne
    obtain ⟨k, more, hmembers⟩ :=
      List.exists_cons_of_ne_nil (summands_members (hall h List.mem_cons_self)).ne_nil
    rw [List.flatMap_cons, hmembers, List.cons_append, distinct]
    exact List.cons_ne_nil _ _
  · intro k hk
    obtain ⟨h, hmem, hk⟩ := hfrom k hk
    exact (summands_members (hall h hmem)).flat k hk
  · intro k hk
    obtain ⟨h, hmem, hk⟩ := hfrom k hk
    exact (summands_members (hall h hmem)).normal k hk

theorem normal_unionOf (hne : hs ≠ []) (hall : ∀ h ∈ hs, h.Normal) : (unionOf hs).Normal :=
  normal_ofMembers (summands_distinct hne hall)

/-- the members of a union of normal hints are the different members of these -/
theorem members_unionOf (hne : hs ≠ []) (hall : ∀ h ∈ hs, h.Normal) :
    members (unionOf hs) = distinct (hs.flatMap members) :=
  members_ofMembers (summands_distinct hne hall)

/-- the union of a single normal hint is this hint, a quoted name apart -/
theorem unionOf_singleton {h : Hint} (hn : h.Normal) : unionOf [h] = named h := by
  rw [unionOf, List.flatMap_singleton, distinct_eq_self (summands_members hn).different,
    ofMembers_members hn]

theorem flatMap_members_eq_self (hflat : ∀ h ∈ hs, h.Flat) : hs.flatMap members = hs := by
  induction hs with
  | nil => rfl
  | cons h hs ih =>
    obtain ⟨hh, hhs⟩ := List.forall_mem_cons.mp hflat
    rw [List.flatMap_cons, hh, ih hhs, List.singleton_append]

theorem unionOf_of_flat (htwo : 2 ≤ hs.length) (hp : Different hs) (hflat : ∀ h ∈ hs, h.Flat) :
    unionOf hs = union hs := by
  rw [unionOf, flatMap_members_eq_self hflat, distinct_eq_self hp]
  match hs, htwo with
  | h :: k :: rest, _ => rfl

/-! ### unions of hints that can be named -/

theorem named_of_nameable {h : Hint} (hn : h.Nameable) : named h = h := by
  rcases text_or_named h with ⟨n, e, rfl⟩ | hnamed
  · obtain ⟨t, e⟩ := hn
    cases e
  · exact hnamed

theorem nameable_of_mem_members {h k : Hint} (hn : h.Nameable) (hk : k ∈ members h) :
    k.Nameable := by
  rcases union_or_members h with ⟨hs, rfl⟩ | ⟨hmembers, -⟩
  · exact nameable_union_iff.mp hn k hk
  · rw [hmembers, named_of_nameable hn, List.mem_singleton] at hk
    exact hk ▸ hn

theorem nameable_ofMembers (hall : ∀ h ∈ hs, h.Nameable) : (ofMembers hs).Nameable := by
  match hs with
  | [] => exact nameable_union_iff.mpr hall
  | [h] => exact hall h List.mem_cons_self
  | h :: k :: rest => exact nameable_union_iff.mpr hall

theorem nameable_of_mem_distinct (hall : ∀ h ∈ hs, h.Nameable) :
    ∀ k ∈ distinct (hs.flatMap members), k.Nameable := by
  intro k hk
  obtain ⟨h, hmem, hk⟩ := List.mem_flatMap.mp ((distinct_sublist _).mem hk)
  exact nameable_of_mem_members (hall h hmem) hk

theorem nameable_unionOf (hall : ∀ h ∈ hs, h.Nameable) : (unionOf hs).Nameable :=
  nameable_ofMembers (nameable_of_mem_distinct hall)

/-! ### equal unions -/

theorem same_named {h k : Hint} (e : same h k = true) : same (named h) (named k) = true := by
  rcases text_or_named h with ⟨n, e, rfl⟩ | hh
  · cases k <;> simp_all [same, named]
  · rcases text_or_named k with ⟨n, e, rfl⟩ | hk
    · cases h <;> simp_all [same, named]
    · rwa [hh, hk]

theorem same_members {h k l : Hint} (e : same h k = true) (hl : l ∈ members k) :
    ∃ m ∈ members h, same m l = true := by
  rcases union_or_members h with ⟨hs, rfl⟩ | ⟨hmembers, -⟩
  · obtain ⟨ks, rfl, -, hout⟩ := same_union_iff.mp e
    exact hout l hl
  · rcases union_or_members k with ⟨ks, rfl⟩ | ⟨kmembers, -⟩
    · obtain ⟨hs, rfl, hin, -⟩ := same_union_iff.mp (same_symm e)
      obtain ⟨m, hm, elm⟩ := hin l hl
      exact ⟨m, hm, same_symm elm⟩
    · rw [kmembers, List.mem_singleton] at hl
      rw [hl, hmembers]
      exact ⟨named h, List.mem_cons_self, same_named e⟩

theorem ofMembers_eq_union (h : ¬∃ k, hs = [k]) : ofMembers hs = union hs := by
  match hs with
  | [] => rfl
  | [k] => exact absurd ⟨k, rfl⟩ h
  | k :: l :: rest => rfl

theorem eq_singleton_of_forall_same {h : Hint} (hne : ks ≠ []) (kp : Different ks)
    (hall : ∀ k ∈ ks, same h k = true) : ∃ k, ks = [k] := by
  match ks with
  | [] => exact absurd rfl hne
  | [k] => exact ⟨k, rfl⟩
  | k :: l :: rest =>
    have hk := hall k List.mem_cons_self
    have hl := hall l (List.mem_cons_of_mem _ List.mem_cons_self)
    have hkl := (List.pairwise_cons.mp kp).1 l List.mem_cons_self
    rw [same_trans (same_symm hk) hl] at hkl
    cases hkl

/-- different members make equal hints where each has an equal one on the other side -/
theorem same_ofMembers (hp : Different hs) (kp : Different ks)
    (hin : ∀ h ∈ hs, ∃ k ∈ ks, same h k = true)
    (hout : ∀ k ∈ ks, ∃ h ∈ hs, same h k = true) :
    same (ofMembers hs) (ofMembers ks) = true := by
  by_cases hone : ∃ h, hs = [h]
  · obtain ⟨h, rfl⟩ := hone
    have hall : ∀ k ∈ ks, same h k = true := by simpa using hout
    obtain ⟨k, hk, -⟩ := hin h List.mem_cons_self
    obtain ⟨k, rfl⟩ := eq_singleton_of_forall_same (List.ne_nil_of_mem hk) kp hall
    exact hall k List.mem_cons_self
  by_cases kone : ∃ k, ks = [k]
  · obtain ⟨k, rfl⟩ := kone
    have hall : ∀ h ∈ hs, same k h = true := by
      intro h hmem
      obtain ⟨k', hk', e⟩ := hin h hmem
      rw [List.mem_singleton.mp hk'] at e
      exact same_symm e
    obtain ⟨h, hmem, -⟩ := hout k List.mem_cons_self
    exact absurd (eq_singleton_of_forall_same (List.ne_nil_of_mem hmem) hp hall) hone
  rw [ofMembers_eq_union hone, ofMembers_eq_union kone]
  exact same_union_iff.mpr ⟨ks, rfl, hin, hout⟩

theorem same_unionOf (hin : ∀ h ∈ hs, ∃ k ∈ ks, same h k = true)
    (hout : ∀ k ∈ ks, ∃ h ∈ hs, same h k = true) : same (unionOf hs) (unionOf ks) = true := by
  have hcover : ∀ as bs : List Hint, (∀ a ∈ as, ∃ b ∈ bs, same a b = true) →
      ∀ x ∈ distinct (as.flatMap members), ∃ y ∈ distinct (bs.flatMap members),
        same x y = true := by
    intro as bs hab x hx
    obtain ⟨a, ha, hx⟩ := List.mem_flatMap.mp ((distinct_sublist _).mem hx)
    obtain ⟨b, hb, eab⟩ := hab a ha
    obtain ⟨y, hy, eyx⟩ := same_members (same_symm eab) hx
    obtain ⟨z, hz, ezy⟩ := exists_same_distinct (List.mem_flatMap.mpr ⟨b, hb, hy⟩)
      (same_trans eyx (same_symm eyx))
    exact ⟨z, hz, same_symm (same_trans ezy eyx)⟩
  refine same_ofMembers (different_distinct _) (different_distinct _) (hcover hs ks hin) ?_
  intro y hy
  have hback : ∀ k ∈ ks, ∃ h ∈ hs, same k h = true := by
    intro k hk
    obtain ⟨h, hmem, e⟩ := hout k hk
    exact ⟨h, hmem, same_symm e⟩
  obtain ⟨x, hx, e⟩ := hcover ks hs hback y hy
  exact ⟨x, hx, same_symm e⟩

end Hint
end RowMapping
