import RowMapping.Proofs.Supply.Fresh

/-!
# Names granted in turn

`Granted s gs s'` says that `s'` is the supply `s` after the names `gs` were taken one after the
other, each of them free when its turn came.  Whatever names a unit, the list of its names can be
read off such a run:

* `Granted.nodup`, `Granted.not_mem_taken`, `Granted.not_keyword`  the names are all different, none
  was taken before, and none is a keyword;
* `Granted.find?_eq`  the tags that are bound afterwards;
* `Granted.apart`  names that different tags are bound to stay different.
-/

namespace RowMapping
open RowMapping.Text

/-- a name that is handed out, and the tag that it is bound to -/
structure Grant where
  tag? : Option Tag
  name : String

namespace Grant

def plain (name : String) : Grant := ⟨none, name⟩

def tagged (tag : Tag) (name : String) : Grant := ⟨some tag, name⟩

def binding? (g : Grant) : Option (Tag × String) := g.tag?.map fun tag => (tag, g.name)

theorem binding?_tagged (tag : Tag) (name : String) :
    (tagged tag name).binding? = some (tag, name) := rfl

end Grant

namespace NameSupply

/-- the supply after a name was handed out -/
def take (s : NameSupply) (g : Grant) : NameSupply :=
  match g.tag? with
  | some tag => s.bind tag g.name
  | none => s.reserve g.name

theorem taken_take (s : NameSupply) (g : Grant) : (s.take g).taken = g.name :: s.taken := by
  rcases g with ⟨_ | tag, name⟩ <;> rfl

theorem bindings_take (s : NameSupply) (g : Grant) :
    (s.take g).bindings = s.bindings ++ g.binding?.toList := by
  rcases g with ⟨_ | tag, name⟩
  · show s.bindings = s.bindings ++ []
    rw [List.append_nil]
  · rfl

/-- `s'` is the supply `s` after free names were handed out in turn -/
inductive Granted : NameSupply → List Grant → NameSupply → Prop
  | nil (s : NameSupply) : Granted s [] s
  | cons {s s' : NameSupply} {g : Grant} {gs : List Grant} :
    s.blocked g.name = false → Granted (s.take g) gs s' → Granted s (g :: gs) s'

namespace Granted
variable {s s₁ s₂ : NameSupply} {g : Grant} {gs hs : List Grant}

theorem single (h : s.blocked g.name = false) : Granted s [g] (s.take g) := .cons h (.nil _)

theorem append (h : Granted s gs s₁) (h' : Granted s₁ hs s₂) : Granted s (gs ++ hs) s₂ := by
  induction h with
  | nil => exact h'
  | cons hfree _ ih => exact .cons hfree (ih h')

/-! ### what is taken -/

theorem taken_eq (h : Granted s gs s₁) : s₁.taken = (gs.map (·.name)).reverse ++ s.taken := by
  induction h with
  | nil => rfl
  | cons _ _ ih => rw [ih, taken_take, List.map_cons, List.reverse_cons, List.append_assoc]; rfl

theorem map_name_eq (h : Granted s gs s₁) (h' : Granted s hs s₁) :
    gs.map (·.name) = hs.map (·.name) := by
  have htaken := h.taken_eq.symm.trans h'.taken_eq
  exact List.reverse_injective (List.append_cancel_right htaken)

theorem not_keyword (h : Granted s gs s₁) : ∀ n ∈ gs.map (·.name), isKeyword n = false := by
  induction h with
  | nil => intro n hn; cases hn
  | cons hfree _ ih =>
    intro n hn
    rcases List.mem_cons.mp hn with rfl | hn
    · exact ((blocked_eq_false_iff _).mp hfree).1
    · exact ih n hn

theorem not_mem_taken (h : Granted s gs s₁) : ∀ n ∈ gs.map (·.name), n ∉ s.taken := by
  induction h with
  | nil => intro n hn; cases hn
  | cons hfree _ ih =>
    intro n hn
    rcases List.mem_cons.mp hn with rfl | hn
    · exact ((blocked_eq_false_iff _).mp hfree).2
    · intro hmem
      refine ih n hn ?_
      rw [taken_take]
      exact List.mem_cons_of_mem _ hmem

theorem nodup (h : Granted s gs s₁) : (gs.map (·.name)).Nodup := by
  induction h with
  | nil => exact List.nodup_nil
  | @cons s s' g gs _ hrest ih =>
    rw [List.map_cons, List.nodup_cons]
    refine ⟨fun hmem => hrest.not_mem_taken g.name hmem ?_, ih⟩
    rw [taken_take]
    exact List.mem_cons_self

/-! ### what is bound -/

theorem bindings_eq (h : Granted s gs s₁) :
    s₁.bindings = s.bindings ++ gs.filterMap Grant.binding? := by
  induction h with
  | nil => rw [List.filterMap_nil, List.append_nil]
  | @cons s s' g gs _ _ ih =>
    rw [ih, bindings_take, List.append_assoc]
    cases hg : g.binding? with
    | none => rw [List.filterMap_cons_none hg]; rfl
    | some b => rw [List.filterMap_cons_some hg]; rfl

theorem find?_eq (h : Granted s gs s₁) (tag : Tag) :
    s₁.find? tag = (s.find? tag).or ((gs.filterMap Grant.binding?).lookup tag) := by
  rw [find?, h.bindings_eq, List.lookup_append, find?]

theorem find?_of_some (h : Granted s gs s₁) {tag : Tag} {name : String}
    (hs : s.find? tag = some name) : s₁.find? tag = some name := by
  rw [h.find?_eq, hs, Option.some_or]

theorem find?_of_other (h : Granted s gs s₁) {tag : Tag} (htag : ∀ g ∈ gs, g.tag? ≠ some tag) :
    s₁.find? tag = s.find? tag := by
  have hnone : (gs.filterMap Grant.binding?).lookup tag = none := by
    rw [List.lookup_eq_none_iff]
    intro b hb
    obtain ⟨g, hg, hbinding⟩ := List.mem_filterMap.mp hb
    obtain ⟨other, hother, rfl⟩ := Option.map_eq_some_iff.mp hbinding
    refine bne_iff_ne.mpr fun heq => htag g hg ?_
    rw [heq]
    exact hother
  rw [h.find?_eq, hnone, Option.or_none]

theorem find?_of_tagged {tag other : Tag} {name : String} (h : Granted s [.tagged tag name] s₁)
    (hne : tag ≠ other) : s₁.find? other = s.find? other :=
  h.find?_of_other (List.forall_mem_singleton.mpr fun htag => hne (Option.some.inj htag))

theorem find?_of_plain {names : List String} (h : Granted s (names.map Grant.plain) s₁) (tag : Tag) :
    s₁.find? tag = s.find? tag := by
  refine h.find?_of_other fun g hg => ?_
  obtain ⟨name, -, rfl⟩ := List.mem_map.mp hg
  exact nofun

end Granted

/-! ### supplies that tell tags apart -/

/-- All bound names are taken, and no two of them are the same. -/
structure Apart (s : NameSupply) : Prop where
  taken : ∀ b ∈ s.bindings, b.2 ∈ s.taken
  names : (s.bindings.map (·.2)).Nodup

variable {s : NameSupply} {tag other : Tag} {name : String}

theorem mem_bindings_of_find? (h : s.find? tag = some name) : (tag, name) ∈ s.bindings := by
  obtain ⟨before, behind, hbindings, -⟩ := List.lookup_eq_some_iff.mp h
  rw [hbindings]
  exact List.mem_append_right _ List.mem_cons_self

/-- from a supply without tags, the name of a tag was granted for it -/
theorem Granted.mem_of_find? {s₁ : NameSupply} {gs : List Grant} (h : Granted s gs s₁)
    (hs : s.bindings = []) (hfind : s₁.find? tag = some name) : Grant.tagged tag name ∈ gs := by
  have hmem := mem_bindings_of_find? hfind
  rw [h.bindings_eq, hs, List.nil_append] at hmem
  obtain ⟨⟨tag?, bound⟩, hg, hbinding⟩ := List.mem_filterMap.mp hmem
  obtain ⟨found, htag, heq⟩ := Option.map_eq_some_iff.mp hbinding
  cases heq
  obtain rfl : tag? = some tag := htag
  exact hg

namespace Apart

theorem of_bindings_nil (h : s.bindings = []) : s.Apart := by
  constructor
  · rw [h]; exact fun b hb => by cases hb
  · rw [h]; exact List.nodup_nil

theorem reserve (h : s.Apart) (name : String) : (s.reserve name).Apart :=
  ⟨fun b hb => List.mem_cons_of_mem _ (h.taken b hb), h.names⟩

theorem bind (h : s.Apart) (hfree : s.blocked name = false) (tag : Tag) :
    (s.bind tag name).Apart := by
  have hnew : name ∉ s.taken := (s.blocked_eq_false_iff.mp hfree).2
  constructor
  · intro b hb
    rcases List.mem_append.mp hb with hb | hb
    · exact List.mem_cons_of_mem _ (h.taken b hb)
    · rw [List.mem_singleton.mp hb]
      exact List.mem_cons_self
  · show ((s.bindings ++ [(tag, name)]).map (·.2)).Nodup
    rw [List.map_append, List.nodup_append]
    refine ⟨h.names, List.nodup_singleton _, ?_⟩
    intro bound hbound other hother
    obtain ⟨b, hb, rfl⟩ := List.mem_map.mp hbound
    obtain rfl := List.mem_singleton.mp hother
    exact fun heq => hnew (heq ▸ h.taken b hb)

theorem take {g : Grant} (h : s.Apart) (hfree : s.blocked g.name = false) : (s.take g).Apart := by
  rcases g with ⟨_ | tag, name⟩
  · exact h.reserve name
  · exact h.bind hfree tag

theorem tag_eq (h : s.Apart) (htag : s.find? tag = some name) (hother : s.find? other = some name) :
    tag = other := by
  have hsame := List.inj_on_of_nodup_map h.names (mem_bindings_of_find? htag)
    (mem_bindings_of_find? hother) rfl
  exact congrArg Prod.fst hsame

end Apart

theorem Granted.apart {s s' : NameSupply} {gs : List Grant} (h : Granted s gs s') (hs : s.Apart) :
    s'.Apart := by
  induction h with
  | nil => exact hs
  | cons hfree _ ih => exact ih (hs.take hfree)

end NameSupply
end RowMapping
