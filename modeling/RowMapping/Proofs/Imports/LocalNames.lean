import RowMapping.GeneratedUnit.LocalNames
import RowMapping.Proofs.Imports.Keys
import RowMapping.Proofs.Supply.Fresh

/-!
# The names that imports take

A table of local names knows an import as the owner of its own name or under an alias.  `Sound`
is what every step of the table preserves: owners and aliases have names of their own, all of them
taken.  From it follows what a unit needs of `LocalNames.ofImports`:

* `nameOf_mem_taken`  the name of every import is taken, and so is its own first segment;
* `nameOf_inj`        different imports have different names.
-/

namespace RowMapping
open NameSupply

namespace LocalNames

/-- the name that an import has in a table -/
def nameOf (l : LocalNames) (key : String × String) : String := l.aliases.localOf key

/-- what holds of a table after every step -/
structure Sound (l : LocalNames) : Prop where
  bindings : l.supply.bindings = []
  owned : ∀ {name key}, l.owners.lookup name = some key →
    key.2 = name ∧ name ∈ l.supply.taken ∧ l.aliases.lookup key = none
  aliased : ∀ {key name}, l.aliases.lookup key = some name →
    key.2 ∈ l.supply.taken ∧ name ∈ l.supply.taken ∧ l.owners.lookup name = none
  aliased_inj : ∀ {key key' name}, l.aliases.lookup key = some name →
    l.aliases.lookup key' = some name → key = key'

theorem sound_empty : Sound {} where
  bindings := rfl
  owned h := by cases h
  aliased h := by cases h
  aliased_inj h _ := by cases h

/-! ### known imports -/

variable {l : LocalNames} {key key' : String × String}

theorem knows_iff : l.knows key = true ↔
    l.owners.lookup key.2 = some key ∨ ∃ name, l.aliases.lookup key = some name := by
  unfold knows
  rw [Bool.or_eq_true, beq_iff_eq, Option.isSome_iff_exists]

theorem nameOf_of_owner (h : l.Sound) (howner : l.owners.lookup key.2 = some key) :
    l.nameOf key = key.2 := by
  unfold nameOf Aliases.localOf
  rw [(h.owned howner).2.2, Option.getD_none]

theorem nameOf_of_alias {name : String} (halias : l.aliases.lookup key = some name) :
    l.nameOf key = name := by
  unfold nameOf Aliases.localOf
  rw [halias, Option.getD_some]

/-- a known import has taken its name, and its own first segment is taken too -/
theorem nameOf_mem_taken (h : l.Sound) (hknown : l.knows key = true) :
    l.nameOf key ∈ l.supply.taken ∧ key.2 ∈ l.supply.taken := by
  rcases knows_iff.mp hknown with howner | ⟨name, halias⟩
  · rw [nameOf_of_owner h howner]
    exact ⟨(h.owned howner).2.1, (h.owned howner).2.1⟩
  · rw [nameOf_of_alias halias]
    exact ⟨(h.aliased halias).2.1, (h.aliased halias).1⟩

theorem nameOf_inj (h : l.Sound) (hknown : l.knows key = true) (hknown' : l.knows key' = true)
    (hname : l.nameOf key = l.nameOf key') : key = key' := by
  rcases knows_iff.mp hknown with howner | ⟨name, halias⟩ <;>
    rcases knows_iff.mp hknown' with howner' | ⟨name', halias'⟩
  · rw [nameOf_of_owner h howner, nameOf_of_owner h howner'] at hname
    rw [hname, howner'] at howner
    exact (Option.some.inj howner).symm
  · rw [nameOf_of_owner h howner, nameOf_of_alias halias'] at hname
    rw [hname, (h.aliased halias').2.2] at howner
    cases howner
  · rw [nameOf_of_alias halias, nameOf_of_owner h howner'] at hname
    rw [← hname, (h.aliased halias).2.2] at howner'
    cases howner'
  · rw [nameOf_of_alias halias, nameOf_of_alias halias'] at hname
    subst hname
    exact h.aliased_inj halias halias'

/-! ### one more import -/

theorem not_knows_iff : l.knows key = false ↔
    l.owners.lookup key.2 ≠ some key ∧ l.aliases.lookup key = none := by
  rw [knows, Bool.or_eq_false_iff, beq_eq_false_iff_ne, Option.isSome_eq_false_iff,
    Option.isNone_iff_eq_none]

/-- the three things that one more import can do to a table -/
theorem add_cases (l : LocalNames) (key : String × String) :
    (l.knows key = true ∧ l.add key = l) ∨
    (l.knows key = false ∧ key.2 ∈ l.supply.taken ∧
      ∃ name, name ∉ l.supply.taken ∧ l.add key =
        { l with supply := l.supply.reserve name, aliases := l.aliases ++ [(key, name)] }) ∨
    (l.knows key = false ∧ key.2 ∉ l.supply.taken ∧ l.add key =
      { l with supply := l.supply.reserve key.2, owners := (key.2, key) :: l.owners }) := by
  cases hknown : l.knows key with
  | true => exact .inl ⟨rfl, add_of_knows hknown⟩
  | false =>
    right
    unfold add
    rw [hknown]
    cases hcontains : l.supply.contains key.2 with
    | true =>
      refine .inl ⟨rfl, by simpa [contains] using hcontains, l.supply.fresh key.2, ?_, rfl⟩
      exact l.supply.fresh_not_mem_taken key.2
    | false => exact .inr ⟨rfl, by simpa [contains] using hcontains, rfl⟩

theorem Sound.lookup_owners_of_not_mem (h : l.Sound) {name : String}
    (hnew : name ∉ l.supply.taken) : l.owners.lookup name = none := by
  cases howner : l.owners.lookup name with
  | none => rfl
  | some key => exact absurd (h.owned howner).2.1 hnew

theorem lookup_append_singleton {name found : String}
    (h : (l.aliases ++ [(key, name)]).lookup key' = some found) :
    l.aliases.lookup key' = some found ∨
      l.aliases.lookup key' = none ∧ key' = key ∧ found = name := by
  rw [List.lookup_append, Option.or_eq_some_iff] at h
  rcases h with h | ⟨hnone, h⟩
  · exact .inl h
  · rw [List.lookup_cons] at h
    cases hkey : key' == key with
    | true =>
      rw [hkey] at h
      exact .inr ⟨hnone, eq_of_beq hkey, (Option.some.inj h).symm⟩
    | false =>
      rw [hkey] at h
      cases h

theorem Sound.withAlias (h : l.Sound) (hknown : l.knows key = false)
    (hroot : key.2 ∈ l.supply.taken) {name : String} (hname : name ∉ l.supply.taken) :
    Sound { l with supply := l.supply.reserve name, aliases := l.aliases ++ [(key, name)] } where
  bindings := h.bindings
  owned := by
    intro n k howner
    obtain ⟨hk, hn, hnone⟩ := h.owned howner
    refine ⟨hk, List.mem_cons_of_mem _ hn, ?_⟩
    have hne : (k == key) = false := by
      refine beq_eq_false_iff_ne.mpr fun heq => (not_knows_iff.mp hknown).1 ?_
      rw [← heq, hk, howner]
    show (l.aliases ++ [(key, name)]).lookup k = none
    rw [List.lookup_append, hnone, Option.none_or, List.lookup_cons, hne, List.lookup_nil]
  aliased := by
    intro k n halias
    rcases lookup_append_singleton halias with halias | ⟨-, rfl, rfl⟩
    · obtain ⟨hk, hn, hnone⟩ := h.aliased halias
      exact ⟨List.mem_cons_of_mem _ hk, List.mem_cons_of_mem _ hn, hnone⟩
    · exact ⟨List.mem_cons_of_mem _ hroot, List.mem_cons_self, h.lookup_owners_of_not_mem hname⟩
  aliased_inj := by
    intro k k' n halias halias'
    rcases lookup_append_singleton halias with halias | ⟨-, hk, hn⟩ <;>
      rcases lookup_append_singleton halias' with halias' | ⟨-, hk', hn'⟩
    · exact h.aliased_inj halias halias'
    · exact absurd (hn' ▸ (h.aliased halias).2.1) hname
    · exact absurd (hn ▸ (h.aliased halias').2.1) hname
    · rw [hk, hk']

theorem Sound.withOwner (h : l.Sound) (hknown : l.knows key = false)
    (hroot : key.2 ∉ l.supply.taken) :
    Sound { l with supply := l.supply.reserve key.2, owners := (key.2, key) :: l.owners } where
  bindings := h.bindings
  owned := by
    intro n k howner
    rw [List.lookup_cons] at howner
    cases hn : n == key.2 with
    | true =>
      rw [hn] at howner
      obtain rfl := Option.some.inj howner
      exact ⟨(eq_of_beq hn).symm, by rw [eq_of_beq hn]; exact List.mem_cons_self,
        (not_knows_iff.mp hknown).2⟩
    | false =>
      rw [hn] at howner
      obtain ⟨hk, hmem, hnone⟩ := h.owned howner
      exact ⟨hk, List.mem_cons_of_mem _ hmem, hnone⟩
  aliased := by
    intro k n halias
    obtain ⟨hk, hn, hnone⟩ := h.aliased halias
    refine ⟨List.mem_cons_of_mem _ hk, List.mem_cons_of_mem _ hn, ?_⟩
    have hne : (n == key.2) = false := beq_eq_false_iff_ne.mpr fun heq => hroot (heq ▸ hn)
    show ((key.2, key) :: l.owners).lookup n = none
    rw [List.lookup_cons, hne, hnone]
  aliased_inj := h.aliased_inj

theorem sound_add (h : l.Sound) (key : String × String) : (l.add key).Sound := by
  obtain ⟨-, heq⟩ | ⟨hknown, hroot, name, hname, heq⟩ | ⟨hknown, hroot, heq⟩ := l.add_cases key
  · rw [heq]; exact h
  · rw [heq]; exact h.withAlias hknown hroot hname
  · rw [heq]; exact h.withOwner hknown hroot

/-- a table knows the import that it was given, and what it knew before -/
theorem knows_add (h : l.Sound) (hknown : l.knows key' = true ∨ key' = key) :
    (l.add key).knows key' = true := by
  obtain ⟨hadded, heq⟩ | ⟨-, -, name, -, heq⟩ | ⟨-, hroot, heq⟩ := l.add_cases key
  · rw [heq]
    rcases hknown with hknown | rfl
    · exact hknown
    · exact hadded
  · rw [heq, knows_iff]
    show _ ∨ ∃ n, (l.aliases ++ [(key, name)]).lookup key' = some n
    rw [List.lookup_append]
    rcases hknown with hknown | rfl
    · rcases knows_iff.mp hknown with howner | ⟨n, halias⟩
      · exact .inl howner
      · exact .inr ⟨n, by rw [halias, Option.some_or]⟩
    · cases halias : l.aliases.lookup key' with
      | none => exact .inr ⟨name, by rw [Option.none_or]; exact List.lookup_cons_self⟩
      | some n => exact .inr ⟨n, Option.some_or⟩
  · rw [heq, knows_iff]
    show ((key.2, key) :: l.owners).lookup key'.2 = _ ∨ _
    rcases hknown with hknown | rfl
    · rcases knows_iff.mp hknown with howner | halias
      · left
        have hne : (key'.2 == key.2) = false :=
          beq_eq_false_iff_ne.mpr fun heq => hroot (heq ▸ (h.owned howner).2.1)
        rw [List.lookup_cons, hne, howner]
      · exact .inr halias
    · exact .inl List.lookup_cons_self

/-! ### all imports -/

theorem sound_foldl (h : l.Sound) (keys : List (String × String)) :
    (keys.foldl add l).Sound ∧
      ∀ key, l.knows key = true ∨ key ∈ keys → (keys.foldl add l).knows key = true := by
  induction keys generalizing l with
  | nil => exact ⟨h, fun key hkey => hkey.resolve_right List.not_mem_nil⟩
  | cons first keys ih =>
    obtain ⟨hsound, hknows⟩ := ih (sound_add h first)
    refine ⟨hsound, fun key hkey => hknows key ?_⟩
    rcases hkey with hkey | hkey
    · exact .inl (knows_add h (.inl hkey))
    · rcases List.mem_cons.mp hkey with rfl | hkey
      · exact .inl (knows_add h (.inr rfl))
      · exact .inr hkey

/-- the table of a list of imports is sound and knows them all -/
theorem sound_ofImports (keys : List (String × String)) :
    (ofImports keys).Sound ∧ ∀ key ∈ keys, (ofImports keys).knows key = true := by
  obtain ⟨hsound, hknows⟩ := sound_foldl sound_empty keys
  exact ⟨hsound, fun key hkey => hknows key (.inr hkey)⟩

theorem mem_of_lookup_foldl (keys : List (String × String)) {name : String}
    (h : (keys.foldl add l).aliases.lookup key = some name) :
    l.aliases.lookup key = some name ∨ key ∈ keys := by
  induction keys generalizing l with
  | nil => exact .inl h
  | cons first keys ih =>
    rcases ih h with halias | hkey
    · obtain ⟨-, heq⟩ | ⟨-, -, new, -, heq⟩ | ⟨-, -, heq⟩ := l.add_cases first
      · exact .inl (heq ▸ halias)
      · rw [heq] at halias
        rcases lookup_append_singleton halias with halias | ⟨-, rfl, -⟩
        · exact .inl halias
        · exact .inr List.mem_cons_self
      · rw [heq] at halias
        exact .inl halias
    · exact .inr (List.mem_cons_of_mem _ hkey)

theorem nameOf_ofImports_of_not_mem {keys : List (String × String)} (h : key ∉ keys) :
    (ofImports keys).nameOf key = key.2 := by
  unfold nameOf Aliases.localOf
  cases halias : (ofImports keys).aliases.lookup key with
  | none => rfl
  | some name =>
    rcases mem_of_lookup_foldl keys halias with hempty | hkey
    · cases hempty
    · exact absurd hkey h

end LocalNames
end RowMapping
