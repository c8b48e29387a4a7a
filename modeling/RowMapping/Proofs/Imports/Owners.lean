import RowMapping.Proofs.Imports.LocalNames

/-!
# Which import keeps its name

Imports are named one after the other.  The name of an import stays once it is known
(`lookup_foldl_of_knows`), and nothing is taken but the names of imports (`mem_taken_foldl_iff`).
So the first import of a name finds it taken only where an import before it has it as its alias
(`lookup_eq_none_iff_of_first`).

* `NamesImports`  what the names of imports are to each other;
* `namesImports_ofTypes`  the table of any list of types without local names does that.
-/

namespace RowMapping
open NameSupply

namespace LocalNames
variable {l : LocalNames} {key key' : String × String} {name : String}

/-! ### names that stay -/

theorem lookup_add_of_knows (hknown : l.knows key' = true) (key : String × String) :
    (l.add key).aliases.lookup key' = l.aliases.lookup key' := by
  obtain ⟨-, heq⟩ | ⟨hnew, -, name, -, heq⟩ | ⟨-, -, heq⟩ := l.add_cases key
  · rw [heq]
  · have hne : (key' == key) = false := by
      refine beq_eq_false_iff_ne.mpr fun hsame => ?_
      rw [hsame, hnew] at hknown
      cases hknown
    rw [heq]
    show (l.aliases ++ [(key, name)]).lookup key' = _
    rw [List.lookup_append, List.lookup_cons, hne, List.lookup_nil, Option.or_none]
  · rw [heq]

theorem lookup_foldl_of_knows (h : l.Sound) (hknown : l.knows key' = true)
    (keys : List (String × String)) :
    (keys.foldl add l).aliases.lookup key' = l.aliases.lookup key' := by
  induction keys generalizing l with
  | nil => rfl
  | cons first keys ih =>
    rw [List.foldl_cons, ih (sound_add h first) (knows_add h (.inl hknown)),
      lookup_add_of_knows hknown]

/-! ### known imports were given -/

theorem knows_of_knows_add (hknown : (l.add key).knows key' = true) :
    l.knows key' = true ∨ key' = key := by
  obtain ⟨-, heq⟩ | ⟨-, -, name, -, heq⟩ | ⟨-, -, heq⟩ := l.add_cases key
  · rw [heq] at hknown
    exact .inl hknown
  · rw [heq] at hknown
    rcases knows_iff.mp hknown with howner | ⟨found, halias⟩
    · exact .inl (knows_iff.mpr (.inl howner))
    · rcases lookup_append_singleton halias with halias | ⟨-, hkey, -⟩
      · exact .inl (knows_iff.mpr (.inr ⟨found, halias⟩))
      · exact .inr hkey
  · rw [heq] at hknown
    rcases knows_iff.mp hknown with howner | halias
    · replace howner : ((key.2, key) :: l.owners).lookup key'.2 = some key' := howner
      rw [List.lookup_cons] at howner
      split at howner
      · exact .inr (Option.some.inj howner).symm
      · exact .inl (knows_iff.mpr (.inl howner))
    · exact .inl (knows_iff.mpr (.inr halias))

theorem knows_foldl_iff (h : l.Sound) (keys : List (String × String)) :
    (keys.foldl add l).knows key = true ↔ l.knows key = true ∨ key ∈ keys := by
  refine ⟨fun hknown => ?_, (sound_foldl h keys).2 key⟩
  induction keys generalizing l with
  | nil => exact .inl hknown
  | cons first keys ih =>
    rcases ih (sound_add h first) hknown with hknown | hkey
    · rcases knows_of_knows_add hknown with hknown | rfl
      · exact .inl hknown
      · exact .inr List.mem_cons_self
    · exact .inr (List.mem_cons_of_mem _ hkey)

theorem knows_ofImports_iff (keys : List (String × String)) :
    (ofImports keys).knows key = true ↔ key ∈ keys := by
  have hempty : knows {} key = false := rfl
  rw [ofImports, knows_foldl_iff sound_empty, hempty]
  exact ⟨fun h => h.resolve_left Bool.false_ne_true, .inr⟩

/-! ### taken names -/

/-- one more import takes its own name, if it had none -/
theorem mem_taken_add_iff (h : l.Sound) (key : String × String) :
    name ∈ (l.add key).supply.taken ↔ name ∈ l.supply.taken ∨ (l.add key).nameOf key = name := by
  obtain ⟨hknown, heq⟩ | ⟨hnew, -, new, -, heq⟩ | ⟨hnew, -, heq⟩ := l.add_cases key
  · rw [heq]
    refine ⟨.inl, ?_⟩
    rintro (htaken | rfl)
    · exact htaken
    · exact (nameOf_mem_taken h hknown).1
  · have hname : (l.add key).nameOf key = new := by
      refine nameOf_of_alias ?_
      rw [heq]
      show (l.aliases ++ [(key, new)]).lookup key = some new
      rw [List.lookup_append, (not_knows_iff.mp hnew).2, Option.none_or, List.lookup_cons_self]
    rw [hname, heq]
    show name ∈ new :: l.supply.taken ↔ _
    rw [List.mem_cons, or_comm, eq_comm]
  · have hname : (l.add key).nameOf key = key.2 := by
      refine nameOf_of_owner (sound_add h key) ?_
      rw [heq]
      exact List.lookup_cons_self
    rw [hname, heq]
    show name ∈ key.2 :: l.supply.taken ↔ _
    rw [List.mem_cons, or_comm, eq_comm]

theorem mem_taken_foldl_iff (h : l.Sound) (keys : List (String × String)) :
    name ∈ (keys.foldl add l).supply.taken ↔
      name ∈ l.supply.taken ∨ ∃ key ∈ keys, (keys.foldl add l).nameOf key = name := by
  induction keys generalizing l with
  | nil => simp
  | cons first keys ih =>
    have hsound := sound_add h first
    have hfirst : (keys.foldl add (l.add first)).nameOf first = (l.add first).nameOf first := by
      unfold nameOf Aliases.localOf
      rw [lookup_foldl_of_knows hsound (knows_add h (.inr rfl))]
    rw [List.foldl_cons, ih hsound, mem_taken_add_iff h, List.exists_mem_cons_iff, hfirst,
      or_assoc]

theorem mem_taken_ofImports_iff (keys : List (String × String)) :
    name ∈ (ofImports keys).supply.taken ↔ ∃ key ∈ keys, (ofImports keys).nameOf key = name := by
  have hempty : name ∉ ({} : LocalNames).supply.taken := List.not_mem_nil
  rw [ofImports, mem_taken_foldl_iff sound_empty]
  exact ⟨fun h => h.resolve_left hempty, .inr⟩

/-! ### the first import of a name -/

/-- a name that no import came with is taken exactly if it is the alias of one -/
theorem mem_taken_iff_of_first {before : List (String × String)}
    (hfirst : ∀ k ∈ before, k.2 ≠ name) : name ∈ (ofImports before).supply.taken ↔
      ∃ k, (ofImports before).aliases.lookup k = some name := by
  constructor
  · intro htaken
    obtain ⟨k, hk, hname⟩ := (mem_taken_ofImports_iff before).mp htaken
    refine ⟨k, ?_⟩
    cases halias : (ofImports before).aliases.lookup k with
    | some other => rw [← hname, nameOf_of_alias halias]
    | none =>
      have hown : (ofImports before).nameOf k = k.2 := by
        unfold nameOf Aliases.localOf
        rw [halias, Option.getD_none]
      exact absurd (hown.symm.trans hname) (hfirst k hk)
  · rintro ⟨k, halias⟩
    exact ((sound_ofImports before).1.aliased halias).2.1

/-- The first import of a name gets no alias exactly if its name was nobody's alias by then. -/
theorem lookup_eq_none_iff_of_first {before : List (String × String)}
    (hfirst : ∀ k ∈ before, k.2 ≠ key.2) (behind : List (String × String)) :
    (ofImports (before ++ key :: behind)).aliases.lookup key = none ↔
      ∀ k, (ofImports before).aliases.lookup k ≠ some key.2 := by
  have hsound := (sound_ofImports before).1
  have hkept : (ofImports (before ++ key :: behind)).aliases.lookup key
      = ((ofImports before).add key).aliases.lookup key := by
    show ((before ++ key :: behind).foldl add {}).aliases.lookup key = _
    rw [List.foldl_append, List.foldl_cons]
    exact lookup_foldl_of_knows (sound_add hsound key) (knows_add hsound (.inr rfl)) behind
  rw [hkept, ← not_exists, ← mem_taken_iff_of_first hfirst]
  obtain ⟨hknown, -⟩ | ⟨hnew, htaken, new, -, heq⟩ | ⟨hnew, hfree, heq⟩ :=
    (ofImports before).add_cases key
  · exact absurd rfl (hfirst key ((knows_ofImports_iff before).mp hknown))
  · refine iff_of_false (fun hnone => ?_) fun hfree => hfree htaken
    rw [heq, List.lookup_append, (not_knows_iff.mp hnew).2, Option.none_or,
      List.lookup_cons_self] at hnone
    cases hnone
  · rw [heq]
    exact iff_of_true (not_knows_iff.mp hnew).2 hfree

/-! ### the names of all imports -/

/-- what the names of imports, given in order, are to each other -/
structure NamesImports (l : LocalNames) (keys : List (String × String)) : Prop where
  /-- Different imports have different names. -/
  inj : ∀ key ∈ keys, ∀ key' ∈ keys, l.nameOf key = l.nameOf key' → key = key'
  /-- The first import of a name keeps it, unless it was an alias by then. -/
  first : ∀ before key behind, keys = before ++ key :: behind → (∀ k ∈ before, k.2 ≠ key.2) →
    (l.nameOf key = key.2 ∧ l.aliases.lookup key = none ↔
      ∀ k, (ofImports before).aliases.lookup k ≠ some key.2)
  /-- The imports, and nothing else, own their names or have an alias, and never both. -/
  known : ∀ key, key ∈ keys ↔
    l.owners.lookup key.2 = some key ∨ ∃ name, l.aliases.lookup key = some name
  owned : ∀ key, l.owners.lookup key.2 = some key → l.aliases.lookup key = none
  taken : ∀ name, l.supply.contains name = true ↔ ∃ key ∈ keys, l.nameOf key = name

theorem namesImports_ofImports (keys : List (String × String)) :
    NamesImports (ofImports keys) keys := by
  obtain ⟨hsound, hknows⟩ := sound_ofImports keys
  refine ⟨fun key hkey key' hkey' => ?_, ?_, fun key => ?_, fun key howner => ?_, fun name => ?_⟩
  · exact nameOf_inj hsound (hknows key hkey) (hknows key' hkey')
  · rintro before key behind rfl hfirst
    rw [← lookup_eq_none_iff_of_first hfirst behind]
    refine ⟨fun h => h.2, fun hnone => ⟨?_, hnone⟩⟩
    unfold nameOf Aliases.localOf
    rw [hnone, Option.getD_none]
  · rw [← knows_ofImports_iff, knows_iff]
  · exact (hsound.owned howner).2.2
  · rw [← mem_taken_ofImports_iff, contains, List.contains_iff_mem]

/-- However names, nested ones too, meet in a list of types without local names, their imports are
told apart: what is taken are their names, and each is one import's alone. -/
theorem namesImports_ofTypes {types : List TypeName} (hplain : ∀ t ∈ types, t.IsPlain) :
    NamesImports (ofTypes types) (types.flatMap TypeName.keys) := by
  have hkeys : types.flatMap TypeName.imports = types.flatMap TypeName.keys :=
    List.flatMap_congr fun t ht => TypeName.imports_of_isPlain (hplain t ht)
  rw [ofTypes, hkeys]
  exact namesImports_ofImports _

/-- functions between classes of one name, and a class with the name that one of them is given -/
def codecTypes : List TypeName :=
  [.callable [{ name := "Codec", module := "app" }]
     { name := "Codec.Result", module := "other", nullable := true },
   { name := "list", args := [{ name := "Codec_", module := "third" }] }]

/-- `Codec_` of the module `third` is the first of its name, but comes too late to keep it. -/
theorem namesImports_codecTypes : (∀ t ∈ codecTypes, t.IsPlain) ∧
    NamesImports (ofTypes codecTypes) (codecTypes.flatMap TypeName.keys) ∧
    (ofTypes codecTypes).aliases
      = [(("other", "Codec"), "Codec_"), (("third", "Codec_"), "Codec__")] ∧
    (ofTypes codecTypes).supply.taken = ["Codec__", "Codec_", "Codec", "Callable"] := by
  have hplain : ∀ t ∈ codecTypes, ∀ part ∈ t.parts, part.localName = none := by decide
  exact ⟨hplain, namesImports_ofTypes hplain, by decide, by decide⟩

end LocalNames
end RowMapping
