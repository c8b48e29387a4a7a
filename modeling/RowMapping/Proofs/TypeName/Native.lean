import RowMapping.Proofs.Text.Dotted
import RowMapping.Proofs.TypeName.Renaming

/-!
# Native types

The catalog has qualified names, and types that are not the same can share one: it does not tell
where the module ends and a nested class begins, and for builtins and syntax it has no module.
`spellings` are all the modules and names with one qualified name.  Those of the catalog are the
native types and what else looks like them there, the `lookalikes`.

* `mem_spellings_iff`  the spellings of a text are what it is the qualified name of;
* `perm_spelled`  the spellings of the catalog;
* `classifies`  which types have operations, and what does not matter for them.
-/

namespace RowMapping
open RowMapping.Text

/-! ### types that share a qualified name -/

/-- the modules and names with the qualified name `q` -/
def spellings (q : String) : List (String × String) :=
  let apart := (cuts '.' q.toList).map fun cut => (String.ofList cut.1, String.ofList cut.2)
  [(builtins, q), (TypeName.syntaxModule, q)] ++
    apart.filter fun p => ¬ (p.1 = builtins ∨ p.1 = TypeName.syntaxModule)

theorem mem_apart_iff {q module name : String} :
    (module, name) ∈ (cuts '.' q.toList).map (fun cut => (String.ofList cut.1, String.ofList cut.2))
      ↔ module ++ "." ++ name = q := by
  rw [List.mem_map]
  constructor
  · rintro ⟨⟨s, t⟩, hmem, heq⟩
    cases heq
    apply String.toList_injective
    rw [← mem_cuts_iff.mp hmem]
    simp
  · rintro rfl
    refine ⟨(module.toList, name.toList), mem_cuts_iff.mpr ?_, ?_⟩
    · simp
    · rw [String.ofList_toList, String.ofList_toList]

theorem mem_spellings_iff {t : TypeName} {q : String} :
    (t.module, t.name) ∈ spellings q ↔ t.qualifiedName = q := by
  have hbare : (t.module, t.name) ∈ [(builtins, q), (TypeName.syntaxModule, q)] ↔
      (t.module = builtins ∨ t.module = TypeName.syntaxModule) ∧ t.name = q := by
    rw [List.mem_pair, Prod.mk.injEq, Prod.mk.injEq, or_and_right]
  rw [spellings, TypeName.qualifiedName, List.mem_append, hbare, List.mem_filter, mem_apart_iff,
    decide_eq_true_eq]
  split
  next hmodule => rw [and_iff_right hmodule, or_iff_left fun h => h.2 hmodule]
  next hmodule => rw [or_iff_right fun h => hmodule h.1, and_iff_left hmodule]

/-! ### the spellings of the catalog -/

def builtinTypes : List (String × CellOperations) :=
  [("str", .plain .string), ("int", .plain .int), ("float", .plain .double), ("bool", .boolean),
   ("bytes", .plain .blob), ("bytearray", .plain .blob)]

def annotationTypes : List (String × CellOperations) :=
  [("Int64", .plain .long), ("Int16", .plain .short), ("Float32", .plain .float)]

/-- the modules and names of the native types -/
def nativeTypes : List ((String × String) × CellOperations) :=
  (builtinTypes.map fun e => ((builtins, e.1), e.2)) ++
    annotationTypes.map fun e => (("row_gen.annotations", e.1), e.2)

/-- modules and names of other types that have the qualified names of native ones -/
def lookalikes : List ((String × String) × CellOperations) :=
  (builtinTypes.map fun e => ((TypeName.syntaxModule, e.1), e.2)) ++
    annotationTypes.flatMap fun e =>
      [(("row_gen", "annotations." ++ e.1), e.2),
       ((builtins, "row_gen.annotations." ++ e.1), e.2),
       ((TypeName.syntaxModule, "row_gen.annotations." ++ e.1), e.2)]

/-- the catalog by the modules and names that lead to its entries -/
def spelled : List ((String × String) × CellOperations) :=
  catalog.flatMap fun e => (spellings e.1).map fun p => (p, e.2)

theorem perm_spelled : spelled.Perm (nativeTypes ++ lookalikes) := by decide

/-- a table with every key once is known by what is in it -/
theorem lookup_eq_some_iff_mem {α β : Type} [BEq α] [LawfulBEq α] {entries : List (α × β)}
    {key : α} {v : β} (h : (entries.map Prod.fst).Nodup) :
    entries.lookup key = some v ↔ (key, v) ∈ entries := by
  rw [List.lookup_eq_some_iff]
  constructor
  · rintro ⟨before, behind, rfl, -⟩
    exact List.mem_append_right _ List.mem_cons_self
  · intro hmem
    obtain ⟨before, behind, rfl⟩ := List.append_of_mem hmem
    refine ⟨before, behind, rfl, fun p hp => bne_iff_ne.mpr fun heq => ?_⟩
    rw [List.map_append, List.map_cons, List.nodup_append] at h
    exact h.2.2 p.1 (List.mem_map_of_mem hp) key List.mem_cons_self heq.symm

theorem mem_spelled_iff {t : TypeName} {ops : CellOperations} :
    ((t.module, t.name), ops) ∈ spelled ↔ (t.qualifiedName, ops) ∈ catalog := by
  rw [spelled, List.mem_flatMap]
  constructor
  · rintro ⟨⟨q, ops'⟩, hentry, hmem⟩
    obtain ⟨p, hp, heq⟩ := List.mem_map.mp hmem
    cases heq
    rw [mem_spellings_iff.mp hp]
    exact hentry
  · intro hentry
    exact ⟨_, hentry, List.mem_map.mpr ⟨_, mem_spellings_iff.mpr rfl, rfl⟩⟩

theorem classify_eq_some_iff {t : TypeName} {ops : CellOperations} :
    classify t = some ops ↔
      t.args = [] ∧ ((t.module, t.name), ops) ∈ nativeTypes ++ lookalikes := by
  have hnodup : (catalog.map Prod.fst).Nodup := by decide
  rw [← perm_spelled.mem_iff, mem_spelled_iff, ← lookup_eq_some_iff_mem hnodup, classify]
  split
  next hargs => rw [and_iff_right (List.isEmpty_iff.mp hargs)]
  next hargs => exact iff_of_false nofun fun h => hargs (List.isEmpty_iff.mpr h.1)

namespace TypeName

/-- whether a type without arguments has its module and name in a table -/
def IsIn (t : TypeName) (table : List ((String × String) × CellOperations)) : Prop :=
  t.args = [] ∧ (t.module, t.name) ∈ table.map Prod.fst

instance (t : TypeName) (table : List ((String × String) × CellOperations)) :
    Decidable (t.IsIn table) :=
  inferInstanceAs (Decidable (_ ∧ _))

variable {t : TypeName}

theorem isSome_classify_iff :
    (classify t).isSome = true ↔ t.IsIn nativeTypes ∨ t.IsIn lookalikes := by
  unfold IsIn
  rw [Option.isSome_iff_exists, ← and_or_left, ← List.mem_append, ← List.map_append, List.mem_map]
  constructor
  · rintro ⟨ops, h⟩
    obtain ⟨hargs, hmem⟩ := classify_eq_some_iff.mp h
    exact ⟨hargs, _, hmem, rfl⟩
  · rintro ⟨hargs, ⟨p, ops⟩, hmem, heq⟩
    cases heq
    exact ⟨ops, classify_eq_some_iff.mpr ⟨hargs, hmem⟩⟩

theorem not_isIn_lookalikes_of_native (h : t.IsIn nativeTypes) : ¬ t.IsIn lookalikes := by
  have hdisjoint : (nativeTypes.map Prod.fst).Disjoint (lookalikes.map Prod.fst) := by
    rw [List.disjoint_left]
    decide
  exact fun hlookalike => hdisjoint h.2 hlookalike.2

theorem not_isIn_lookalikes_of_topLevel (hmodule : t.module ≠ syntaxModule)
    (hname : '.' ∉ t.name.toList) : ¬ t.IsIn lookalikes := by
  have hall : ∀ p ∈ lookalikes.map Prod.fst, p.1 = syntaxModule ∨ '.' ∈ p.2.toList := by
    decide
  exact fun h => (hall _ h.2).elim hmodule hname

/-- what the operations of a type depend on -/
structure Classifies (t : TypeName) : Prop where
  operations : ∀ ops, classify t = some ops ↔
    t.args = [] ∧ ((t.module, t.name), ops) ∈ nativeTypes ++ lookalikes
  /-- A type has operations just if it is native, with the lookalikes as the only exceptions. -/
  native : ((classify t).isSome = true ↔ t.IsIn nativeTypes) ↔ ¬ t.IsIn lookalikes
  /-- A class at the top level of a module is no exception. -/
  topLevel : t.module ≠ syntaxModule → '.' ∉ t.name.toList →
    ((classify t).isSome = true ↔ t.IsIn nativeTypes)
  nullable : ∀ nullable localName, classify { t with nullable, localName } = classify t
  aliased : ∀ aliases, classify (t.aliased aliases) = classify t

theorem native_iff_not_lookalike :
    ((classify t).isSome = true ↔ t.IsIn nativeTypes) ↔ ¬ t.IsIn lookalikes := by
  rw [isSome_classify_iff, or_iff_left_iff_imp]
  exact ⟨fun h hlookalike => not_isIn_lookalikes_of_native (h hlookalike) hlookalike,
    fun h hlookalike => absurd hlookalike h⟩

/-- The types that have operations are the native ones and their lookalikes, which are nested or in
no module, whatever stands beside them and whatever they are imported under. -/
theorem classifies (t : TypeName) : t.Classifies where
  operations _ := classify_eq_some_iff
  native := native_iff_not_lookalike
  topLevel hmodule hname :=
    native_iff_not_lookalike.mpr (not_isIn_lookalikes_of_topLevel hmodule hname)
  nullable _ _ := rfl
  aliased aliases := classify_of_same (same_aliased aliases t)

/-- a native type that may be `None`, imported under another name than its own -/
def otherInt64 : TypeName :=
  { name := "Int64", module := "row_gen.annotations", nullable := true, localName := some "Int64_" }

theorem classifies_otherInt64 :
    (otherInt64.module ≠ syntaxModule ∧ '.' ∉ otherInt64.name.toList) ∧
      otherInt64.IsIn nativeTypes ∧ otherInt64.Classifies ∧
      classify otherInt64 = some (.plain .long) := by
  have hclassifies := classifies otherInt64
  have hmem : ((otherInt64.module, otherInt64.name), CellOperations.plain .long) ∈
      nativeTypes ++ lookalikes := by decide
  exact ⟨by decide, by decide, hclassifies,
    (hclassifies.operations _).mpr ⟨rfl, hmem⟩⟩

/-- A class in a class `annotations` of the package is taken for the native type of its name. -/
theorem not_native_nested :
    let nested : TypeName := { name := "annotations.Int64", module := "row_gen" }
    classify nested = some (.plain .long) ∧ ¬ nested.IsIn nativeTypes ∧
      ¬ ((classify nested).isSome = true ↔ nested.IsIn nativeTypes) := by decide

end TypeName
end RowMapping
