import RowMapping.Source

/-!
# What types import

An import is known by its key, a module and a first segment.  Of a type without local names the keys
are the imports themselves (`imports_of_isPlain`).  A type as it is imported under local names is
described by its keys and the table of these names alone (`imported_aliased`).
-/

namespace RowMapping
open RowMapping.Text

def Aliases.localOf (aliases : Aliases) (key : String × String) : String :=
  (aliases.lookup key).getD key.2

def Aliases.importOf (aliases : Aliases) (key : String × String) : Import :=
  ⟨key.1, key.2, aliases.lookup key⟩

namespace TypeName

def keys (t : TypeName) : List (String × String) := t.imported.map Import.key

/-- a type without local names -/
def IsPlain (t : TypeName) : Prop := ∀ part ∈ t.parts, part.localName = none

/-! ### types with other local names -/

mutual

theorem parts_aliased (aliases : Aliases) :
    ∀ t : TypeName, (t.aliased aliases).parts = t.parts.map (aliased aliases)
  | ⟨name, module, args, nullable, localName⟩ => by
    unfold aliased
    rw [parts, parts, List.map_cons, partsAll_aliased aliases args, aliased]

theorem partsAll_aliased (aliases : Aliases) :
    ∀ ts : List TypeName, partsAll (aliasedAll aliases ts) = (partsAll ts).map (aliased aliases)
  | [] => by rw [aliasedAll, partsAll, List.map_nil]
  | t :: ts => by
    rw [aliasedAll, partsAll, partsAll, List.map_append, parts_aliased aliases t,
      partsAll_aliased aliases ts]

end

theorem isImportable_aliased (aliases : Aliases) (t : TypeName) :
    (t.aliased aliases).isImportable = t.isImportable := by
  cases t
  unfold aliased
  rfl

theorem ownImport_aliased (aliases : Aliases) (t : TypeName) :
    (t.aliased aliases).ownImport = aliases.importOf t.ownImport.key := by
  cases t
  unfold aliased
  rfl

theorem imported_aliased (aliases : Aliases) (t : TypeName) :
    (t.aliased aliases).imported = t.keys.map aliases.importOf := by
  have himportable : isImportable ∘ aliased aliases = isImportable :=
    funext (isImportable_aliased aliases)
  have hown : ownImport ∘ aliased aliases = aliases.importOf ∘ Import.key ∘ ownImport :=
    funext (ownImport_aliased aliases)
  rw [imported, parts_aliased, List.filter_map, List.map_map, himportable, hown, keys, imported,
    List.map_map, List.map_map]
  rfl

/-! ### types without local names -/

theorem imports_of_isPlain {t : TypeName} (h : t.IsPlain) : t.imports = t.keys := by
  unfold imports keys
  refine List.map_congr_left fun i hi => ?_
  obtain ⟨part, hpart, rfl⟩ := List.mem_map.mp hi
  unfold ownImport
  rw [h part (List.mem_filter.mp hpart).1]
  rfl

theorem isPlain_of_args_nil {t : TypeName} (hargs : t.args = []) (hlocal : t.localName = none) :
    t.IsPlain := by
  rcases t with ⟨name, module, args, nullable, localName⟩
  obtain rfl : args = [] := hargs
  intro part hpart
  unfold parts partsAll at hpart
  rw [List.mem_singleton.mp hpart]
  exact hlocal

theorem isPlain_parse (qualified : String) : (parse qualified).IsPlain :=
  isPlain_of_args_nil rfl rfl

/-! ### callables -/

/-- the key of the type of functions -/
def callableKey : String × String := ("collections.abc", "Callable")

theorem parts_callable (params : List TypeName) (result : TypeName) :
    (callable params result).parts
      = callable params result :: parameters params :: (params.flatMap parts ++ result.parts) := by
  rw [callable, parts, partsAll, partsAll, partsAll, parameters, parts, partsAll_eq_flatMap,
    List.append_nil]
  rfl

theorem isPlain_callable {params : List TypeName} {result : TypeName}
    (hparams : ∀ t ∈ params, t.IsPlain) (hresult : result.IsPlain) :
    (callable params result).IsPlain := by
  intro part hpart
  rw [parts_callable] at hpart
  rcases List.mem_cons.mp hpart with rfl | hpart
  · rfl
  rcases List.mem_cons.mp hpart with rfl | hpart
  · rfl
  rcases List.mem_append.mp hpart with hpart | hpart
  · obtain ⟨t, ht, hpart⟩ := List.mem_flatMap.mp hpart
    exact hparams t ht part hpart
  · exact hresult part hpart

theorem ownImport_callable (params : List TypeName) (result : TypeName) :
    (callable params result).ownImport = Aliases.importOf [] callableKey := by
  have hroot : beforeDot "Callable" = "Callable" := by decide
  show Import.mk "collections.abc" (beforeDot "Callable") none = _
  rw [hroot]
  rfl

theorem isImportable_parameters (params : List TypeName) :
    (parameters params).isImportable = false := rfl

theorem imported_callable (params : List TypeName) (result : TypeName) :
    (callable params result).imported
      = Aliases.importOf [] callableKey :: (params.flatMap imported ++ result.imported) := by
  have hparams : (params.flatMap parts).filter isImportable
      = params.flatMap fun t => t.parts.filter isImportable := List.filter_flatMap
  rw [imported, parts_callable, List.filter_cons_of_pos rfl,
    List.filter_cons_of_neg (by rw [isImportable_parameters]; exact nofun), List.filter_append,
    hparams, List.map_cons, List.map_append, List.map_flatMap, ownImport_callable]
  rfl

theorem mem_keys_callable {params : List TypeName} {result : TypeName} {key : String × String} :
    key ∈ (callable params result).keys ↔
      key = callableKey ∨ (∃ t ∈ params, key ∈ t.keys) ∨ key ∈ result.keys := by
  rw [keys, imported_callable, List.map_cons, List.mem_cons, List.map_append, List.mem_append,
    List.map_flatMap, List.mem_flatMap]
  rfl

end TypeName
end RowMapping
