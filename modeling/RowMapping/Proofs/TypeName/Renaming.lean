import Mathlib.Data.List.Basic
import RowMapping.Catalog
import RowMapping.Proofs.Imports.Keys
import RowMapping.Proofs.TypeName.Same

/-!
# Local names only rename

Local names are read from a table of what is imported.  They are no part of a type, and in source
text they stand for the first segments of the names that the table has, and for nothing else.

`tokens` takes the text of a type apart: marks, which stand as they are, and the names of types in
their modules.

* `render_aliased`  the text of a type under local names, token by token;
* `filterMap_key?_tokens`  the names among the tokens that are imported are the imports of the type;
* `renamesOnly_aliased`  what local names change about a type, and what they do not.
-/

namespace RowMapping
open RowMapping.Text

/-! ### types inside larger types -/

/-- a larger type with a place for a type inside it -/
inductive Surrounding where
  | hole
  | arg (outer : TypeName) (before : List TypeName) (inside : Surrounding) (behind : List TypeName)

/-- the larger type with a type in its place -/
def Surrounding.fill : Surrounding → TypeName → TypeName
  | hole, t => t
  | arg outer before inside behind, t =>
    { outer with args := before ++ inside.fill t :: behind }

namespace TypeName
variable {t u : TypeName}

/-- types that are the same may stand for each other inside larger ones -/
theorem same_fill (h : t.same u = true) (around : Surrounding) :
    (around.fill t).same (around.fill u) = true := by
  induction around with
  | hole => exact h
  | arg outer before inside behind ih =>
    rw [same_iff] at ih ⊢
    simp only [Surrounding.fill, aliased, aliasedAll_eq_map, List.map_append, List.map_cons, ih]

theorem classify_of_same (h : t.same u = true) : classify t = classify u := by
  obtain ⟨name, module, args, nullable, localName⟩ := t
  obtain ⟨name', module', args', nullable', localName'⟩ := u
  rw [same_iff, aliased, aliased, mk.injEq, aliasedAll_eq_map, aliasedAll_eq_map] at h
  obtain ⟨rfl, rfl, hargs, -, -⟩ := h
  have hempty : args.isEmpty = args'.isEmpty := by
    rw [← List.isEmpty_map (f := aliased []), hargs, List.isEmpty_map]
  unfold classify
  rw [hempty]
  rfl

theorem same_aliased (aliases : Aliases) (t : TypeName) : (t.aliased aliases).same t = true :=
  (same_iff _ _).mpr (aliased_aliased aliases [] t)

/-! ### types without local names -/

theorem aliased_nil_of_isPlain : ∀ {t : TypeName}, t.IsPlain → t.aliased [] = t
  | ⟨name, module, args, nullable, localName⟩, h => by
    unfold IsPlain at h
    rw [parts, partsAll_eq_flatMap, List.forall_mem_cons] at h
    obtain ⟨hown, hargs⟩ := h
    have hsame : args.map (aliased []) = args := by
      refine (List.map_congr_left fun a ha => ?_).trans (List.map_id args)
      exact aliased_nil_of_isPlain fun part hpart =>
        hargs part (List.mem_flatMap.mpr ⟨a, ha, hpart⟩)
    rw [aliased, aliasedAll_eq_map, hsame, List.lookup_nil]
    exact congrArg (mk name module args nullable) hown.symm

end TypeName

/-! ### tokens -/

/-- a token of the text of a type: a mark, or the name of a type in its module -/
inductive Token where
  | mark (text : String)
  | name (module name : String)
deriving DecidableEq, Repr

namespace Token

/-- what a name is imported by, if its module is one that is imported from -/
def key? : Token → Option (String × String)
  | mark _ => none
  | name module n =>
    if module = builtins ∨ module = TypeName.syntaxModule then none else some (module, beforeDot n)

/-- a token as it is written: a name that is imported under a local name has this in the place of
its first segment -/
def text (aliases : Aliases) : Token → String
  | mark s => s
  | name module n =>
    match (key? (name module n)).bind (aliases.lookup ·) with
    | none => n
    | some l => l ++ fromDot n

end Token

/-- tokens as they are written one behind the other -/
def tokensText (aliases : Aliases) (ts : List Token) : String :=
  String.join (ts.map (Token.text aliases))

/-- lists of tokens with commas between them and brackets around them -/
def bracketed (args : List (List Token)) : List Token :=
  [.mark "["] ++ [.mark ", "].intercalate args ++ [.mark "]"]

section
variable (aliases : Aliases)

theorem tokensText_append (ts us : List Token) :
    tokensText aliases (ts ++ us) = tokensText aliases ts ++ tokensText aliases us := by
  rw [tokensText, List.map_append, String.join_append, tokensText, tokensText]

theorem tokensText_singleton (t : Token) : tokensText aliases [t] = t.text aliases := by
  rw [tokensText, List.map_singleton, String.join_cons, String.join_nil, String.append_empty]

/-- tokens with a mark between each two are written like texts with a separator -/
theorem tokensText_intercalate (sep : String) (args : List (List Token)) :
    tokensText aliases ([.mark sep].intercalate args)
      = joined sep (args.map (tokensText aliases)) := by
  match args with
  | [] => rfl
  | [ts] => rw [List.intercalate_singleton, List.map_singleton, joined_singleton]
  | ts :: us :: rest =>
    rw [List.intercalate_cons_cons, tokensText_append, tokensText_append, tokensText_singleton,
      tokensText_intercalate sep (us :: rest), List.map_cons, List.map_cons, List.map_cons,
      joined_cons_cons]
    rfl

theorem tokensText_bracketed (args : List (List Token)) :
    tokensText aliases (bracketed args)
      = "[" ++ joined ", " (args.map (tokensText aliases)) ++ "]" := by
  rw [bracketed, tokensText_append, tokensText_append, tokensText_singleton, tokensText_singleton,
    tokensText_intercalate]
  rfl

end

namespace TypeName

/-- the tokens of a type in front of its `None`, given those of its arguments -/
def tokensOf (t : TypeName) (args : List (List Token)) : List Token :=
  if t.isParameterList then bracketed args
  else if t.isUnion then [.mark " | "].intercalate args
  else if args.isEmpty then [.name t.module t.name]
  else .name t.module t.name :: bracketed args

mutual

/-- the text of a type taken apart, without its local names -/
def tokens : TypeName → List Token
  | ⟨name, module, args, nullable, localName⟩ =>
    tokensOf ⟨name, module, args, nullable, localName⟩ (tokensAll args)
      ++ if nullable then [.mark " | None"] else []

def tokensAll : List TypeName → List (List Token)
  | [] => []
  | t :: ts => tokens t :: tokensAll ts

end

theorem tokensAll_eq_map (ts : List TypeName) : tokensAll ts = ts.map tokens := by
  induction ts with
  | nil => rw [tokensAll, List.map_nil]
  | cons t ts ih => rw [tokensAll, ih, List.map_cons]

/-! ### the text of a type under local names -/

end TypeName

/-- a table of local names for what is imported, and so for no name that needs no import -/
def Aliases.Importable (aliases : Aliases) : Prop :=
  ∀ entry ∈ aliases, entry.1.1 ≠ builtins ∧ entry.1.1 ≠ TypeName.syntaxModule

theorem Aliases.importable_nil : Aliases.Importable [] := nofun

theorem Aliases.Importable.lookup_eq_none {aliases : Aliases} (h : aliases.Importable)
    {module root : String} (hmodule : module = builtins ∨ module = TypeName.syntaxModule) :
    aliases.lookup (module, root) = none := by
  rw [List.lookup_eq_none_iff]
  intro entry hentry
  obtain ⟨hbuiltins, hsyntax⟩ := h entry hentry
  refine bne_iff_ne.mpr fun heq => ?_
  rw [← heq] at hbuiltins hsyntax
  exact hmodule.elim hbuiltins hsyntax

namespace TypeName
variable {aliases : Aliases}

theorem writtenName_aliased (h : aliases.Importable) (t : TypeName) :
    (t.aliased aliases).writtenName = (Token.name t.module t.name).text aliases := by
  obtain ⟨name, module, args, nullable, localName⟩ := t
  rw [aliased, writtenName, Token.text, Token.key?]
  by_cases hmodule : module = builtins ∨ module = syntaxModule
  · rw [if_pos hmodule, h.lookup_eq_none hmodule, Option.bind_none]
  · rw [if_neg hmodule]
    rfl

theorem compose_aliased (h : aliases.Importable) (t : TypeName) (args : List (List Token)) :
    compose (t.aliased aliases) (args.map (tokensText aliases))
      = tokensText aliases (tokensOf t args) := by
  have hname := writtenName_aliased h t
  have hlist : (t.aliased aliases).isParameterList = t.isParameterList := by
    cases t
    rw [aliased]
    rfl
  have hunion : (t.aliased aliases).isUnion = t.isUnion := by
    cases t
    rw [aliased]
    rfl
  unfold compose tokensOf
  rw [hlist, hunion, hname, List.isEmpty_map]
  split
  next => rw [tokensText_bracketed]
  split
  next => rw [tokensText_intercalate]
  split
  next => rw [tokensText_singleton]
  next =>
    rw [← List.singleton_append, tokensText_append, tokensText_singleton, tokensText_bracketed,
      ← String.append_assoc, ← String.append_assoc]

/-- a type under local names is written token by token -/
theorem render_aliased (h : aliases.Importable) (t : TypeName) :
    (t.aliased aliases).render = tokensText aliases t.tokens := by
  obtain ⟨name, module, args, nullable, localName⟩ := t
  have hargs : (args.map (aliased aliases)).map render
      = (args.map tokens).map (tokensText aliases) := by
    rw [List.map_map, List.map_map]
    exact List.map_congr_left fun a _ => render_aliased h a
  have hcompose := compose_aliased h ⟨name, module, args, nullable, localName⟩ (args.map tokens)
  rw [aliased, aliasedAll_eq_map] at hcompose ⊢
  rw [render, renderAll_eq_map, hargs, hcompose, tokens, tokensAll_eq_map, tokensText_append]
  cases nullable with
  | true => rw [if_pos rfl, if_pos rfl, tokensText_singleton, Token.text]
  | false => rfl

/-! ### the names among the tokens -/

theorem filterMap_key?_intercalate (sep : String) (args : List (List Token)) :
    ([Token.mark sep].intercalate args).filterMap Token.key?
      = args.flatMap (List.filterMap Token.key?) := by
  match args with
  | [] => rfl
  | [ts] => rw [List.intercalate_singleton, List.flatMap_singleton]
  | ts :: us :: rest =>
    rw [List.intercalate_cons_cons, List.filterMap_append, List.filterMap_append,
      filterMap_key?_intercalate sep (us :: rest), List.flatMap_cons, List.flatMap_cons,
      List.flatMap_cons]
    show ts.filterMap Token.key? ++ [] ++ _ = _
    rw [List.append_nil]

theorem filterMap_key?_bracketed (args : List (List Token)) :
    (bracketed args).filterMap Token.key? = args.flatMap (List.filterMap Token.key?) := by
  rw [bracketed, List.filterMap_append, List.filterMap_append, filterMap_key?_intercalate]
  exact List.append_nil _

/-- the name of a type that is no union is imported if the type is -/
theorem toList_key? {t : TypeName} (hunion : t.isUnion = false) :
    (Token.name t.module t.name).key?.toList
      = if t.isImportable then [t.ownImport.key] else [] := by
  unfold isImportable
  rw [Token.key?, hunion, Bool.or_false]
  by_cases hmodule : t.module = builtins ∨ t.module = syntaxModule
  · rw [if_pos hmodule, if_neg]
    · rfl
    · rcases hmodule with hmodule | hmodule <;> simp [hmodule]
  · rw [if_neg hmodule, if_pos]
    · rfl
    · rw [not_or] at hmodule
      simp [hmodule]

theorem filterMap_key?_tokensOf (t : TypeName) (args : List (List Token)) :
    (tokensOf t args).filterMap Token.key?
      = (if t.isImportable then [t.ownImport.key] else [])
        ++ args.flatMap (List.filterMap Token.key?) := by
  unfold tokensOf
  split
  next hlist =>
    have himportable : t.isImportable = false := by
      unfold isParameterList at hlist
      unfold isImportable
      simp_all
    rw [filterMap_key?_bracketed, himportable]
    rfl
  split
  next hunion =>
    have himportable : t.isImportable = false := by
      unfold isImportable
      rw [hunion, Bool.or_true]
      rfl
    rw [filterMap_key?_intercalate, himportable]
    rfl
  next hunion =>
    rw [← toList_key? (Bool.eq_false_iff.mpr hunion)]
    split
    next hempty =>
      rw [List.isEmpty_iff.mp hempty, List.filterMap_cons, List.filterMap_nil, List.flatMap_nil]
      cases (Token.name t.module t.name).key? <;> rfl
    next =>
      rw [List.filterMap_cons, filterMap_key?_bracketed]
      cases (Token.name t.module t.name).key? <;> rfl

/-- the names in a type that are imported are its imports, in their order -/
theorem filterMap_key?_tokens (t : TypeName) : t.tokens.filterMap Token.key? = t.keys := by
  obtain ⟨name, module, args, nullable, localName⟩ := t
  have hargs : (args.map tokens).flatMap (List.filterMap Token.key?) = args.flatMap keys := by
    rw [List.flatMap_map]
    exact List.flatMap_congr fun a _ => filterMap_key?_tokens a
  have hnone : (if nullable then [Token.mark " | None"] else []).filterMap Token.key? = [] := by
    cases nullable <;> rfl
  rw [tokens, tokensAll_eq_map, List.filterMap_append, filterMap_key?_tokensOf, hargs, hnone,
    List.append_nil, keys, imported, parts, partsAll_eq_flatMap, List.filter_cons]
  have hrest : ((args.flatMap parts).filter isImportable).map (Import.key ∘ ownImport)
      = args.flatMap keys := by
    rw [List.filter_flatMap, List.map_flatMap]
    refine List.flatMap_congr fun a _ => ?_
    rw [keys, imported, List.map_map]
  split
  next => rw [List.map_cons, List.map_cons, List.map_map, hrest, List.singleton_append]
  next => rw [List.map_map, hrest, List.nil_append]

/-! ### what local names change -/

/-- All that a table of local names does to a type. -/
structure RenamesOnly (aliases : Aliases) (t : TypeName) : Prop where
  same : ∀ around : Surrounding, (around.fill (t.aliased aliases)).same (around.fill t) = true
  operations : ∀ around : Surrounding,
    classify (around.fill (t.aliased aliases)) = classify (around.fill t)
  declared : (t.aliased aliases).declared = t.declared
  /-- Of two tables only the last one counts. -/
  last : ∀ others : Aliases,
    ((t.aliased others).aliased aliases).render = (t.aliased aliases).render ∧
    ((t.aliased others).aliased aliases).imports = (t.aliased aliases).imports
  imports : t.IsPlain → (t.aliased aliases).imports = t.imports.map fun key =>
    match aliases.lookup key with
    | none => key
    | some l => (key.1, key.2 ++ " as " ++ l)
  /-- The names that are imported are what stands for the imports in the text of a type. -/
  names : t.IsPlain → t.tokens.filterMap Token.key? = t.imports
  plain : t.IsPlain → t.render = tokensText [] t.tokens
  written : (t.aliased aliases).render = tokensText aliases t.tokens

theorem imports_aliased {t : TypeName} (h : t.IsPlain) (aliases : Aliases) :
    (t.aliased aliases).imports = t.imports.map fun key =>
      match aliases.lookup key with
      | none => key
      | some l => (key.1, key.2 ++ " as " ++ l) := by
  rw [imports_of_isPlain h, imports, imported_aliased, List.map_map]
  refine List.map_congr_left fun key _ => ?_
  show (aliases.importOf key).entry = _
  unfold Aliases.importOf Import.entry
  cases aliases.lookup key <;> rfl

/-- Local names for what is imported rename a type and change nothing else about it: it is the same
type everywhere, its imports get the local names that the table has for them, and in its text these
stand for the first segments of just the names that are imported so. -/
theorem renamesOnly_aliased (h : aliases.Importable) (t : TypeName) : RenamesOnly aliases t where
  same around := same_fill (same_aliased aliases t) around
  operations around := classify_of_same (same_fill (same_aliased aliases t) around)
  declared := declared_aliased aliases t
  last others := by rw [aliased_aliased]; exact ⟨rfl, rfl⟩
  imports hplain := imports_aliased hplain aliases
  names hplain := by rw [filterMap_key?_tokens, imports_of_isPlain hplain]
  plain hplain := by
    have hrender := render_aliased Aliases.importable_nil t
    rwa [aliased_nil_of_isPlain hplain] at hrender
  written := render_aliased h t

/-- a function of a nested class and of another class of the same name -/
def nestedCallable : TypeName :=
  .callable [{ name := "User.Id", module := "app" }]
    { name := "dict", args := [.str, { name := "User", module := "other", nullable := true }] }

/-- The local name stands for the first segment of the nested class, and for nothing else. -/
theorem renamesOnly_nested :
    let aliases : Aliases := [(("app", "User"), "User_")]
    aliases.Importable ∧ nestedCallable.IsPlain ∧ RenamesOnly aliases nestedCallable ∧
      nestedCallable.render = "Callable[[User.Id], dict[str, User | None]]" ∧
      (nestedCallable.aliased aliases).render = "Callable[[User_.Id], dict[str, User | None]]" := by
  intro aliases
  have himportable : aliases.Importable := List.forall_mem_singleton.mpr (by decide)
  have hplain : ∀ part ∈ nestedCallable.parts, part.localName = none := by decide
  exact ⟨himportable, hplain, renamesOnly_aliased himportable nestedCallable, by decide +kernel,
    by decide +kernel⟩

end TypeName
end RowMapping
