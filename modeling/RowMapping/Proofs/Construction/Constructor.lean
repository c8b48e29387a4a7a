import RowMapping.ClassTable.Namespace
import RowMapping.Proofs.Construction.DataFields
import RowMapping.Proofs.Correspondence

/-!
# The constructor of a class

`HasConstructor` says which parameters a class is called with: those that a dataclass has for its
fields, those of the constructor that the search from another class finds, or those of the
constructor that every class has.

* `constructor?_of_initMember?`  the constructor that the properties are read from is the one that
  the class is called with;
* `map_name_dataProperties`, `map_name_plainProperties`  the properties have the names of the fields,
  in their order.
-/

namespace RowMapping

namespace ClassTable

/-- what the search from a class finds as its constructor, those of dataclasses among it -/
def initMember? (t : ClassTable) (cls : ClassRef) : Option Member :=
  (((t.ancestry cls).flatMap t.attributes).find? (·.name = "__init__")).map (·.member)

/-- The parameters that a class is called with.  The fields of a dataclass are those of the
constructor that it has for them, unless one stands before it in the search. -/
inductive HasConstructor (t : ClassTable) (cls : ClassRef) : List Param → Prop
  | generated {fields : List DataField} :
    t.dataFields? cls = some fields →
    t.initMember? cls = some (.instance (generatedConstructor fields)) →
    HasConstructor t cls (constructorParams fields)
  | written {f : FunctionInfo} :
    t.dataFields? cls = none → t.initMember? cls = some (.instance f) →
    f.declaresReceiver = true → (f.params.map (·.name)).Nodup → (∀ p ∈ f.params, p.name ≠ "self") →
    HasConstructor t cls f.params
  | inherited :
    t.dataFields? cls = none → t.initMember? cls = none → HasConstructor t cls anyParams

variable {t : ClassTable} {cls : ClassRef}

/-! ### the constructor that is found -/

/-- the function of an attribute that is a constructor -/
def constructorOf? (a : Attribute) : Option FunctionInfo :=
  if a.name = "__init__" then
    match a.member with
    | .instance f | .static f | .ofClass f => some f
    | _ => none
  else none

theorem constructor?_eq (t : ClassTable) (cls : ClassRef) :
    t.constructor? cls = ((t.ancestry cls).flatMap (·.attributes)).findSome? constructorOf? := rfl

theorem find?_map_stored (as : List Attribute) :
    (as.map (·.stored)).find? (·.name = "__init__") = as.find? (·.name = "__init__") := by
  induction as with
  | nil => rfl
  | cons a as ih =>
    rw [List.map_cons, List.find?_cons, List.find?_cons, ih, Attribute.name_stored]
    cases hname : decide (a.name = "__init__") with
    | false => rfl
    | true => rw [Attribute.stored_of_init (of_decide_eq_true hname)]

theorem name_ne_init_of_implicit {i : ClassInfo} {a : Attribute} (h : a ∈ i.implicitAttributes) :
    a.name ≠ "__init__" := by
  have hnames : a.name ∈ ["__module__", "__doc__", "__dict__", "__weakref__", "__annotations__",
      "__hash__"] := by
    unfold ClassInfo.implicitAttributes at h
    simp only [List.mem_append, List.mem_ite_nil_right, List.mem_ite_nil_left, List.mem_cons,
      List.not_mem_nil, or_false] at h
    obtain (((rfl | rfl) | ⟨-, rfl | rfl⟩) | ⟨-, rfl⟩) | ⟨-, rfl⟩ := h <;> decide
  intro hname
  rw [hname] at hnames
  revert hnames
  decide

/-- a class that is no dataclass has the constructor of its body, if there is one -/
theorem find?_attributes {i : ClassInfo} (h : i.kind ≠ .dataclass) :
    (t.attributes i).find? (·.name = "__init__") = i.attributes.find? (·.name = "__init__") := by
  have hnone : (i.implicitAttributes.filter fun a =>
      !(i.attributes.map (·.stored)).any (·.name = a.name)).find? (·.name = "__init__") = none := by
    rw [List.find?_eq_none]
    intro a ha
    simpa using name_ne_init_of_implicit (List.mem_filter.mp ha).1
  unfold attributes withOthers
  rw [if_neg h, List.find?_append, find?_map_stored, hnone, Option.or_none]

theorem initMember?_eq (h : t.dataFields? cls = none) : t.initMember? cls
    = (((t.ancestry cls).flatMap (·.attributes)).find? (·.name = "__init__")).map (·.member) := by
  have hsame : (t.ancestry cls).map (fun i => (t.attributes i).find? (·.name = "__init__"))
      = (t.ancestry cls).map fun i => i.attributes.find? (·.name = "__init__") :=
    List.map_congr_left fun i hi => find?_attributes (kind_ne_dataclass h i hi)
  have hmapped (f : ClassInfo → Option Attribute) :
      (t.ancestry cls).findSome? f = ((t.ancestry cls).map f).findSome? id := by
    rw [List.findSome?_map]
    rfl
  unfold initMember?
  rw [List.find?_flatMap, List.find?_flatMap, hmapped, hsame, ← hmapped]

theorem findSome?_constructorOf? {as : List Attribute} {f : FunctionInfo}
    (h : (as.find? (·.name = "__init__")).map (·.member) = some (.instance f)) :
    as.findSome? constructorOf? = some f := by
  induction as with
  | nil => cases h
  | cons a as ih =>
    rw [List.findSome?_cons, constructorOf?]
    by_cases hname : a.name = "__init__"
    · rw [List.find?_cons_of_pos (by simpa using hname)] at h
      have hmember : a.member = .instance f := Option.some.inj h
      rw [if_pos hname, hmember]
    · rw [List.find?_cons_of_neg (by simpa using hname)] at h
      rw [if_neg hname]
      exact ih h

/-- The constructor that the properties are read from is the one that the class is called with. -/
theorem constructor?_of_initMember? {f : FunctionInfo} (hplain : t.dataFields? cls = none)
    (h : t.initMember? cls = some (.instance f)) : t.constructor? cls = some f := by
  rw [initMember?_eq hplain] at h
  rw [constructor?_eq]
  exact findSome?_constructorOf? h

theorem constructor?_eq_none (hplain : t.dataFields? cls = none) (h : t.initMember? cls = none) :
    t.constructor? cls = none := by
  rw [initMember?_eq hplain, Option.map_eq_none_iff, List.find?_eq_none] at h
  rw [constructor?_eq, List.findSome?_eq_none_iff]
  intro a ha
  unfold constructorOf?
  rw [if_neg (by simpa using h a ha)]

/-! ### names or positions -/

theorem constructsByKeyword_of_some {fields : List DataField} (hmodel : t.isPydantic cls = false)
    (hfields : t.dataFields? cls = some fields) :
    t.constructsByKeyword cls = (fields.filter isOwnField).any (·.keywordOnly) := by
  unfold constructsByKeyword
  rw [hmodel, hfields]
  rfl

theorem constructsByKeyword_of_none (hmodel : t.isPydantic cls = false)
    (hfields : t.dataFields? cls = none) :
    t.constructsByKeyword cls = (t.constructor? cls).any fun f =>
      !f.brokenSignature && f.params.any (·.kind == .keyword) := by
  unfold constructsByKeyword
  rw [hmodel, hfields]
  rfl

/-! ### the names of properties -/

theorem name_of_propertyOf {d : Declaration} {p : Property} (h : propertyOf cls d = .ok p) :
    p.name = d.name := by
  unfold propertyOf Property.ofDeclaration at h
  split at h
  split at h
  · cases h
  · rw [Property.converted] at h
    split at h
    · cases h
      rfl
    · cases h

theorem name_of_paramDeclaration {p : Param} {d : Declaration}
    (h : paramDeclaration cls p = .ok d) : d.name = p.name := by
  unfold paramDeclaration at h
  split at h
  · cases h
    rfl
  · cases h

/-- the properties of a class are those of its declarations, in their order -/
theorem exists_declarations {ps : List Property} (h : t.properties cls = .ok ps) :
    ∃ ds, t.declarations cls = .ok ds ∧ ps.map (·.name) = ds.map (·.name) := by
  unfold properties at h
  cases hds : t.declarations cls with
  | error e => rw [hds] at h; cases h
  | ok ds =>
    rw [hds] at h
    exact ⟨ds, rfl, map_eq_of_forall₂ (fun _ _ => name_of_propertyOf) (forall₂_of_mapM_eq_ok h)⟩

theorem map_name_dataProperties {ps : List Property} {fields : List DataField}
    (hmodel : t.isPydantic cls = false) (hfields : t.dataFields? cls = some fields)
    (h : t.properties cls = .ok ps) :
    ps.map (·.name) = (fields.filter isOwnField).map (·.field.name) := by
  obtain ⟨ds, hds, hnames⟩ := exists_declarations h
  unfold declarations at hds
  rw [hmodel, hfields] at hds
  replace hds : t.dataDeclarations cls fields = .ok ds := hds
  unfold dataDeclarations at hds
  cases hcheck : checkNames cls (((t.ancestry cls).reverse.flatMap (·.fields)).map (·.hint)) with
  | error e => rw [hcheck] at hds; cases hds
  | ok _ =>
    rw [hcheck] at hds
    cases hds
    rw [hnames, List.map_map]
    rfl

/-- The properties of another class have the names of the parameters of its constructor, which has
a signature that can be read. -/
theorem map_name_plainProperties {ps : List Property} {f : FunctionInfo}
    (hmodel : t.isPydantic cls = false) (hfields : t.dataFields? cls = none)
    (hf : t.constructor? cls = some f) (h : t.properties cls = .ok ps) :
    f.brokenSignature = false ∧ ps.map (·.name) = (f.params.filter isFieldParam).map (·.name) := by
  obtain ⟨ds, hds, hnames⟩ := exists_declarations h
  unfold declarations at hds
  rw [hmodel, hfields] at hds
  replace hds : t.plainDeclarations cls = .ok ds := hds
  unfold plainDeclarations at hds
  rw [hf] at hds
  cases hcheck : checkNames cls (f.params.filterMap (·.hint) ++ f.returns.toList) with
  | error e => simp only [hcheck] at hds; cases hds
  | ok _ =>
    simp only [hcheck] at hds
    cases hbroken : f.brokenSignature with
    | true => rw [hbroken] at hds; cases hds
    | false =>
      rw [hbroken] at hds
      refine ⟨rfl, hnames.trans ?_⟩
      exact map_eq_of_forall₂ (fun _ _ => name_of_paramDeclaration) (forall₂_of_mapM_eq_ok hds)

theorem properties_eq_nil {ps : List Property} (hmodel : t.isPydantic cls = false)
    (hfields : t.dataFields? cls = none) (hf : t.constructor? cls = none)
    (h : t.properties cls = .ok ps) : ps = [] := by
  obtain ⟨ds, hds, hnames⟩ := exists_declarations h
  unfold declarations at hds
  rw [hmodel, hfields] at hds
  replace hds : t.plainDeclarations cls = .ok ds := hds
  unfold plainDeclarations at hds
  rw [hf] at hds
  cases hds
  exact List.map_eq_nil_iff.mp hnames

end ClassTable
end RowMapping
