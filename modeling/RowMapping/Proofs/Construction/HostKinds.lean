import RowMapping.Proofs.Construction.Constructor
import RowMapping.Proofs.Construction.Markers
import RowMapping.Proofs.Construction.OwnFields

/-!
# The same fields in classes of different kinds

A dataclass and a pydantic model declare fields in their bodies, any other class as parameters of
its constructor.  A pydantic model hands out the outermost markers of a hint apart from it, and the
others leave them where they are.

* `properties_of_dataclass`, `properties_of_model`, `properties_of_plain`  the properties of a class
  of each kind are those that the names and hints of its fields give;
* `properties_agree`  so they are the same for the three kinds, and two markers that conflict are
  the same error.
-/

namespace RowMapping

/-- names and hints of fields, in their order -/
abbrev Declared := List (String × Hint)

/-- Fields of different names that every kind of class takes: their hints can be looked up and
named, and are those of fields. -/
structure Declared.Sound (fs : Declared) : Prop where
  nodup : (fs.map (·.1)).Nodup
  not_private : ∀ f ∈ fs, f.1.toList.head? ≠ some '_'
  not_self : ∀ f ∈ fs, f.1 ≠ "self"
  resolved : ∀ f ∈ fs, f.2.dangling? = none
  nameable : ∀ f ∈ fs, f.2.Nameable
  not_classVar : ∀ f ∈ fs, f.2.isClassVar = false
  not_initVar : ∀ f ∈ fs, f.2.isInitVar = false

/-- the properties that names and hints give in a class of a qualified name -/
def Declared.properties (fs : Declared) (owner : String) : Except Failure (List Property) :=
  fs.mapM fun f => Property.ofDeclaration owner f.1 f.2 []

namespace ClassInfo

def declared (i : ClassInfo) : Declared := i.fields.map fun f => (f.name, f.hint)

/-- a dataclass with these fields, all of which its constructor takes -/
structure IsDataclass (i : ClassInfo) (fs : Declared) : Prop where
  kind : i.kind = .dataclass
  declared : i.declared = fs
  taken : ∀ f ∈ i.fields, f.isInit = true

/-- a pydantic model with these fields -/
structure IsModel (i : ClassInfo) (fs : Declared) : Prop where
  kind : i.kind = .pydantic
  declared : i.declared = fs

/-- another class, whose constructor takes parameters of these names and hints -/
structure IsPlain (i : ClassInfo) (fs : Declared) (f : FunctionInfo) : Prop where
  kind : i.kind = .plain
  constructor : i.attributes.find? (·.name = "__init__") = some ⟨"__init__", .instance f⟩
  readable : f.brokenSignature = false
  returns : ∀ h ∈ f.returns, h.dangling? = none
  params : f.params.map (fun p => (p.name, p.hint)) = fs.map fun f => (f.1, some f.2)
  not_variadic : ∀ p ∈ f.params, p.isVariadic = false

end ClassInfo

theorem ClassInfo.IsPlain.forall₂_params {i : ClassInfo} {fs : Declared} {f : FunctionInfo}
    (h : i.IsPlain fs f) :
    List.Forall₂ (fun p field => p.name = field.1 ∧ p.hint = some field.2) f.params fs := by
  have hsame : List.Forall₂ (· = ·) (f.params.map fun p => (p.name, p.hint))
      (fs.map fun f => (f.1, some f.2)) := by
    rw [h.params]
    exact List.forall₂_same.mpr fun _ _ => rfl
  rw [List.forall₂_map_left_iff, List.forall₂_map_right_iff] at hsame
  exact hsame.imp fun p field heq => ⟨congrArg Prod.fst heq, congrArg Prod.snd heq⟩

/-! ### declarations -/

theorem danglingAll?_eq_none {hs : List Hint} (h : ∀ k ∈ hs, k.dangling? = none) :
    Hint.danglingAll? hs = none := by
  induction hs with
  | nil => rfl
  | cons k hs ih =>
    obtain ⟨hk, hhs⟩ := List.forall_mem_cons.mp h
    rw [Hint.danglingAll?, hk, ih hhs, Option.none_or]

namespace Property
variable {owner name : String} {hint : Hint}

/-- a hint that can be named gives a property, or its markers conflict -/
theorem ofDeclaration_of_nameable (hname : hint.Nameable) (markers : List Marker) :
    (∃ p, ofDeclaration owner name hint markers = .ok p) ∨
      ofDeclaration owner name hint markers = .error (.conflict name (siteOf owner name)) := by
  have htype := Hint.ofHint_eq (Hint.nameable_split hname)
  unfold ofDeclaration
  simp only [htype]
  unfold converted
  cases Conversion.ofClasses (markedAdapter (hint.split.2 ++ markers))
      (markedFactory (hint.split.2 ++ markers)) with
  | some c => exact .inl ⟨_, rfl⟩
  | none => exact .inr rfl

end Property

namespace ClassTable
variable {t : ClassTable} {i : ClassInfo} {fs : Declared}

theorem propertyOf_of_nameable {d : Declaration} (hname : d.hint.Nameable) (cls : ClassRef) :
    propertyOf cls d
      = Property.ofDeclaration (TypeName.ofClass cls).qualifiedName d.name d.hint d.markers := by
  unfold propertyOf
  rcases Property.ofDeclaration_of_nameable hname d.markers with ⟨p, hp⟩ | hconflict
  · rw [hp]
    rfl
  · rw [hconflict]
    rfl

theorem propertyOf_modelDeclaration {name : String} {hint : Hint} (hname : hint.Nameable)
    (cls : ClassRef) :
    propertyOf cls (modelDeclaration name hint)
      = Property.ofDeclaration (TypeName.ofClass cls).qualifiedName name hint [] := by
  have hnamed : hint.named = hint := Hint.named_of_nameable hname
  unfold modelDeclaration
  rw [hnamed]
  cases hint with
  | annotated inner markers =>
    rw [Property.ofDeclaration_annotated, List.append_nil]
    exact propertyOf_of_nameable (Hint.nameable_annotated_iff.mp hname) cls
  | _ => exact propertyOf_of_nameable hname cls

theorem checkNames_of_resolved {hints : List Hint} (h : ∀ k ∈ hints, k.dangling? = none)
    (cls : ClassRef) : checkNames cls hints = .ok () := by
  unfold checkNames
  rw [danglingAll?_eq_none h]

theorem properties_of_declarations (declare : String → Hint → Declaration) (hfs : fs.Sound)
    (hds : t.declarations i.ref = .ok (fs.map fun f => declare f.1 f.2))
    (hdeclare : ∀ name hint, hint.Nameable → propertyOf i.ref (declare name hint)
      = Property.ofDeclaration (TypeName.ofClass i.ref).qualifiedName name hint []) :
    t.properties i.ref = fs.properties (TypeName.ofClass i.ref).qualifiedName := by
  have hmap : t.properties i.ref
      = (fs.map fun f => declare f.1 f.2).mapM (propertyOf i.ref) := by
    unfold properties
    rw [hds]
    rfl
  rw [hmap, Declared.properties]
  refine mapM_congr_of_forall₂ ?_
  rw [List.forall₂_map_left_iff, List.forall₂_same]
  exact fun f hf => hdeclare f.1 f.2 (hfs.nameable f hf)

/-! ### dataclasses and models -/

theorem isPydantic_eq (h : StandsAlone t i) : t.isPydantic i.ref = (i.kind == .pydantic) := by
  rw [isPydantic, h.ancestry_eq, List.any_cons, List.any_nil, Bool.or_false]

theorem nodup_fields (hfs : i.declared.Sound) : (i.fields.map (·.name)).Nodup := by
  have hnodup := hfs.nodup
  rwa [ClassInfo.declared, List.map_map] at hnodup

theorem hintOf_eq (h : StandsAlone t i) (hnames : (i.fields.map (·.name)).Nodup) {f : DataField}
    (hf : f.field ∈ i.fields) : t.hintOf i.ref f = f.field.hint := by
  unfold hintOf
  rw [h.hintedFields_eq hnames]
  cases hfind : i.fields.find? (·.name = f.field.name) with
  | none => rfl
  | some g =>
    have hname : g.name = f.field.name := by simpa using List.find?_some hfind
    have hsame : g = f.field :=
      List.inj_on_of_nodup_map hnames (List.mem_of_find?_eq_some hfind) hf hname
    rw [hsame]
    rfl

theorem properties_of_dataclass (h : StandsAlone t i) (hi : i.IsDataclass fs) (hfs : fs.Sound) :
    t.properties i.ref = fs.properties (TypeName.ofClass i.ref).qualifiedName := by
  obtain rfl := hi.declared
  have hnames := nodup_fields hfs
  have hmodel : t.isPydantic i.ref = false := by
    rw [isPydantic_eq h, hi.kind]
    rfl
  have hchecked : checkNames i.ref (i.fields.map (·.hint)) = .ok () := by
    refine checkNames_of_resolved (List.forall_mem_map.mpr fun f hf => ?_) i.ref
    exact hfs.resolved (f.name, f.hint) (List.mem_map_of_mem hf)
  have hown : i.ownFields.filter isOwnField = i.ownFields := by
    refine List.filter_eq_self.mpr (List.forall_mem_map.mpr fun f hf => ?_)
    have hclassVar : f.hint.isClassVar = false :=
      hfs.not_classVar (f.name, f.hint) (List.mem_map_of_mem hf)
    have hinitVar : f.hint.isInitVar = false :=
      hfs.not_initVar (f.name, f.hint) (List.mem_map_of_mem hf)
    rw [isOwnField, hi.taken f hf, hclassVar, hinitVar]
    rfl
  have hds : t.declarations i.ref
      = .ok (i.declared.map fun f => { name := f.1, hint := f.2 }) := by
    unfold declarations
    rw [hmodel, h.dataFields?_eq hi.kind hnames]
    show t.dataDeclarations i.ref i.ownFields = _
    unfold dataDeclarations
    rw [h.ancestry_eq, List.reverse_singleton, List.flatMap_singleton, hchecked, hown,
      ClassInfo.ownFields, ClassInfo.declared, List.map_map, List.map_map]
    refine congrArg Except.ok (List.map_congr_left fun f hf => ?_)
    have hhint : t.hintOf i.ref ⟨f, f.keywordOnly.getD i.keywordOnly⟩ = f.hint :=
      hintOf_eq h hnames hf
    simp only [Function.comp_apply, hhint]
  exact properties_of_declarations (fun name hint => { name := name, hint := hint }) hfs hds
    fun _ _ hname => propertyOf_of_nameable hname i.ref

theorem properties_of_model (h : StandsAlone t i) (hi : i.IsModel fs) (hfs : fs.Sound) :
    t.properties i.ref = fs.properties (TypeName.ofClass i.ref).qualifiedName := by
  obtain rfl := hi.declared
  have hmodel : t.isPydantic i.ref = true := by
    rw [isPydantic_eq h, hi.kind]
    rfl
  have hfields : i.fields.filter isModelField = i.fields := by
    refine List.filter_eq_self.mpr fun f hf => ?_
    have hclassVar : f.hint.isClassVar = false :=
      hfs.not_classVar (f.name, f.hint) (List.mem_map_of_mem hf)
    have hprivate : f.name.toList.head? ≠ some '_' :=
      hfs.not_private (f.name, f.hint) (List.mem_map_of_mem hf)
    rw [isModelField, hclassVar, bne_iff_ne.mpr hprivate]
    rfl
  have hds : t.declarations i.ref
      = .ok (i.declared.map fun f => modelDeclaration f.1 f.2) := by
    unfold declarations
    rw [hmodel, if_pos rfl, modelDeclarations, h.hintedFields_eq (nodup_fields hfs), hfields,
      ClassInfo.declared, List.map_map]
    rfl
  exact properties_of_declarations modelDeclaration hfs hds
    fun _ _ hname => propertyOf_modelDeclaration hname i.ref

/-! ### plain classes -/

theorem properties_of_plain {f : FunctionInfo} (h : StandsAlone t i) (hi : i.IsPlain fs f)
    (hfs : fs.Sound) :
    t.properties i.ref = fs.properties (TypeName.ofClass i.ref).qualifiedName := by
  have hmodel : t.isPydantic i.ref = false := by
    rw [isPydantic_eq h, hi.kind]
    rfl
  have hplain : t.dataFields? i.ref = none := by
    refine h.dataFields?_eq_none ?_
    rw [hi.kind]
    exact nofun
  have hconstructor : t.constructor? i.ref = some f := by
    rw [constructor?_eq, h.ancestry_eq, List.flatMap_singleton]
    exact findSome?_constructorOf? (congrArg (Option.map (·.member)) hi.constructor)
  have hparams := hi.forall₂_params
  have hchecked : checkNames i.ref (f.params.filterMap (·.hint) ++ f.returns.toList) = .ok () := by
    refine checkNames_of_resolved (fun hint hmem => ?_) i.ref
    rcases List.mem_append.mp hmem with hmem | hmem
    · obtain ⟨p, hp, hhint⟩ := List.mem_filterMap.mp hmem
      obtain ⟨field, hfield, -, hsome⟩ := exists_right_of_forall₂ hparams hp
      obtain rfl : field.2 = hint := Option.some.inj (hsome.symm.trans hhint)
      exact hfs.resolved field hfield
    · exact hi.returns hint (Option.mem_toList.mp hmem)
  have hfilter : f.params.filter isFieldParam = f.params := by
    refine List.filter_eq_self.mpr fun p hp => ?_
    obtain ⟨field, hfield, hname, -⟩ := exists_right_of_forall₂ hparams hp
    have hself : p.name ≠ "self" := hname ▸ hfs.not_self field hfield
    rw [isFieldParam, decide_eq_true hself, hi.not_variadic p hp]
    rfl
  have htyped : f.params.mapM (paramDeclaration i.ref)
      = fs.mapM fun f => .ok { name := f.1, hint := f.2 } := by
    refine mapM_congr_of_forall₂ (hparams.imp fun p field hp => ?_)
    unfold paramDeclaration
    rw [hp.1, hp.2]
  have hds : t.declarations i.ref
      = .ok (fs.map fun f => { name := f.1, hint := f.2 }) := by
    unfold declarations
    rw [hmodel, hplain]
    show t.plainDeclarations i.ref = _
    unfold plainDeclarations
    rw [hconstructor]
    simp only [hchecked, hi.readable, hfilter, htyped]
    exact List.mapM_pure
  exact properties_of_declarations (fun name hint => { name := name, hint := hint }) hfs hds
    fun _ _ hname => propertyOf_of_nameable hname i.ref

/-! ### the three kinds -/

/-- Fields that can be named give their properties, or one of them has markers that conflict. -/
theorem ok_or_conflict_of_sound (hfs : fs.Sound) (owner : String) :
    (∃ ps, fs.properties owner = .ok ps) ∨
      ∃ f ∈ fs, fs.properties owner = .error (.conflict f.1 (Property.siteOf owner f.1)) := by
  rcases mapM_eq_ok_or_error (fun f => Property.ofDeclaration owner f.1 f.2 []) fs with
    hok | ⟨f, hf, e, herror, hfails⟩
  · exact .inl hok
  · refine .inr ⟨f, hf, ?_⟩
    rcases Property.ofDeclaration_of_nameable (hfs.nameable f hf) [] with ⟨p, hp⟩ | hconflict
    · rw [hp] at herror
      cases herror
    · obtain rfl := Except.error.inj (herror.symm.trans hconflict)
      exact hfails

/-- The same fields give the same properties, or the same conflict, in a dataclass, in a pydantic
model and in a plain class of one qualified name. -/
theorem properties_agree {owner : String} {dataclasses models plains : ClassTable}
    {d m c : ClassInfo} {f : FunctionInfo} (hfs : fs.Sound)
    (hd : StandsAlone dataclasses d) (hm : StandsAlone models m) (hc : StandsAlone plains c)
    (hdataclass : d.IsDataclass fs) (hmodel : m.IsModel fs) (hplain : c.IsPlain fs f)
    (hdOwner : (TypeName.ofClass d.ref).qualifiedName = owner)
    (hmOwner : (TypeName.ofClass m.ref).qualifiedName = owner)
    (hcOwner : (TypeName.ofClass c.ref).qualifiedName = owner) :
    dataclasses.properties d.ref = fs.properties owner ∧
      models.properties m.ref = fs.properties owner ∧
      plains.properties c.ref = fs.properties owner ∧
      ((∃ ps, fs.properties owner = .ok ps) ∨
        ∃ field ∈ fs,
          fs.properties owner = .error (.conflict field.1 (Property.siteOf owner field.1))) := by
  have hdProperties := properties_of_dataclass hd hdataclass hfs
  have hmProperties := properties_of_model hm hmodel hfs
  have hcProperties := properties_of_plain hc hplain hfs
  rw [hdOwner] at hdProperties
  rw [hmOwner] at hmProperties
  rw [hcOwner] at hcProperties
  exact ⟨hdProperties, hmProperties, hcProperties, ok_or_conflict_of_sound hfs owner⟩

/-- three fields with markers at the top, inside an optional, and at both places -/
def noteFields : Declared :=
  let optional (markers : List Marker) : Hint := .union [.annotated Platform.str markers, .none]
  [("id", .annotated Platform.int [.column "note_id"]),
   ("tags", optional [.adapter { name := "Tags", module := "app" }]),
   ("text", .annotated (optional [.column "memo", .other "seen"]) [.column "body"])]

def noteRef : ClassRef := { name := "Note", module := "app" }

theorem sound_noteFields : noteFields.Sound where
  nodup := by decide
  not_private := by decide +kernel
  not_self := by decide
  resolved := by decide
  nameable := by
    intro f hf
    simp only [noteFields, List.mem_cons, List.not_mem_nil, or_false] at hf
    rcases hf with rfl | rfl | rfl <;> exact ⟨_, rfl⟩
  not_classVar := by decide
  not_initVar := by decide

/-- Wherever their markers stand, three fields give the same properties in classes of all kinds. -/
theorem properties_agree_note :
    let dataclass : ClassInfo :=
      { ref := noteRef, kind := .dataclass
        fields := noteFields.map fun f => { name := f.1, hint := f.2 } }
    let model : ClassInfo := { dataclass with kind := .pydantic }
    let init : FunctionInfo :=
      { params := noteFields.map fun f => { name := f.1, hint := some f.2 }, returns := some .none }
    let plain : ClassInfo := { ref := noteRef, attributes := [⟨"__init__", .instance init⟩] }
    noteFields.Sound ∧ ∃ ps, ClassTable.properties [dataclass] noteRef = .ok ps ∧
      ClassTable.properties [model] noteRef = .ok ps ∧
      ClassTable.properties [plain] noteRef = .ok ps ∧
      ps.map (·.column) = ["note_id", "tags", "body"] ∧
      ps.map (·.nullable) = [false, true, true] := by
  intro dataclass model init plain
  have hdataclass : dataclass.IsDataclass noteFields := ⟨rfl, rfl, by decide⟩
  have hmodel : model.IsModel noteFields := ⟨rfl, rfl⟩
  have hplain : plain.IsPlain noteFields init :=
    ⟨rfl, rfl, rfl, by decide, rfl, by decide⟩
  have howner : (TypeName.ofClass noteRef).qualifiedName = "app.Note" := by decide
  obtain ⟨hd, hm, hc, -⟩ := properties_agree sound_noteFields (standsAlone_singleton rfl)
    (standsAlone_singleton rfl) (standsAlone_singleton rfl) hdataclass hmodel hplain
    howner howner howner
  have hok : ((noteFields.properties "app.Note").toOption.any fun ps =>
      ps.map (·.column) = ["note_id", "tags", "body"] ∧
        ps.map (·.nullable) = [false, true, true]) = true := by decide +kernel
  cases hps : noteFields.properties "app.Note" with
  | error e => rw [hps] at hok; cases hok
  | ok ps =>
    rw [hps] at hd hm hc hok
    exact ⟨sound_noteFields, ps, hd, hm, hc, of_decide_eq_true hok⟩

end ClassTable
end RowMapping
