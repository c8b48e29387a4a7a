import RowMapping.ClassTable.Hooks
import RowMapping.Proofs.Construction.Constructor
import RowMapping.Proofs.Unit.Routines

/-!
# Construction calls

A read plan ends with a call of the constructor, which passes the local of every property.  The
call fits the constructor of a class exactly if `TakesProperties` holds:

* the initialisers of a dataclass, which are passed by no call, have defaults, and where the call
  passes positions none of them stands before a property;
* any other constructor that has a parameter for names only has none for positions only.

`construction_fits_iff` says so for all classes whose properties are found and all read plans.
-/

namespace RowMapping
open RowMapping.Text NameSupply

/-- the names of properties with their locals, as a constructor should get them -/
def passedLocals (s : NameSupply) (ps : List Property) : Bound :=
  ps.map fun p => (p.name, s.localOf p)

/-- the arguments that pass values to the parameters of given names -/
def argumentsFor (byKeyword : Bool) (passed : Bound) : List Argument :=
  if byKeyword then namedArguments passed else positionalArguments passed

def ReadPlan.callArguments (plan : ReadPlan) : List Argument := plan.readings.map (·.argument)

theorem ReadPlan.construction_eq (plan : ReadPlan) :
    plan.construction
      = plan.target.render ++ "(" ++ joined ", " (plan.callArguments.map (·.text)) ++ ")" := by
  unfold callArguments
  rw [List.map_map]
  rfl

/-! ### what a plan passes -/

variable {s : NameSupply} {ps : List Property}

theorem map_fst_passedLocals : (passedLocals s ps).map (·.1) = ps.map (·.name) := List.map_map

theorem map_snd_passedLocals : (passedLocals s ps).map (·.2) = ps.map s.localOf := List.map_map

theorem argumentsFor_passedLocals (byKeyword : Bool) :
    argumentsFor byKeyword (passedLocals s ps)
      = ps.map fun p => Mapping.argumentFor byKeyword p (s.localOf p) := by
  cases byKeyword <;> exact List.map_map

/-- a plan passes the locals of the properties, by name or by position -/
theorem Mapping.PlansRead.callArguments_eq {m : Mapping} {target : TypeName} {byKeyword : Bool}
    {bindings : List AdapterBinding} {plan : ReadPlan}
    (h : m.PlansRead s target byKeyword bindings ps plan) :
    plan.callArguments = argumentsFor byKeyword (passedLocals s ps) := by
  rw [argumentsFor_passedLocals]
  exact map_eq_of_forall₂ (fun _ _ hp => hp.argument) h.readings

/-! ### first members -/

/-- The members that are kept lead a list exactly if no other member stands before one of them. -/
theorem map_filter_prefix_iff {α β : Type} {name : α → β} {kept : α → Bool} {as : List α}
    (hnames : (as.map name).Nodup) :
    (as.filter kept).map name <+: as.map name ↔
      as.Pairwise fun a b => kept b = true → kept a = true := by
  induction as with
  | nil => exact iff_of_true List.prefix_rfl .nil
  | cons a as ih =>
    rw [List.map_cons, List.nodup_cons] at hnames
    rw [List.pairwise_cons]
    cases hkept : kept a with
    | true =>
      rw [List.filter_cons_of_pos hkept, List.map_cons, List.map_cons, List.cons_prefix_cons,
        ih hnames.2]
      constructor
      · rintro ⟨-, hrest⟩; exact ⟨fun _ _ _ => rfl, hrest⟩
      · rintro ⟨-, hrest⟩; exact ⟨rfl, hrest⟩
    | false =>
      rw [List.filter_cons_of_neg (by rw [hkept]; exact Bool.false_ne_true), List.map_cons]
      constructor
      · intro hleading
        have hnone : as.filter kept = [] := by
          cases hfilter : as.filter kept with
          | nil => rfl
          | cons b rest =>
            rw [hfilter, List.map_cons, List.cons_prefix_cons] at hleading
            have hb : b ∈ as := (List.mem_filter.mp (hfilter ▸ List.mem_cons_self)).1
            exact absurd (hleading.1 ▸ List.mem_map_of_mem hb) hnames.1
        rw [List.filter_eq_nil_iff] at hnone
        exact ⟨fun b hb hkept' => absurd hkept' (hnone b hb),
          List.pairwise_of_forall_mem_list fun _ _ b hb hkept' => absurd hkept' (hnone b hb)⟩
      · rintro ⟨hfirst, -⟩
        have hnone : as.filter kept = [] :=
          List.filter_eq_nil_iff.mpr fun b hb hkept' => Bool.false_ne_true (hfirst b hb hkept')
        rw [hnone]
        exact List.nil_prefix

namespace ClassTable

/-! ### constructors of dataclasses -/

/-- The initialisers of a dataclass leave its construction to the other fields: they have defaults,
and by position they come last. -/
structure YieldsInitialisers (fields : List DataField) (byKeyword : Bool) : Prop where
  defaults : ∀ f ∈ fields, f.isTaken = true → f.isInitialiser = true → f.field.hasDefault = true
  last : byKeyword = false →
    (positionFields fields).Pairwise fun f g => f.isInitialiser = true → g.isInitialiser = true

variable {fields : List DataField} {passed : Bound}

/-- A call that passes the own fields passes all that is required exactly if the initialisers have
defaults. -/
theorem required_passed_iff (hnodup : (fields.map (·.field.name)).Nodup)
    (hnames : passed.map (·.1) = (fields.filter isOwnField).map (·.field.name)) :
    (∀ p ∈ constructorParams fields, p.isRequired = true → p.name ∈ passed.map (·.1)) ↔
      ∀ f ∈ fields, f.isTaken = true → f.isInitialiser = true → f.field.hasDefault = true := by
  rw [hnames]
  constructor
  · intro hpassed f hf htaken hinit
    by_contra hdefault
    have hrequired : f.param.isRequired = true := by
      rw [f.isRequired_param, Bool.eq_false_iff.mpr hdefault]
      rfl
    have hmem := hpassed f.param (mem_constructorParams.mpr ⟨f, hf, htaken, rfl⟩) hrequired
    obtain ⟨g, hg, hname⟩ := List.mem_map.mp hmem
    obtain ⟨hg, hown⟩ := List.mem_filter.mp hg
    obtain rfl := List.inj_on_of_nodup_map hnodup hg hf hname
    rw [isOwnField_eq, hinit, Bool.not_true, Bool.and_false] at hown
    cases hown
  · intro hdefaults p hp hrequired
    obtain ⟨f, hf, htaken, rfl⟩ := mem_constructorParams.mp hp
    rw [f.isRequired_param, Bool.not_eq_true'] at hrequired
    refine List.mem_map.mpr ⟨f, List.mem_filter.mpr ⟨hf, ?_⟩, rfl⟩
    rw [isOwnField_eq, htaken]
    cases hinit : f.isInitialiser with
    | false => rfl
    | true =>
      rw [hdefaults f hf htaken hinit] at hrequired
      cases hrequired

/-- Without an own field for names only, the own fields are those of the positions that are no
initialisers. -/
theorem filter_isOwnField_eq (h : (fields.filter isOwnField).any (·.keywordOnly) = false) :
    fields.filter isOwnField = (positionFields fields).filter (!·.isInitialiser) := by
  unfold positionFields
  rw [List.filter_filter, List.filter_filter]
  refine List.filter_congr fun f hf => ?_
  rw [isOwnField_eq]
  cases hown : f.isTaken && !f.isInitialiser with
  | false =>
    cases htaken : f.isTaken with
    | false => rw [Bool.and_false]
    | true =>
      rw [htaken, Bool.true_and] at hown
      rw [hown, Bool.false_and]
      rfl
  | true =>
    have hposition : f.keywordOnly = false := by
      have hnot := List.any_eq_false.mp h f (List.mem_filter.mpr ⟨hf, hown⟩)
      exact Bool.eq_false_iff.mpr hnot
    obtain ⟨htaken, hinit⟩ := Bool.and_eq_true_iff.mp hown
    rw [htaken, hinit, hposition]
    rfl

/-- A call that passes the own fields fits the constructor of a dataclass exactly if the
initialisers yield. -/
theorem callFits_generated_iff (hnodup : (fields.map (·.field.name)).Nodup)
    (hnames : passed.map (·.1) = (fields.filter isOwnField).map (·.field.name))
    (hvalues : (passed.map (·.2)).Nodup) :
    let byKeyword := (fields.filter isOwnField).any (·.keywordOnly)
    CallFits (constructorParams fields) (argumentsFor byKeyword passed) passed ↔
      YieldsInitialisers fields byKeyword := by
  intro byKeyword
  have hown : ((fields.filter isOwnField).map (·.field.name)).Nodup :=
    hnodup.sublist (List.filter_sublist.map _)
  cases hkeyword : byKeyword with
  | true =>
    have htakes : ∀ pair ∈ passed, TakesName (constructorParams fields) pair.1 := by
      intro pair hpair
      have hmem := hnames ▸ List.mem_map_of_mem hpair
      obtain ⟨f, hf, hname⟩ := List.mem_map.mp hmem
      obtain ⟨hf, hownf⟩ := List.mem_filter.mp hf
      have htaken := (Bool.and_eq_true_iff.mp (isOwnField_eq f ▸ hownf)).1
      exact ⟨f.param, mem_constructorParams.mpr ⟨f, hf, htaken, rfl⟩, hname, f.takesName_param⟩
    rw [argumentsFor, if_pos rfl, callFits_named_iff (hnames ▸ hown),
      required_passed_iff hnodup hnames]
    exact ⟨fun h => ⟨h.2, nofun⟩, fun h => ⟨htakes, h.defaults⟩⟩
  | false =>
    have hpositions : ((positionFields fields).map (·.field.name)).Nodup :=
      hnodup.sublist ((List.filter_sublist.trans List.filter_sublist).map _)
    have hleading : passed.map (·.1) <+:
        ((constructorParams fields).filter (·.takesPosition)).map (·.name) ↔
        (positionFields fields).Pairwise fun f g =>
          f.isInitialiser = true → g.isInitialiser = true := by
      rw [filter_takesPosition_constructorParams, DataField.map_name_param, hnames,
        filter_isOwnField_eq hkeyword, map_filter_prefix_iff hpositions]
      refine List.Pairwise.iff fun f g => ?_
      cases f.isInitialiser <;> cases g.isInitialiser <;> simp
    rw [argumentsFor, if_neg Bool.false_ne_true, callFits_positional_iff hvalues, hleading,
      required_passed_iff hnodup hnames]
    exact ⟨fun h => ⟨h.2, fun _ => h.1⟩, fun h => ⟨h.last rfl, h.defaults⟩⟩

/-! ### constructors of other classes -/

variable {params : List Param}

theorem isFieldParam_of_isRequired {p : Param} (hself : p.name ≠ "self")
    (h : p.isRequired = true) : isFieldParam p = true := by
  have hvariadic : p.isVariadic = false := by
    unfold Param.isRequired at h
    rw [Bool.and_eq_true, Bool.not_eq_true'] at h
    exact h.1
  unfold isFieldParam
  rw [decide_eq_true hself, hvariadic]
  rfl

theorem takesName_of_isFieldParam {p : Param} (h : isFieldParam p = true)
    (hkind : p.kind ≠ .positional) : p.takesName = true := by
  have hvariadic : p.isVariadic = false := by simpa using (Bool.and_eq_true_iff.mp h).2
  unfold Param.isVariadic at hvariadic
  unfold Param.takesName
  cases hp : p.kind <;> simp_all

theorem filter_isFieldParam_eq (hself : ∀ p ∈ params, p.name ≠ "self")
    (hkeyword : params.any (·.kind == .keyword) = false) :
    params.filter isFieldParam = params.filter (·.takesPosition) := by
  refine List.filter_congr fun p hp => ?_
  have hkind : p.kind ≠ .keyword := by simpa using List.any_eq_false.mp hkeyword p hp
  rw [isFieldParam, decide_eq_true (hself p hp), Bool.true_and, Param.isVariadic,
    Param.takesPosition]
  cases hp : p.kind <;> simp_all

/-- All fields of a constructor can be given by name exactly if it has no parameter for positions
only. -/
theorem takesName_fields_iff (hnodup : (params.map (·.name)).Nodup)
    (hself : ∀ p ∈ params, p.name ≠ "self")
    (hnames : passed.map (·.1) = (params.filter isFieldParam).map (·.name)) :
    (∀ pair ∈ passed, TakesName params pair.1) ↔ ∀ p ∈ params, p.kind ≠ .positional := by
  constructor
  · intro htakes p hp hkind
    have hfield : isFieldParam p = true := by
      unfold isFieldParam Param.isVariadic
      rw [decide_eq_true (hself p hp), hkind]
      rfl
    have hmem : p.name ∈ passed.map (·.1) :=
      hnames ▸ List.mem_map_of_mem (List.mem_filter.mpr ⟨hp, hfield⟩)
    obtain ⟨pair, hpair, hname⟩ := List.mem_map.mp hmem
    obtain ⟨q, hq, hqname, hqtakes⟩ := htakes pair hpair
    obtain rfl := List.inj_on_of_nodup_map hnodup hq hp (hqname.trans hname)
    rw [Param.takesName, hkind] at hqtakes
    cases hqtakes
  · intro hnone pair hpair
    have hmem := hnames ▸ List.mem_map_of_mem hpair
    obtain ⟨p, hp, hname⟩ := List.mem_map.mp hmem
    obtain ⟨hp, hfield⟩ := List.mem_filter.mp hp
    exact ⟨p, hp, hname, takesName_of_isFieldParam hfield (hnone p hp)⟩

/-- A call that passes the fields of a constructor fits it exactly if it has no parameter for names
only beside one for positions only. -/
theorem callFits_written_iff (hnodup : (params.map (·.name)).Nodup)
    (hself : ∀ p ∈ params, p.name ≠ "self")
    (hnames : passed.map (·.1) = (params.filter isFieldParam).map (·.name))
    (hvalues : (passed.map (·.2)).Nodup) :
    CallFits params (argumentsFor (params.any (·.kind == .keyword)) passed) passed ↔
      ((∃ p ∈ params, p.kind = .keyword) → ∀ p ∈ params, p.kind ≠ .positional) := by
  have hrequired : ∀ p ∈ params, p.isRequired = true → p.name ∈ passed.map (·.1) := by
    intro p hp hrequired
    rw [hnames]
    have hfield := isFieldParam_of_isRequired (hself p hp) hrequired
    exact List.mem_map_of_mem (List.mem_filter.mpr ⟨hp, hfield⟩)
  cases hkeyword : params.any (·.kind == .keyword) with
  | true =>
    have hsome : ∃ p ∈ params, p.kind = .keyword := by simpa using hkeyword
    have hown : (passed.map (·.1)).Nodup := hnames ▸ hnodup.sublist (List.filter_sublist.map _)
    rw [argumentsFor, if_pos rfl, callFits_named_iff hown, takesName_fields_iff hnodup hself hnames]
    exact ⟨fun h _ => h.1, fun h => ⟨h hsome, hrequired⟩⟩
  | false =>
    rw [argumentsFor, if_neg Bool.false_ne_true, callFits_positional_iff hvalues, hnames,
      filter_isFieldParam_eq hself hkeyword]
    rw [hnames, filter_isFieldParam_eq hself hkeyword] at hrequired
    refine iff_of_true ⟨List.prefix_rfl, hrequired⟩ ?_
    intro hsome
    obtain ⟨p, hp, hkind⟩ := hsome
    exact absurd (beq_iff_eq.mpr hkind) (List.any_eq_false.mp hkeyword p hp)

/-! ### all classes -/

/-- whether the constructor of a class takes the fields that become properties -/
def TakesProperties (t : ClassTable) (cls : ClassRef) (params : List Param) : Prop :=
  match t.dataFields? cls with
  | some fields => YieldsInitialisers fields (t.constructsByKeyword cls)
  | none => (∃ p ∈ params, p.kind = .keyword) → ∀ p ∈ params, p.kind ≠ .positional

/-- A read plan constructs the class with the arguments of its call, by names or by positions as the
class asks for, and they fit the constructor exactly if that takes the fields that become
properties.  The plan may take its names from any supply that tells tags apart, as all do that names
were taken from. -/
theorem construction_fits_iff {t : ClassTable} {settings : Settings} {cls : ClassRef}
    {target : TypeName} {shared : Option (List AdapterBinding)} {plan : ReadPlan} {s' : NameSupply}
    (hmodel : t.isPydantic cls = false) (hconstructor : t.HasConstructor cls params)
    (hps : t.properties cls = .ok ps) (hs : s.Apart)
    (hplan : ((t.mapping settings).readPlan target
      (t.capabilities settings cls).keywordConstruction shared ps).runFrom s = (.ok plan, s')) :
    plan.construction = target.render ++ "(" ++ joined ", " (plan.callArguments.map (·.text)) ++ ")" ∧
      (CallFits params plan.callArguments (passedLocals s' ps) ↔ t.TakesProperties cls params) := by
  obtain ⟨hplans, gs, hgranted⟩ := (t.mapping settings).exists_granted_readPlan hplan
  have hvalues : (ps.map (·.name)).Nodup → ((passedLocals s' ps).map (·.2)).Nodup := by
    intro hnames
    rw [map_snd_passedLocals]
    exact (hgranted.apart hs).nodup_locals hnames hplans.hasLocal
  refine ⟨hplans.target ▸ plan.construction_eq, ?_⟩
  rw [hplans.callArguments_eq]
  show CallFits params (argumentsFor (t.constructsByKeyword cls) _) _ ↔ _
  unfold TakesProperties
  cases hconstructor with
  | @generated fields hfields _ =>
    have hnames := map_name_dataProperties hmodel hfields hps
    have hnodup := nodup_dataFields hfields
    rw [hfields, constructsByKeyword_of_some hmodel hfields]
    refine callFits_generated_iff hnodup (map_fst_passedLocals.trans hnames) (hvalues ?_)
    rw [hnames]
    exact hnodup.sublist (List.filter_sublist.map _)
  | @written f hfields hfound _ hnodup hself =>
    have hf := constructor?_of_initMember? hfields hfound
    obtain ⟨hbroken, hnames⟩ := map_name_plainProperties hmodel hfields hf hps
    rw [hfields, constructsByKeyword_of_none hmodel hfields, hf, Option.any_some, hbroken,
      Bool.not_false, Bool.true_and]
    refine callFits_written_iff hnodup hself (map_fst_passedLocals.trans hnames) (hvalues ?_)
    rw [hnames]
    exact hnodup.sublist (List.filter_sublist.map _)
  | inherited hfields hfound =>
    have hf := constructor?_eq_none hfields hfound
    obtain rfl := properties_eq_nil hmodel hfields hf hps
    rw [hfields, constructsByKeyword_of_none hmodel hfields, hf, Option.any_none]
    exact callFits_written_iff (by decide) (by decide) rfl List.nodup_nil

/-! ### two classes -/

def pointRef : ClassRef := { name := "Point", module := "app" }

/-- the fields of a dataclass, with an initialiser that has a default -/
def pointFields : List DataField :=
  [⟨{ name := "x", hint := Platform.int }, false⟩,
   ⟨{ name := "scale", hint := .initVar Platform.int, hasDefault := true }, false⟩,
   ⟨{ name := "y", hint := Platform.int, keywordOnly := some true }, true⟩]

def points : ClassTable :=
  [{ ref := pointRef, kind := .dataclass, fields := pointFields.map (·.field) }]

/-- a property of whole numbers of a class of the module `app` -/
def intProperty (owner name : String) : Property :=
  { name := name, type := .int, site := some ⟨owner, name⟩ }

def pointProperties : List Property := [intProperty "app.Point" "x", intProperty "app.Point" "y"]

set_option maxRecDepth 10000 in
theorem hasConstructor_points : points.HasConstructor pointRef (constructorParams pointFields) :=
  .generated rfl rfl

set_option maxRecDepth 10000 in
/-- a dataclass with an initialiser and a field for names only is called with names -/
theorem construction_fits_point :
    points.HasConstructor pointRef (constructorParams pointFields) ∧
      points.properties pointRef = .ok pointProperties ∧ NameSupply.empty.Apart ∧
      ∃ plan s', ((points.mapping {}).readPlan (.ofClass pointRef)
        (points.capabilities {} pointRef).keywordConstruction none pointProperties).runFrom .empty
          = (.ok plan, s') ∧
        CallFits (constructorParams pointFields) plan.callArguments
          (passedLocals s' pointProperties) := by
  have hps : points.properties pointRef = .ok pointProperties := rfl
  have hapart : NameSupply.empty.Apart := .of_bindings_nil rfl
  have hok : ((((points.mapping {}).readPlan (.ofClass pointRef)
      (points.capabilities {} pointRef).keywordConstruction none pointProperties).runFrom
        .empty).1.toOption.any fun _ => true) = true := by decide +kernel
  obtain ⟨plan, hplan, -⟩ := Naming.exists_ok_of_any hok
  refine ⟨hasConstructor_points, hps, hapart, plan, _, Prod.ext hplan rfl, ?_⟩
  have hmodel : points.isPydantic pointRef = false := by decide +kernel
  refine (construction_fits_iff hmodel hasConstructor_points hps hapart
    (Prod.ext hplan rfl)).2.mpr ?_
  have hyields : YieldsInitialisers pointFields true := ⟨by decide, nofun⟩
  exact hyields

def spanRef : ClassRef := { name := "Span", module := "app" }

/-- the parameters of a constructor, one for positions only and one for names only -/
def spanParams : List Param :=
  [{ name := "start", hint := some Platform.int, kind := .positional },
   { name := "end", hint := some Platform.int, kind := .keyword }]

def spans : ClassTable :=
  [{ ref := spanRef, attributes := [⟨"__init__", .instance { params := spanParams }⟩] }]

def spanProperties : List Property := [intProperty "app.Span" "start", intProperty "app.Span" "end"]

set_option maxRecDepth 10000 in
/-- A constructor with a parameter for positions only and one for names only refuses its call. -/
theorem not_construction_fits_span :
    spans.HasConstructor spanRef spanParams ∧ spans.properties spanRef = .ok spanProperties ∧
      ∃ plan s', ((spans.mapping {}).readPlan (.ofClass spanRef)
        (spans.capabilities {} spanRef).keywordConstruction none spanProperties).runFrom .empty
          = (.ok plan, s') ∧
        ¬ CallFits spanParams plan.callArguments (passedLocals s' spanProperties) := by
  have hrefused : ((((spans.mapping {}).readPlan (.ofClass spanRef)
      (spans.capabilities {} spanRef).keywordConstruction none spanProperties).runFrom
        .empty).1.toOption.any fun plan => decide (bindCall spanParams plan.callArguments = none))
      = true := by decide +kernel
  obtain ⟨plan, hplan, hnone⟩ := Naming.exists_ok_of_any hrefused
  have hconstructor : spans.HasConstructor spanRef spanParams :=
    .written (f := { params := spanParams }) rfl rfl rfl (by decide) (by decide)
  refine ⟨hconstructor, rfl, plan, _, Prod.ext hplan rfl, ?_⟩
  rintro ⟨bound, hcall, -⟩
  rw [of_decide_eq_true hnone] at hcall
  cases hcall

end ClassTable
end RowMapping
