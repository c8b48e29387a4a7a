import RowMapping.ClassTable.Hooks
import RowMapping.Proofs.Construction.CallRules
import RowMapping.Proofs.TypeName.Same

/-!
# Calls of methods

Generated code calls the methods of adapters and factories with positions only.  A method that a
class shows is known by the types of its parameters alone, and `CallsWith` says what a call with
one value for each type does: every value reaches the parameter of its type, unless one of the
parameters is for names only.  Such a call is refused.

* `calls_of_methods`  this holds of all methods that a class shows, and so of the methods that
  adapters and factories are accepted for.
-/

namespace RowMapping

/-! ### calls with one value for each parameter -/

section
variable {params : List Param} {values : List String}

theorem bindPositions_of_length_lt (h : params.length < values.length) :
    bindPositions false params values = none := by
  induction params generalizing values with
  | nil =>
    cases values with
    | nil => cases h
    | cons value values => rfl
  | cons p params ih =>
    cases values with
    | nil => cases h
    | cons value values =>
      rw [bindPositions, ih (by simpa using h), Option.map_none]

theorem takesPosition_eq (p : Param) (hp : p.isVariadic = false) :
    p.takesPosition = !(p.kind == .keyword) := by
  unfold Param.isVariadic at hp
  unfold Param.takesPosition
  cases hkind : p.kind <;> simp_all

theorem kind_of_takesPosition {p : Param} (hp : p.takesPosition = true) :
    p.isVariadic = false ∧ (p.kind == .keyword) = false := by
  unfold Param.takesPosition at hp
  unfold Param.isVariadic
  cases hkind : p.kind <;> simp_all

theorem bindCall_eq (args : List Argument) : bindCall params args =
    (bindPositions (params.any (·.kind == .rest)) (params.filter (·.takesPosition))
      (args.filterMap Argument.position?)).bind fun first =>
        (bindNames params first (args.filterMap Argument.name?)).bind fun bound =>
          if params.all fun p => !p.isRequired || bound.any (·.1 == p.name) then some bound
          else none := rfl

/-- Where all parameters take a position, one value for each is passed to them in their order. -/
theorem bindCall_of_takesPosition {passed : Bound}
    (htakes : ∀ p ∈ params, p.takesPosition = true)
    (hnames : passed.map (·.1) = params.map (·.name)) :
    bindCall params (positionalArguments passed) = some passed := by
  have hrequired : (params.all fun p => !p.isRequired || passed.any (·.1 == p.name)) = true := by
    rw [List.all_eq_true]
    intro p hp
    have hmem : p.name ∈ passed.map (·.1) := by
      rw [hnames]
      exact List.mem_map_of_mem hp
    obtain ⟨⟨name, value⟩, hpair, hname⟩ := List.mem_map.mp hmem
    obtain rfl : name = p.name := hname
    rw [bound_any_iff.mpr ⟨value, hpair⟩, Bool.or_true]
  have hleading : passed.map (·.1) <+: params.map (·.name) := hnames ▸ List.prefix_rfl
  rw [bindCall_eq, position?_positionalArguments, name?_positionalArguments,
    List.filter_eq_self.mpr htakes, bindPositions_of_leading hleading, Option.bind_some,
    bindNames, Option.bind_some, if_pos hrequired]

/-- With a parameter for names only, and none that is variadic, one value for each parameter is
too much. -/
theorem bindCall_of_keyword {passed : Bound} (hplain : ∀ p ∈ params, p.isVariadic = false)
    (hkeyword : ∃ p ∈ params, p.kind = .keyword) (hlength : passed.length = params.length) :
    bindCall params (positionalArguments passed) = none := by
  have hmore : params.any (·.kind == .rest) = false := by
    rw [List.any_eq_false]
    intro p hp hkind
    have hvariadic := hplain p hp
    unfold Param.isVariadic at hvariadic
    rw [hkind, Bool.true_or] at hvariadic
    cases hvariadic
  have hless : (params.filter (·.takesPosition)).length < (passed.map (·.2)).length := by
    rw [List.length_map, hlength, List.length_filter_lt_length_iff_exists]
    obtain ⟨p, hp, hkind⟩ := hkeyword
    refine ⟨p, hp, ?_⟩
    unfold Param.takesPosition
    rw [hkind]
    decide
  rw [bindCall_eq, position?_positionalArguments, hmore, bindPositions_of_length_lt hless,
    Option.bind_none]

/-- Without variadic parameters, one value for each parameter is passed in their order, unless
there is a parameter for names only. -/
theorem bindCall_positions (hplain : ∀ p ∈ params, p.isVariadic = false)
    (hlength : values.length = params.length) :
    bindCall params (values.map .positional)
      = if params.any (·.kind == .keyword) then none
        else some ((params.map (·.name)).zip values) := by
  obtain ⟨passed, hpassed⟩ : ∃ passed, passed = (params.map (·.name)).zip values := ⟨_, rfl⟩
  have hnames : passed.map (·.1) = params.map (·.name) := by
    rw [hpassed]
    exact List.map_fst_zip (by simp [hlength])
  have hvalues : passed.map (·.2) = values := by
    rw [hpassed]
    exact List.map_snd_zip (by simp [hlength])
  have hargs : values.map .positional = positionalArguments passed := by
    rw [← hvalues, List.map_map]
    rfl
  rw [hargs, ← hpassed]
  cases hkeyword : params.any (·.kind == .keyword) with
  | true =>
    obtain ⟨p, hp, hkind⟩ := List.any_eq_true.mp hkeyword
    have hsame : passed.length = params.length := by
      rw [← List.length_map (f := fun pair : String × String => pair.1), hnames, List.length_map]
    exact bindCall_of_keyword hplain ⟨p, hp, eq_of_beq hkind⟩ hsame
  | false =>
    refine bindCall_of_takesPosition (fun p hp => ?_) hnames
    rw [takesPosition_eq p (hplain p hp),
      Bool.eq_false_iff.mpr (List.any_eq_false.mp hkeyword p hp)]
    rfl

end

/-! ### members and their functions -/

namespace Member

/-- the parameters of a member's function as it declares them, with `receiver` where it declares
one in front -/
def signature (receiver : Param) : Member → List Param
  | .instance f | .ofClass f => if f.declaresReceiver then receiver :: f.params else f.params
  | .static f => f.params
  | .property | .value => []

/-- what a call through an instance or a class passes in front of its arguments -/
def receivers (self : String) : Member → List String
  | .instance _ | .ofClass _ => [self]
  | .static _ | .property | .value => []

/-- A call with one value for each of some types, where the function declares its receiver: the
parameters behind it have these types in their order, and each gets its value, unless one of them
is for names only.  Then the call is refused. -/
def CallsWith (member : Member) (types : List TypeName) : Prop :=
  ∀ receiver self front rest, member.signature receiver = front ++ rest →
    front.length = (member.receivers self).length → (∀ p ∈ front, p.takesPosition = true) →
    List.Forall₂ (fun p type => FunctionInfo.typeOf? p.hint = some type) rest types ∧
      ∀ values, values.length = types.length →
        bindCall (member.signature receiver) ((member.receivers self ++ values).map .positional)
          = if rest.any (·.kind == .keyword) then none
            else some (((front ++ rest).map (·.name)).zip (member.receivers self ++ values))

end Member

theorem FunctionInfo.paramTypes?_eq_some {params : List Param} {types : List TypeName}
    (h : paramTypes? params = some types) :
    (∀ p ∈ params, p.isVariadic = false) ∧
      List.Forall₂ (fun p type => typeOf? p.hint = some type) params types := by
  induction params generalizing types with
  | nil =>
    obtain rfl := Option.some.inj h
    exact ⟨nofun, .nil⟩
  | cons p params ih =>
    unfold paramTypes? at h
    split at h
    next => cases h
    next hvariadic =>
      obtain ⟨type, htype, h⟩ := Option.bind_eq_some_iff.mp h
      obtain ⟨rest, hrest, rfl⟩ := Option.map_eq_some_iff.mp h
      obtain ⟨hplain, htypes⟩ := ih hrest
      refine ⟨fun q hq => ?_, .cons htype htypes⟩
      rcases List.mem_cons.mp hq with rfl | hq
      · exact Bool.eq_false_iff.mpr hvariadic
      · exact hplain q hq

theorem FunctionInfo.paramTypes?_of_shape? {f : FunctionInfo} {params : List Param}
    {types : List TypeName} {returns : TypeName} (h : f.shape? params = some (types, returns)) :
    paramTypes? params = some types := by
  unfold shape? at h
  split at h
  next => cases h
  next =>
    obtain ⟨ts, hts, h⟩ := Option.bind_eq_some_iff.mp h
    obtain ⟨r, -, h⟩ := Option.map_eq_some_iff.mp h
    rw [hts, (Prod.mk.inj h).1]

namespace Member
variable {member : Member} {isStatic : Bool} {types : List TypeName} {returns : TypeName}

theorem paramTypes?_of_shape? (h : member.shape? = some (isStatic, types, returns))
    (receiver : Param) (self : String) :
    FunctionInfo.paramTypes? ((member.signature receiver).drop (member.receivers self).length)
      = some types := by
  have hbound : ∀ f : FunctionInfo,
      (if f.declaresReceiver then receiver :: f.params else f.params).drop 1 = f.boundParams := by
    intro f
    unfold FunctionInfo.boundParams
    cases f.declaresReceiver <;> rfl
  cases member with
  | «instance» f =>
    obtain ⟨shape, hshape, hpair⟩ := Option.map_eq_some_iff.mp h
    obtain rfl := (Prod.mk.inj hpair).2
    exact (congrArg _ (hbound f)).trans (FunctionInfo.paramTypes?_of_shape? hshape)
  | static f =>
    obtain ⟨shape, hshape, hpair⟩ := Option.map_eq_some_iff.mp h
    obtain rfl := (Prod.mk.inj hpair).2
    exact FunctionInfo.paramTypes?_of_shape? hshape
  | ofClass f =>
    obtain ⟨shape, hshape, hpair⟩ := Option.map_eq_some_iff.mp h
    obtain rfl := (Prod.mk.inj hpair).2
    exact (congrArg _ (hbound f)).trans (FunctionInfo.paramTypes?_of_shape? hshape)
  | property => cases h
  | value => cases h

/-- a member with a shape is called with the types of its shape -/
theorem callsWith_of_shape? (h : member.shape? = some (isStatic, types, returns)) :
    member.CallsWith types := by
  intro receiver self front rest hsignature hfront htakes
  have htypes := paramTypes?_of_shape? h receiver self
  rw [hsignature, ← hfront, List.drop_left] at htypes
  obtain ⟨hplain, hforall⟩ := FunctionInfo.paramTypes?_eq_some htypes
  refine ⟨hforall, fun values hvalues => ?_⟩
  have hplain' : ∀ p ∈ front ++ rest, p.isVariadic = false := by
    intro p hp
    rcases List.mem_append.mp hp with hp | hp
    · exact (kind_of_takesPosition (htakes p hp)).1
    · exact hplain p hp
  have hkeyword : (front ++ rest).any (·.kind == .keyword) = rest.any (·.kind == .keyword) := by
    rw [List.any_append, List.any_eq_false.mpr fun p hp => ?_, Bool.false_or]
    rw [(kind_of_takesPosition (htakes p hp)).2]
    exact nofun
  have hlength : (member.receivers self ++ values).length = (front ++ rest).length := by
    rw [List.length_append, List.length_append, hfront, hvalues, hforall.length_eq]
  rw [hsignature, bindCall_positions hplain' hlength, hkeyword]

end Member

/-! ### methods that a class shows -/

theorem Mapping.checkAdapter_eq_ok_iff {m : Mapping} {directions : Directions} {p : Property}
    {cls : ClassRef} : m.checkAdapter directions p cls = .ok () ↔
      (directions.read = true → m.directory.hasMethod cls (m.readShape p.type) = true) ∧
      (directions.write = true → m.directory.hasMethod cls (m.writeShape p.type) = true) := by
  unfold checkAdapter
  cases directions.read <;> cases directions.write <;>
    cases m.directory.hasMethod cls (m.readShape p.type) <;>
    cases m.directory.hasMethod cls (m.writeShape p.type) <;> simp

theorem nodup_firstNamed (as : List Attribute) : ((firstNamed as).map (·.name)).Nodup := by
  induction as with
  | nil => exact .nil
  | cons first as ih =>
    rw [firstNamed_cons, List.map_cons, List.nodup_cons]
    refine ⟨fun hmem => ?_, ih.sublist (List.filter_sublist.map _)⟩
    obtain ⟨a, ha, hname⟩ := List.mem_map.mp hmem
    have hne := (List.mem_filter.mp ha).2
    rw [hname] at hne
    exact absurd hne (by simp)

/-- attributes are read as far as none of them refuses it -/
theorem readMethods_eq (owner : TypeName) (as : List Attribute) :
    readMethods owner as = match as.findSome? (·.member.refusal?) with
      | some f => .error f
      | none => .ok (as.filterMap (Attribute.method? owner)) := by
  induction as with
  | nil => rfl
  | cons a as ih =>
    rw [readMethods, Attribute.read, List.findSome?_cons, ih]
    cases a.member.refusal? with
    | some f => rfl
    | none =>
      cases as.findSome? (·.member.refusal?) with
      | some f => rfl
      | none =>
        rw [List.filterMap_cons]
        cases a.method? owner <;> rfl

namespace ClassTable
variable {t : ClassTable} {settings : Settings} {cls : ClassRef}

theorem methods_eq (t : ClassTable) (cls : ClassRef) :
    t.methods cls = match t.refusal? cls with
      | some f => .error f
      | none => .ok (t.shownMethods cls) :=
  readMethods_eq _ _

theorem methods_eq_ok_iff {methods : List Method} :
    t.methods cls = .ok methods ↔ t.refusal? cls = none ∧ methods = t.shownMethods cls := by
  rw [methods_eq]
  cases t.refusal? cls with
  | some f => exact ⟨nofun, fun h => nomatch h.1⟩
  | none => exact ⟨fun h => ⟨rfl, (Except.ok.inj h).symm⟩, fun h => congrArg _ h.2.symm⟩

/-- A class shows a method as the one attribute of its name, and this is called with the types of
the method. -/
def Calls (t : ClassTable) (cls : ClassRef) (method : Method) : Prop :=
  ∃ a ∈ t.visibleAttributes cls, a.name = method.name ∧
    (∀ b ∈ t.visibleAttributes cls, b.name = method.name → b = a) ∧
    a.member.shape? = some (method.isStatic, method.params, method.returns) ∧
    a.member.CallsWith method.params

theorem calls_of_mem_methods {method : Method} (h : method ∈ t.shownMethods cls) :
    t.Calls cls method := by
  obtain ⟨a, ha, hmethod⟩ := List.mem_filterMap.mp h
  obtain ⟨⟨isStatic, params, returns⟩, hshape, rfl⟩ := Option.map_eq_some_iff.mp hmethod
  refine ⟨a, ha, rfl, fun b hb hname => ?_, hshape, Member.callsWith_of_shape? hshape⟩
  exact List.inj_on_of_nodup_map (nodup_firstNamed _) hb ha hname

/-- A class that has a method of a shape calls it with as many values as the shape takes. -/
theorem exists_calls_of_hasMethod {s : Shape} (h : t.directory.hasMethod cls s = true) :
    ∃ method ∈ t.shownMethods cls, t.Calls cls method ∧ method.fits s = true ∧
      method.params.length = s.takes.length := by
  obtain ⟨method, hmem, hfits⟩ := Directory.hasMethod_iff.mp h
  have hparams := congrArg List.length (Method.fits_iff.mp hfits).2.2.1
  rw [List.length_map, List.length_map] at hparams
  exact ⟨method, hmem, calls_of_mem_methods hmem, hfits, hparams⟩

/-- The methods that a class lists are those that it shows.  All of them are called by position with
the types that they are known by, and refuse this if one of their parameters is for names only.  So
are the methods that an adapter is accepted for, with two values and with three, and the method of a
factory with one. -/
theorem calls_of_methods (t : ClassTable) (settings : Settings) (cls : ClassRef) :
    (∀ methods, t.methods cls = .ok methods → methods = t.shownMethods cls) ∧
    (∀ method ∈ t.shownMethods cls, t.Calls cls method) ∧
    (∀ directions (p : Property), (t.mapping settings).checkAdapter directions p cls = .ok () →
      (directions.read = true → ∃ method ∈ t.shownMethods cls, t.Calls cls method ∧
        method.fits ((t.mapping settings).readShape p.type) = true ∧ method.params.length = 2) ∧
      (directions.write = true → ∃ method ∈ t.shownMethods cls, t.Calls cls method ∧
        method.fits ((t.mapping settings).writeShape p.type) = true ∧ method.params.length = 3)) ∧
    ∀ (p : Property) method,
      t.directory.findMethod cls ((t.mapping settings).factoryShape p.type) = some method →
        t.Calls cls method ∧ method.params.length = 1 := by
  refine ⟨fun methods h => (methods_eq_ok_iff.mp h).2, fun method hmem => calls_of_mem_methods hmem,
    fun directions p hcheck => ?_, fun p method hfind => ?_⟩
  · obtain ⟨hread, hwrite⟩ := Mapping.checkAdapter_eq_ok_iff.mp hcheck
    exact ⟨fun h => exists_calls_of_hasMethod (hread h),
      fun h => exists_calls_of_hasMethod (hwrite h)⟩
  · have hfits := Directory.fits_of_findMethod hfind
    have hparams := congrArg List.length (Method.fits_iff.mp hfits).2.2.1
    rw [List.length_map, List.length_map] at hparams
    exact ⟨calls_of_mem_methods (List.mem_of_find?_eq_some hfind), hparams⟩

/-! ### two adapters -/

def tagsRef : ClassRef := { name := "Tags", module := "app" }

/-- an adapter that reads a list of tags, given how it takes the name of the column -/
def tagsWith (kind : ParamKind) : ClassTable :=
  [{ ref := tagsRef
     attributes := [⟨"from_cursor", .instance {
       params := [{ name := "cursor", hint := some (.cls .cursor) },
         { name := "column_name", hint := some Platform.str, kind := kind }]
       returns := some (.generic (.builtin "list") [Platform.str]) }⟩] }]

def tagsProperty : Property :=
  { name := "tags", type := { name := "list", args := [.str] }, conversion := .adapter tagsRef }

def selfParam : Param := { name := "self" }

set_option maxRecDepth 10000 in
/-- An adapter with ordinary parameters is accepted, and its method takes a cursor and a column. -/
theorem calls_tags :
    ((tagsWith .standard).mapping {}).checkAdapter { write := false } tagsProperty tagsRef = .ok () ∧
      ∃ method ∈ (tagsWith .standard).shownMethods tagsRef,
        (tagsWith .standard).Calls tagsRef method ∧ method.params.length = 2 := by
  have hcheck : ((tagsWith .standard).mapping {}).checkAdapter { write := false } tagsProperty
      tagsRef = .ok () := by decide +kernel
  obtain ⟨-, -, hadapter, -⟩ := calls_of_methods (tagsWith .standard) {} tagsRef
  obtain ⟨method, hmem, hcalls, -, hlength⟩ := (hadapter _ _ hcheck).1 rfl
  exact ⟨hcheck, method, hmem, hcalls, hlength⟩

set_option maxRecDepth 10000 in
/-- An adapter that takes the column by its name only is accepted as well, but refuses a call that
passes the cursor and the column by position. -/
theorem not_calls_keyword_tags :
    ((tagsWith .keyword).mapping {}).checkAdapter { write := false } tagsProperty tagsRef = .ok () ∧
      ∃ a ∈ (tagsWith .keyword).visibleAttributes tagsRef,
        (a.method? (.ofClass tagsRef)).map (·.params.length) = some 2 ∧
        bindCall (a.member.signature selfParam)
          [.positional "tags", .positional "cursor", .positional "\"tags\""] = none := by
  have hcheck : ((tagsWith .keyword).mapping {}).checkAdapter { write := false } tagsProperty
      tagsRef = .ok () := by decide +kernel
  obtain ⟨rest, hvisible⟩ : ∃ rest, (tagsWith .keyword).visibleAttributes tagsRef
      = (tagsWith .keyword).flatMap (·.attributes) ++ rest := ⟨_, rfl⟩
  rw [hvisible]
  exact ⟨hcheck, _, List.mem_cons_self, by decide +kernel, by decide +kernel⟩

end ClassTable
end RowMapping
