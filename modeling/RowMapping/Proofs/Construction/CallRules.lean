import RowMapping.ClassTable.Basic
import RowMapping.Plan.ReadPlan
import Mathlib.Data.List.Nodup

/-!
# Call rules

How the arguments of a call are matched with the parameters of a function: positional arguments
fill the parameters that take a position in their order, an argument under a name goes to the
parameter of that name which takes one, and what is left over is refused unless a variadic
parameter takes it.  A call that leaves a parameter without a default unbound is refused as well.

`CallFits` says that a call is accepted and passes given values to the parameters of given names:

* `callFits_named_iff`       for a call with names only;
* `callFits_positional_iff`  for a call with positions only.
-/

namespace RowMapping

namespace Param

def takesPosition (p : Param) : Bool := p.kind == .positional || p.kind == .standard

def takesName (p : Param) : Bool := p.kind == .standard || p.kind == .keyword

def isRequired (p : Param) : Bool := !p.isVariadic && !p.hasDefault

end Param

namespace Argument

def position? : Argument → Option String
  | positional value => some value
  | named _ _ => none

def name? : Argument → Option (String × String)
  | positional _ => none
  | named name value => some (name, value)

end Argument

/-- parameters and the values that they get -/
abbrev Bound := List (String × String)

/-- positional arguments in the parameters that take a position; `more` says whether a variadic
parameter takes what is left over -/
def bindPositions (more : Bool) : List Param → List String → Option Bound
  | _, [] => some []
  | [], _ :: _ => if more then some [] else none
  | p :: params, value :: values => (bindPositions more params values).map ((p.name, value) :: ·)

/-- an argument under a name beside what is bound already -/
def bindName (params : List Param) (bound : Bound) (arg : String × String) : Option Bound :=
  if params.any fun p => p.name == arg.1 && p.takesName then
    if bound.any (·.1 == arg.1) then none else some (bound ++ [arg])
  else if params.any (·.kind == .keywordRest) then some bound
  else none

def bindNames (params : List Param) : Bound → List (String × String) → Option Bound
  | bound, [] => some bound
  | bound, arg :: args => (bindName params bound arg).bind (bindNames params · args)

/-- what the parameters of a function get in a call, none if the call is refused -/
def bindCall (params : List Param) (args : List Argument) : Option Bound := do
  let bound ← bindPositions (params.any (·.kind == .rest)) (params.filter (·.takesPosition))
    (args.filterMap Argument.position?)
  let bound ← bindNames params bound (args.filterMap Argument.name?)
  if params.all fun p => !p.isRequired || bound.any (·.1 == p.name) then some bound else none

/-- A call is accepted, passes the given values to the parameters of the given names, and leaves
no parameter without a default unbound. -/
def CallFits (params : List Param) (args : List Argument) (passed : Bound) : Prop :=
  ∃ bound, bindCall params args = some bound ∧ (∀ pair ∈ passed, pair ∈ bound) ∧
    ∀ p ∈ params, p.isRequired = true → ∃ value, (p.name, value) ∈ bound

/-! ### accepted calls -/

variable {params : List Param}

theorem bound_any_iff {bound : Bound} {name : String} :
    bound.any (·.1 == name) = true ↔ ∃ value, (name, value) ∈ bound := by
  rw [List.any_eq_true]
  constructor
  · rintro ⟨⟨n, value⟩, hmem, hn⟩
    obtain rfl := eq_of_beq hn
    exact ⟨value, hmem⟩
  · rintro ⟨value, hmem⟩
    exact ⟨(name, value), hmem, beq_self_eq_true name⟩

/-- A call fits if its arguments can be bound, and if what is bound has all that is passed and all
that is required. -/
theorem callFits_iff {args : List Argument} {passed : Bound} :
    CallFits params args passed ↔ ∃ first bound,
      bindPositions (params.any (·.kind == .rest)) (params.filter (·.takesPosition))
        (args.filterMap Argument.position?) = some first ∧
      bindNames params first (args.filterMap Argument.name?) = some bound ∧
      (∀ pair ∈ passed, pair ∈ bound) ∧
      ∀ p ∈ params, p.isRequired = true → ∃ value, (p.name, value) ∈ bound := by
  have hall : ∀ bound : Bound, (params.all fun p => !p.isRequired || bound.any (·.1 == p.name)) = true
      ↔ ∀ p ∈ params, p.isRequired = true → ∃ value, (p.name, value) ∈ bound := by
    intro bound
    simp only [List.all_eq_true, Bool.or_eq_true, Bool.not_eq_true', bound_any_iff,
      ← Bool.not_eq_true, ← imp_iff_not_or]
  constructor
  · rintro ⟨bound, hcall, hpassed, hrequired⟩
    obtain ⟨first, hfirst, hcall⟩ := Option.bind_eq_some_iff.mp hcall
    obtain ⟨bound', hbound, hcall⟩ := Option.bind_eq_some_iff.mp hcall
    split at hcall
    · cases hcall
      exact ⟨first, bound, hfirst, hbound, hpassed, hrequired⟩
    · cases hcall
  · rintro ⟨first, bound, hfirst, hbound, hpassed, hrequired⟩
    refine ⟨bound, ?_, hpassed, hrequired⟩
    unfold bindCall
    rw [hfirst]
    show (bindNames params first _).bind _ = _
    rw [hbound]
    show (if _ then some bound else none) = _
    rw [if_pos ((hall bound).mpr hrequired)]

/-! ### calls with names only -/

def namedArguments (passed : Bound) : List Argument := passed.map fun pair => .named pair.1 pair.2

theorem position?_namedArguments (passed : Bound) :
    (namedArguments passed).filterMap Argument.position? = [] := by
  induction passed with
  | nil => rfl
  | cons pair passed ih => exact ih

theorem name?_namedArguments (passed : Bound) :
    (namedArguments passed).filterMap Argument.name? = passed := by
  induction passed with
  | nil => rfl
  | cons pair passed ih => exact congrArg (pair :: ·) ih

/-- whether some parameter can be given by a name -/
def TakesName (params : List Param) (name : String) : Prop :=
  ∃ p ∈ params, p.name = name ∧ p.takesName = true

theorem any_takesName_iff {name : String} :
    (params.any fun p => p.name == name && p.takesName) = true ↔ TakesName params name := by
  simp only [List.any_eq_true, Bool.and_eq_true, beq_iff_eq]
  rfl

theorem mem_of_bindNames {bound result : Bound} {args : Bound}
    (h : bindNames params bound args = some result) :
    ∀ pair ∈ result, pair ∈ bound ∨ pair ∈ args ∧ TakesName params pair.1 := by
  induction args generalizing bound with
  | nil =>
    obtain rfl := Option.some.inj h
    exact fun pair hpair => .inl hpair
  | cons arg args ih =>
    obtain ⟨next, hnext, hrest⟩ := Option.bind_eq_some_iff.mp h
    intro pair hpair
    rcases ih hrest pair hpair with hpair | ⟨hpair, htakes⟩
    · unfold bindName at hnext
      split at hnext
      · next htakes =>
        split at hnext
        · cases hnext
        · obtain rfl := Option.some.inj hnext
          rcases List.mem_append.mp hpair with hpair | hpair
          · exact .inl hpair
          · rw [List.mem_singleton.mp hpair]
            exact .inr ⟨List.mem_cons_self, any_takesName_iff.mp htakes⟩
      · split at hnext
        · obtain rfl := Option.some.inj hnext
          exact .inl hpair
        · cases hnext
    · exact .inr ⟨List.mem_cons_of_mem _ hpair, htakes⟩

theorem bindNames_eq_append {bound args : Bound} (hnames : ((bound ++ args).map (·.1)).Nodup)
    (htakes : ∀ pair ∈ args, TakesName params pair.1) :
    bindNames params bound args = some (bound ++ args) := by
  induction args generalizing bound with
  | nil => rw [List.append_nil, bindNames]
  | cons arg args ih =>
    have hnew : bound.any (·.1 == arg.1) = false := by
      rw [Bool.eq_false_iff]
      intro hany
      obtain ⟨value, hmem⟩ := bound_any_iff.mp hany
      rw [List.map_append, List.nodup_append] at hnames
      exact hnames.2.2 _ (List.mem_map_of_mem hmem) _ List.mem_cons_self rfl
    have hbind : bindName params bound arg = some (bound ++ [arg]) := by
      unfold bindName
      rw [if_pos (any_takesName_iff.mpr (htakes arg List.mem_cons_self)), hnew]
      rfl
    unfold bindNames
    rw [hbind]
    show bindNames params (bound ++ [arg]) args = _
    rw [ih, List.append_assoc]
    · rfl
    · rw [List.append_assoc]
      exact hnames
    · exact fun pair hpair => htakes pair (List.mem_cons_of_mem _ hpair)

/-- A call with names only fits if parameters take all its names, and if it names all parameters
that have to be given. -/
theorem callFits_named_iff {passed : Bound} (hnames : (passed.map (·.1)).Nodup) :
    CallFits params (namedArguments passed) passed ↔
      (∀ pair ∈ passed, TakesName params pair.1) ∧
      ∀ p ∈ params, p.isRequired = true → p.name ∈ passed.map (·.1) := by
  rw [callFits_iff, position?_namedArguments, name?_namedArguments]
  constructor
  · rintro ⟨first, bound, hfirst, hbound, hpassed, hrequired⟩
    unfold bindPositions at hfirst
    obtain rfl := Option.some.inj hfirst
    have hmem : ∀ pair ∈ bound, pair ∈ passed ∧ TakesName params pair.1 := by
      intro pair hpair
      exact (mem_of_bindNames hbound pair hpair).resolve_left List.not_mem_nil
    refine ⟨fun pair hpair => (hmem pair (hpassed pair hpair)).2, fun p hp hreq => ?_⟩
    obtain ⟨value, hvalue⟩ := hrequired p hp hreq
    exact List.mem_map_of_mem (hmem _ hvalue).1
  · rintro ⟨htakes, hrequired⟩
    refine ⟨[], passed, by rw [bindPositions], bindNames_eq_append hnames htakes,
      fun pair hpair => hpair, fun p hp hreq => ?_⟩
    obtain ⟨pair, hpair, hname⟩ := List.mem_map.mp (hrequired p hp hreq)
    exact ⟨pair.2, by rw [← hname]; exact hpair⟩

/-! ### calls with positions only -/

def positionalArguments (passed : Bound) : List Argument :=
  passed.map fun pair => .positional pair.2

theorem position?_positionalArguments (passed : Bound) :
    (positionalArguments passed).filterMap Argument.position? = passed.map (·.2) := by
  induction passed with
  | nil => rfl
  | cons pair passed ih => exact congrArg (pair.2 :: ·) ih

theorem name?_positionalArguments (passed : Bound) :
    (positionalArguments passed).filterMap Argument.name? = [] := by
  induction passed with
  | nil => rfl
  | cons pair passed ih => exact ih

theorem snd_mem_of_bindPositions {more : Bool} {values : List String} {bound : Bound}
    (h : bindPositions more params values = some bound) : ∀ pair ∈ bound, pair.2 ∈ values := by
  fun_induction bindPositions more params values generalizing bound with
  | case1 => obtain rfl := Option.some.inj h; exact fun pair hpair => by cases hpair
  | case2 => obtain rfl := Option.some.inj h; exact fun pair hpair => by cases hpair
  | case3 => cases h
  | case4 p params value values ih =>
    obtain ⟨rest, hrest, rfl⟩ := Option.map_eq_some_iff.mp h
    intro pair hpair
    rcases List.mem_cons.mp hpair with rfl | hpair
    · exact List.mem_cons_self
    · exact List.mem_cons_of_mem _ (ih hrest pair hpair)

theorem bindPositions_of_leading {more : Bool} {passed : Bound}
    (h : passed.map (·.1) <+: params.map (·.name)) :
    bindPositions more params (passed.map (·.2)) = some passed := by
  induction passed generalizing params with
  | nil => rw [List.map_nil, bindPositions]
  | cons pair passed ih =>
    cases params with
    | nil => cases List.prefix_nil.mp h
    | cons p params =>
      obtain ⟨hfirst, hrest⟩ := List.cons_prefix_cons.mp h
      have hname : p.name = pair.1 := hfirst.symm
      rw [List.map_cons, bindPositions, ih hrest, hname]
      rfl

/-- where every value reaches the parameter of its name, these parameters come first -/
theorem leading_of_bindPositions {more : Bool} {passed bound : Bound}
    (hvalues : (passed.map (·.2)).Nodup)
    (h : bindPositions more params (passed.map (·.2)) = some bound)
    (hpassed : ∀ pair ∈ passed, pair ∈ bound) : passed.map (·.1) <+: params.map (·.name) := by
  induction passed generalizing params bound with
  | nil => exact List.nil_prefix
  | cons pair passed ih =>
    rw [List.map_cons, List.nodup_cons] at hvalues
    cases params with
    | nil =>
      rw [List.map_cons, bindPositions] at h
      split at h
      · obtain rfl := Option.some.inj h
        exact absurd (hpassed pair List.mem_cons_self) List.not_mem_nil
      · cases h
    | cons p params =>
      rw [List.map_cons, bindPositions] at h
      obtain ⟨rest, hrest, rfl⟩ := Option.map_eq_some_iff.mp h
      refine List.cons_prefix_cons.mpr ⟨?_, ih hvalues.2 hrest fun other hother => ?_⟩
      · rcases List.mem_cons.mp (hpassed pair List.mem_cons_self) with heq | hmem
        · exact congrArg Prod.fst heq
        · -- a later parameter would get the value a second time
          exact absurd (snd_mem_of_bindPositions hrest pair hmem) hvalues.1
      · rcases List.mem_cons.mp (hpassed other (List.mem_cons_of_mem _ hother)) with heq | hmem
        · -- the first value is passed to no other parameter
          have hvalue : other.2 = pair.2 := by rw [heq]
          refine absurd ?_ hvalues.1
          rw [← hvalue]
          exact List.mem_map_of_mem hother
        · exact hmem

/-- A call with positions only fits if the parameters that it passes come first among those that
take a position, and if it passes all parameters that have to be given. -/
theorem callFits_positional_iff {passed : Bound} (hvalues : (passed.map (·.2)).Nodup) :
    CallFits params (positionalArguments passed) passed ↔
      passed.map (·.1) <+: (params.filter (·.takesPosition)).map (·.name) ∧
      ∀ p ∈ params, p.isRequired = true → p.name ∈ passed.map (·.1) := by
  rw [callFits_iff, position?_positionalArguments, name?_positionalArguments]
  constructor
  · rintro ⟨first, bound, hfirst, hbound, hpassed, hrequired⟩
    unfold bindNames at hbound
    obtain rfl := Option.some.inj hbound
    have hleading := leading_of_bindPositions hvalues hfirst hpassed
    rw [bindPositions_of_leading hleading] at hfirst
    obtain rfl := Option.some.inj hfirst
    refine ⟨hleading, fun p hp hreq => ?_⟩
    obtain ⟨value, hvalue⟩ := hrequired p hp hreq
    exact List.mem_map_of_mem hvalue
  · rintro ⟨hleading, hrequired⟩
    refine ⟨passed, passed, bindPositions_of_leading hleading, by rw [bindNames],
      fun pair hpair => hpair, fun p hp hreq => ?_⟩
    obtain ⟨pair, hpair, hname⟩ := List.mem_map.mp (hrequired p hp hreq)
    exact ⟨pair.2, by rw [← hname]; exact hpair⟩

end RowMapping
