import RowMapping.Plan.Naming
import RowMapping.Proofs.Supply.Granted

/-!
# What steps that take names do

Each elementary step is described by what it grants, and a compound step that succeeds is taken
apart with `runFrom_bind_eq_ok`.
-/

namespace RowMapping
namespace Naming
open NameSupply
variable {α β : Type} {s s' : NameSupply}

theorem exists_ok_of_any {result : Except Failure α} {test : α → Bool}
    (h : result.toOption.any test = true) : ∃ x, result = .ok x ∧ test x = true := by
  cases result with
  | error f => cases h
  | ok x => exact ⟨x, rfl, h⟩

/-- a step whose result passes a test is a run to this result -/
theorem exists_runFrom_of_any {step : Naming α} {test : α → Bool}
    (h : (step.runFrom s).1.toOption.any test = true) :
    ∃ x s', step.runFrom s = (.ok x, s') ∧ test x = true := by
  rcases hrun : step.runFrom s with ⟨result, s'⟩
  rw [hrun] at h
  obtain ⟨x, rfl, hx⟩ := exists_ok_of_any h
  exact ⟨x, s', rfl, hx⟩

theorem runFrom_pure_eq_ok {x y : α} : runFrom (pure x) s = (.ok y, s') ↔ x = y ∧ s = s' := by
  rw [runFrom_pure, Prod.mk.injEq, Except.ok.injEq]

theorem runFrom_ofExcept_eq_ok {result : Except Failure α} {y : α} :
    runFrom (ofExcept result) s = (.ok y, s') ↔ result = .ok y ∧ s = s' := by
  rw [runFrom_ofExcept, Prod.mk.injEq]

theorem runFrom_throw_ne_ok {f : Failure} {y : α} : runFrom (throw f) s ≠ (.ok y, s') := by
  intro h
  rw [runFrom_throw] at h
  cases h

theorem runFrom_bind_eq_ok {step : Naming α} {next : α → Naming β} {y : β} :
    runFrom (step >>= next) s = (.ok y, s') ↔
      ∃ x s₁, runFrom step s = (.ok x, s₁) ∧ runFrom (next x) s₁ = (.ok y, s') := by
  rw [runFrom_bind]
  rcases hrun : runFrom step s with ⟨result, s₁⟩
  cases result with
  | error f =>
    constructor
    · intro h; cases h
    · rintro ⟨x, s₂, h, -⟩; cases h
  | ok x =>
    constructor
    · intro h; exact ⟨x, s₁, rfl, h⟩
    · rintro ⟨x', s₂, h, h'⟩; cases h; exact h'

theorem runFrom_map_eq_ok {step : Naming α} {f : α → β} {y : β} :
    runFrom (f <$> step) s = (.ok y, s') ↔ ∃ x, runFrom step s = (.ok x, s') ∧ f x = y := by
  rw [← bind_pure_comp, runFrom_bind_eq_ok]
  constructor
  · rintro ⟨x, s₁, hx, hy⟩
    obtain ⟨rfl, rfl⟩ := runFrom_pure_eq_ok.mp hy
    exact ⟨x, hx, rfl⟩
  · rintro ⟨x, hx, rfl⟩
    exact ⟨x, s', hx, runFrom_pure _ _⟩

/-! ### new names -/

theorem granted_newName {suggestion name : String}
    (h : runFrom (newName suggestion) s = (.ok name, s')) : Granted s [.plain name] s' := by
  rw [runFrom_newName] at h
  cases h
  exact .single (s.blocked_fresh suggestion)

theorem runFrom_newNameFor (tag : Tag) (suggestion : String) (s : NameSupply) :
    runFrom (newNameFor tag suggestion) s = match s.newNameFor tag suggestion with
      | .ok (name, s') => (.ok name, s')
      | .error e => (.error (.naming e), s) := by
  show runFrom ((get : Naming NameSupply) >>= _) s = _
  rw [runFrom_bind]
  show runFrom (match s.newNameFor tag suggestion with
    | .ok (name, s) => do set s; return name
    | .error e => throw (.naming e)) s = _
  rcases s.newNameFor tag suggestion with e | ⟨name, s₁⟩ <;> rfl

theorem exists_newNameFor {tag : Tag} (hfind : s.find? tag = none) (suggestion : String) :
    ∃ name s', runFrom (newNameFor tag suggestion) s = (.ok name, s') := by
  rw [runFrom_newNameFor, NameSupply.newNameFor, hfind]
  exact ⟨_, _, rfl⟩

theorem granted_newNameFor {tag : Tag} {suggestion name : String}
    (h : runFrom (newNameFor tag suggestion) s = (.ok name, s')) :
    s.find? tag = none ∧ Granted s [.tagged tag name] s' := by
  rw [runFrom_newNameFor, NameSupply.newNameFor] at h
  cases hfind : s.find? tag with
  | some bound => rw [hfind] at h; cases h
  | none =>
    rw [hfind] at h
    cases h
    exact ⟨rfl, .single (s.blocked_fresh suggestion)⟩

theorem granted_nameFor {tag : Tag} {suggestion name : String} (hfind : s.find? tag = none)
    (h : runFrom (nameFor tag suggestion) s = (.ok name, s')) :
    Granted s [.tagged tag name] s' := by
  rw [runFrom_nameFor, NameSupply.nameFor, hfind] at h
  cases h
  exact .single (s.blocked_fresh suggestion)

theorem runFrom_nameFor_of_bound {tag : Tag} {suggestion name : String}
    (hfind : s.find? tag = some name) : runFrom (nameFor tag suggestion) s = (.ok name, s) := by
  rw [runFrom_nameFor, NameSupply.nameFor, hfind]

/-- the name of a tag is bound to it, whether it is new or not -/
theorem exists_granted_nameFor {tag : Tag} {suggestion name : String}
    (h : runFrom (nameFor tag suggestion) s = (.ok name, s')) :
    s'.find? tag = some name ∧ ∃ gs, Granted s gs s' := by
  cases hfind : s.find? tag with
  | none =>
    have hgranted := granted_nameFor hfind h
    refine ⟨?_, _, hgranted⟩
    rw [hgranted.find?_eq, hfind, Option.none_or]
    exact List.lookup_cons_self
  | some bound =>
    rw [runFrom_nameFor_of_bound hfind] at h
    cases h
    exact ⟨hfind, [], .nil _⟩

/-- a name for a tag is always there, and nothing but this tag is bound on the way -/
theorem exists_nameFor (tag : Tag) (suggestion : String) (s : NameSupply) :
    ∃ name s' gs, runFrom (nameFor tag suggestion) s = (.ok name, s') ∧
      s'.find? tag = some name ∧ Granted s gs s' ∧ ∀ g ∈ gs, g.tag? = some tag := by
  have hrun := runFrom_nameFor tag suggestion s
  have hbound := (exists_granted_nameFor hrun).1
  cases hfind : s.find? tag with
  | none =>
    have hgranted := granted_nameFor hfind hrun
    refine ⟨_, _, _, hrun, hbound, hgranted, fun g hg => ?_⟩
    rw [List.mem_singleton.mp hg]
    rfl
  | some name => exact ⟨name, s, [], runFrom_nameFor_of_bound hfind, hfind, .nil _, nofun⟩

/-! ### bound names -/

theorem runFrom_boundName (tag : Tag) (s : NameSupply) :
    runFrom (boundName tag) s = match s.get tag with
      | .ok name => (.ok name, s)
      | .error e => (.error (.naming e), s) := by
  show runFrom ((get : Naming NameSupply) >>= _) s = _
  rw [runFrom_bind]
  show runFrom (match s.get tag with
    | .ok name => return name
    | .error e => throw (.naming e)) s = _
  rcases s.get tag with e | name <;> rfl

theorem runFrom_boundName_eq_ok {tag : Tag} {name : String} :
    runFrom (boundName tag) s = (.ok name, s') ↔ s.find? tag = some name ∧ s = s' := by
  rw [runFrom_boundName, NameSupply.get]
  cases s.find? tag with
  | none =>
    constructor
    · intro h; cases h
    · rintro ⟨h, -⟩; cases h
  | some bound =>
    constructor
    · intro h; cases h; exact ⟨rfl, rfl⟩
    · rintro ⟨h, rfl⟩; cases h; rfl

end Naming
end RowMapping
