import RowMapping.Failure

/-!
# Steps that take names

A `Naming` step takes names from a supply and may fail.  The supply that it leaves behind goes to
the next step, also after a failure.
-/

namespace RowMapping

abbrev Naming := ExceptT Failure (StateM NameSupply)

namespace Naming
variable {α : Type}

def runFrom (step : Naming α) (s : NameSupply) : Except Failure α × NameSupply :=
  (ExceptT.run step).run s

def runFresh (step : Naming α) : Except Failure α := (step.runFrom .empty).1

/-- a result that needs no name -/
def ofExcept (result : Except Failure α) : Naming α := ExceptT.mk (Pure.pure result)

def newName (suggestion : String) : Naming String := modifyGet (·.newName suggestion)

def nameFor (tag : Tag) (suggestion : String) : Naming String := modifyGet (·.nameFor tag suggestion)

def newNameFor (tag : Tag) (suggestion : String) : Naming String := do
  match (← get).newNameFor tag suggestion with
  | .ok (name, s) =>
    set s
    return name
  | .error e => throw (.naming e)

def boundName (tag : Tag) : Naming String := do
  match (← get).get tag with
  | .ok name => return name
  | .error e => throw (.naming e)

/-! ### what the steps do -/

theorem runFrom_pure (x : α) (s : NameSupply) : runFrom (pure x) s = (.ok x, s) := rfl

theorem runFrom_throw (f : Failure) (s : NameSupply) :
    runFrom (throw f : Naming α) s = (.error f, s) := rfl

theorem runFrom_ofExcept (result : Except Failure α) (s : NameSupply) :
    runFrom (ofExcept result) s = (result, s) := rfl

theorem runFrom_newName (suggestion : String) (s : NameSupply) :
    runFrom (newName suggestion) s = (.ok (s.newName suggestion).1, (s.newName suggestion).2) := rfl

theorem runFrom_nameFor (tag : Tag) (suggestion : String) (s : NameSupply) :
    runFrom (nameFor tag suggestion) s
      = (.ok (s.nameFor tag suggestion).1, (s.nameFor tag suggestion).2) := rfl

theorem runFrom_bind {β : Type} (step : Naming α) (next : α → Naming β) (s : NameSupply) :
    runFrom (step >>= next) s = match runFrom step s with
      | (.ok x, s') => runFrom (next x) s'
      | (.error f, s') => (.error f, s') := by
  simp only [runFrom, ExceptT.run, bind, ExceptT.bind, ExceptT.mk, StateT.bind, StateT.run]
  rcases h : step s with ⟨r, s'⟩
  cases r <;> rfl

theorem runFrom_map {β : Type} (step : Naming α) (f : α → β) (s : NameSupply) :
    runFrom (f <$> step) s = ((runFrom step s).1.map f, (runFrom step s).2) := by
  rw [← bind_pure_comp, runFrom_bind]
  rcases h : runFrom step s with ⟨r, s'⟩
  cases r <;> rfl

end Naming
end RowMapping
