/-!
# Steps that may fail

What comes of a step whose error is rewritten, and of one step behind another: a result only if both
have one, and else the first error.  A step of which all results and errors are known has no other
ones: `eq_iff_of_total`.
-/

namespace RowMapping
variable {ε ε' α β : Type} {x : Except ε α} {f : ε → ε'} {next : α → Except ε β}

theorem mapError_eq_ok_iff {y : α} : x.mapError f = .ok y ↔ x = .ok y := by
  cases x with
  | error e => exact iff_of_false (fun h => by cases h) (fun h => by cases h)
  | ok z => exact ⟨fun h => congrArg _ (Except.ok.inj h), fun h => congrArg _ (Except.ok.inj h)⟩

theorem mapError_eq_error_iff {e' : ε'} :
    x.mapError f = .error e' ↔ ∃ e, x = .error e ∧ f e = e' := by
  cases x with
  | error e =>
    constructor
    · intro h
      exact ⟨e, rfl, Except.error.inj h⟩
    · rintro ⟨e, he, rfl⟩
      cases he
      rfl
  | ok z => exact iff_of_false (fun h => by cases h) (fun ⟨_, h, _⟩ => by cases h)

theorem map_eq_ok_iff {g : α → β} {y : β} : x.map g = .ok y ↔ ∃ z, x = .ok z ∧ g z = y := by
  cases x with
  | error e => exact iff_of_false (fun h => by cases h) (fun ⟨_, h, _⟩ => by cases h)
  | ok z =>
    constructor
    · intro h
      exact ⟨z, rfl, Except.ok.inj h⟩
    · rintro ⟨w, hw, rfl⟩
      cases hw
      rfl

theorem bind_eq_ok_iff {y : β} : (x >>= next) = .ok y ↔ ∃ z, x = .ok z ∧ next z = .ok y := by
  cases x with
  | error e => exact iff_of_false (fun h => by cases h) (fun ⟨_, h, _⟩ => by cases h)
  | ok z =>
    constructor
    · intro h
      exact ⟨z, rfl, h⟩
    · rintro ⟨w, hw, h⟩
      cases hw
      exact h

theorem bind_eq_error_iff {e : ε} :
    (x >>= next) = .error e ↔ x = .error e ∨ ∃ z, x = .ok z ∧ next z = .error e := by
  cases x with
  | error other =>
    constructor
    · intro h
      exact .inl (congrArg _ (Except.error.inj h))
    · rintro (h | ⟨_, h, _⟩)
      · exact congrArg _ (Except.error.inj h)
      · cases h
  | ok z =>
    constructor
    · intro h
      exact .inr ⟨z, rfl, h⟩
    · rintro (h | ⟨w, hw, h⟩)
      · cases h
      · cases hw
        exact h

/-- a step has the results and errors that it is known to have, if those are all cases -/
theorem eq_iff_of_total {Results : α → Prop} {Errors : ε → Prop}
    (hresult : ∀ y, Results y → x = .ok y) (herror : ∀ e, Errors e → x = .error e)
    (htotal : (∃ y, Results y) ∨ ∃ e, Errors e) :
    (∀ y, x = .ok y ↔ Results y) ∧ ∀ e, x = .error e ↔ Errors e := by
  obtain ⟨y, hy⟩ | ⟨e, he⟩ := htotal
  · refine ⟨fun z => ⟨fun h => ?_, hresult z⟩, fun e => ⟨fun h => ?_, herror e⟩⟩
    · rw [hresult y hy] at h
      cases h
      exact hy
    · rw [hresult y hy] at h
      cases h
  · refine ⟨fun y => ⟨fun h => ?_, hresult y⟩, fun e' => ⟨fun h => ?_, herror e'⟩⟩
    · rw [herror e he] at h
      cases h
    · rw [herror e he] at h
      cases h
      exact he

end RowMapping
