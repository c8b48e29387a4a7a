import RowMapping.Proofs.Unit.Faults

/-!
# Units and plans on their own fail alike

A plan on its own is made over types as they are declared, and a unit over types as they are
imported.  Where all types can be imported, a unit with one routine fails exactly if the plan of
this routine does, and with the same failure but for the method that a contract asks for: this one
text shows the type of the property under its local names.

* `failsAlike_generateUnit`  both fail together, and with equal failures exactly if the type of the
  first faulty property is written in the same way under the local names of the unit.
-/

namespace RowMapping
open RowMapping.Text

/-- Two results fail together, with failures that agree but for the method that is asked for; they
are equal exactly if the first fault shows no local name. -/
structure FailsAlike {α β : Type} (aliases : Aliases) (faults : List Fault)
    (unit : Except Failure α) (plan : Except Failure β) : Prop where
  together : (∃ f, unit = .error f) ↔ ∃ f, plan = .error f
  alike : ∀ f f', unit = .error f → plan = .error f' → f.withoutExpected = f'.withoutExpected
  equal_iff : (∀ f, unit = .error f ↔ plan = .error f) ↔
    ∀ fault ∈ faults.head?, fault.NamedAlike aliases

theorem MeetsFaults.failsAlike {α β : Type} {aliases : Aliases} {faults faults' : List Fault}
    {unit : Except Failure α} {plan : Except Failure β} (hunit : MeetsFaults faults' unit)
    (hplan : MeetsFaults faults plan) (hunder : List.Forall₂ (FaultUnder aliases) faults faults') :
    FailsAlike aliases faults unit plan := by
  cases hunder with
  | nil =>
    obtain ⟨u, rfl⟩ := hunit
    obtain ⟨x, rfl⟩ := hplan
    refine ⟨?_, ?_, ?_⟩
    · simp
    · intro f f' hf
      cases hf
    · simp
  | @cons fault fault' _ _ hfirst _ =>
    obtain rfl : unit = .error fault'.failure := hunit
    obtain rfl : plan = .error fault.failure := hplan
    refine ⟨iff_of_true ⟨_, rfl⟩ ⟨_, rfl⟩, ?_, ?_⟩
    · intro f f' hf hf'
      cases hf
      cases hf'
      exact hfirst.alike
    · simp only [List.head?_cons, Option.mem_some_iff, forall_eq']
      rw [← hfirst.failure_eq_iff]
      constructor
      · intro h
        exact (Except.error.inj ((h fault'.failure).mp rfl)).symm
      · intro heq f
        rw [heq, Except.error.injEq, Except.error.injEq]

namespace Mapping
variable {m : Mapping} {target : TypeName} {ps : List Property} {c : Capabilities}

theorem generateUnit_of_isReachable (himports : ∀ t ∈ m.referencedTypes target ps, t.IsReachable) :
    m.generateUnit target ps c = (m.unitRun target ps c).1 := by
  unfold generateUnit
  rw [checkImportable_eq, importFailures_eq_nil_iff.mpr himports]
  rfl

/-- A unit that only reads fails like a read plan on its own, and a unit that only writes like a
write plan. -/
theorem failsAlike_generateUnit (himports : ∀ t ∈ m.referencedTypes target ps, t.IsReachable) :
    (c.generatesRead = true → c.generatesWrite = false → ∀ written byKeyword,
      FailsAlike (m.localNames target ps).aliases (m.planFaults { read := true, write := false } ps)
        (m.generateUnit target ps c) (m.readPlan written byKeyword none ps).runFresh) ∧
    (c.generatesRead = false → c.generatesWrite = true →
      FailsAlike (m.localNames target ps).aliases (m.planFaults { read := false, write := true } ps)
        (m.generateUnit target ps c) (m.writePlan none ps).runFresh) := by
  rw [generateUnit_of_isReachable himports]
  have hunit := m.meets_unitRun target ps c
  unfold unitFaults at hunit
  constructor
  · intro hread hwrite written byKeyword
    rw [hread, hwrite] at hunit
    exact hunit.failsAlike (m.meets_readPlan_fresh written byKeyword ps)
      (faultUnder_planFaults m _ _ ps)
  · intro hread hwrite
    rw [hread, hwrite] at hunit
    exact hunit.failsAlike (m.meets_writePlan_fresh ps) (faultUnder_planFaults m _ _ ps)

/-! ### users of another module -/

def userAdapterRef : ClassRef := { name := "UserAdapter", module := "app" }

/-- an owner of the type `other.User`, which an adapter without methods is to convert -/
def ownerProperties : List Property :=
  [{ name := "owner", type := { name := "User", module := "other" },
     conversion := .adapter userAdapterRef }]

set_option maxRecDepth 10000 in
/-- an adapter without methods is reported alike for a number, in both directions -/
theorem failsAlike_shade :
    (∀ t ∈ Mapping.default.referencedTypes userType shadeProperties, t.IsReachable) ∧
      (∀ f, Mapping.default.generateUnit userType shadeProperties { readsFromCursor := true }
          = .error f ↔
        (Mapping.default.readPlan userType false none shadeProperties).runFresh = .error f) ∧
      ∀ f, Mapping.default.generateUnit userType shadeProperties { valuesMethod := some "to_values" }
          = .error f ↔
        (Mapping.default.writePlan none shadeProperties).runFresh = .error f := by
  have himports : ∀ t ∈ Mapping.default.referencedTypes userType shadeProperties,
      t.IsReachable := importFailures_eq_nil_iff.mp (by decide +kernel)
  refine ⟨himports, ?_, ?_⟩
  · refine ((failsAlike_generateUnit himports).1 rfl rfl userType false).equal_iff.mpr ?_
    intro fault hfault
    cases hfault
    show (TypeName.int.aliased _).render = TypeName.int.render
    decide +kernel
  · refine ((failsAlike_generateUnit himports).2 rfl rfl).equal_iff.mpr ?_
    intro fault hfault
    cases hfault
    show (TypeName.int.aliased _).render = TypeName.int.render
    decide +kernel

set_option maxRecDepth 10000 in
/-- A type that a unit imports under a local name shows it where its adapter is reported. -/
theorem not_failsAlike_owner :
    (∀ t ∈ Mapping.default.referencedTypes userType ownerProperties, t.IsReachable) ∧
      Mapping.default.generateUnit userType ownerProperties { readsFromCursor := true }
        = .error (.contract ⟨userAdapterRef, "app.UserAdapter", "public method",
            "'from_cursor(self, cursor: Cursor, column_name: str) -> User_'", none⟩) ∧
      (Mapping.default.readPlan userType false none ownerProperties).runFresh
        = .error (.contract ⟨userAdapterRef, "app.UserAdapter", "public method",
            "'from_cursor(self, cursor: Cursor, column_name: str) -> User'", none⟩) := by
  have himports : ∀ t ∈ Mapping.default.referencedTypes userType ownerProperties,
      t.IsReachable := importFailures_eq_nil_iff.mp (by decide +kernel)
  refine ⟨himports, ?_, ?_⟩
  · refine generateUnit_eq_error_iff.mpr ?_
    decide +kernel
  · refine (meets_readPlan_fresh _ userType false ownerProperties).eq_error_iff.mpr ?_
    decide +kernel

end Mapping
end RowMapping
