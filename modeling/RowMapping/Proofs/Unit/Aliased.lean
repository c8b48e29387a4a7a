import RowMapping.GeneratedUnit.Basic
import RowMapping.Proofs.Plan.Faults
import RowMapping.Proofs.TypeName.Same

/-!
# Faults under local names

A unit is made over types as they are imported.  What is wrong with its properties is the same as
over types as they are declared, in the same order (`faultUnder_planFaults`): only the method that
a contract asks for is written with the local names, so a failure stays as it is unless it asks for
a method and its property's type is written in another way.
-/

namespace RowMapping

/-- a failure but for the method that it asks for -/
def Failure.withoutExpected : Failure → Failure
  | .contract c => .contract { c with expected := "" }
  | f => f

/-- whether a fault asks for a method, if at all, over a type that local names leave as it is -/
def Fault.NamedAlike (aliases : Aliases) (fault : Fault) : Prop :=
  match fault.failure with
  | .contract _ => (fault.property.type.aliased aliases).render = fault.property.type.render
  | _ => True

/-- the same fault of a property under local names -/
structure FaultUnder (aliases : Aliases) (fault fault' : Fault) : Prop where
  property : fault'.property = Mapping.aliasType aliases fault.property
  alike : fault'.failure.withoutExpected = fault.failure.withoutExpected
  failure_eq_iff : fault'.failure = fault.failure ↔ fault.NamedAlike aliases

namespace Mapping
variable (m : Mapping) (aliases : Aliases) (p : Property)

/-! ### what local names do not change -/

theorem operations?_aliasType : (aliasType aliases p).operations? = p.operations? := by
  unfold aliasType Property.operations?
  rcases p.type with ⟨name, module, args, nullable, localName⟩
  unfold TypeName.aliased
  rw [TypeName.aliasedAll_eq_map, classify, classify, List.isEmpty_map]
  rfl

theorem unsupported_aliasType (operation : Operation) :
    (aliasType aliases p).unsupported operation = p.unsupported operation := by
  unfold aliasType Property.unsupported
  rw [TypeName.declared_aliased]

theorem hasMethod_readShape_aliased (cls : ClassRef) (t : TypeName) :
    m.directory.hasMethod cls (m.readShape (t.aliased aliases))
      = m.directory.hasMethod cls (m.readShape t) :=
  Directory.hasMethod_congr rfl rfl rfl (TypeName.aliased_aliased aliases [] t)

theorem hasMethod_writeShape_aliased (cls : ClassRef) (t : TypeName) :
    m.directory.hasMethod cls (m.writeShape (t.aliased aliases))
      = m.directory.hasMethod cls (m.writeShape t) := by
  refine Directory.hasMethod_congr rfl rfl ?_ rfl
  show [_, _, (t.aliased aliases).aliased []] = [_, _, t.aliased []]
  rw [TypeName.aliased_aliased]

theorem hasMethod_factoryShape_aliased (cls : ClassRef) (t : TypeName) :
    m.directory.hasMethod cls (m.factoryShape (t.aliased aliases))
      = m.directory.hasMethod cls (m.factoryShape t) := by
  refine Directory.hasMethod_congr rfl rfl ?_ rfl
  show [(t.aliased aliases).aliased []] = [t.aliased []]
  rw [TypeName.aliased_aliased]

/-! ### faults -/

variable {m aliases p}

/-- a fault that shows no local name is the same under any -/
theorem faultUnder_of_eq {failure : Failure} (hcontract : ∀ c, failure ≠ .contract c) :
    FaultUnder aliases ⟨p, failure⟩ ⟨aliasType aliases p, failure⟩ := by
  refine ⟨rfl, rfl, iff_of_true rfl ?_⟩
  unfold Fault.NamedAlike
  split
  next c heq => exact absurd heq (hcontract c)
  next => exact trivial

/-- a missing method is asked for over the property's type, between texts without it -/
theorem faultUnder_contract {cls : ClassRef} {adapter shape before behind : String} :
    FaultUnder aliases
      ⟨p, .contract ⟨cls, adapter, shape, before ++ p.type.render ++ behind, p.site⟩⟩
      ⟨aliasType aliases p, .contract ⟨cls, adapter, shape,
        before ++ (p.type.aliased aliases).render ++ behind, p.site⟩⟩ := by
  refine ⟨rfl, rfl, ?_⟩
  show Failure.contract _ = Failure.contract _ ↔ _ = _
  rw [Failure.contract.injEq, ContractViolation.mk.injEq, String.append_left_inj,
    String.append_right_inj]
  exact ⟨fun h => h.2.2.2.1, fun h => ⟨rfl, rfl, rfl, h, rfl⟩⟩

theorem forall₂_guarded {b : Bool} {fault fault' : Fault} (h : FaultUnder aliases fault fault') :
    List.Forall₂ (FaultUnder aliases) (if b then [fault] else []) (if b then [fault'] else []) := by
  cases b with
  | true => exact .cons h .nil
  | false => exact .nil

theorem forall₂_contractFaults (directions : Directions) (p : Property) :
    List.Forall₂ (FaultUnder aliases) (m.contractFaults directions p)
      ((m.under aliases).contractFaults directions (aliasType aliases p)) := by
  have hadapter : (aliasType aliases p).adapter? = p.adapter? := rfl
  unfold contractFaults
  rw [hadapter]
  cases p.adapter? with
  | none => exact .nil
  | some cls =>
    have hname : ((m.under aliases).directory.typeName cls).qualifiedName
        = (m.directory.typeName cls).qualifiedName := TypeName.qualifiedName_aliased aliases _
    have hread := m.hasMethod_readShape_aliased aliases cls p.type
    have hwrite := m.hasMethod_writeShape_aliased aliases cls p.type
    refine List.rel_append ?_ ?_
    · show List.Forall₂ _ _ (if _ && !m.directory.hasMethod cls (m.readShape _) then _ else _)
      unfold violation
      rw [hname, ← hread]
      exact forall₂_guarded faultUnder_contract
    · show List.Forall₂ _ _ (if _ && !m.directory.hasMethod cls (m.writeShape _) then _ else _)
      unfold violation
      rw [hname, ← hwrite]
      exact forall₂_guarded faultUnder_contract

theorem forall₂_readFaults (p : Property) :
    List.Forall₂ (FaultUnder aliases) (m.readFaults p)
      ((m.under aliases).readFaults (aliasType aliases p)) := by
  have hadapter : (aliasType aliases p).adapter? = p.adapter? := rfl
  unfold readFaults
  rw [hadapter]
  cases p.adapter? with
  | some _ => exact .nil
  | none =>
    unfold nativeReadFaults
    rw [operations?_aliasType, unsupported_aliasType]
    cases p.operations? with
    | some ops =>
      show List.Forall₂ _ (if (m.settings.rowStore.getter? ops.accessor).isSome = true then _ else _)
        (if (m.settings.rowStore.getter? ops.accessor).isSome = true then _ else _)
      split
      next => exact .nil
      next => exact .cons (faultUnder_of_eq fun c h => by cases h) .nil
    | none =>
      show List.Forall₂ _ (if p.nullable && !p.hasExplicitColumn then _ else _)
        (if p.nullable && !p.hasExplicitColumn then _ else _)
      split
      next => exact .nil
      next => exact .cons (faultUnder_of_eq fun c h => by cases h) .nil

theorem faultUnder_factoryViolation (cls : ClassRef) :
    FaultUnder aliases ⟨p, m.factoryViolation p cls⟩
      ⟨aliasType aliases p, (m.under aliases).factoryViolation (aliasType aliases p) cls⟩ := by
  have hname : ((m.under aliases).directory.typeName cls).qualifiedName
      = (m.directory.typeName cls).qualifiedName := TypeName.qualifiedName_aliased aliases _
  have hexpected : ∀ type : String,
      "taking '" ++ type ++ "' and returning '" ++ m.settings.cellMapType.render ++ "'"
        = "taking '" ++ type ++ ("' and returning '" ++ m.settings.cellMapType.render ++ "'") := by
    intro type
    simp only [String.append_assoc]
  unfold factoryViolation
  rw [hname, hexpected]
  show FaultUnder _ _ ⟨_, .contract ⟨_, _, _, "taking '" ++ (p.type.aliased aliases).render
    ++ "' and returning '" ++ m.settings.cellMapType.render ++ "'", _⟩⟩
  rw [hexpected]
  exact faultUnder_contract

theorem forall₂_writeFaults (p : Property) :
    List.Forall₂ (FaultUnder aliases) (m.writeFaults p)
      ((m.under aliases).writeFaults (aliasType aliases p)) := by
  have hconversion : (aliasType aliases p).conversion = p.conversion := rfl
  unfold writeFaults
  rw [hconversion]
  cases p.conversion with
  | factory cls =>
    have hmethod := m.hasMethod_factoryShape_aliased aliases cls p.type
    show List.Forall₂ _ (if m.directory.hasMethod cls (m.factoryShape p.type) then [] else _)
      (if m.directory.hasMethod cls (m.factoryShape (p.type.aliased aliases)) then [] else _)
    rw [hmethod]
    cases m.directory.hasMethod cls (m.factoryShape p.type) with
    | true => exact .nil
    | false => exact .cons (faultUnder_factoryViolation cls) .nil
  | adapter cls => exact .nil
  | native =>
    show List.Forall₂ _ (if p.operations?.isSome then [] else _)
      (if (aliasType aliases p).operations?.isSome then [] else _)
    rw [operations?_aliasType]
    cases p.operations?.isSome with
    | true => exact .nil
    | false =>
      rw [unsupported_aliasType]
      exact .cons (faultUnder_of_eq fun c h => by cases h) .nil

theorem forall₂_flatMap_aliased {f g : Property → List Fault}
    (h : ∀ p, List.Forall₂ (FaultUnder aliases) (f p) (g (aliasType aliases p)))
    (ps : List Property) :
    List.Forall₂ (FaultUnder aliases) (ps.flatMap f) ((ps.map (aliasType aliases)).flatMap g) := by
  induction ps with
  | nil => exact .nil
  | cons p ps ih =>
    rw [List.map_cons, List.flatMap_cons, List.flatMap_cons]
    exact List.rel_append (h p) ih

/-- properties have the same faults under local names, in the same order -/
theorem faultUnder_planFaults (m : Mapping) (aliases : Aliases) (directions : Directions)
    (ps : List Property) :
    List.Forall₂ (FaultUnder aliases) (m.planFaults directions ps)
      ((m.under aliases).planFaults directions (ps.map (aliasType aliases))) := by
  unfold planFaults
  refine List.rel_append (List.rel_append ?_ ?_) ?_
  · exact forall₂_flatMap_aliased (forall₂_contractFaults directions) ps
  · cases directions.read with
    | true => exact forall₂_flatMap_aliased forall₂_readFaults ps
    | false => exact .nil
  · cases directions.write with
    | true => exact forall₂_flatMap_aliased forall₂_writeFaults ps
    | false => exact .nil

end Mapping
end RowMapping
