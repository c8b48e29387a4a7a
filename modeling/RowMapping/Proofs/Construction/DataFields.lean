import Mathlib.Data.List.Nodup
import RowMapping.ClassTable.Properties
import RowMapping.Proofs.Construction.CallRules

/-!
# The fields that a constructor takes

A dataclass puts the fields of its ancestors and its own together, and its constructor has one
parameter for each of them that it takes: those given by position or by name first, and then those
given by name only.

* `nodup_dataFields`      a dataclass has one field of each name;
* `kind_ne_dataclass`     a class without such fields has no dataclass among its ancestors;
* `mem_constructorParams`, `filter_takesPosition_constructorParams`  the parameters are those of
  the fields that are taken, and the positions are those of the fields that are not keyword-only.
-/

namespace RowMapping

/-! ### the fields of dataclasses -/

theorem mem_of_mem_putField {f g : DataField} {fields : List DataField}
    (h : g ∈ putField f fields) : g = f ∨ g ∈ fields := by
  induction fields with
  | nil => exact .inl (List.mem_singleton.mp h)
  | cons other rest ih =>
    unfold putField at h
    split at h
    · rcases List.mem_cons.mp h with rfl | h
      · exact .inl rfl
      · exact .inr (List.mem_cons_of_mem _ h)
    · rcases List.mem_cons.mp h with rfl | h
      · exact .inr List.mem_cons_self
      · exact (ih h).imp_right (List.mem_cons_of_mem _)

theorem nodup_putField (f : DataField) {fields : List DataField}
    (h : (fields.map (·.field.name)).Nodup) : ((putField f fields).map (·.field.name)).Nodup := by
  induction fields with
  | nil => exact List.nodup_singleton _
  | cons g rest ih =>
    rw [List.map_cons, List.nodup_cons] at h
    unfold putField
    split
    · next hname =>
      rw [List.map_cons, List.nodup_cons, ← hname]
      exact h
    · next hname =>
      rw [List.map_cons, List.nodup_cons]
      refine ⟨fun hmem => ?_, ih h.2⟩
      obtain ⟨other, hother, heq⟩ := List.mem_map.mp hmem
      rcases mem_of_mem_putField hother with rfl | hother
      · exact hname heq.symm
      · exact h.1 (heq ▸ List.mem_map_of_mem hother)

theorem nodup_putFields {fields : List DataField} (others : List DataField)
    (h : (fields.map (·.field.name)).Nodup) :
    ((putFields fields others).map (·.field.name)).Nodup := by
  induction others generalizing fields with
  | nil => exact h
  | cons f others ih => exact ih (nodup_putField f h)

theorem nodup_foldl_putFields {fields : List DataField} (all : List (List DataField))
    (h : (fields.map (·.field.name)).Nodup) :
    ((all.foldl putFields fields).map (·.field.name)).Nodup := by
  induction all generalizing fields with
  | nil => exact h
  | cons others all ih => exact ih (nodup_putFields others h)

theorem nodup_dataFieldsFrom {t rest : ClassTable} {table : FieldTable}
    (h : ∀ entry ∈ table, (entry.2.map (·.field.name)).Nodup) :
    ∀ entry ∈ dataFieldsFrom t table rest, (entry.2.map (·.field.name)).Nodup := by
  induction rest generalizing table with
  | nil => exact h
  | cons i rest ih =>
    unfold dataFieldsFrom
    split
    · refine ih fun entry hentry => ?_
      rcases List.mem_cons.mp hentry with rfl | hentry
      · exact nodup_putFields _ (nodup_foldl_putFields _ List.nodup_nil)
      · exact h entry hentry
    · exact ih h

theorem isSome_lookup_dataFieldsFrom {t rest : ClassTable} {table : FieldTable} {cls : ClassRef}
    (h : (table.lookup cls).isSome = true ∨ ∃ i ∈ rest, i.ref = cls ∧ i.kind = .dataclass) :
    ((dataFieldsFrom t table rest).lookup cls).isSome = true := by
  induction rest generalizing table with
  | nil => exact h.resolve_right fun ⟨i, hi, _⟩ => List.not_mem_nil hi
  | cons i rest ih =>
    unfold dataFieldsFrom
    split
    · refine ih ?_
      by_cases hcls : cls = i.ref
      · -- a later body of the class stands in front of an earlier one
        left
        rw [hcls, List.lookup_cons_self]
        rfl
      · rw [List.lookup_cons, beq_eq_false_iff_ne.mpr hcls]
        refine h.imp_right fun ⟨j, hj, href, hkind⟩ => ⟨j, ?_, href, hkind⟩
        exact (List.mem_cons.mp hj).resolve_left fun heq => hcls (heq ▸ href.symm)
    · next hplain =>
      refine ih (h.imp_right fun ⟨j, hj, href, hkind⟩ => ⟨j, ?_, href, hkind⟩)
      exact (List.mem_cons.mp hj).resolve_left fun heq => hplain (heq ▸ hkind)

namespace ClassTable
variable {t : ClassTable} {cls : ClassRef}

theorem nodup_dataFields {fields : List DataField} (h : t.dataFields? cls = some fields) :
    (fields.map (·.field.name)).Nodup := by
  obtain ⟨base, -, hlookup⟩ := List.exists_of_findSome?_eq_some h
  obtain ⟨before, behind, htable, -⟩ := List.lookup_eq_some_iff.mp hlookup
  have hmem : (base, fields) ∈ dataFieldsFrom t [] t := by
    rw [htable]
    exact List.mem_append_right _ List.mem_cons_self
  have hnone : ∀ entry ∈ ([] : FieldTable), (entry.2.map (·.field.name)).Nodup := nofun
  exact nodup_dataFieldsFrom hnone _ hmem

/-- a class without the fields of a dataclass has no dataclass among its ancestors -/
theorem kind_ne_dataclass (h : t.dataFields? cls = none) :
    ∀ i ∈ t.ancestry cls, i.kind ≠ .dataclass := by
  intro i hi hkind
  obtain ⟨base, hbase, rfl⟩ := List.mem_map.mp hi
  have hmem : t.info base ∈ t := by
    rw [info] at hkind ⊢
    cases hfind : (t ++ Platform.classes).find? (·.ref = base) with
    | none => rw [hfind] at hkind; cases hkind
    | some j =>
      rw [hfind] at hkind
      refine (List.mem_append.mp (List.mem_of_find?_eq_some hfind)).resolve_right fun hplatform => ?_
      rcases List.mem_cons.mp hplatform with rfl | hplatform
      · cases hkind
      · rw [List.mem_singleton.mp hplatform] at hkind
        cases hkind
  have hsome : ((dataFieldsFrom t [] t).lookup base).isSome = true :=
    isSome_lookup_dataFieldsFrom (.inr ⟨_, hmem, t.info_ref base, hkind⟩)
  rw [List.findSome?_eq_none_iff.mp h base hbase] at hsome
  cases hsome

end ClassTable

/-! ### the parameters of fields -/

namespace DataField

/-- whether the constructor takes a field -/
def isTaken (f : DataField) : Bool := f.field.isInit && !f.field.hint.isClassVar

/-- whether a field is an initialiser, which the constructor takes and no value has -/
def isInitialiser (f : DataField) : Bool := f.field.hint.isInitVar

def param (f : DataField) : Param :=
  { name := f.field.name, hint := some f.field.hint
    kind := if f.keywordOnly then .keyword else .standard, hasDefault := f.field.hasDefault }

theorem isRequired_param (f : DataField) : f.param.isRequired = !f.field.hasDefault := by
  rcases f with ⟨field, _ | _⟩ <;> rfl

theorem takesName_param (f : DataField) : f.param.takesName = true := by
  rcases f with ⟨field, _ | _⟩ <;> rfl

theorem takesPosition_param (f : DataField) : f.param.takesPosition = !f.keywordOnly := by
  rcases f with ⟨field, _ | _⟩ <;> rfl

theorem map_name_param (fields : List DataField) :
    (fields.map param).map (·.name) = fields.map (·.field.name) := List.map_map

end DataField

namespace ClassTable
variable {fields : List DataField}

theorem isOwnField_eq (f : DataField) : isOwnField f = (f.isTaken && !f.isInitialiser) := rfl

def positionFields (fields : List DataField) : List DataField :=
  (fields.filter (·.isTaken)).filter (!·.keywordOnly)

def keywordFields (fields : List DataField) : List DataField :=
  (fields.filter (·.isTaken)).filter (·.keywordOnly)

theorem mem_positionFields {f : DataField} :
    f ∈ positionFields fields ↔ (f ∈ fields ∧ f.isTaken = true) ∧ f.keywordOnly = false := by
  unfold positionFields
  rw [List.mem_filter, List.mem_filter, Bool.not_eq_true']

theorem mem_keywordFields {f : DataField} :
    f ∈ keywordFields fields ↔ (f ∈ fields ∧ f.isTaken = true) ∧ f.keywordOnly = true := by
  unfold keywordFields
  rw [List.mem_filter, List.mem_filter]

theorem constructorParams_eq (fields : List DataField) :
    constructorParams fields =
      (positionFields fields).map DataField.param ++ (keywordFields fields).map DataField.param := by
  refine congrArg₂ (· ++ ·) (List.map_congr_left fun f hf => ?_) (List.map_congr_left fun f hf => ?_)
  · unfold DataField.param
    rw [(mem_positionFields.mp hf).2]
    rfl
  · unfold DataField.param
    rw [(mem_keywordFields.mp hf).2]
    rfl

theorem mem_constructorParams {p : Param} :
    p ∈ constructorParams fields ↔ ∃ f ∈ fields, f.isTaken = true ∧ f.param = p := by
  rw [constructorParams_eq, List.mem_append, List.mem_map, List.mem_map]
  constructor
  · rintro (⟨f, hf, rfl⟩ | ⟨f, hf, rfl⟩)
    · obtain ⟨⟨hmem, htaken⟩, -⟩ := mem_positionFields.mp hf
      exact ⟨f, hmem, htaken, rfl⟩
    · obtain ⟨⟨hmem, htaken⟩, -⟩ := mem_keywordFields.mp hf
      exact ⟨f, hmem, htaken, rfl⟩
  · rintro ⟨f, hmem, htaken, rfl⟩
    cases hkind : f.keywordOnly with
    | false => exact .inl ⟨f, mem_positionFields.mpr ⟨⟨hmem, htaken⟩, hkind⟩, rfl⟩
    | true => exact .inr ⟨f, mem_keywordFields.mpr ⟨⟨hmem, htaken⟩, hkind⟩, rfl⟩

/-- The parameters that take a position are those of the fields that are not keyword-only. -/
theorem filter_takesPosition_constructorParams (fields : List DataField) :
    (constructorParams fields).filter (·.takesPosition)
      = (positionFields fields).map DataField.param := by
  have hposition : ((positionFields fields).map DataField.param).filter (·.takesPosition)
      = (positionFields fields).map DataField.param := by
    rw [List.filter_eq_self]
    intro p hp
    obtain ⟨f, hf, rfl⟩ := List.mem_map.mp hp
    rw [f.takesPosition_param, (mem_positionFields.mp hf).2]
    rfl
  have hkeyword : ((keywordFields fields).map DataField.param).filter (·.takesPosition) = [] := by
    rw [List.filter_eq_nil_iff]
    intro p hp
    obtain ⟨f, hf, rfl⟩ := List.mem_map.mp hp
    rw [f.takesPosition_param, (mem_keywordFields.mp hf).2]
    exact Bool.false_ne_true
  rw [constructorParams_eq, List.filter_append, hposition, hkeyword, List.append_nil]

end ClassTable
end RowMapping
