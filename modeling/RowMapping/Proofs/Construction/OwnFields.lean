import RowMapping.Proofs.Construction.DataFields

/-!
# The fields of a class without bases

A class without bases, described once, is its own only ancestor, whatever else stands in the table.
So it has the fields of its own body, in their order, if these have different names.

* `StandsAlone.ancestry_eq`  such a class is searched alone;
* `StandsAlone.dataFields?_eq`, `StandsAlone.dataFields?_eq_none`  a dataclass has its own fields,
  and another class has none of them;
* `StandsAlone.hintedFields_eq`  the search for hints finds the fields of the body.
-/

namespace RowMapping

/-! ### classes without bases -/

/-- A class that a table describes once, without bases. -/
structure StandsAlone (t : ClassTable) (i : ClassInfo) : Prop where
  mem : i ∈ t
  once : ∀ j ∈ t, j.ref = i.ref → j = i
  bases : i.bases = []

theorem standsAlone_singleton {i : ClassInfo} (h : i.bases = []) : StandsAlone [i] i :=
  ⟨List.mem_singleton_self i, fun _ hj _ => List.mem_singleton.mp hj, h⟩

theorem of_ordersFrom {cls : ClassRef} {rest : ClassTable} {orders : Orders}
    (h : ∀ j ∈ rest, j.ref = cls → j.bases = []) (horders : orders.of cls = [cls]) :
    (ordersFrom orders rest).of cls = [cls] := by
  induction rest generalizing orders with
  | nil => exact horders
  | cons j rest ih =>
    refine ih (fun k hk => h k (List.mem_cons_of_mem _ hk)) ?_
    by_cases hcls : cls = j.ref
    · have hbases : j.bases = [] := h j List.mem_cons_self hcls.symm
      rw [hcls, Orders.of, List.lookup_cons_self, Option.getD_some, orderFrom_of_no_bases _ hbases]
    · rw [Orders.of, List.lookup_cons, beq_eq_false_iff_ne.mpr hcls]
      exact horders

theorem lookup_dataFieldsFrom_eq_none {t rest : ClassTable} {table : FieldTable} {cls : ClassRef}
    (h : ∀ j ∈ rest, j.ref = cls → j.kind ≠ .dataclass) (htable : table.lookup cls = none) :
    (dataFieldsFrom t table rest).lookup cls = none := by
  induction rest generalizing table with
  | nil => exact htable
  | cons j rest ih =>
    have hrest : ∀ k ∈ rest, k.ref = cls → k.kind ≠ .dataclass :=
      fun k hk => h k (List.mem_cons_of_mem _ hk)
    unfold dataFieldsFrom
    split
    · next hkind =>
      have hne : cls ≠ j.ref := fun heq => h j List.mem_cons_self heq.symm hkind
      refine ih hrest ?_
      rw [List.lookup_cons, beq_eq_false_iff_ne.mpr hne]
      exact htable
    · exact ih hrest htable

theorem lookup_dataFieldsFrom_eq {t rest : ClassTable} {table : FieldTable} {i : ClassInfo}
    (horder : t.resolutionOrder i.ref = [i.ref]) (h : ∀ j ∈ rest, j.ref = i.ref → j = i)
    (htable : ∀ fields, table.lookup i.ref = some fields → fields = putFields [] i.ownFields) :
    ∀ fields, (dataFieldsFrom t table rest).lookup i.ref = some fields →
      fields = putFields [] i.ownFields := by
  induction rest generalizing table with
  | nil => exact htable
  | cons j rest ih =>
    have hrest : ∀ k ∈ rest, k.ref = i.ref → k = i := fun k hk => h k (List.mem_cons_of_mem _ hk)
    unfold dataFieldsFrom
    split
    · refine ih hrest fun fields hlookup => ?_
      by_cases hcls : i.ref = j.ref
      · obtain rfl : j = i := h j List.mem_cons_self hcls.symm
        rw [List.lookup_cons_self, horder] at hlookup
        exact (Option.some.inj hlookup).symm
      · rw [List.lookup_cons, beq_eq_false_iff_ne.mpr hcls] at hlookup
        exact htable fields hlookup
    · exact ih hrest htable

/-! ### fields of different names -/

/-- To put entries one after the other appends them, where each is put behind all others as long
as its key is new. -/
theorem foldl_eq_append_of_nodup {α : Type} {key : α → String} {put : α → List α → List α}
    (hput : ∀ a as, key a ∉ as.map key → put a as = as ++ [a]) (as bs : List α)
    (h : ((as ++ bs).map key).Nodup) : bs.foldl (fun all b => put b all) as = as ++ bs := by
  induction bs generalizing as with
  | nil => exact (List.append_nil as).symm
  | cons b bs ih =>
    have hnew : key b ∉ as.map key := by
      rw [List.map_append, List.nodup_append] at h
      exact fun hmem => h.2.2 _ hmem _ List.mem_cons_self rfl
    rw [List.append_cons] at h
    rw [List.foldl_cons, hput b as hnew, ih _ h, ← List.append_cons]

theorem putField_of_new (f : DataField) (fields : List DataField)
    (h : f.field.name ∉ fields.map (·.field.name)) : putField f fields = fields ++ [f] := by
  induction fields with
  | nil => rfl
  | cons g rest ih =>
    rw [List.map_cons, List.mem_cons, not_or] at h
    rw [putField, if_neg (Ne.symm h.1), ih h.2]
    rfl

theorem putHint_of_new (f : Field) (fields : List Field) (h : f.name ∉ fields.map (·.name)) :
    ClassTable.putHint f fields = fields ++ [f] := by
  induction fields with
  | nil => rfl
  | cons g rest ih =>
    rw [List.map_cons, List.mem_cons, not_or] at h
    rw [ClassTable.putHint, if_neg (Ne.symm h.1), ih h.2]
    rfl

namespace StandsAlone
variable {t : ClassTable} {i : ClassInfo}

theorem resolutionOrder_eq (h : StandsAlone t i) : t.resolutionOrder i.ref = [i.ref] :=
  of_ordersFrom (fun j hj href => by rw [h.once j hj href, h.bases]) rfl

theorem ancestry_eq (h : StandsAlone t i) : t.ancestry i.ref = [i] := by
  have hsome : (t.find? (·.ref = i.ref)).isSome = true :=
    List.find?_isSome.mpr ⟨i, h.mem, decide_eq_true rfl⟩
  obtain ⟨j, hj⟩ := Option.isSome_iff_exists.mp hsome
  have href : j.ref = i.ref := by simpa using List.find?_some hj
  obtain rfl : j = i := h.once j (List.mem_of_find?_eq_some hj) href
  have hinfo : t.info j.ref = j := by
    rw [ClassTable.info, List.find?_append, hj, Option.some_or, Option.getD_some]
  rw [ClassTable.ancestry, h.resolutionOrder_eq, List.map_singleton, hinfo]

theorem dataFields?_eq_none (h : StandsAlone t i) (hkind : i.kind ≠ .dataclass) :
    t.dataFields? i.ref = none := by
  have hplain : ∀ j ∈ t, j.ref = i.ref → j.kind ≠ .dataclass := by
    intro j hj href
    rw [h.once j hj href]
    exact hkind
  rw [ClassTable.dataFields?, h.resolutionOrder_eq, FieldTable.first?, List.findSome?_singleton]
  exact lookup_dataFieldsFrom_eq_none hplain rfl

theorem dataFields?_eq (h : StandsAlone t i) (hkind : i.kind = .dataclass)
    (hnames : (i.fields.map (·.name)).Nodup) : t.dataFields? i.ref = some i.ownFields := by
  have hsome : ((dataFieldsFrom t [] t).lookup i.ref).isSome = true :=
    isSome_lookup_dataFieldsFrom (.inr ⟨i, h.mem, rfl, hkind⟩)
  obtain ⟨fields, hfields⟩ := Option.isSome_iff_exists.mp hsome
  have hown : fields = putFields [] i.ownFields :=
    lookup_dataFieldsFrom_eq h.resolutionOrder_eq h.once (fun _ hnone => by cases hnone) fields
      hfields
  have hnodup : (i.ownFields.map (·.field.name)).Nodup := by
    rw [ClassInfo.ownFields, List.map_map]
    exact hnames
  have hput : putFields [] i.ownFields = i.ownFields :=
    foldl_eq_append_of_nodup putField_of_new [] i.ownFields hnodup
  rw [ClassTable.dataFields?, h.resolutionOrder_eq, FieldTable.first?, List.findSome?_singleton,
    hfields, hown, hput]

theorem hintedFields_eq (h : StandsAlone t i) (hnames : (i.fields.map (·.name)).Nodup) :
    t.hintedFields i.ref = i.fields := by
  rw [ClassTable.hintedFields, h.ancestry_eq, List.reverse_singleton, List.flatMap_singleton]
  exact foldl_eq_append_of_nodup putHint_of_new [] i.fields hnames

end StandsAlone
end RowMapping
