import RowMapping.Catalog
import RowMapping.Settings.Given

/-!
# Accessors of accepted settings

Accessors that a data value or a dictionary names go over the default ones kind by kind, and of
several entries of one kind the last one counts.  So settings that were accepted from data have an
accessor for every kind that has one by default: all kinds but booleans, which are read through the
accessor of another kind.  A mapping that is no dictionary has no more accessors than it names.

* `getter?_of_ofGiven`  the accessors of accepted settings: those that are named, and, where they
  go over the defaults, the default ones of all other kinds;
* `accessor_ne_boolean_of_classify`  a native type is read through an accessor of another kind than
  booleans;
* `readsNatives_of_ofGiven`  hence every native type is read, through that accessor, exactly if the
  accessors go over the defaults, or all kinds but booleans are named.
-/

namespace RowMapping

namespace Value
variable {key other : String} {v : Value} {entries : List (String × Value)}

theorem lookup_setKey_of_ne (hne : other ≠ key) :
    (setKey key v entries).lookup other = entries.lookup other := by
  have hkey : (other == key) = false := beq_eq_false_iff_ne.mpr hne
  induction entries with
  | nil => rw [setKey_nil, List.lookup_cons, hkey]
  | cons entry rest ih =>
    obtain ⟨k, w⟩ := entry
    unfold setKey
    split
    next hk =>
      rw [hk, List.lookup_cons, List.lookup_cons, hkey]
    next hk =>
      rw [List.lookup_cons, List.lookup_cons, ih]

theorem lookup_setKey (key other : String) (v : Value) (entries : List (String × Value)) :
    (setKey key v entries).lookup other = ([(key, v)].lookup other).or (entries.lookup other) := by
  by_cases hne : other = key
  · rw [hne, lookup_setKey_self, List.lookup_cons_self, Option.some_or]
  · have hkey : (other == key) = false := beq_eq_false_iff_ne.mpr hne
    rw [lookup_setKey_of_ne hne, List.lookup_cons, hkey, List.lookup_nil, Option.none_or]

/-- of keys that are set one after the other, the last one of a name counts -/
theorem lookup_foldl_setKey (key : String) (entries all : List (String × Value)) :
    (entries.foldl (fun all e => setKey e.1 e.2 all) all).lookup key =
      (entries.reverse.lookup key).or (all.lookup key) := by
  induction entries generalizing all with
  | nil => rfl
  | cons entry rest ih =>
    rw [List.foldl_cons, ih, lookup_setKey, List.reverse_cons, List.lookup_append, Option.or_assoc]

/-- the value of the last entry of a key -/
def last? (key : String) : Value → Option Value
  | table entries => entries.reverse.lookup key
  | _ => none

/-- what a data value names as the accessor of cells of a kind -/
def namedGetter? (v : Value) (kind : CellKind) : Option Value :=
  (v.get? "row_store").bind fun store => (store.get? "getters").bind (last? kind.text)

end Value

theorem CellKind.text_injective {kind other : CellKind} (h : kind.text = other.text) :
    kind = other := by
  have hkind := ofText?_text kind
  rw [h, ofText?_text] at hkind
  exact (Option.some.inj hkind).symm

theorem CellKind.text_of_ofText? {key : String} {kind : CellKind} (h : ofText? key = some kind) :
    kind.text = key := by
  unfold ofText? at h
  simpa using List.find?_some h

/-! ### values without faults -/

section checked
variable {α : Type} {path : List String} {v : Value}

theorem Checked.toExcept_eq_ok_iff {c : Checked α} {x : α} :
    c.toExcept = .ok x ↔ c.issues = [] ∧ c.value = x := by
  unfold toExcept
  rw [← List.isEmpty_iff]
  cases c.issues.isEmpty <;> simp

theorem Checked.issues_seq_iff {β : Type} {f : Checked (α → β)} {x : Checked α} :
    (f.seq x).issues = [] ↔ f.issues = [] ∧ x.issues = [] := List.append_eq_nil_iff

theorem eq_text_of_checkText {fallback : String} (h : (checkText fallback path v).issues = []) :
    v = .text (checkText fallback path v).value := by
  cases v with
  | text s => rfl
  | _ => cases h

theorem exists_table_of_group {check : List String → List (String × Value) → Checked α}
    {fallback : α} (h : (group check fallback path v).issues = []) :
    ∃ entries, v = .table entries ∧ (check path entries).issues = [] ∧
      (group check fallback path v).value = (check path entries).value := by
  cases v with
  | table entries => exact ⟨entries, rfl, h, rfl⟩
  | _ => cases h

/-- A setting without faults has its default if its key is missing, and else what was checked. -/
theorem setting_of_no_issues {P : Option Value → α → Prop}
    {check : List String → Value → Checked α} {fallback : α} {entries : List (String × Value)}
    {key : String} (hmissing : P none fallback)
    (hcheck : ∀ path v, (check path v).issues = [] → P (some v) (check path v).value)
    (h : (setting check fallback path entries key).issues = []) :
    P (entries.lookup key) (setting check fallback path entries key).value := by
  unfold setting at h ⊢
  cases hlookup : entries.lookup key with
  | none => exact hmissing
  | some v =>
    rw [hlookup] at h
    exact hcheck _ v h

end checked

/-! ### checked accessors -/

theorem exists_of_checkGetter {path : List String} {entry : String × Value}
    (h : (checkGetter path entry).issues = []) : ∃ (kind : CellKind) (name : String),
      entry = (kind.text, .text name) ∧ (checkGetter path entry).value = [(kind, name)] := by
  obtain ⟨key, v⟩ := entry
  unfold checkGetter at h ⊢
  cases hkind : CellKind.ofText? key with
  | none =>
    rw [hkind] at h
    cases h
  | some kind =>
    rw [hkind] at h
    refine ⟨kind, _, ?_, rfl⟩
    rw [CellKind.text_of_ofText? hkind, ← eq_text_of_checkText h]

theorem eq_map_of_checkGetterEntries {path : List String} {entries : List (String × Value)}
    (h : (checkGetterEntries path entries).issues = []) : entries =
      (checkGetterEntries path entries).value.map fun g => (g.1.text, .text g.2) := by
  induction entries with
  | nil => rfl
  | cons entry rest ih =>
    obtain ⟨hfirst, hrest⟩ := List.append_eq_nil_iff.mp h
    obtain ⟨kind, name, rfl, hvalue⟩ := exists_of_checkGetter hfirst
    have hentries : (checkGetterEntries path ((kind.text, .text name) :: rest)).value =
        (kind, name) :: (checkGetterEntries path rest).value :=
      congrArg (· ++ _) hvalue
    rw [hentries, List.map_cons, ← ih hrest]

theorem lookup_map_text (getters : Getters) (kind : CellKind) :
    (getters.map fun g => (g.1.text, Value.text g.2)).lookup kind.text =
      (getters.lookup kind).map Value.text := by
  induction getters with
  | nil => rfl
  | cons g rest ih =>
    obtain ⟨other, name⟩ := g
    rw [List.map_cons, List.lookup_cons, List.lookup_cons]
    by_cases hkind : kind = other
    · rw [hkind, beq_self_eq_true, beq_self_eq_true]
      rfl
    · have htext : (kind.text == other.text) = false :=
        beq_eq_false_iff_ne.mpr fun heq => hkind (CellKind.text_injective heq)
      rw [beq_eq_false_iff_ne.mpr hkind, htext]
      exact ih

/-- the accessors are those that are named, and the default ones of all other kinds -/
def Getters.Follow (getters : Getters) (named : CellKind → Option Value) : Prop :=
  ∀ kind, (getters.lookup kind).map Value.text =
    (named kind).or ((defaultGetters.lookup kind).map Value.text)

theorem follow_default : Getters.Follow defaultGetters fun _ => none := fun _ => rfl

theorem follow_overDefaults {path : List String} {entries : List (String × Value)}
    (h : (checkGetterEntries path (overDefaults entries)).issues = []) :
    (checkGetterEntries path (overDefaults entries)).value.Follow fun kind =>
      entries.reverse.lookup kind.text := by
  intro kind
  rw [← lookup_map_text, ← eq_map_of_checkGetterEntries h, overDefaults,
    Value.lookup_foldl_setKey, defaultEntries, lookup_map_text]

theorem follow_checkGetters {path : List String} {v : Value}
    (h : (checkGetters path v).issues = []) :
    (checkGetters path v).value.Follow fun kind => v.last? kind.text := by
  cases v with
  | table entries => exact follow_overDefaults h
  | _ => cases h

/-! ### accepted settings -/

theorem of_checkRowStoreOver {getters : Checked Getters} {path : List String}
    {entries : List (String × Value)} (h : (checkRowStoreOver getters path entries).issues = []) :
    getters.issues = [] ∧ (checkRowStoreOver getters path entries).value.getters = getters.value :=
  ⟨(Checked.issues_seq_iff.mp h).2, rfl⟩

theorem of_checkSettingsOver {rowStore : Checked RowStoreSettings} {path : List String}
    {entries : List (String × Value)} (h : (checkSettingsOver rowStore path entries).issues = []) :
    rowStore.issues = [] ∧
      (checkSettingsOver rowStore path entries).value.rowStore = rowStore.value := by
  simp only [checkSettingsOver, Checked.issues_seq_iff] at h
  obtain ⟨⟨⟨⟨⟨⟨⟨⟨-, hstore⟩, -⟩, -⟩, -⟩, -⟩, -⟩, -⟩, -⟩ := h
  exact ⟨hstore, rfl⟩

theorem follow_checkRowStore {path : List String} {entries : List (String × Value)}
    (h : (checkRowStore path entries).issues = []) :
    (checkRowStore path entries).value.getters.Follow fun kind =>
      (entries.lookup "getters").bind (Value.last? kind.text) := by
  obtain ⟨hgetters, hvalue⟩ := of_checkRowStoreOver h
  have hfollow := setting_of_no_issues
    (P := fun v getters => getters.Follow fun kind => v.bind (Value.last? kind.text))
    follow_default (fun _ _ => follow_checkGetters) hgetters
  rwa [← hvalue] at hfollow

/-- Accepted data have the accessors that they name, and the default ones of all other kinds. -/
theorem follow_of_ofValue {v : Value} {s : Settings} (h : Settings.ofValue v = .ok s) :
    s.rowStore.getters.Follow v.namedGetter? := by
  obtain ⟨hissues, rfl⟩ := Checked.toExcept_eq_ok_iff.mp h
  obtain ⟨entries, rfl, hissues, hvalue⟩ := exists_table_of_group hissues
  obtain ⟨hstore, hrow⟩ := of_checkSettingsOver hissues
  have hrow : (checkSettings [] entries).value.rowStore = _ := hrow
  rw [hvalue, hrow]
  refine setting_of_no_issues (P := fun store (r : RowStoreSettings) => r.getters.Follow fun kind =>
    store.bind fun store => (store.get? "getters").bind (Value.last? kind.text))
    follow_default (fun path v hv => ?_) hstore
  obtain ⟨store, rfl, hv, hvalue⟩ := exists_table_of_group hv
  rw [hvalue]
  exact follow_checkRowStore hv

/-- what a mapping names as the accessor of cells of a kind, by its last entry for the kind -/
def GivenGetters.named? (g : GivenGetters) (kind : CellKind) : Option Value :=
  g.byText.reverse.lookup kind.text

namespace GivenSettings

/-- what settings name as the accessor of cells of a kind -/
def namedGetter? : GivenSettings → CellKind → Option Value
  | data v, kind => v.namedGetter? kind
  | mapped _ _ getters, kind => getters.named? kind
  | stored _ rowStore, kind => (rowStore.getter? kind).map .text
  | made s, kind => (s.rowStore.getter? kind).map .text

/-- whether the accessors that settings name go over the default ones -/
def keepsDefaults : GivenSettings → Bool
  | data _ => true
  | mapped _ _ getters => getters.isDictionary
  | stored _ _ => false
  | made _ => false

/-- the accessor for cells of a kind: the one that is named, or else the default one if it is kept;
there is none otherwise -/
inductive Answers (given : GivenSettings) (kind : CellKind) : Option String → Prop where
  | named {getter : String} : given.namedGetter? kind = some (.text getter) →
      Answers given kind (some getter)
  | kept {getter : String} : given.namedGetter? kind = none → given.keepsDefaults = true →
      defaultGetters.lookup kind = some getter → Answers given kind (some getter)
  | missing : given.namedGetter? kind = none → given.keepsDefaults = false →
      Answers given kind none

end GivenSettings

theorem lookup_check {path : List String} {g : GivenGetters} (h : (g.check path).issues = [])
    (kind : CellKind) : ((g.check path).value.lookup kind).map Value.text =
      (g.named? kind).or
        (if g.isDictionary then (defaultGetters.lookup kind).map Value.text else none) := by
  unfold GivenGetters.check at h ⊢
  split at h
  next hdictionary =>
    rw [if_pos hdictionary, if_pos hdictionary]
    exact follow_overDefaults h kind
  next hdictionary =>
    rw [if_neg hdictionary, if_neg hdictionary, Option.or_none]
    show ((checkGetterEntries path g.byText).value.reverse.lookup kind).map Value.text = _
    rw [← lookup_map_text, List.map_reverse, ← eq_map_of_checkGetterEntries h]
    rfl

/-- Accepted settings have the accessors that are named, and the default ones of all other kinds if
the accessors go over these. -/
theorem getter?_of_ofGiven {given : GivenSettings} {s : Settings}
    (h : Settings.ofGiven given = .ok s) (kind : CellKind) :
    (s.rowStore.getter? kind).map Value.text = (given.namedGetter? kind).or
      (if given.keepsDefaults then (defaultGetters.lookup kind).map Value.text else none) := by
  cases given with
  | data v => exact follow_of_ofValue h kind
  | mapped entries rowStore getters =>
    obtain ⟨hissues, rfl⟩ := Checked.toExcept_eq_ok_iff.mp h
    obtain ⟨hstore, hrow⟩ := of_checkSettingsOver hissues
    obtain ⟨hgetters, hvalue⟩ := of_checkRowStoreOver hstore
    rw [RowStoreSettings.getter?, hrow, hvalue]
    exact lookup_check hgetters kind
  | stored entries rowStore =>
    obtain ⟨hissues, rfl⟩ := Checked.toExcept_eq_ok_iff.mp h
    rw [(of_checkSettingsOver hissues).2]
    exact Option.or_none.symm
  | made =>
    cases h
    exact Option.or_none.symm

/-- no native type is read through an accessor of booleans -/
theorem accessor_ne_boolean_of_classify {t : TypeName} {ops : CellOperations}
    (h : classify t = some ops) : ops.accessor ≠ .boolean := by
  have hcatalog : ∀ entry ∈ catalog, entry.2.accessor ≠ .boolean := by decide
  unfold classify at h
  split at h
  · obtain ⟨before, behind, hentries, -⟩ := List.lookup_eq_some_iff.mp h
    refine hcatalog (t.qualifiedName, ops) ?_
    rw [hentries]
    exact List.mem_append_right _ List.mem_cons_self
  · cases h

/-! ### native types -/

theorem readExpression_eq (ops : CellOperations) (s : Settings) (cursor index : String) :
    ops.readExpression s cursor index = match s.rowStore.getter? ops.accessor with
      | some getter => .ok (cursor ++ "." ++ getter ++ "(" ++ index ++ ")" ++
          ops.narrowing.elim "" (" " ++ ·))
      | none => .error (.noGetter ops.accessor) := by
  unfold CellOperations.readExpression RowStoreSettings.getter
  cases s.rowStore.getter? ops.accessor with
  | none => rfl
  | some getter =>
    cases ops.narrowing with
    | none => exact congrArg Except.ok String.append_empty.symm
    | some narrowing => exact congrArg Except.ok String.append_assoc

/-- every kind of cells but booleans is that of a native type which is read through it -/
theorem exists_classify_accessor {kind : CellKind} (h : kind ≠ .boolean) :
    ∃ t ops, classify t = some ops ∧ ops.accessor = kind := by
  cases kind with
  | string => exact ⟨{ name := "str" }, .plain .string, by decide +kernel, rfl⟩
  | int => exact ⟨{ name := "int" }, .plain .int, by decide +kernel, rfl⟩
  | long =>
    exact ⟨{ name := "Int64", module := "row_gen.annotations" }, .plain .long, by decide +kernel,
      rfl⟩
  | short =>
    exact ⟨{ name := "Int16", module := "row_gen.annotations" }, .plain .short, by decide +kernel,
      rfl⟩
  | float =>
    exact ⟨{ name := "Float32", module := "row_gen.annotations" }, .plain .float,
      by decide +kernel, rfl⟩
  | double => exact ⟨{ name := "float" }, .plain .double, by decide +kernel, rfl⟩
  | boolean => exact absurd rfl h
  | blob => exact ⟨{ name := "bytes" }, .plain .blob, by decide +kernel, rfl⟩

/-- Accepted settings answer for each kind but booleans with the accessor that they have. -/
theorem answers_getter? {given : GivenSettings} {s : Settings} (h : Settings.ofGiven given = .ok s)
    {kind : CellKind} (hkind : kind ≠ .boolean) : given.Answers kind (s.rowStore.getter? kind) := by
  have hgetter := getter?_of_ofGiven h kind
  obtain ⟨default, hdefault⟩ : ∃ default, defaultGetters.lookup kind = some default :=
    Option.isSome_iff_exists.mp (getter?_default_of_ne_boolean hkind)
  cases hnamed : given.namedGetter? kind with
  | some v =>
    rw [hnamed, Option.some_or, Option.map_eq_some_iff] at hgetter
    obtain ⟨getter, hgetter, rfl⟩ := hgetter
    rw [hgetter]
    exact .named hnamed
  | none =>
    rw [hnamed, Option.none_or] at hgetter
    cases hkeeps : given.keepsDefaults with
    | true =>
      rw [hkeeps, if_pos rfl, hdefault, Option.map_some, Option.map_eq_some_iff] at hgetter
      obtain ⟨getter, hgetter, htext⟩ := hgetter
      rw [hgetter, Value.text.inj htext]
      exact .kept hnamed hkeeps hdefault
    | false =>
      rw [hkeeps, if_neg Bool.false_ne_true, Option.map_eq_none_iff] at hgetter
      rw [hgetter]
      exact .missing hnamed hkeeps

theorem GivenSettings.Answers.isSome_iff {given : GivenSettings} {kind : CellKind}
    {getter? : Option String} (h : given.Answers kind getter?) : getter?.isSome = true ↔
      given.keepsDefaults = true ∨ (given.namedGetter? kind).isSome = true := by
  cases h with
  | named hnamed => exact iff_of_true rfl (.inr (hnamed ▸ rfl))
  | kept _ hkeeps _ => exact iff_of_true rfl (.inl hkeeps)
  | missing hnamed hkeeps => simp [hnamed, hkeeps]

/-- Under accepted settings a native type is read through the accessor for its kind of cells, and
not at all where there is none.  So all native types are read exactly if the accessors go over the
default ones, or name every kind but booleans. -/
theorem readsNatives_of_ofGiven {given : GivenSettings} {s : Settings}
    (h : Settings.ofGiven given = .ok s) (cursor index : String) :
    ((∀ t ops, classify t = some ops → ∃ e, ops.readExpression s cursor index = .ok e) ↔
      given.keepsDefaults = true ∨
        ∀ kind, kind ≠ .boolean → (given.namedGetter? kind).isSome = true) ∧
    ∀ t ops, classify t = some ops → ∃ getter?, given.Answers ops.accessor getter? ∧
      ops.readExpression s cursor index = match getter? with
        | some getter => .ok (cursor ++ "." ++ getter ++ "(" ++ index ++ ")" ++
            ops.narrowing.elim "" (" " ++ ·))
        | none => .error (.noGetter ops.accessor) := by
  have hread : ∀ ops : CellOperations, ops.accessor ≠ .boolean →
      ((∃ e, ops.readExpression s cursor index = .ok e) ↔
        given.keepsDefaults = true ∨ (given.namedGetter? ops.accessor).isSome = true) := by
    intro ops hkind
    rw [← (answers_getter? h hkind).isSome_iff, readExpression_eq]
    cases s.rowStore.getter? ops.accessor <;> simp
  refine ⟨⟨fun hall => ?_, fun hnamed t ops hnative => ?_⟩, fun t ops hnative => ?_⟩
  · refine Decidable.or_iff_not_imp_left.mpr fun hkeeps kind hkind => ?_
    obtain ⟨t, ops, hnative, rfl⟩ := exists_classify_accessor hkind
    exact ((hread ops hkind).mp (hall t ops hnative)).resolve_left hkeeps
  · have hkind := accessor_ne_boolean_of_classify hnative
    exact (hread ops hkind).mpr (hnamed.imp_right fun hnamed => hnamed _ hkind)
  · have hkind := accessor_ne_boolean_of_classify hnative
    exact ⟨_, answers_getter? h hkind, readExpression_eq ops s cursor index⟩

/-! ### dictionaries and other mappings -/

/-- settings with two accessors in a mapping, one of them under a kind and one under a text -/
def twoGetters (isDictionary : Bool) : GivenSettings :=
  .mapped [] [] ⟨isDictionary, [(.kind .blob, .text "getBlob"), (.text "int", .text "getInt")]⟩

/-- From a dictionary, booleans are read through the accessor that is named for integers, and texts
through the default one. -/
theorem readsNatives_dictionary : ∃ s, Settings.ofGiven (twoGetters true) = .ok s ∧
    (∀ t ops, classify t = some ops → ∃ e, ops.readExpression s "cursor" "0" = .ok e) ∧
    classify { name := "bool" } = some .boolean ∧
    CellOperations.boolean.readExpression s "cursor" "0" = .ok "cursor.getInt(0) == 1" ∧
    (CellOperations.plain .string).readExpression s "cursor" "0" = .ok "cursor.get_string(0)" := by
  obtain ⟨s, hs⟩ : ∃ s, Settings.ofGiven (twoGetters true) = .ok s := ⟨_, rfl⟩
  have hbool : classify { name := "bool" } = some .boolean := by decide +kernel
  have hstr : classify { name := "str" } = some (.plain .string) := by decide +kernel
  obtain ⟨hall, hread⟩ := readsNatives_of_ofGiven hs "cursor" "0"
  refine ⟨s, hs, hall.mpr (.inl rfl), hbool, ?_, ?_⟩
  · obtain ⟨_, hanswers, hexpression⟩ := hread _ _ hbool
    rw [hexpression]
    cases hanswers with
    | named hnamed => cases hnamed; rfl
    | kept hnamed => cases hnamed
    | missing hnamed => cases hnamed
  · obtain ⟨_, hanswers, hexpression⟩ := hread _ _ hstr
    rw [hexpression]
    cases hanswers with
    | named hnamed => cases hnamed
    | kept _ _ hdefault => cases hdefault; rfl
    | missing _ hkeeps => cases hkeeps

/-- from another mapping with the same entries, texts have no accessor -/
theorem not_readsNatives_mapping : ∃ s, Settings.ofGiven (twoGetters false) = .ok s ∧
    classify { name := "str" } = some (.plain .string) ∧
    (CellOperations.plain .string).readExpression s "cursor" "0" = .error (.noGetter .string) :=
  ⟨_, rfl, by decide +kernel, rfl⟩

end RowMapping
