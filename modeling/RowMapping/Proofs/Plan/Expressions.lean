import RowMapping.Proofs.Unit.Routines

/-!
# What the statements of a read plan mention

The value of a statement is a text.  Its `Expression` says which names stand in it: a column or a
method may have the letters of a local without being one.  `ReadPlan.code` has the expressions of
all the statements of a plan.

* `PlansRead.map_text_code`  the values of the statements are the texts of their expressions;
* `ReadsProperty.code_cases`  what the code of one reading is, and which names it mentions.
-/

namespace RowMapping
open RowMapping.Text NameSupply

/-- a method of the cursor, by the setting that names it -/
inductive CursorMethod where
  | indexOrThrow
  | index
  | getter (kind : CellKind)
deriving DecidableEq, Repr

/-- the expressions that a read plan assigns -/
inductive Expression where
  | nothing
  | name (n : String)
  | column (c : String)
  | call (cursor : String) (method : CursorMethod) (argument : Expression)
  /-- the call of an adapter's method with a cursor and a column -/
  | adapted (adapter cursor column : String)
  /-- whether the number of a cell is one -/
  | isOne (access : Expression)
  /-- the access to a cell, or nothing where its index is missing or the cell is empty -/
  | optional (index cursor : String) (access : Expression)
deriving DecidableEq, Repr

def CursorMethod.text (settings : Settings) : CursorMethod → String
  | indexOrThrow => settings.rowStore.indexOrThrow
  | index => settings.rowStore.index
  | getter kind => (settings.rowStore.getter? kind).getD ""

namespace Expression

def text (settings : Settings) : Expression → String
  | .nothing => "None"
  | .name n => n
  | .column c => literal c
  | .call cursor method argument =>
    cursor ++ "." ++ method.text settings ++ "(" ++ argument.text settings ++ ")"
  | .adapted adapter cursor c =>
    adapter ++ "." ++ settings.adapter.readMethod ++ "(" ++ cursor ++ ", " ++ literal c ++ ")"
  | .isOne access => access.text settings ++ " " ++ "== 1"
  | .optional index cursor access =>
    "None if " ++ index ++ " == " ++ toString settings.rowStore.missingIndex ++ " or " ++ cursor
      ++ "." ++ settings.rowStore.isNull ++ "(" ++ index ++ ") else " ++ access.text settings

/-- the names that an expression mentions -/
def names : Expression → List String
  | .nothing => []
  | .name n => [n]
  | .column _ => []
  | .call cursor _ argument => cursor :: argument.names
  | .adapted adapter cursor _ => [adapter, cursor]
  | .isOne access => access.names
  | .optional index cursor access => index :: cursor :: access.names

end Expression

/-! ### the code of a plan -/

/-- the expression that reads the cell at an index -/
def CellOperations.access (ops : CellOperations) (cursor : String) (index : Expression) :
    Expression :=
  let call := .call cursor (.getter ops.accessor) index
  match ops.narrowing with
  | some _ => .isOne call
  | none => call

def Property.access (p : Property) (cursor : String) (index : Expression) : Expression :=
  match p.operations? with
  | some ops => ops.access cursor index
  | none => .nothing

namespace PropertyReading

/-- the expressions of the statements of a reading -/
def expressions (bindings : List AdapterBinding) (cursor : String) (g : PropertyReading) :
    List Expression :=
  match g.property.readWay with
  | .ok (.adapter cls) =>
    [.adapted ((bindings.find? (·.cls = cls)).elim "" (·.name)) cursor g.property.column]
  | .ok .cell => [g.property.access cursor (.call cursor .indexOrThrow (.column g.property.column))]
  | .ok .optionalCell =>
    let index := g.ownLocals.headD ""
    [.call cursor .index (.column g.property.column),
      .optional index cursor (g.property.access cursor (.name index))]
  | .ok .absent => [.nothing]
  | .error _ => []

/-- the statements of a reading, each with the name that it assigns and its expression -/
def code (bindings : List AdapterBinding) (cursor : String) (g : PropertyReading) :
    List (String × Expression) :=
  (g.statements.map (·.name)).zip (g.expressions bindings cursor)

end PropertyReading

def ReadPlan.code (plan : ReadPlan) : List (String × Expression) :=
  plan.readings.flatMap (PropertyReading.code plan.adapters plan.cursor)

/-! ### accesses to cells -/

theorem narrowing_of_classify {t : TypeName} {ops : CellOperations} (h : classify t = some ops) :
    ∀ narrowing ∈ ops.narrowing, narrowing = "== 1" := by
  unfold classify at h
  cases hargs : t.args.isEmpty with
  | false => rw [hargs] at h; cases h
  | true =>
    rw [hargs] at h
    obtain ⟨before, behind, hcatalog, -⟩ := List.lookup_eq_some_iff.mp h
    have hmem : (t.qualifiedName, ops) ∈ catalog := by
      rw [hcatalog]
      exact List.mem_append_right _ List.mem_cons_self
    have hall : ∀ entry ∈ catalog, ∀ narrowing ∈ entry.2.narrowing, narrowing = "== 1" := by
      decide
    exact hall _ hmem

theorem Expression.text_call {settings : Settings} {kind : CellKind} {getter : String}
    (h : settings.rowStore.getter? kind = some getter) (cursor : String) (index : Expression) :
    (call cursor (.getter kind) index).text settings
      = cursor ++ "." ++ getter ++ "(" ++ index.text settings ++ ")" := by
  show cursor ++ "." ++ (settings.rowStore.getter? kind).getD "" ++ "(" ++ index.text settings
    ++ ")" = _
  rw [h, Option.getD_some]

namespace CellOperations
variable {ops : CellOperations} {cursor : String} {index : Expression}

theorem text_access {settings : Settings} {value : String}
    (hone : ∀ narrowing ∈ ops.narrowing, narrowing = "== 1")
    (h : ops.readExpression settings cursor (index.text settings) = .ok value) :
    (ops.access cursor index).text settings = value := by
  unfold readExpression RowStoreSettings.getter at h
  unfold access
  cases hgetter : settings.rowStore.getter? ops.accessor with
  | none => rw [hgetter] at h; cases h
  | some getter =>
    have hcall := Expression.text_call hgetter cursor index
    rw [hgetter] at h
    cases hnarrowing : ops.narrowing with
    | none =>
      rw [hnarrowing] at h
      cases h
      exact hcall
    | some narrowing =>
      rw [hnarrowing] at h
      cases h
      obtain rfl := hone narrowing hnarrowing
      show (Expression.call cursor (.getter ops.accessor) index).text settings ++ " " ++ "== 1" = _
      rw [hcall]

theorem names_access (ops : CellOperations) (cursor : String) (index : Expression) :
    (ops.access cursor index).names = cursor :: index.names := by
  unfold access
  cases ops.narrowing <;> rfl

end CellOperations

namespace Property
variable {p : Property} {cursor : String} {index : Expression}

theorem text_access {settings : Settings} {value : String}
    (h : p.readExpression settings cursor (index.text settings) = .ok value) :
    (p.access cursor index).text settings = value := by
  unfold readExpression operations at h
  unfold access
  cases hops : p.operations? with
  | none => rw [hops] at h; cases h
  | some ops =>
    rw [hops] at h
    exact CellOperations.text_access (narrowing_of_classify hops) h

theorem names_access_subset (p : Property) (cursor : String) (index : Expression) :
    (p.access cursor index).names ⊆ cursor :: index.names := by
  unfold access
  cases p.operations? with
  | none => exact List.nil_subset _
  | some ops =>
    show (ops.access cursor index).names ⊆ _
    rw [ops.names_access]
    exact List.Subset.refl _

end Property

/-! ### the code of a reading -/

namespace Mapping
variable {m : Mapping} {s : NameSupply} {bindings : List AdapterBinding} {cursor : String}
  {byKeyword : Bool} {p : Property} {g : PropertyReading}

theorem ReadsProperty.map_text_code (h : m.ReadsProperty s bindings cursor byKeyword p g) :
    (g.code bindings cursor).map (fun c => (c.1, c.2.text m.settings))
      = g.statements.map fun a => (a.name, a.value) := by
  obtain ⟨way, hway, hreads⟩ := h.reads
  obtain ⟨property, statements, argument⟩ := g
  obtain rfl : property = p := h.property
  unfold PropertyReading.code PropertyReading.expressions
  rw [hway]
  cases hreads with
  | adapter hfind =>
    simp only [hfind]
    rfl
  | cell hvalue =>
    have hindex : lookup cursor m.settings.rowStore.indexOrThrow property
        = (Expression.call cursor .indexOrThrow (.column property.column)).text m.settings := rfl
    rw [hindex] at hvalue
    simp only [List.map_cons, List.map_nil, List.zip_cons_cons, List.zip_nil_left,
      Property.text_access hvalue]
  | @optionalCell index access haccess =>
    have hname : index = (Expression.name index).text m.settings := rfl
    rw [hname] at haccess
    have htext : (Expression.optional index cursor
          (property.access cursor (.name index))).text m.settings
        = m.optionalExpression cursor index access := by
      unfold Expression.text optionalExpression
      rw [Property.text_access haccess]
    simp only [PropertyReading.ownLocals, List.dropLast_cons_cons, List.dropLast_singleton,
      List.map_cons, List.map_nil, List.headD_cons, List.zip_cons_cons, List.zip_nil_left, htext]
    rfl
  | absent => rfl

/-- The code of a reading assigns the property's local from names that are there before, or first
an index and then the local from this index. -/
theorem ReadsProperty.code_cases (h : m.ReadsProperty s bindings cursor byKeyword p g) :
    let outer := cursor :: bindings.map (·.name)
    (∃ e, g.ownLocals = [] ∧ g.code bindings cursor = [(s.localOf p, e)] ∧ e.names ⊆ outer) ∨
    ∃ index e e', g.ownLocals = [index] ∧
      g.code bindings cursor = [(index, e), (s.localOf p, e')] ∧ e.names ⊆ outer ∧
      index ∈ e'.names ∧ e'.names ⊆ index :: outer := by
  intro outer
  have hcursor : cursor ∈ outer := List.mem_cons_self
  obtain ⟨way, hway, hreads⟩ := h.reads
  obtain ⟨property, statements, argument⟩ := g
  obtain rfl : property = p := h.property
  unfold PropertyReading.code PropertyReading.expressions
  rw [hway]
  cases hreads with
  | @adapter cls b hfind =>
    refine .inl ⟨_, rfl, rfl, ?_⟩
    simp only [hfind]
    have hb : b.name ∈ outer :=
      List.mem_cons_of_mem _ (List.mem_map_of_mem (List.mem_of_find?_eq_some hfind))
    simp [Expression.names, hb, hcursor]
  | cell _ =>
    refine .inl ⟨_, rfl, rfl, List.Subset.trans (property.names_access_subset cursor _) ?_⟩
    simp [Expression.names, hcursor]
  | @optionalCell index access _ =>
    have haccess : (property.access cursor (.name index)).names ⊆ index :: outer := by
      refine List.Subset.trans (property.names_access_subset cursor _) ?_
      simp [Expression.names, hcursor]
    refine .inr ⟨index, _, _, rfl, rfl, ?_, List.mem_cons_self, ?_⟩
    · simp [Expression.names, hcursor]
    · exact List.cons_subset.mpr ⟨List.mem_cons_self,
        List.cons_subset.mpr ⟨List.mem_cons_of_mem _ hcursor, haccess⟩⟩
  | absent => exact .inl ⟨_, rfl, rfl, List.nil_subset _⟩

/-! ### the code of a plan -/

theorem PlansRead.map_text_code {target : TypeName} {ps : List Property} {plan : ReadPlan}
    (h : m.PlansRead s target byKeyword plan.adapters ps plan) :
    plan.code.map (fun c => (c.1, c.2.text m.settings))
      = plan.statements.map fun a => (a.name, a.value) := by
  unfold ReadPlan.code ReadPlan.statements
  rw [List.map_flatMap, List.map_flatMap]
  refine List.flatMap_congr fun g hg => ?_
  obtain ⟨p, -, hreads⟩ := exists_left_of_forall₂ h.readings hg
  exact hreads.map_text_code

end Mapping
end RowMapping
