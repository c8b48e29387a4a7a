import RowMapping.ClassTable.Hooks
import RowMapping.Proofs.Methods.Annotated

/-!
# Classes that settings name

Settings name a class by its qualified name, the module and the name with a dot between them.  What
stands behind the last dot is read as the name of the class, so that a class inside another one is
read as a class of a module that is named after the outer one.

* `same_parse_qualifiedName_iff`  the classes that are read back from their qualified names;
* `readsFromCursor_iff_of_mem`  when a class with a static method from a row reads rows;
* `readsFromCursor_iff`  which is, if the settings name the class of the row, exactly if that class
  stands in no other one, unless another method takes what was read.
-/

namespace RowMapping
open RowMapping.Text

/-! ### qualified names -/

/-- a class that stands in no other one -/
def ClassRef.IsTopLevel (c : ClassRef) : Prop := '.' ∉ c.name.toList

instance (c : ClassRef) : Decidable c.IsTopLevel := inferInstanceAs (Decidable (_ ∉ _))

namespace TypeName
variable {c : ClassRef}

theorem same_parse_iff {qualified : String} : (parse qualified).same (ofClass c) = true ↔
    afterLastDot qualified = c.name ∧
      (if beforeLastDot qualified = "" then builtins else beforeLastDot qualified) = c.module := by
  unfold parse ofClass
  rw [same, sameAll_nil, Bool.and_true, beq_self_eq_true, Bool.and_true, Bool.and_eq_true,
    beq_iff_eq, beq_iff_eq]

/-- a class is read back from its qualified name exactly if it stands in no other one -/
theorem same_parse_qualifiedName_iff (hmodule : c.module ≠ "") :
    (parse (ofClass c).qualifiedName).same (ofClass c) = true ↔ c.IsTopLevel := by
  rw [same_parse_iff]
  constructor
  · rintro ⟨hname, -⟩
    rw [ClassRef.IsTopLevel, ← hname]
    exact dot_notMem_afterLastDot _
  · intro htop
    have hsyntax : (ofClass c).module ≠ syntaxModule := hmodule
    by_cases hbuiltins : c.module = builtins
    · have hqualified : (ofClass c).qualifiedName = c.name := if_pos (.inl hbuiltins)
      rw [hqualified, afterLastDot_of_no_dot htop, beforeLastDot_of_no_dot htop]
      exact ⟨rfl, hbuiltins.symm⟩
    · have hqualified : (ofClass c).qualifiedName = c.module ++ "." ++ c.name :=
        if_neg (not_or_intro hbuiltins hsyntax)
      rw [hqualified, afterLastDot_append _ htop, beforeLastDot_append _ htop, if_neg hmodule]
      exact ⟨rfl, rfl⟩

end TypeName

/-! ### static methods from the class of the settings -/

namespace ClassTable
variable {t : ClassTable} {settings : Settings} {cls row : ClassRef}

theorem fits_readerShape_iff {method : Method} (hstatic : method.isStatic = true)
    (hparams : method.params = [.ofClass row]) (hreturns : method.returns = .ofClass cls) :
    method.fits (readerShape settings cls) = true ↔
      settings.rowStoreType.same (.ofClass row) = true := by
  rw [Method.fits_iff, hstatic, hparams, hreturns, TypeName.same_comm, TypeName.same_iff]
  constructor
  · rintro ⟨-, -, htakes, -⟩
    exact (List.cons.inj htakes).1
  · intro htype
    exact ⟨nofun, rfl, congrArg (fun type => [type]) htype, rfl⟩

/-- A class that shows a static method from a row to itself reads rows if the settings name the
row, or what another method takes. -/
theorem readsFromCursor_iff_of_mem {method : Method} (hmem : method ∈ t.shownMethods cls)
    (hstatic : method.isStatic = true) (hparams : method.params = [.ofClass row])
    (hreturns : method.returns = .ofClass cls) :
    (t.capabilities settings cls).readsFromCursor = true ↔
      settings.rowStoreType.same (.ofClass row) = true ∨ ∃ m ∈ t.shownMethods cls,
        m.name ≠ method.name ∧ m.fits (readerShape settings cls) = true := by
  show t.directory.hasMethod cls (readerShape settings cls) = true ↔ _
  rw [hasMethod_iff_of_mem hmem, fits_readerShape_iff hstatic hparams hreturns]

/-- A class is the same as what is read from its qualified name exactly if it stands in no other
class.  With that name in the settings, a class that shows a static method from it to itself reads
rows exactly then, or where a method of another name takes what was read. -/
theorem readsFromCursor_iff {row : ClassRef} (hmodule : row.module ≠ "") :
    ((TypeName.parse (TypeName.ofClass row).qualifiedName).same (.ofClass row) = true ↔
      row.IsTopLevel) ∧
    ∀ (table : ClassTable) (settings : Settings) (cls : ClassRef) (a : Attribute),
      settings.rowStore.type = (TypeName.ofClass row).qualifiedName →
      a ∈ table.visibleAttributes cls → a.member.IsMethod true [.ofClass row] (.ofClass cls) →
      ((table.capabilities settings cls).readsFromCursor = true ↔
        row.IsTopLevel ∨ ∃ m ∈ table.shownMethods cls,
          m.name ≠ a.name ∧ m.fits (readerShape settings cls) = true) := by
  have hparse := TypeName.same_parse_qualifiedName_iff hmodule
  refine ⟨hparse, fun table settings cls a hsettings hvisible hmethod => ?_⟩
  let own : Method := ⟨.ofClass cls, a.name, [.ofClass row], .ofClass cls, true⟩
  have hown : own ∈ table.shownMethods cls := List.mem_filterMap.mpr
    ⟨a, hvisible, Attribute.method?_eq_some_iff.mpr ⟨rfl, rfl, hmethod⟩⟩
  rw [readsFromCursor_iff_of_mem hown rfl rfl rfl, Settings.rowStoreType, hsettings, hparse]

/-! ### a row inside a class -/

def accountRef : ClassRef := { name := "Account", module := "app" }

/-- a static method that makes an account of a row -/
def loadFrom (row : ClassRef) : Attribute :=
  ⟨"load", .static { params := [{ name := "row", hint := some (.cls row) }]
                     returns := some (.cls accountRef) }⟩

def accounts (row : ClassRef) : ClassTable :=
  [{ ref := accountRef, attributes := [loadFrom row] }]

/-- settings that name a class as the type of rows -/
def rowsOf (row : ClassRef) : Settings :=
  { rowStore := { type := (TypeName.ofClass row).qualifiedName } }

theorem visible_accounts (row : ClassRef) : (accounts row).visibleAttributes accountRef =
    loadFrom row :: ["__module__", "__doc__", "__dict__", "__weakref__"].map Platform.value := by
  have hframework : isFramework accountRef = false := by decide +kernel
  have hshown : (accounts row).visibleAttributes accountRef = firstNamed _ :=
    visibleAttributes_singleton rfl hframework
  rw [hshown]
  simp [attributes, withOthers, loadFrom, firstNamed, ClassInfo.implicitAttributes, Attribute.stored,
    Platform.value]

theorem isMethod_loadFrom (row : ClassRef) :
    (loadFrom row).member.IsMethod true [.ofClass row] (.ofClass accountRef) := by
  refine .static ⟨rfl, ?_, .cons ⟨rfl, _, rfl, rfl⟩ .nil, _, rfl, rfl⟩
  exact List.forall_mem_cons.mpr ⟨rfl, List.forall_mem_singleton.mpr rfl⟩

/-- a class of its own at the top of its module is found -/
theorem readsFromCursor_accounts : ∃ row : ClassRef, row.module ≠ "" ∧ row.IsTopLevel ∧
    loadFrom row ∈ (accounts row).visibleAttributes accountRef ∧
    (loadFrom row).member.IsMethod true [.ofClass row] (.ofClass accountRef) ∧
    ((accounts row).capabilities (rowsOf row) accountRef).readsFromCursor = true := by
  let row : ClassRef := { name := "Row", module := "app" }
  have hmodule : row.module ≠ "" := by decide
  have htop : row.IsTopLevel := by decide
  have hvisible : loadFrom row ∈ (accounts row).visibleAttributes accountRef := by
    rw [visible_accounts]
    exact List.mem_cons_self
  obtain ⟨-, hreads⟩ := readsFromCursor_iff hmodule
  refine ⟨row, hmodule, htop, hvisible, isMethod_loadFrom row, ?_⟩
  exact (hreads _ (rowsOf row) _ _ rfl hvisible (isMethod_loadFrom row)).mpr (.inl htop)

/-- `Outer.Row` of the module `app` is read as `Row` of a module `app.Outer`. -/
theorem not_readsFromCursor_nested : ∃ row : ClassRef,
    (TypeName.ofClass row).qualifiedName = "app.Outer.Row" ∧
    TypeName.parse "app.Outer.Row" = { name := "Row", module := "app.Outer" } ∧
    (TypeName.parse "app.Outer.Row").same (.ofClass row) = false ∧
    loadFrom row ∈ (accounts row).visibleAttributes accountRef ∧
    (loadFrom row).member.IsMethod true [.ofClass row] (.ofClass accountRef) ∧
    ((accounts row).capabilities (rowsOf row) accountRef).readsFromCursor = false := by
  let row : ClassRef := { name := "Outer.Row", module := "app" }
  let own : Method := ⟨.ofClass accountRef, "load", [.ofClass row], .ofClass accountRef, true⟩
  have hown : (loadFrom row).method? (.ofClass accountRef) = some own :=
    Attribute.method?_eq_some_iff.mpr ⟨rfl, rfl, isMethod_loadFrom row⟩
  have hmethods : (accounts row).shownMethods accountRef = [own] := by
    rw [shownMethods, visible_accounts, List.filterMap_cons_some hown]
    rfl
  have hmisread : (rowsOf row).rowStoreType.same (.ofClass row) = false := by decide +kernel
  refine ⟨row, by decide +kernel, by rfl, by decide +kernel, ?_, isMethod_loadFrom row, ?_⟩
  · rw [visible_accounts]
    exact List.mem_cons_self
  · have hmem : own ∈ (accounts row).shownMethods accountRef := hmethods ▸ List.mem_cons_self
    rw [Bool.eq_false_iff, Ne, readsFromCursor_iff_of_mem hmem rfl rfl rfl, hmisread, hmethods]
    rintro (hsame | ⟨m, hm, hname, -⟩)
    · cases hsame
    · exact hname (congrArg (·.name) (List.mem_singleton.mp hm))

end ClassTable
end RowMapping
