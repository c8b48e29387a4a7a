import RowMapping.Method
import RowMapping.TypeName.Written

/-!
# Types without their local names

`same` compares types without their local names, so two types are the same exactly if they are
equal once these are dropped (`same_iff`).  Hence `same` is an equivalence, and local names from a
table do not change how a type is declared.

* `same_refl`, `same_symm`, `same_trans`  an equivalence;
* `declared_aliased`, `qualifiedName_aliased`  local names make no difference;
* `Method.fits_iff`  a method fits a shape exactly if it agrees with it but for local names.
-/

namespace RowMapping

namespace TypeName

/-! ### dropping local names -/

mutual

theorem aliased_aliased (aliases others : Aliases) :
    ∀ t : TypeName, (t.aliased aliases).aliased others = t.aliased others
  | ⟨name, module, args, nullable, localName⟩ => by
    rw [aliased, aliased, aliased, aliasedAll_aliasedAll aliases others args]

theorem aliasedAll_aliasedAll (aliases others : Aliases) :
    ∀ ts : List TypeName, aliasedAll others (aliasedAll aliases ts) = aliasedAll others ts
  | [] => by rw [aliasedAll]
  | t :: ts => by
    rw [aliasedAll, aliasedAll, aliasedAll, aliased_aliased aliases others t,
      aliasedAll_aliasedAll aliases others ts]

end

mutual

/-- types are the same if they are equal once their local names are dropped -/
theorem same_iff : ∀ t u : TypeName, t.same u = true ↔ t.aliased [] = u.aliased []
  | ⟨name, module, args, nullable, _⟩, ⟨name', module', args', nullable', _⟩ => by
    rw [same, aliased, aliased, mk.injEq, Bool.and_eq_true, Bool.and_eq_true, Bool.and_eq_true,
      sameAll_iff args args', beq_iff_eq, beq_iff_eq, beq_iff_eq]
    constructor
    · rintro ⟨⟨⟨hname, hmodule⟩, hnullable⟩, hargs⟩
      exact ⟨hname, hmodule, hargs, hnullable, rfl⟩
    · rintro ⟨hname, hmodule, hargs, hnullable, -⟩
      exact ⟨⟨⟨hname, hmodule⟩, hnullable⟩, hargs⟩

theorem sameAll_iff :
    ∀ ts us : List TypeName, sameAll ts us = true ↔ aliasedAll [] ts = aliasedAll [] us
  | [], [] => by simp [sameAll]
  | [], u :: us => by simp [sameAll, aliasedAll]
  | t :: ts, [] => by simp [sameAll, aliasedAll]
  | t :: ts, u :: us => by
    rw [sameAll, aliasedAll, aliasedAll, Bool.and_eq_true, same_iff t u, sameAll_iff ts us,
      List.cons.injEq]

end

/-! ### an equivalence -/

variable {t u v : TypeName}

theorem same_refl (t : TypeName) : t.same t = true := (same_iff t t).mpr rfl

theorem same_symm (h : t.same u = true) : u.same t = true :=
  (same_iff u t).mpr ((same_iff t u).mp h).symm

theorem same_trans (h : t.same u = true) (h' : u.same v = true) : t.same v = true :=
  (same_iff t v).mpr (((same_iff t u).mp h).trans ((same_iff u v).mp h'))

theorem same_comm (t u : TypeName) : t.same u = u.same t :=
  Bool.eq_iff_iff.mpr ⟨same_symm, same_symm⟩

/-! ### types under local names -/

variable (aliases : Aliases)

theorem declared_aliased (t : TypeName) : (t.aliased aliases).declared = t.declared := by
  unfold declared
  rw [aliased_aliased]

theorem qualifiedName_aliased (t : TypeName) :
    (t.aliased aliases).qualifiedName = t.qualifiedName := by
  cases t
  unfold aliased
  rfl

theorem simpleName_aliased (t : TypeName) : (t.aliased aliases).simpleName = t.simpleName := by
  cases t
  unfold aliased
  rfl

end TypeName

/-! ### methods -/

theorem Method.fits_iff {method : Method} {s : Shape} : method.fits s = true ↔
    (∀ name ∈ s.name, name = method.name) ∧ method.isStatic = s.isStatic ∧
      method.params.map (TypeName.aliased []) = s.takes.map (TypeName.aliased []) ∧
      method.returns.aliased [] = s.returns.aliased [] := by
  have hname : s.name.all (· == method.name) = true ↔ ∀ name ∈ s.name, name = method.name := by
    cases s.name with
    | none => simp
    | some name => simp
  unfold fits
  rw [Bool.and_eq_true, Bool.and_eq_true, Bool.and_eq_true, hname, beq_iff_eq,
    TypeName.sameAll_iff, TypeName.same_iff, TypeName.aliasedAll_eq_map,
    TypeName.aliasedAll_eq_map, and_assoc, and_assoc]

/-- whether a class has a method depends on its shape but for local names -/
theorem Directory.hasMethod_congr {d : Directory} {cls : ClassRef} {s s' : Shape}
    (hname : s.name = s'.name) (hstatic : s.isStatic = s'.isStatic)
    (htakes : s.takes.map (TypeName.aliased []) = s'.takes.map (TypeName.aliased []))
    (hreturns : s.returns.aliased [] = s'.returns.aliased []) :
    d.hasMethod cls s = d.hasMethod cls s' := by
  have hfits : ∀ method : Method, method.fits s = method.fits s' := by
    intro method
    rw [Bool.eq_iff_iff, Method.fits_iff, Method.fits_iff, hname, hstatic, htakes, hreturns]
  unfold hasMethod findMethod
  rw [funext hfits]

theorem Directory.hasMethod_iff {d : Directory} {cls : ClassRef} {s : Shape} :
    d.hasMethod cls s = true ↔ ∃ method ∈ d.methods cls, method.fits s = true := by
  unfold hasMethod findMethod
  rw [List.find?_isSome]

end RowMapping
