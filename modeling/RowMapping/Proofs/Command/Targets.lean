import RowMapping.ClassTable.Locate
import RowMapping.Proofs.Fallible
import RowMapping.Proofs.Text.Dotted

/-!
# The classes that targets name

A target `module:path` is cut at its first colon, and the path at all of its dots.  It names a class
on a platform if the names of the path lead from the module to the class, and is refused at the
first step that fails.

Both are as documented: `Importer.load` finds the class, or says that the discovery failed and where.
There is one exception, a module with a dot in front.  The platform has an answer of its own for
this name, which is passed on as it is: `Importer.documented_load_iff`.
-/

namespace RowMapping
open RowMapping.Text

/-! ### targets -/

/-- that a target is a module, its first colon and a path -/
structure IsTarget (target module path : String) : Prop where
  text : target = module ++ ":" ++ path
  noColon : ':' ∉ module.toList
  module_ne : module ≠ ""
  path_ne : path ≠ ""

theorem splitTarget?_eq_some_iff {target module path : String} :
    splitTarget? target = some (module, path) ↔ IsTarget target module path := by
  unfold splitTarget?
  dsimp only
  constructor
  · intro h
    split at h
    next => cases h
    next hne =>
      cases h
      rw [Bool.or_eq_true, not_or, List.isEmpty_iff, List.isEmpty_iff] at hne
      obtain ⟨hmodule, hpath⟩ := hne
      refine ⟨?_, ?_, ?_, ?_⟩
      · apply String.toList_injective
        simpa using eq_append_of_drop_ne_nil hpath
      · rw [String.toList_ofList]
        intro hmem
        simpa using List.mem_takeWhile_imp hmem
      · simpa using hmodule
      · simpa using hpath
  · rintro ⟨rfl, hcolon, hmodule, hpath⟩
    have htext : (module ++ ":" ++ path).toList = module.toList ++ ':' :: path.toList := by simp
    obtain ⟨hbefore, hbehind⟩ := takeWhile_ne_append hcolon path.toList
    rw [htext]
    simp only [hbefore, hbehind, List.drop_succ_cons, List.drop_zero]
    rw [if_neg (by simp [hmodule, hpath]), String.ofList_toList, String.ofList_toList]

theorem splitTarget?_eq_none_iff {target : String} :
    splitTarget? target = none ↔ ∀ module path, ¬ IsTarget target module path := by
  constructor
  · intro h module path htarget
    rw [splitTarget?_eq_some_iff.mpr htarget] at h
    cases h
  · intro h
    cases hsplit : splitTarget? target with
    | none => rfl
    | some parts => exact absurd (splitTarget?_eq_some_iff.mp hsplit) (h parts.1 parts.2)

namespace Importer
variable {Object : Type} {p : Importer Object} {target module path : String} {x y : Object}
  {names : List String} {f : Failure} {c : ClassRef}

/-! ### names that lead to an object -/

/-- that names lead from one object to another -/
inductive Reaches (p : Importer Object) : Object → List String → Object → Prop where
  | here (x : Object) : Reaches p x [] x
  | next {x y z : Object} {name : String} {rest : List String} :
      p.attribute? x name = some y → Reaches p y rest z → Reaches p x (name :: rest) z

/-- that names lead from an object as far as to one that has nothing under the next name -/
def MissesAt (p : Importer Object) (x : Object) (names : List String) (name : String) : Prop :=
  ∃ before last rest, names = before ++ name :: rest ∧ p.Reaches x before last ∧
    p.attribute? last name = none

theorem follow_cons_of_none {name : String} (h : p.attribute? x name = none) (rest : List String) :
    p.follow target module x (name :: rest) = .error (.discovery target (.noMember name module)) := by
  rw [follow, h]

theorem follow_cons_of_some {name : String} (h : p.attribute? x name = some y)
    (rest : List String) : p.follow target module x (name :: rest) = p.follow target module y rest := by
  rw [follow, h]

theorem follow_of_reaches (h : p.Reaches x names y) : p.follow target module x names = .ok y := by
  induction h with
  | here x => rfl
  | next hnext _ ih => rw [follow_cons_of_some hnext, ih]

theorem follow_of_missesAt {name : String} (h : p.MissesAt x names name) :
    p.follow target module x names = .error (.discovery target (.noMember name module)) := by
  obtain ⟨before, last, rest, rfl, hreaches, hnone⟩ := h
  induction hreaches with
  | here x => exact follow_cons_of_none hnone rest
  | next hnext _ ih =>
    rw [List.cons_append, follow_cons_of_some hnext]
    exact ih hnone

/-- names lead to an object, or there is a first one that leads nowhere -/
theorem exists_reaches_or_missesAt (p : Importer Object) (x : Object) (names : List String) :
    (∃ y, p.Reaches x names y) ∨ ∃ name, p.MissesAt x names name := by
  induction names generalizing x with
  | nil => exact .inl ⟨x, .here x⟩
  | cons name rest ih =>
    cases hnext : p.attribute? x name with
    | none => exact .inr ⟨name, [], x, rest, rfl, .here x, hnext⟩
    | some y =>
      obtain ⟨z, hz⟩ | ⟨missing, before, last, others, rfl, hreaches, hnone⟩ := ih y
      · exact .inl ⟨z, .next hnext hz⟩
      · exact .inr ⟨missing, name :: before, last, others, rfl, .next hnext hreaches, hnone⟩

/-! ### classes -/

/-- the class that a target names -/
def Names (p : Importer Object) (target : String) (c : ClassRef) : Prop :=
  ∃ module path found names object, IsTarget target module path ∧
    p.importModule module = .ok found ∧ IsDotted path names ∧ p.Reaches found names object ∧
    p.class? object = some c

/-- the step at which a target stops to lead to a class -/
inductive Refuses (p : Importer Object) (target : String) : DiscoveryFault → Prop where
  | malformedTarget : (∀ module path, ¬ IsTarget target module path) →
      Refuses p target .malformedTarget
  | notImported {module path : String} {fault : ImportFault} : IsTarget target module path →
      p.importModule module = .error (.unavailable fault) →
      Refuses p target (.notImported module fault)
  | noMember {module path name : String} {found : Object} {names : List String} :
      IsTarget target module path → p.importModule module = .ok found → IsDotted path names →
      p.MissesAt found names name → Refuses p target (.noMember name module)
  | notClass {module path : String} {found object : Object} {names : List String} :
      IsTarget target module path → p.importModule module = .ok found → IsDotted path names →
      p.Reaches found names object → p.class? object = none → Refuses p target .notClass

/-- that the module of a target is relative to a package -/
def IsRelative (target module : String) : Prop :=
  (∃ path, IsTarget target module path) ∧ isRelativeName module = true

theorem load_of_names (h : p.Names target c) : p.load target = .ok c := by
  obtain ⟨module, path, found, names, object, htarget, hmodule, hnames, hreaches, hclass⟩ := h
  unfold load
  simp only [splitTarget?_eq_some_iff.mpr htarget, hmodule, isDotted_iff.mp hnames,
    follow_of_reaches hreaches, hclass]

theorem load_of_refuses {fault : DiscoveryFault} (h : p.Refuses target fault) :
    p.load target = .error (.discovery target fault) := by
  unfold load
  cases h with
  | malformedTarget hnone => simp only [splitTarget?_eq_none_iff.mpr hnone]
  | notImported htarget hfault => simp only [splitTarget?_eq_some_iff.mpr htarget, hfault]
  | noMember htarget hmodule hnames hmisses =>
    simp only [splitTarget?_eq_some_iff.mpr htarget, hmodule, isDotted_iff.mp hnames,
      follow_of_missesAt hmisses]
  | notClass htarget hmodule hnames hreaches hnone =>
    simp only [splitTarget?_eq_some_iff.mpr htarget, hmodule, isDotted_iff.mp hnames,
      follow_of_reaches hreaches, hnone]

theorem load_of_isRelative (h : IsRelative target module) :
    p.load target = .error (.relativeModule module) := by
  obtain ⟨⟨path, htarget⟩, hrelative⟩ := h
  unfold load
  simp only [splitTarget?_eq_some_iff.mpr htarget, (p.relative_iff module).mpr hrelative]

/-- a target names a class, or is refused at one of its steps, or has a relative module -/
theorem names_or_refuses_or_isRelative (p : Importer Object) (target : String) :
    (∃ c, p.Names target c) ∨ (∃ fault, p.Refuses target fault) ∨
      ∃ module, IsRelative target module := by
  cases hsplit : splitTarget? target with
  | none => exact .inr (.inl ⟨_, .malformedTarget (splitTarget?_eq_none_iff.mp hsplit)⟩)
  | some parts =>
    obtain ⟨module, path⟩ := parts
    have htarget := splitTarget?_eq_some_iff.mp hsplit
    cases hmodule : p.importModule module with
    | error refusal =>
      cases refusal with
      | unavailable fault => exact .inr (.inl ⟨_, .notImported htarget hmodule⟩)
      | relative => exact .inr (.inr ⟨module, ⟨path, htarget⟩, (p.relative_iff module).mp hmodule⟩)
    | ok found =>
      have hnames : IsDotted path (split '.' path) := isDotted_iff.mpr rfl
      obtain ⟨object, hreaches⟩ | ⟨name, hmisses⟩ :=
        p.exists_reaches_or_missesAt found (split '.' path)
      · cases hclass : p.class? object with
        | none => exact .inr (.inl ⟨_, .notClass htarget hmodule hnames hreaches hclass⟩)
        | some c =>
          exact .inl ⟨c, module, path, found, _, object, htarget, hmodule, hnames, hreaches, hclass⟩
      · exact .inr (.inl ⟨_, .noMember htarget hmodule hnames hmisses⟩)

theorem load_eq_iff (p : Importer Object) (target : String) :
    (∀ c, p.load target = .ok c ↔ p.Names target c) ∧
      ∀ f, p.load target = .error f ↔ (∃ fault, p.Refuses target fault ∧ f = .discovery target fault) ∨
        ∃ module, IsRelative target module ∧ f = .relativeModule module := by
  refine eq_iff_of_total (fun _ => load_of_names) ?_ ?_
  · rintro _ (⟨fault, hrefuses, rfl⟩ | ⟨module, hrelative, rfl⟩)
    · exact load_of_refuses hrefuses
    · exact load_of_isRelative hrelative
  · obtain hnames | ⟨fault, hrefuses⟩ | ⟨module, hrelative⟩ := p.names_or_refuses_or_isRelative target
    · exact .inl hnames
    · exact .inr ⟨_, .inl ⟨fault, hrefuses, rfl⟩⟩
    · exact .inr ⟨_, .inr ⟨module, hrelative, rfl⟩⟩

/-- the documented answers to a target: the class that it names, or that the discovery failed -/
structure Documented (p : Importer Object) (target : String) (answer : Except Failure ClassRef) :
    Prop where
  names : ∀ c, answer = .ok c → p.Names target c
  discovery : ∀ f, answer = .error f → ∃ fault, f = .discovery target fault

/-- The answer to a target is a documented one exactly if its module is not relative.  It is always
the class that the target names, if there is one, and else the first step that fails. -/
theorem documented_load_iff (p : Importer Object) (target : String) :
    (p.Documented target (p.load target) ↔ ∀ module, ¬ IsRelative target module) ∧
      (∀ c, p.load target = .ok c ↔ p.Names target c) ∧
      (∀ fault, p.load target = .error (.discovery target fault) ↔ p.Refuses target fault) ∧
      ∀ module, p.load target = .error (.relativeModule module) ↔ IsRelative target module := by
  obtain ⟨hok, herror⟩ := p.load_eq_iff target
  refine ⟨⟨fun h module hrelative => ?_, fun h => ⟨fun c => (hok c).mp, fun f hf => ?_⟩⟩, hok,
    fun fault => ⟨fun h => ?_, load_of_refuses⟩, fun module => ⟨fun h => ?_, load_of_isRelative⟩⟩
  · obtain ⟨fault, hfault⟩ := h.discovery _ (load_of_isRelative hrelative)
    cases hfault
  · obtain ⟨fault, -, hfault⟩ | ⟨module, hrelative, -⟩ := (herror f).mp hf
    · exact ⟨fault, hfault⟩
    · exact absurd hrelative (h module)
  · obtain ⟨other, hrefuses, hsame⟩ | ⟨module, -, hsame⟩ := (herror _).mp h
    · cases hsame
      exact hrefuses
    · cases hsame
  · obtain ⟨fault, -, hsame⟩ | ⟨other, hrelative, hsame⟩ := (herror _).mp h
    · cases hsame
    · cases hsame
      exact hrelative

/-- a relative module is no discovery that fails -/
theorem not_documented_load_relative :
    ¬ (Modules.importer {}).Documented ".rel:User" ((Modules.importer {}).load ".rel:User") := by
  intro h
  have hrelative : IsRelative ".rel:User" ".rel" :=
    ⟨⟨"User", rfl, by decide, by decide, by decide⟩, by decide⟩
  obtain ⟨fault, hfault⟩ := h.discovery _ (load_of_isRelative hrelative)
  cases hfault

end Importer
end RowMapping
