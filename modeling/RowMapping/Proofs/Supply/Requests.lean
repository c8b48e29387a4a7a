import Mathlib.Order.Bounds.Basic
import RowMapping.Proofs.Supply.Granted

/-!
# Runs of requests

A supply is asked, again and again, for new names, for the names of tags, and to keep names free.
`respond` answers one request, also with an error, and `after` is the supply behind any run of
them.

* `Keeps`  what was handed out stays, whatever is asked for later;
* `Reliable`  how a supply answers, and what it tells apart;
* `reliable_after`  both hold in every run from an empty supply.
-/

namespace RowMapping
open RowMapping.Text

/-- what a supply can be asked for; a new name may be for a tag -/
inductive Request where
  | newName (suggestion : String) (tag? : Option Tag)
  | reserve (name : String)
  | nameFor (tag : Tag) (suggestion : String)
  | get (tag : Tag)

namespace NameSupply

/-- the answer to a request, with the name that it gives, and the supply behind it -/
def respond (s : NameSupply) : Request → Except NameError (Option String) × NameSupply
  | .newName suggestion none => (.ok (s.newName suggestion).1, (s.newName suggestion).2)
  | .newName suggestion (some tag) =>
    match s.newNameFor tag suggestion with
    | .ok (name, s') => (.ok name, s')
    | .error e => (.error e, s)
  | .reserve name => (.ok none, s.reserve name)
  | .nameFor tag suggestion => (.ok (s.nameFor tag suggestion).1, (s.nameFor tag suggestion).2)
  | .get tag => ((s.get tag).map some, s)

/-- the supply after requests, answered one after the other -/
def after (s : NameSupply) (requests : List Request) : NameSupply :=
  requests.foldl (fun s request => (s.respond request).2) s

theorem after_nil (s : NameSupply) : s.after [] = s := rfl
theorem after_cons (s : NameSupply) (request : Request) (requests : List Request) :
    s.after (request :: requests) = (s.respond request).2.after requests := rfl

variable {s s' : NameSupply} {tag : Tag} {name suggestion : String}

/-! ### answers -/

/-- A name is the identifier of a suggestion with the fewest underscores that make it free. -/
def IsFirstFree (s : NameSupply) (suggestion name : String) : Prop :=
  ∃ k, IsLeast {j | s.blocked (padded (toIdentifier suggestion) j) = false} k ∧
    name = padded (toIdentifier suggestion) k

theorem isFirstFree_fresh (s : NameSupply) (suggestion : String) :
    s.IsFirstFree suggestion (s.fresh suggestion) := by
  obtain ⟨k, -, heq, hbefore, -⟩ :=
    s.firstFree_eq_padded (s.taken.length + 2) (toIdentifier suggestion)
  have hfresh : s.fresh suggestion = padded (toIdentifier suggestion) k := heq
  have hfree : s.blocked (padded (toIdentifier suggestion) k) = false := by
    rw [← hfresh]
    exact s.blocked_fresh suggestion
  refine ⟨k, ⟨hfree, fun j hj => ?_⟩, hfresh⟩
  have hj : s.blocked (padded (toIdentifier suggestion) j) = false := hj
  by_contra hlt
  rw [hbefore j (by omega)] at hj
  cases hj

theorem respond_newName (s : NameSupply) (suggestion : String) :
    s.respond (.newName suggestion none)
      = (.ok (s.fresh suggestion), s.reserve (s.fresh suggestion)) := rfl

theorem respond_newName_of_unbound (h : s.find? tag = none) (suggestion : String) :
    s.respond (.newName suggestion (some tag))
      = (.ok (s.fresh suggestion), s.bind tag (s.fresh suggestion)) := by
  simp only [respond, newNameFor, h]

theorem respond_newName_of_bound (h : s.find? tag = some name) (suggestion : String) :
    s.respond (.newName suggestion (some tag)) = (.error (.bound tag name), s) := by
  simp only [respond, newNameFor, h]

theorem respond_nameFor_of_unbound (h : s.find? tag = none) (suggestion : String) :
    s.respond (.nameFor tag suggestion)
      = (.ok (s.fresh suggestion), s.bind tag (s.fresh suggestion)) := by
  simp only [respond, nameFor, h]

theorem respond_nameFor_of_bound (h : s.find? tag = some name) (suggestion : String) :
    s.respond (.nameFor tag suggestion) = (.ok name, s) := by
  simp only [respond, nameFor, h]

theorem respond_get_of_unbound (h : s.find? tag = none) :
    s.respond (.get tag) = (.error (.unbound tag), s) := by
  simp only [respond, get, h]
  rfl

theorem respond_get_of_bound (h : s.find? tag = some name) :
    s.respond (.get tag) = (.ok name, s) := by
  simp only [respond, get, h]
  rfl

/-- All that a request can do to a supply: nothing, or to take one name.  The name is any that is
reserved, or a new one, which may be bound to a tag that had none. -/
theorem respond_cases (s : NameSupply) (request : Request) :
    (s.respond request).2 = s ∨ (∃ name, (s.respond request).2 = s.reserve name) ∨
      ∃ tag name, s.find? tag = none ∧ s.blocked name = false ∧
        (s.respond request).2 = s.bind tag name := by
  cases request with
  | newName suggestion tag? =>
    cases tag? with
    | none => exact .inr (.inl ⟨s.fresh suggestion, rfl⟩)
    | some tag =>
      cases h : s.find? tag with
      | none =>
        rw [respond_newName_of_unbound h]
        exact .inr (.inr ⟨tag, s.fresh suggestion, h, s.blocked_fresh suggestion, rfl⟩)
      | some name =>
        rw [respond_newName_of_bound h]
        exact .inl rfl
  | reserve name => exact .inr (.inl ⟨name, rfl⟩)
  | nameFor tag suggestion =>
    cases h : s.find? tag with
    | none =>
      rw [respond_nameFor_of_unbound h]
      exact .inr (.inr ⟨tag, s.fresh suggestion, h, s.blocked_fresh suggestion, rfl⟩)
    | some name =>
      rw [respond_nameFor_of_bound h]
      exact .inl rfl
  | get tag => exact .inl rfl

/-! ### what is kept -/

/-- `s'` has all that `s` has handed out: its names are taken, and its tags have their names. -/
structure Keeps (s s' : NameSupply) : Prop where
  taken : ∀ name, s.contains name = true → s'.contains name = true
  bound : ∀ tag name, s.find? tag = some name → s'.find? tag = some name

theorem Keeps.refl (s : NameSupply) : Keeps s s := ⟨fun _ h => h, fun _ _ h => h⟩

theorem Keeps.trans {s₁ s₂ s₃ : NameSupply} (h : Keeps s₁ s₂) (h' : Keeps s₂ s₃) : Keeps s₁ s₃ :=
  ⟨fun name hn => h'.taken name (h.taken name hn),
    fun tag name hb => h'.bound tag name (h.bound tag name hb)⟩

theorem keeps_reserve (s : NameSupply) (name : String) : Keeps s (s.reserve name) := by
  refine ⟨fun other h => ?_, fun _ _ h => h⟩
  rw [contains_reserve, h, Bool.or_true]

theorem keeps_bind (s : NameSupply) (tag : Tag) (name : String) : Keeps s (s.bind tag name) := by
  refine ⟨fun other h => ?_, fun other bound h => ?_⟩
  · rw [contains_bind, h, Bool.or_true]
  · show (s.bindings ++ [(tag, name)]).lookup other = some bound
    have hfind : s.bindings.lookup other = some bound := h
    rw [List.lookup_append, hfind, Option.some_or]

theorem keeps_respond (s : NameSupply) (request : Request) : Keeps s (s.respond request).2 := by
  rcases s.respond_cases request with h | ⟨name, h⟩ | ⟨tag, name, -, -, h⟩
  · rw [h]; exact .refl s
  · rw [h]; exact s.keeps_reserve name
  · rw [h]; exact s.keeps_bind tag name

theorem keeps_after (s : NameSupply) (requests : List Request) : Keeps s (s.after requests) := by
  induction requests generalizing s with
  | nil =>
    rw [after_nil]
    exact .refl s
  | cons request requests ih =>
    rw [after_cons]
    exact (s.keeps_respond request).trans (ih _)

theorem Apart.respond (h : s.Apart) (request : Request) : (s.respond request).2.Apart := by
  rcases s.respond_cases request with heq | ⟨name, heq⟩ | ⟨tag, name, -, hfree, heq⟩
  · rw [heq]; exact h
  · rw [heq]; exact h.reserve name
  · rw [heq]; exact h.bind hfree tag

theorem Apart.after (h : s.Apart) (requests : List Request) : (s.after requests).Apart := by
  induction requests generalizing s with
  | nil =>
    rw [after_nil]
    exact h
  | cons request requests ih =>
    rw [after_cons]
    exact ih (h.respond request)

/-! ### every run -/

/-- the promises of a supply -/
structure Reliable (s : NameSupply) : Prop where
  /-- A new name, for no tag or for one without a name, is free, and is the first that is. -/
  new : ∀ suggestion tag?, (∀ tag ∈ tag?, s.find? tag = none) →
    ∃ name s', s.respond (.newName suggestion tag?) = (.ok (some name), s') ∧
      s.contains name = false ∧ isKeyword name = false ∧ s.IsFirstFree suggestion name ∧
      s'.contains name = true ∧ ∀ tag ∈ tag?, s'.find? tag = some name
  /-- The name of a tag without a name is a new one. -/
  nameFor_unbound : ∀ tag suggestion, s.find? tag = none →
    s.respond (.nameFor tag suggestion) = s.respond (.newName suggestion (some tag))
  nameFor_bound : ∀ tag suggestion name, s.find? tag = some name →
    s.respond (.nameFor tag suggestion) = (.ok (some name), s)
  new_bound : ∀ tag suggestion name, s.find? tag = some name →
    s.respond (.newName suggestion (some tag)) = (.error (.bound tag name), s)
  get_bound : ∀ tag name, s.find? tag = some name → s.respond (.get tag) = (.ok (some name), s)
  get_unbound : ∀ tag, s.find? tag = none → s.respond (.get tag) = (.error (.unbound tag), s)
  /-- Different tags have different names. -/
  apart : ∀ tag other name, s.find? tag = some name → s.find? other = some name → tag = other
  taken : ∀ tag name, s.find? tag = some name → s.contains name = true

theorem find?_bind_self (h : s.find? tag = none) (name : String) :
    (s.bind tag name).find? tag = some name := by
  show (s.bindings ++ [(tag, name)]).lookup tag = some name
  have hnone : s.bindings.lookup tag = none := h
  rw [List.lookup_append, hnone, Option.none_or, List.lookup_cons_self]

theorem exists_respond_newName {tag? : Option Tag} (h : ∀ tag ∈ tag?, s.find? tag = none)
    (suggestion : String) :
    ∃ s', s.respond (.newName suggestion tag?) = (.ok (s.fresh suggestion), s') ∧
      s'.contains (s.fresh suggestion) = true ∧
      ∀ tag ∈ tag?, s'.find? tag = some (s.fresh suggestion) := by
  cases tag? with
  | none =>
    refine ⟨_, s.respond_newName suggestion, ?_, nofun⟩
    rw [contains_reserve, beq_self_eq_true, Bool.true_or]
  | some tag =>
    have hfind : s.find? tag = none := h tag rfl
    refine ⟨_, respond_newName_of_unbound hfind suggestion, ?_, fun other hother => ?_⟩
    · rw [contains_bind, beq_self_eq_true, Bool.true_or]
    · cases hother
      exact find?_bind_self hfind _

theorem Apart.reliable (h : s.Apart) : s.Reliable where
  new := by
    intro suggestion tag? hfree
    obtain ⟨s', hrespond, htaken, hbound⟩ := exists_respond_newName hfree suggestion
    have hnew := s.blocked_eq_false_iff.mp (s.blocked_fresh suggestion)
    have hcontains : s.contains (s.fresh suggestion) = false := by
      simpa [contains] using hnew.2
    exact ⟨_, s', hrespond, hcontains, hnew.1, s.isFirstFree_fresh suggestion, htaken, hbound⟩
  nameFor_unbound := by
    intro tag suggestion hfind
    rw [respond_nameFor_of_unbound hfind, respond_newName_of_unbound hfind]
  nameFor_bound := fun _ suggestion _ hfind => respond_nameFor_of_bound hfind suggestion
  new_bound := fun _ suggestion _ hfind => respond_newName_of_bound hfind suggestion
  get_bound := fun _ _ hfind => respond_get_of_bound hfind
  get_unbound := fun _ hfind => respond_get_of_unbound hfind
  apart := fun _ _ _ htag hother => h.tag_eq htag hother
  taken := by
    intro tag name hfind
    have hmem : name ∈ s.taken := h.taken (tag, name) (mem_bindings_of_find? hfind)
    simpa [contains] using hmem

/-- In every run of requests, errors among them, a supply keeps its promises, and what it has
handed out stays. -/
theorem reliable_after (before later : List Request) :
    let s := empty.after before
    s.Reliable ∧ Keeps s (s.after later) := by
  intro s
  have hempty : empty.Apart := .of_bindings_nil rfl
  exact ⟨(hempty.after before).reliable, s.keeps_after later⟩

/-- The third value of one suggestion, after a keyword was asked for as well. -/
example : (empty.after [.newName "value" none, .newName "class" none, .newName "value" none]).taken
    = ["value_", "class_", "value"] := by decide +kernel

end NameSupply
end RowMapping
