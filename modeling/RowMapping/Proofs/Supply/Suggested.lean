import RowMapping.Proofs.Supply.Granted

/-!
# Names as they are suggested

A supply has room for suggestions if the identifiers made of them are free and all different.  As
long as it has, a new name is the identifier of its suggestion, whatever was named before.

* `fresh_of_free`  a free identifier is taken as it is;
* `RoomFor.granted`  room stays for the suggestions that are still to come.
-/

namespace RowMapping
open RowMapping.Text

namespace NameSupply
variable {s s' : NameSupply} {suggestion : String} {suggestions rest : List String}

/-- the identifiers of suggestions are free and different -/
structure RoomFor (s : NameSupply) (suggestions : List String) : Prop where
  nodup : (suggestions.map toIdentifier).Nodup
  free : ∀ n ∈ suggestions, s.blocked (toIdentifier n) = false

theorem fresh_of_free (h : s.blocked (toIdentifier suggestion) = false) :
    s.fresh suggestion = toIdentifier suggestion := by
  unfold fresh
  rw [firstFree_succ, h]
  rfl

theorem roomFor_empty (hnodup : (suggestions.map toIdentifier).Nodup)
    (hkeyword : ∀ n ∈ suggestions, isKeyword (toIdentifier n) = false) :
    empty.RoomFor suggestions :=
  ⟨hnodup, fun n hn => (blocked_eq_false_iff _).mpr ⟨hkeyword n hn, List.not_mem_nil⟩⟩

namespace RoomFor

theorem fresh_eq (h : s.RoomFor (suggestion :: rest)) :
    s.fresh suggestion = toIdentifier suggestion := fresh_of_free (h.free _ List.mem_cons_self)

theorem subperm (h : s.RoomFor suggestions) (hsub : rest.Subperm suggestions) : s.RoomFor rest := by
  obtain ⟨some, hperm, hsub⟩ := hsub
  refine ⟨((hperm.map _).nodup_iff).mp (h.nodup.sublist (hsub.map _)), fun n hn => ?_⟩
  exact h.free n (hsub.mem (hperm.mem_iff.mpr hn))

/-- names that are granted as suggested leave room for all other suggestions -/
theorem granted {gs : List Grant} (h : s.RoomFor (suggestions ++ rest)) (hgranted : Granted s gs s')
    (hnames : ∀ g ∈ gs, g.name ∈ suggestions.map toIdentifier) : s'.RoomFor rest := by
  have hnodup := h.nodup
  rw [List.map_append, List.nodup_append] at hnodup
  refine ⟨hnodup.2.1, fun n hn => ?_⟩
  obtain ⟨hkeyword, hfree⟩ :=
    (blocked_eq_false_iff _).mp (h.free n (List.mem_append_right _ hn))
  refine (blocked_eq_false_iff _).mpr ⟨hkeyword, fun hmem => ?_⟩
  rw [hgranted.taken_eq, List.mem_append, List.mem_reverse, List.mem_map] at hmem
  rcases hmem with ⟨g, hg, hname⟩ | hmem
  · exact hnodup.2.2 _ (hnames g hg) _ (List.mem_map_of_mem hn) hname
  · exact hfree hmem

theorem granted_cons {gs : List Grant} (h : s.RoomFor (suggestion :: rest))
    (hgranted : Granted s gs s') (hnames : ∀ g ∈ gs, g.name = toIdentifier suggestion) :
    s'.RoomFor rest := by
  have happend : s.RoomFor ([suggestion] ++ rest) := h
  exact happend.granted hgranted fun g hg => List.mem_singleton.mpr (hnames g hg)

end RoomFor
end NameSupply
end RowMapping
