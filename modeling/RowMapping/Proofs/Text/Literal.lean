import RowMapping.Proofs.Text.Lines
import RowMapping.Text.Literal

/-!
# Literals and line ends

A literal escapes every line end below the space, but writes three line ends as they stand: the
next line and the separators of lines and of paragraphs (`isKeptLineEnd`).  So a literal is one
line exactly if its text has none of the three: `oneLine_literal_iff`.
-/

namespace RowMapping.Text

/-- the line ends that a literal does not escape -/
def isKeptLineEnd (c : Char) : Bool := [0x85, 0x2028, 0x2029].contains c.toNat

/-- a text without the line ends that a literal does not escape -/
def EscapesLineEnds (s : String) : Prop := ∀ c ∈ s.toList, isKeptLineEnd c = false

/-- from the space on, the line ends are those that a literal keeps -/
theorem isLineEnd_eq_of_le {c : Char} (h : 32 ≤ c.toNat) : isLineEnd c = isKeptLineEnd c := by
  simp only [isLineEnd, isKeptLineEnd, List.contains_cons, List.contains_nil]
  grind

theorem isLineEnd_digitChar (n : Nat) : isLineEnd (Nat.digitChar (n % 16)) = false := by
  have hdigits : ∀ k < 16, isLineEnd (Nat.digitChar k) = false := by decide
  exact hdigits _ (Nat.mod_lt n (by decide))

theorem isLineEnd_of_mem_hexDigits {width n : Nat} :
    ∀ c ∈ hexDigits width n, isLineEnd c = false := by
  induction width generalizing n with
  | zero => intro c hc; cases hc
  | succ width ih =>
    intro c hc
    rcases List.mem_append.mp hc with hc | hc
    · exact ih c hc
    · rw [List.mem_singleton.mp hc]
      exact isLineEnd_digitChar n

theorem isLineEnd_of_mem_escape {e : Char} (he : isLineEnd e = false) :
    ∀ c ∈ ['\\', e], isLineEnd c = false := by
  intro c hc
  rcases List.mem_cons.mp hc with rfl | hc
  · decide
  · rw [List.mem_singleton.mp hc]
    exact he

/-- a character brings a line end into a literal only if it is one that is kept -/
theorem isLineEnd_literalChar_iff (c : Char) :
    (∀ d ∈ literalChar c, isLineEnd d = false) ↔ isKeptLineEnd c = false := by
  have hkept : ∀ d : Char, d.toNat < 128 → isKeptLineEnd d = false := by
    intro d hd
    simp only [isKeptLineEnd, List.contains_cons, List.contains_nil]
    grind
  fun_cases literalChar c
  · exact iff_of_true (isLineEnd_of_mem_escape (by decide)) (hkept _ (by subst_vars; decide))
  · exact iff_of_true (isLineEnd_of_mem_escape (by decide)) (hkept _ (by subst_vars; decide))
  · exact iff_of_true (isLineEnd_of_mem_escape (by decide)) (hkept _ (by subst_vars; decide))
  · exact iff_of_true (isLineEnd_of_mem_escape (by decide)) (hkept _ (by subst_vars; decide))
  · exact iff_of_true (isLineEnd_of_mem_escape (by decide)) (hkept _ (by subst_vars; decide))
  · exact iff_of_true (isLineEnd_of_mem_escape (by decide)) (hkept _ (by omega))
  · exact iff_of_true (isLineEnd_of_mem_escape (by decide)) (hkept _ (by omega))
  · refine iff_of_true (fun d hd => ?_) (hkept _ (by omega))
    rcases List.mem_cons.mp hd with rfl | hd
    · decide
    rcases List.mem_cons.mp hd with rfl | hd
    · decide
    · exact isLineEnd_of_mem_hexDigits d hd
  · rw [← isLineEnd_eq_of_le (by omega)]
    constructor
    · intro h; exact h c (List.mem_singleton_self c)
    · intro h d hd; rw [List.mem_singleton.mp hd]; exact h

theorem oneLine_literal_iff (s : String) : OneLine (literal s) ↔ EscapesLineEnds s := by
  have hquote : isLineEnd '"' = false := by decide
  unfold OneLine
  rw [toList_literal, literalChars]
  constructor
  · intro h c hc
    refine (isLineEnd_literalChar_iff c).mp fun d hd => h d ?_
    refine List.mem_append_left _ (List.mem_cons_of_mem _ ?_)
    exact List.mem_flatMap.mpr ⟨c, hc, hd⟩
  · intro h d hd
    rcases List.mem_append.mp hd with hd | hd
    · rcases List.mem_cons.mp hd with rfl | hd
      · exact hquote
      · obtain ⟨c, hc, hd⟩ := List.mem_flatMap.mp hd
        exact (isLineEnd_literalChar_iff c).mpr (h c hc) d hd
    · rw [List.mem_singleton.mp hd]
      exact hquote

theorem literal_ne_empty (s : String) : literal s ≠ "" := by
  intro h
  have := congrArg String.toList h
  rw [toList_literal] at this
  cases this

end RowMapping.Text
