import RowMapping.Proofs.Text.LanguageNames
import RowMapping.Text.Lowercase

/-!
# ASCII

What holds of the first 128 characters can be checked one by one (`forall_ascii`), and of a table
of character classes only the first ranges matter there (`Ranges.has_eq_take`).

* `isNameStart_of_ascii`, `isNameContinue_of_ascii`  names are letters, digits and underscores;
* `lower_of_isAscii`  lower-casing turns each capital into its small letter.
-/

namespace RowMapping.Text

/-- a text of the first 128 characters -/
def IsAscii (s : List Char) : Prop := ∀ c ∈ s, c.toNat < 128

instance (s : List Char) : Decidable (IsAscii s) :=
  List.decidableBAll (fun c : Char => c.toNat < 128) s

theorem forall_ascii {P : Char → Prop} (h : ∀ n < 128, P (Char.ofNat n)) {c : Char}
    (hc : c.toNat < 128) : P c := by
  rw [← Char.ofNat_toNat c]
  exact h c.toNat hc

/-- ranges behind the first ones that begin further on have no character of ASCII -/
theorem Ranges.has_eq_take {rs : Ranges} {k : Nat} {c : Char}
    (h : ∀ r ∈ rs.drop k, 128 ≤ r.1) (hc : c.toNat < 128) :
    rs.has c = Ranges.has (rs.take k) c := by
  have hbehind : Ranges.has (rs.drop k) c = false := by
    refine List.any_eq_false.mpr fun r hr => ?_
    have hfirst := h r hr
    simp only [Bool.and_eq_true, decide_eq_true_eq]
    omega
  rw [← Bool.or_false (Ranges.has (rs.take k) c), ← hbehind, ← Ranges.has_append,
    List.take_append_drop]

variable {c : Char} {s : List Char}

/-! ### names -/

theorem isAlphanumeric_of_ascii (hc : c.toNat < 128) : isAlphanumeric c = c.isAlphanum := by
  have htake : alphanumericRanges.has c
      = Ranges.has [(0x30, 0x39), (0x41, 0x5A), (0x61, 0x7A)] c :=
    Ranges.has_eq_take (k := 3) (by decide +kernel) hc
  rw [isAlphanumeric, htake]
  exact forall_ascii (P := fun c => Ranges.has _ c = c.isAlphanum) (by decide) hc

theorem innerRanges_of_ascii (hc : c.toNat < 128) : innerRanges.has c = c.isDigit := by
  have htake : innerRanges.has c = Ranges.has [(0x30, 0x39)] c :=
    Ranges.has_eq_take (k := 1) (by decide) hc
  rw [htake]
  exact forall_ascii (P := fun c => Ranges.has _ c = c.isDigit) (by decide) hc

theorem isNameStart_of_ascii (hc : c.toNat < 128) : isNameStart c = (c == '_' || c.isAlpha) := by
  have hsign : letterSignRanges.has c = false :=
    Ranges.has_eq_take (k := 0) (by decide) hc
  have hnumeral : numeralRanges.has c = false :=
    Ranges.has_eq_take (k := 0) (by decide) hc
  rw [isNameStart, isWordChar, isAlphanumeric_of_ascii hc, hsign, hnumeral, innerRanges_of_ascii hc]
  exact forall_ascii (P := fun c => ((c == '_' || c.isAlphanum || false) && !false && !c.isDigit)
    = (c == '_' || c.isAlpha)) (by decide) hc

theorem isNameContinue_of_ascii (hc : c.toNat < 128) :
    isNameContinue c = (c == '_' || c.isAlphanum) := by
  have hmark : markRanges.has c = false := Ranges.has_eq_take (k := 0) (by decide +kernel) hc
  rw [isNameContinue, isNameStart_of_ascii hc, innerRanges_of_ascii hc, hmark, Bool.or_false,
    Char.isAlphanum, Bool.or_assoc]

theorem isWordChar_of_ascii (hc : c.toNat < 128) : isWordChar c = isNameContinue c := by
  rw [isNameContinue_of_ascii hc, isWordChar, isAlphanumeric_of_ascii hc]

/-! ### lower case -/

theorem toNat_toLower_lt (hc : c.toNat < 128) : c.toLower.toNat < 128 :=
  forall_ascii (P := fun c => c.toLower.toNat < 128) (by decide) hc

theorem isUpper_toLower (hc : c.toNat < 128) : c.toLower.isUpper = false :=
  forall_ascii (P := fun c => c.toLower.isUpper = false) (by decide) hc

theorem toLower_eq_underscore_iff (hc : c.toNat < 128) : c.toLower = '_' ↔ c = '_' :=
  forall_ascii (P := fun c => c.toLower = '_' ↔ c = '_') (by decide) hc

theorem toLower_of_not_upper (hc : c.toNat < 128) (h : c.isUpper = false) : c.toLower = c :=
  forall_ascii (P := fun c => c.isUpper = false → c.toLower = c) (by decide) hc h

theorem isNameStart_toLower (hc : c.toNat < 128) : isNameStart c.toLower = isNameStart c := by
  rw [isNameStart_of_ascii hc, isNameStart_of_ascii (toNat_toLower_lt hc)]
  exact forall_ascii (P := fun c => (c.toLower == '_' || c.toLower.isAlpha)
    = (c == '_' || c.isAlpha)) (by decide) hc

theorem isNameContinue_toLower (hc : c.toNat < 128) :
    isNameContinue c.toLower = isNameContinue c := by
  rw [isNameContinue_of_ascii hc, isNameContinue_of_ascii (toNat_toLower_lt hc)]
  exact forall_ascii (P := fun c => (c.toLower == '_' || c.toLower.isAlphanum)
    = (c == '_' || c.isAlphanum)) (by decide) hc

theorem find?_caseRuns_of_ascii (hc : c.toNat < 128) :
    caseRuns.find? (·.covers c) = if c.isUpper then some ⟨0x41, 0x5A, 1, 32⟩ else none := by
  have hruns : ∀ r ∈ caseRuns.drop 1, 128 ≤ r.first := by decide +kernel
  have hbehind : (caseRuns.drop 1).find? (·.covers c) = none := by
    refine List.find?_eq_none.mpr fun r hr => ?_
    have hfirst := hruns r hr
    simp only [CaseRun.covers, Bool.and_eq_true, decide_eq_true_eq]
    omega
  have hcovers : CaseRun.covers ⟨0x41, 0x5A, 1, 32⟩ c = c.isUpper :=
    forall_ascii (P := fun c => CaseRun.covers ⟨0x41, 0x5A, 1, 32⟩ c = c.isUpper) (by decide) hc
  rw [← List.take_append_drop 1 caseRuns, List.find?_append, hbehind, Option.or_none, ← hcovers]
  exact List.find?_singleton

theorem lowerChar_of_ascii (hc : c.toNat < 128) : lowerChar c = [c.toLower] := by
  have hdotted : c.toNat ≠ 0x130 := by omega
  rw [lowerChar, if_neg hdotted, find?_caseRuns_of_ascii hc]
  cases hupper : c.isUpper with
  | false => rw [toLower_of_not_upper hc hupper]; rfl
  | true =>
    have hshift : Char.ofNat ((c.toNat : Int) + 32).toNat = c.toLower :=
      forall_ascii (P := fun c => c.isUpper = true →
        Char.ofNat ((c.toNat : Int) + 32).toNat = c.toLower) (by decide) hc hupper
    exact congrArg (fun d => [d]) hshift

theorem lowerAfter_of_isAscii (h : IsAscii s) (before : List Char) :
    lowerAfter before s = s.map Char.toLower := by
  induction s generalizing before with
  | nil => rfl
  | cons c rest ih =>
    obtain ⟨hc, hrest⟩ := List.forall_mem_cons.mp h
    have hsigma : c ≠ 'Σ' := by
      rintro rfl
      exact absurd hc (by decide)
    rw [lowerAfter_cons, if_neg hsigma, lowerChar_of_ascii hc, ih hrest]
    rfl

theorem lower_of_isAscii (h : IsAscii s) : lower s = s.map Char.toLower :=
  lowerAfter_of_isAscii h []

end RowMapping.Text
