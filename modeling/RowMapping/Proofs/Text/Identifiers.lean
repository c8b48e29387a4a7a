import RowMapping.Proofs.Supply.Requests
import RowMapping.Proofs.Text.Ascii

/-!
# Identifiers and names

`toIdentifier` keeps word characters.  They are not quite what names are made of: numerals such as
fractions and superscripts are word characters that no name contains, and four letters, which are
no digits either, are never the first of a name (`lateLetterRanges`).

* `isLanguageName_toIdentifier_iff`  the texts whose identifiers are names (`MakesName`);
* `toIdentifier_toIdentifier`  an identifier is its own identifier;
* `makesName_toIdentifier`  both, with names of ASCII, which stay as they are, and new names.
-/

namespace RowMapping.Text

/-! ### tables without common characters -/

/-- Each range of the first class is part of a range of the second; both are gone through once. -/
def Ranges.nested : Ranges → Ranges → Bool
  | [], _ => true
  | r :: rs, ts =>
    match ts.dropWhile fun t => Nat.blt t.2 r.1 with
    | [] => false
    | t :: behind => Nat.ble t.1 r.1 && Nat.ble r.2 t.2 && nested rs (t :: behind)

theorem Ranges.has_of_nested {rs ts : Ranges} {c : Char} (h : rs.nested ts = true)
    (hc : rs.has c = true) : ts.has c = true := by
  induction rs generalizing ts with
  | nil => cases hc
  | cons r rs ih =>
    have hsub := (List.dropWhile_suffix (l := ts) fun t => Nat.blt t.2 r.1).subset
    unfold nested at h
    split at h
    next => cases h
    next t behind heq =>
      rw [heq] at hsub
      simp only [Bool.and_eq_true, Nat.ble_eq] at h
      rw [has_cons, Bool.or_eq_true] at hc
      have hmem : Ranges.has (t :: behind) c = true := by
        rcases hc with hc | hc
        · rw [Bool.and_eq_true, decide_eq_true_iff, decide_eq_true_iff] at hc
          rw [has_cons, decide_eq_true (Nat.le_trans h.1.1 hc.1),
            decide_eq_true (Nat.le_trans hc.2 h.1.2)]
          rfl
        · exact ih h.2 hc
      obtain ⟨u, hu, hbounds⟩ := List.any_eq_true.mp hmem
      exact List.any_eq_true.mpr ⟨u, hsub hu, hbounds⟩

/-- No range of the first class meets a range of the second. -/
def Ranges.apart (rs ts : Ranges) : Bool :=
  rs.all fun r => ts.all fun t => Nat.blt r.2 t.1 || Nat.blt t.2 r.1

theorem Ranges.has_eq_false_of_apart {rs ts : Ranges} {c : Char} (h : rs.apart ts = true)
    (hc : rs.has c = true) : ts.has c = false := by
  obtain ⟨r, hr, hbounds⟩ := List.any_eq_true.mp hc
  refine List.any_eq_false.mpr fun t ht => ?_
  have hapart := List.all_eq_true.mp (List.all_eq_true.mp h r hr) t ht
  simp only [Bool.and_eq_true, Bool.or_eq_true, decide_eq_true_eq, Nat.blt_eq] at hbounds hapart ⊢
  omega

/-! ### words and names -/

/-- letters that a name contains but does not begin with -/
def lateLetterRanges : Ranges := [(0xE33, 0xE33), (0xEB3, 0xEB3), (0xFF9E, 0xFF9F)]

/-- a text without numerals that no name contains, and without a late letter in front -/
structure MakesName (s : List Char) : Prop where
  noNumeral : ∀ c ∈ s, numeralRanges.has c = false
  start : ∀ c ∈ s.head?, lateLetterRanges.has c = false

variable {c : Char} {s : String}

theorem isWordChar_of_numeral (h : numeralRanges.has c = true) : isWordChar c = true := by
  have hnested : numeralRanges.nested alphanumericRanges = true := by decide
  rw [isWordChar, isAlphanumeric, Ranges.has_of_nested hnested h, Bool.or_true]

theorem isWordChar_of_lateLetter (h : lateLetterRanges.has c = true) : isWordChar c = true := by
  have hnested : lateLetterRanges.nested alphanumericRanges = true := by decide
  rw [isWordChar, isAlphanumeric, Ranges.has_of_nested hnested h, Bool.or_true]

theorem innerRanges_eq_of_not_digit (h : isDigitChar c = false) :
    innerRanges.has c = lateLetterRanges.has c := by
  have hinner : innerRanges.within (digitRanges ++ lateLetterRanges) = true := by decide
  have hlate : lateLetterRanges.nested innerRanges = true := by decide
  rw [Bool.eq_iff_iff]
  refine ⟨fun hc => ?_, Ranges.has_of_nested hlate⟩
  have hmem := Ranges.has_of_within hinner hc
  rw [Ranges.has_append, Bool.or_eq_true] at hmem
  refine hmem.resolve_left fun hdigit => ?_
  have hdigit : isDigitChar c = true := hdigit
  rw [h] at hdigit
  cases hdigit

theorem lateLetter_of_digit (h : isDigitChar c = true) : lateLetterRanges.has c = false := by
  have hapart : digitRanges.apart lateLetterRanges = true := by decide
  exact Ranges.has_eq_false_of_apart hapart h

/-! ### one character -/

theorem isNameContinue_underscore : isNameContinue '_' = true := by
  rw [isNameContinue_of_ascii (by decide)]
  rfl

theorem isNameStart_underscore : isNameStart '_' = true := by
  rw [isNameStart_of_ascii (by decide)]
  rfl

theorem isNameContinue_iff (hword : isWordChar c = true) :
    isNameContinue c = true ↔ numeralRanges.has c = false := by
  have hinner : numeralRanges.apart innerRanges = true := by decide
  have hmark : numeralRanges.apart markRanges = true := by decide +kernel
  cases hnumeral : numeralRanges.has c with
  | true =>
    rw [isNameContinue, isNameStart, hnumeral, Ranges.has_eq_false_of_apart hinner hnumeral,
      Ranges.has_eq_false_of_apart hmark hnumeral]
    simp
  | false =>
    rw [isNameContinue, isNameStart, hnumeral, hword]
    cases innerRanges.has c <;> simp

theorem isNameStart_iff (hword : isWordChar c = true) (hdigit : isDigitChar c = false) :
    isNameStart c = true ↔ numeralRanges.has c = false ∧ lateLetterRanges.has c = false := by
  rw [isNameStart, hword, innerRanges_eq_of_not_digit hdigit]
  simp

theorem wordChar_of_isWordChar (h : isWordChar c = true) : wordChar c = c := if_pos h

theorem wordChar_of_not_isWordChar (h : isWordChar c = false) : wordChar c = '_' := by
  rw [wordChar, h]
  rfl

theorem isWordChar_wordChar (c : Char) : isWordChar (wordChar c) = true := by
  cases h : isWordChar c with
  | true => rwa [wordChar_of_isWordChar h]
  | false => rw [wordChar_of_not_isWordChar h]; rfl

/-- the numerals are word characters, so that none of them is replaced -/
theorem numeralRanges_wordChar (c : Char) :
    numeralRanges.has (wordChar c) = numeralRanges.has c := by
  cases h : isWordChar c with
  | true => rw [wordChar_of_isWordChar h]
  | false =>
    have hnumeral : numeralRanges.has c = false := by
      refine Bool.eq_false_iff.mpr fun hc => ?_
      rw [isWordChar_of_numeral hc] at h
      cases h
    rw [wordChar_of_not_isWordChar h, hnumeral]
    decide

theorem lateLetterRanges_wordChar (c : Char) :
    lateLetterRanges.has (wordChar c) = lateLetterRanges.has c := by
  cases h : isWordChar c with
  | true => rw [wordChar_of_isWordChar h]
  | false =>
    have hlate : lateLetterRanges.has c = false := by
      refine Bool.eq_false_iff.mpr fun hc => ?_
      rw [isWordChar_of_lateLetter hc] at h
      cases h
    rw [wordChar_of_not_isWordChar h, hlate]
    decide

theorem isNameContinue_wordChar_iff (c : Char) :
    isNameContinue (wordChar c) = true ↔ numeralRanges.has c = false := by
  rw [isNameContinue_iff (isWordChar_wordChar c), numeralRanges_wordChar]

/-! ### identifiers -/

theorem isLanguageName_iff {rest : List Char} (h : s.toList = c :: rest) :
    isLanguageName s = true ↔ isNameStart c = true ∧ ∀ d ∈ rest, isNameContinue d = true := by
  unfold isLanguageName
  rw [h, Bool.and_eq_true, List.all_eq_true]

theorem isLanguageName_toIdentifier_iff (s : String) :
    isLanguageName (toIdentifier s) = true ↔ MakesName s.toList := by
  have hchars := toList_toIdentifier s
  cases hs : s.toList with
  | nil =>
    rw [hs] at hchars
    refine iff_of_true ((isLanguageName_iff hchars).mpr ?_) ⟨nofun, nofun⟩
    exact ⟨isNameStart_underscore, nofun⟩
  | cons c rest =>
    have hrest : (∀ d ∈ rest.map wordChar, isNameContinue d = true) ↔
        ∀ d ∈ rest, numeralRanges.has d = false := by
      rw [List.forall_mem_map]
      exact forall₂_congr fun d _ => isNameContinue_wordChar_iff d
    have hmakes : MakesName (c :: rest) ↔ (numeralRanges.has c = false ∧
        ∀ d ∈ rest, numeralRanges.has d = false) ∧ lateLetterRanges.has c = false := by
      constructor
      · intro h
        exact ⟨List.forall_mem_cons.mp h.noNumeral, h.start c rfl⟩
      · rintro ⟨hnumeral, hlate⟩
        exact ⟨List.forall_mem_cons.mpr hnumeral, fun d hd => by cases hd; exact hlate⟩
    rw [hmakes]
    rw [hs, identifierChars, List.map_cons, guardStart] at hchars
    cases hdigit : isDigitChar (wordChar c) with
    | true =>
      rw [hdigit, if_pos rfl] at hchars
      have hlate := lateLetter_of_digit hdigit
      rw [lateLetterRanges_wordChar] at hlate
      rw [isLanguageName_iff hchars, List.forall_mem_cons, isNameContinue_wordChar_iff, hrest]
      exact ⟨fun h => ⟨h.2, hlate⟩, fun h => ⟨isNameStart_underscore, h.1⟩⟩
    | false =>
      rw [hdigit, if_neg Bool.false_ne_true] at hchars
      rw [isLanguageName_iff hchars, isNameStart_iff (isWordChar_wordChar c) hdigit,
        numeralRanges_wordChar, lateLetterRanges_wordChar, hrest, and_right_comm]

theorem guardStart_guardStart (s : List Char) : guardStart (guardStart s) = guardStart s := by
  have hunderscore : isDigitChar '_' = false := by decide
  have hkept (rest : List Char) : guardStart ('_' :: rest) = '_' :: rest := by
    rw [guardStart, hunderscore, if_neg Bool.false_ne_true]
  cases s with
  | nil => exact hkept []
  | cons c rest =>
    cases h : isDigitChar c with
    | true =>
      rw [guardStart, h, if_pos rfl]
      exact hkept _
    | false =>
      rw [guardStart, h, if_neg Bool.false_ne_true, guardStart, h, if_neg Bool.false_ne_true]

theorem isWordChar_of_mem_guardStart {s : List Char} (h : ∀ c ∈ s, isWordChar c = true) :
    ∀ c ∈ guardStart s, isWordChar c = true := by
  have hunderscore : isWordChar '_' = true := rfl
  cases s with
  | nil => exact List.forall_mem_singleton.mpr hunderscore
  | cons c rest =>
    rw [guardStart]
    split
    · exact List.forall_mem_cons.mpr ⟨hunderscore, h⟩
    · exact h

/-- an identifier has word characters only and is guarded, so nothing is changed again -/
theorem toIdentifier_toIdentifier (s : String) :
    toIdentifier (toIdentifier s) = toIdentifier s := by
  have hword : ∀ c ∈ identifierChars s.toList, isWordChar c = true := by
    refine isWordChar_of_mem_guardStart fun d hd => ?_
    obtain ⟨c, -, rfl⟩ := List.mem_map.mp hd
    exact isWordChar_wordChar c
  apply String.toList_injective
  rw [toList_toIdentifier, toList_toIdentifier, identifierChars, map_wordChar_of_isWordChar hword,
    identifierChars, guardStart_guardStart]

theorem toIdentifier_of_isAscii (hascii : IsAscii s.toList) (hname : isLanguageName s = true) :
    toIdentifier s = s := by
  refine toIdentifier_of_isLanguageName hname fun d hd => ?_
  rw [isWordChar_of_ascii (hascii d hd)]
  cases hs : s.toList with
  | nil => rw [hs] at hd; cases hd
  | cons c rest =>
    obtain ⟨hstart, hrest⟩ := (isLanguageName_iff hs).mp hname
    rw [hs] at hd
    rcases List.mem_cons.mp hd with rfl | hd
    · rw [isNameContinue, hstart, Bool.true_or, Bool.true_or]
    · exact hrest d hd

/-! ### new names -/

/-- an underscore at the end of a text changes nothing about its being a name -/
theorem isLanguageName_append_underscore (hne : s.toList ≠ []) :
    isLanguageName (s ++ "_") = isLanguageName s := by
  obtain ⟨c, rest, hs⟩ := List.exists_cons_of_ne_nil hne
  have happend : (s ++ "_").toList = c :: (rest ++ ['_']) := by
    rw [String.toList_append, hs]
    rfl
  rw [Bool.eq_iff_iff, isLanguageName_iff hs, isLanguageName_iff happend, List.forall_mem_append]
  have hlast : ∀ d ∈ ['_'], isNameContinue d = true :=
    List.forall_mem_singleton.mpr isNameContinue_underscore
  exact and_congr_right fun _ => and_iff_left hlast

theorem isLanguageName_padded (hne : s.toList ≠ []) (k : Nat) :
    isLanguageName (NameSupply.padded s k) = isLanguageName s := by
  induction k generalizing s with
  | zero => rfl
  | succ k ih =>
    have happend : (s ++ "_").toList ≠ [] := by simp
    rw [NameSupply.padded_succ, ih happend, isLanguageName_append_underscore hne]

theorem isLanguageName_fresh (supply : NameSupply) (s : String) :
    isLanguageName (supply.fresh s) = isLanguageName (toIdentifier s) := by
  obtain ⟨k, -, hfresh⟩ := supply.isFirstFree_fresh s
  rw [hfresh, isLanguageName_padded]
  rw [toList_toIdentifier]
  exact identifierChars_ne_nil _

/-- The name that answers a request for a new one, for a tag or for none, is the fresh one. -/
theorem eq_fresh_of_respond {supply supply' : NameSupply} {tag? : Option Tag} {name : String}
    (h : supply.respond (.newName s tag?) = (.ok (some name), supply')) :
    name = supply.fresh s := by
  cases tag? with
  | none =>
    rw [NameSupply.respond_newName] at h
    cases h
    rfl
  | some tag =>
    cases hfind : supply.find? tag with
    | none =>
      rw [NameSupply.respond_newName_of_unbound hfind] at h
      cases h
      rfl
    | some bound =>
      rw [NameSupply.respond_newName_of_bound hfind] at h
      cases h

/-- The identifier of a text, and every new name made of it, is a name exactly if the text has no
numeral that names do not contain and no late letter in front.  An identifier is its own
identifier, and so is a name of ASCII. -/
theorem makesName_toIdentifier (s : String) :
    (isLanguageName (toIdentifier s) = true ↔ MakesName s.toList) ∧
    toIdentifier (toIdentifier s) = toIdentifier s ∧
    (IsAscii s.toList → isLanguageName s = true → toIdentifier s = s) ∧
    ∀ (supply : NameSupply) (tag? : Option Tag) (name : String) (supply' : NameSupply),
      supply.respond (.newName s tag?) = (.ok (some name), supply') →
        (isLanguageName name = true ↔ MakesName s.toList) := by
  have hiff := isLanguageName_toIdentifier_iff s
  refine ⟨hiff, toIdentifier_toIdentifier s, toIdentifier_of_isAscii, ?_⟩
  intro supply tag? name supply' hrespond
  rw [eq_fresh_of_respond hrespond, isLanguageName_fresh, hiff]

/-- a digit in front is guarded, and a name that is taken gets an underscore -/
theorem makesName_storey : MakesName "1er étage".toList ∧
    isLanguageName (toIdentifier "1er étage") = true ∧
    (IsAscii "to_row2".toList ∧ isLanguageName "to_row2" = true ∧
      toIdentifier "to_row2" = "to_row2") ∧
    ∃ supply supply' : NameSupply,
      supply.respond (.newName "1er étage" none) = (.ok (some "_1er_étage_"), supply') ∧
        isLanguageName "_1er_étage_" = true := by
  have hnumeral : "1er étage".toList.all (fun c => !numeralRanges.has c) = true := by
    decide +kernel
  have hmakes : MakesName "1er étage".toList := by
    refine ⟨fun c hc => ?_, fun c hc => by cases hc; decide +kernel⟩
    simpa using List.all_eq_true.mp hnumeral c hc
  have hascii : IsAscii "to_row2".toList := by decide
  have hname : isLanguageName "to_row2" = true := by decide +kernel
  obtain ⟨hiff, -, -, hnew⟩ := makesName_toIdentifier "1er étage"
  obtain ⟨-, -, hkept, -⟩ := makesName_toIdentifier "to_row2"
  have hrespond : (NameSupply.empty.reserve "_1er_étage").respond (.newName "1er étage" none)
      = (.ok (some "_1er_étage_"), { taken := ["_1er_étage_", "_1er_étage"] }) := by
    have hfresh : (NameSupply.empty.reserve "_1er_étage").fresh "1er étage" = "_1er_étage_" := by
      decide +kernel
    rw [NameSupply.respond_newName, hfresh]
    rfl
  exact ⟨hmakes, hiff.mpr hmakes, ⟨hascii, hname, hkept hascii hname⟩, _, _, hrespond,
    (hnew _ _ _ _ hrespond).mpr hmakes⟩

/-- A superscript stays in an identifier, which is no name then, and in the names made of it. -/
theorem not_isLanguageName_squared : toIdentifier "m²" = "m²" ∧
    isLanguageName (toIdentifier "m²") = false ∧
    isLanguageName (NameSupply.empty.newName "m²").1 = false := by decide +kernel

end RowMapping.Text
