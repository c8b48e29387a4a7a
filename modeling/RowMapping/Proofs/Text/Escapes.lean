import Mathlib.Algebra.Group.Nat.Defs
import RowMapping.Text.Literal
import RowMapping.Toml.Reader

/-!
# Reading literals

A literal of the generated source is read in two steps.  `closing?` finds the quote at its end: a
backslash takes along what stands behind it, and no line end may stand alone.  `decode?` replaces
each escape by what it stands for, and refuses a backslash that opens none.

What a literal spells are code points, since an escape can spell half of a surrogate pair.  Which
names stand for characters is left to a table, `CharNames`.

* `Written.closing?_append`, `Written.decode?_append`  the two steps on one written character;
* `readLiteral?_literal_append`  how a literal is read where more text follows;
* `spells_literal`  a written literal is one literal, and spells the text that it was written for.
-/

namespace RowMapping.Text
open RowMapping.Toml (isHexDigit hexValue valueInBase)

/-! ### the end of a literal -/

/-- the text in front of the closing quote of a literal, and the text behind this quote -/
def closing? : List Char → Option (List Char × List Char)
  | [] => none
  | '\\' :: '\r' :: '\n' :: rest => (closing? rest).map fun p => ('\\' :: '\r' :: '\n' :: p.1, p.2)
  | '\\' :: c :: rest => (closing? rest).map fun p => ('\\' :: c :: p.1, p.2)
  | c :: rest =>
    if c = '"' then some ([], rest)
    else if c = '\n' ∨ c = '\r' then none
    else (closing? rest).map fun p => (c :: p.1, p.2)

/-! ### escapes -/

/-- the code points of the characters that have a name -/
abbrev CharNames := List Char → Option Nat

def isOctalDigit (c : Char) : Bool := '0' ≤ c && c ≤ '7'

/-- the code point of an escape by one character -/
def letterEscape? : Char → Option Nat
  | '\\' => some 92
  | '\'' => some 39
  | '"' => some 34
  | 'a' => some 7
  | 'b' => some 8
  | 'f' => some 12
  | 'n' => some 10
  | 'r' => some 13
  | 't' => some 9
  | 'v' => some 11
  | _ => none

/-- an escape by exactly `width` hexadecimal digits, behind its letter -/
def hexEscape? (width : Nat) (rest : List Char) : Option (List Nat × Nat) :=
  let digits := rest.take width
  if digits.length = width ∧ digits.all isHexDigit = true ∧ valueInBase 16 digits < 0x110000 then
    some ([valueInBase 16 digits], width + 1)
  else none

/-- an escape by a name between braces, behind its letter -/
def nameEscape? (names : CharNames) : List Char → Option (List Nat × Nat)
  | '\x7b' :: rest =>
    let name := rest.takeWhile (· ≠ '\x7d')
    if name.length < rest.length then (names name).map fun n => ([n], name.length + 3) else none
  | _ => none

/-- What an escape stands for, behind its backslash, and how many characters it takes there.  A
line end stands for nothing. -/
def escape? (names : CharNames) : List Char → Option (List Nat × Nat)
  | [] => none
  | c :: rest =>
    if c = '\n' then some ([], 1)
    else if c = '\r' then some ([], if rest.head? = some '\n' then 2 else 1)
    else if c = 'x' then hexEscape? 2 rest
    else if c = 'u' then hexEscape? 4 rest
    else if c = 'U' then hexEscape? 8 rest
    else if c = 'N' then nameEscape? names rest
    else if isOctalDigit c then
      let digits := ((c :: rest).take 3).takeWhile isOctalDigit
      some ([valueInBase 8 digits], digits.length)
    else (letterEscape? c).map fun n => ([n], 1)

/-- the code points that the inside of a literal spells -/
def decode? (names : CharNames) : List Char → Option (List Nat)
  | [] => some []
  | c :: rest =>
    if c = '\\' then
      match escape? names rest with
      | some (codes, taken) => (decode? names (rest.drop taken)).map (codes ++ ·)
      | none => none
    else (decode? names rest).map (c.toNat :: ·)
termination_by s => s.length
decreasing_by all_goals simp only [List.length_drop, List.length_cons]; omega

/-- The literal at the front of a text, and what stands behind it.  Three quotes open another kind
of literal. -/
def readLiteral? (names : CharNames) : List Char → Option (List Nat × List Char)
  | '"' :: '"' :: '"' :: _ => none
  | '"' :: rest =>
    (closing? rest).bind fun p => (decode? names p.1).map fun codes => (codes, p.2)
  | _ => none

/-- `source` is one literal and nothing else, has no control characters, and spells `value`. -/
structure Spells (names : CharNames) (source value : String) : Prop where
  quoted : ∃ body, source.toList = '"' :: body ++ ['"'] ∧
    closing? (body ++ ['"']) = some (body, []) ∧
    decode? names body = some (value.toList.map Char.toNat)
  plain : ∀ c ∈ source.toList, 32 ≤ c.toNat

/-! ### hexadecimal digits -/

theorem valueInBase_hexDigits (width n : Nat) :
    valueInBase 16 (hexDigits width n) = n % 16 ^ width := by
  have hdigit : ∀ d < 16, hexValue (Nat.digitChar d) = d := by decide
  induction width generalizing n with
  | zero => rw [Nat.pow_zero, Nat.mod_one]; rfl
  | succ width ih =>
    have hstep : valueInBase 16 (hexDigits (width + 1) n)
        = 16 * valueInBase 16 (hexDigits width (n / 16)) + hexValue (Nat.digitChar (n % 16)) := by
      rw [hexDigits, valueInBase, List.foldl_append]
      rfl
    rw [hstep, ih, hdigit _ (Nat.mod_lt n (by decide)), Nat.pow_succ, Nat.mul_comm (16 ^ width),
      Nat.mod_mul, Nat.add_comm]

theorem exists_of_mem_hexDigits {width n : Nat} {c : Char} (h : c ∈ hexDigits width n) :
    ∃ d < 16, c = Nat.digitChar d := by
  induction width generalizing n with
  | zero => cases h
  | succ width ih =>
    rcases List.mem_append.mp h with h | h
    · exact ih h
    · exact ⟨n % 16, Nat.mod_lt n (by decide), List.mem_singleton.mp h⟩

theorem hexEscape?_hexDigits {width n : Nat} (hwidth : n < 16 ^ width) (hcode : n < 0x110000)
    (rest : List Char) : hexEscape? width (hexDigits width n ++ rest) = some ([n], width + 1) := by
  have htake : (hexDigits width n ++ rest).take width = hexDigits width n :=
    List.take_left' (length_hexDigits width n)
  have hdigits : (hexDigits width n).all isHexDigit = true := by
    have hall : ∀ d < 16, isHexDigit (Nat.digitChar d) = true := by decide
    refine List.all_eq_true.mpr fun c hc => ?_
    obtain ⟨d, hd, rfl⟩ := exists_of_mem_hexDigits hc
    exact hall d hd
  have hvalue : valueInBase 16 (hexDigits width n) = n := by
    rw [valueInBase_hexDigits, Nat.mod_eq_of_lt hwidth]
  unfold hexEscape?
  simp only [htake, hvalue]
  exact if_pos ⟨length_hexDigits width n, hdigits, hcode⟩

/-! ### one written character -/

variable {names : CharNames}

theorem closing?_cons {c : Char} (hquote : c ≠ '"') (hescape : c ≠ '\\') (hfeed : c ≠ '\n')
    (hreturn : c ≠ '\r') (rest : List Char) :
    closing? (c :: rest) = (closing? rest).map fun p => (c :: p.1, p.2) := by
  rw [closing?]
  · rw [if_neg hquote, if_neg (not_or.mpr ⟨hfeed, hreturn⟩)]
  · rintro _ rfl
    exact absurd rfl hescape
  · rintro _ _ rfl
    exact absurd rfl hescape

theorem closing?_append {s : List Char} (h : ∀ c ∈ s, c ≠ '"' ∧ c ≠ '\\' ∧ 32 ≤ c.toNat)
    (rest : List Char) : closing? (s ++ rest) = (closing? rest).map fun p => (s ++ p.1, p.2) := by
  induction s with
  | nil => simp
  | cons c s ih =>
    obtain ⟨⟨hquote, hescape, hplain⟩, hs⟩ := List.forall_mem_cons.mp h
    have hfeed : c ≠ '\n' := by rintro rfl; exact absurd hplain (by decide)
    have hreturn : c ≠ '\r' := by rintro rfl; exact absurd hplain (by decide)
    rw [List.cons_append, closing?_cons hquote hescape hfeed hreturn, ih hs, Option.map_map]
    rfl

theorem closing?_escape {c : Char} (hreturn : c ≠ '\r') (rest : List Char) :
    closing? ('\\' :: c :: rest) = (closing? rest).map fun p => ('\\' :: c :: p.1, p.2) := by
  rw [closing?]
  rintro _ rfl
  exact absurd rfl hreturn

theorem decode?_cons {c : Char} (hescape : c ≠ '\\') (rest : List Char) :
    decode? names (c :: rest) = (decode? names rest).map (c.toNat :: ·) := by
  rw [decode?, if_neg hescape]

theorem decode?_escape {text rest : List Char} {codes : List Nat}
    (h : escape? names (text ++ rest) = some (codes, text.length)) :
    decode? names ('\\' :: (text ++ rest)) = (decode? names rest).map (codes ++ ·) := by
  rw [decode?, if_pos rfl, h]
  simp only [List.drop_left]

/-- the letter of an escape is no control character -/
theorem plain_of_letterEscape? {e : Char} {n : Nat} (h : letterEscape? e = some n) :
    32 ≤ e.toNat := by
  unfold letterEscape? at h
  split at h <;> first | decide | cases h

theorem escape?_of_letterEscape? {e : Char} {n : Nat} (h : letterEscape? e = some n)
    (rest : List Char) : escape? names (e :: rest) = some ([n], 1) := by
  unfold letterEscape? at h
  split at h <;> cases h <;> rfl

/-- How a character is written in a literal: as it is, by a letter behind a backslash, or by its
code. -/
inductive Written (c : Char) : List Char → Prop
  | plain : c ≠ '"' → c ≠ '\\' → 32 ≤ c.toNat → Written c [c]
  | letter {e : Char} : letterEscape? e = some c.toNat → Written c ['\\', e]
  | code : c.toNat < 32 → Written c ('\\' :: 'u' :: hexDigits 4 c.toNat)

theorem written_literalChar (c : Char) : Written c (literalChar c) := by
  fun_cases literalChar c
  · exact .letter (by subst_vars; rfl)
  · exact .letter (by subst_vars; rfl)
  · exact .letter (by subst_vars; rfl)
  · exact .letter (by subst_vars; rfl)
  · exact .letter (by subst_vars; rfl)
  next h => exact .letter (h ▸ rfl)
  next h => exact .letter (h ▸ rfl)
  next h => exact .code h
  next hquote hescape _ _ _ _ _ h => exact .plain hquote hescape (Nat.le_of_not_lt h)

namespace Written
variable {c : Char} {text : List Char}

theorem plain_chars (h : Written c text) : ∀ d ∈ text, 32 ≤ d.toNat := by
  have hescape : 32 ≤ '\\'.toNat := by decide
  cases h with
  | plain _ _ hplain => exact List.forall_mem_singleton.mpr hplain
  | letter hletter =>
    exact List.forall_mem_cons.mpr
      ⟨hescape, List.forall_mem_singleton.mpr (plain_of_letterEscape? hletter)⟩
  | code _ =>
    refine List.forall_mem_cons.mpr ⟨hescape, List.forall_mem_cons.mpr ⟨by decide, ?_⟩⟩
    have hdigits : ∀ d < 16, 32 ≤ (Nat.digitChar d).toNat := by decide
    intro d hd
    obtain ⟨n, hn, rfl⟩ := exists_of_mem_hexDigits hd
    exact hdigits n hn

theorem exists_cons (h : Written c text) : ∃ d rest, text = d :: rest ∧ d ≠ '"' := by
  cases h with
  | plain hquote _ _ => exact ⟨c, [], rfl, hquote⟩
  | letter _ => exact ⟨_, _, rfl, by decide⟩
  | code _ => exact ⟨_, _, rfl, by decide⟩

theorem closing?_append (h : Written c text) (rest : List Char) :
    closing? (text ++ rest) = (closing? rest).map fun p => (text ++ p.1, p.2) := by
  cases h with
  | plain hquote hescape hplain =>
    exact Text.closing?_append (List.forall_mem_singleton.mpr ⟨hquote, hescape, hplain⟩) rest
  | letter hletter =>
    refine closing?_escape ?_ rest
    rintro rfl
    cases hletter
  | code _ =>
    have hdigits : ∀ d < 16, Nat.digitChar d ≠ '"' ∧ Nat.digitChar d ≠ '\\' ∧
        32 ≤ (Nat.digitChar d).toNat := by decide
    have hall : ∀ d ∈ hexDigits 4 c.toNat, d ≠ '"' ∧ d ≠ '\\' ∧ 32 ≤ d.toNat := by
      intro d hd
      obtain ⟨n, hn, rfl⟩ := exists_of_mem_hexDigits hd
      exact hdigits n hn
    rw [List.cons_append, List.cons_append, closing?_escape (by decide),
      Text.closing?_append hall, Option.map_map]
    rfl

/-- a written character spells itself -/
theorem decode?_append (h : Written c text) (rest : List Char) :
    decode? names (text ++ rest) = (decode? names rest).map (c.toNat :: ·) := by
  cases h with
  | plain _ hescape _ => exact decode?_cons hescape rest
  | @letter e hletter =>
    have hread : escape? names ([e] ++ rest) = some ([c.toNat], [e].length) :=
      escape?_of_letterEscape? hletter rest
    exact decode?_escape hread
  | code hcode =>
    have hread : escape? names ('u' :: hexDigits 4 c.toNat ++ rest)
        = some ([c.toNat], ('u' :: hexDigits 4 c.toNat).length) := by
      rw [List.length_cons, length_hexDigits, List.cons_append]
      exact hexEscape?_hexDigits (by omega) (by omega) rest
    exact decode?_escape hread

end Written

/-! ### written texts -/

theorem closing?_literalChars (s : List Char) (rest : List Char) :
    closing? (s.flatMap literalChar ++ '"' :: rest) = some (s.flatMap literalChar, rest) := by
  induction s with
  | nil => rfl
  | cons c s ih =>
    rw [List.flatMap_cons, List.append_assoc, (written_literalChar c).closing?_append, ih]
    rfl

theorem decode?_literalChars (s : List Char) :
    decode? names (s.flatMap literalChar) = some (s.map Char.toNat) := by
  induction s with
  | nil => rw [List.flatMap_nil, decode?, List.map_nil]
  | cons c s ih =>
    rw [List.flatMap_cons, (written_literalChar c).decode?_append, ih]
    rfl

/-- A literal is read up to its own end, whatever stands behind it; only the literal of the empty
text must not stand in front of a quote. -/
theorem readLiteral?_literal_append (s : String) (rest : List Char) :
    readLiteral? names ((literal s).toList ++ rest)
      = if s = "" ∧ rest.head? = some '"' then none else some (s.toList.map Char.toNat, rest) := by
  have hread : ((closing? (s.toList.flatMap literalChar ++ '"' :: rest)).bind fun p =>
      (decode? names p.1).map fun codes => (codes, p.2))
        = some (s.toList.map Char.toNat, rest) := by
    rw [closing?_literalChars, Option.bind_some, decode?_literalChars, Option.map_some]
  rw [toList_literal, literalChars, List.append_assoc, List.cons_append, List.singleton_append]
  cases hs : s.toList with
  | nil =>
    have hempty : s = "" := String.toList_eq_nil_iff.mp hs
    rw [hs] at hread
    cases rest with
    | nil => rw [if_neg (by simp)]; exact hread
    | cons c rest =>
      by_cases hc : c = '"'
      · rw [if_pos ⟨hempty, by rw [hc]; rfl⟩, hc]
        rfl
      · rw [if_neg (by simpa using fun _ => hc), List.flatMap_nil, List.nil_append, readLiteral?]
        · exact hread
        · rintro _ h
          injection h with _ h
          injection h with h
          exact hc h
  | cons c cs =>
    have hne : s ≠ "" := fun h => by rw [h] at hs; cases hs
    obtain ⟨d, text, hd, hquote⟩ := (written_literalChar c).exists_cons
    rw [hs] at hread
    rw [if_neg fun h => hne h.1]
    rw [List.flatMap_cons, hd, List.cons_append] at hread ⊢
    rw [List.cons_append] at hread ⊢
    rw [readLiteral?]
    · exact hread
    · rintro _ h
      injection h with h
      exact hquote h

namespace Spells
variable {source value value' : String}

theorem unique (h : Spells names source value) (h' : Spells names source value') :
    value = value' := by
  obtain ⟨body, hsource, -, hvalue⟩ := h.quoted
  obtain ⟨body', hsource', -, hvalue'⟩ := h'.quoted
  rw [hsource] at hsource'
  injection hsource' with _ hbody
  rw [List.append_cancel_right hbody, hvalue'] at hvalue
  have hsame : value'.toList = value.toList :=
    (List.map_inj_right fun _ _ => Char.toNat_inj.mp).mp (Option.some.inj hvalue)
  exact String.toList_inj.mp hsame.symm

end Spells

/-- A written literal is one literal that ends at its last quote and spells the text that it was
written for, in front of any other text too.  So different texts have different literals. -/
theorem spells_literal (names : CharNames) (s : String) : Spells names (literal s) s ∧
    (∀ rest, readLiteral? names ((literal s).toList ++ rest)
      = if s = "" ∧ rest.head? = some '"' then none else some (s.toList.map Char.toNat, rest)) ∧
    ∀ t, literal t = literal s ↔ t = s := by
  have hspells : ∀ t, Spells names (literal t) t := by
    intro t
    refine ⟨⟨t.toList.flatMap literalChar, ?_, closing?_literalChars _ _,
      decode?_literalChars _⟩, ?_⟩
    · rw [toList_literal]
      rfl
    · rw [toList_literal, literalChars]
      have hquote : 32 ≤ '"'.toNat := by decide
      refine List.forall_mem_append.mpr
        ⟨List.forall_mem_cons.mpr ⟨hquote, ?_⟩, List.forall_mem_singleton.mpr hquote⟩
      intro d hd
      obtain ⟨c, -, hd⟩ := List.mem_flatMap.mp hd
      exact (written_literalChar c).plain_chars d hd
  refine ⟨hspells s, readLiteral?_literal_append s, fun t => ⟨fun h => ?_, congrArg literal⟩⟩
  exact (h ▸ hspells t).unique (hspells s)

end RowMapping.Text
