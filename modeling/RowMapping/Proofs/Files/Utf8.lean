import RowMapping.Files.Utf8
import RowMapping.Proofs.Fallible

/-!
# Bytes of a text

`decodeUtf8` gives the one text that has the bytes, and fails on bytes of no text:
`decodeUtf8_eq_ok_iff`.

A character of several bytes is followed from its first byte on.  `Partial.begin?` knows from it how
many bytes are owed and which range the next one has, one definition for each length (`Partial.two`,
`Partial.three`, `Partial.four`), and `Partial.Completes` says which bytes are owed and what number
they give.
-/

namespace RowMapping.Files

/-- the bytes of a text -/
def utf8Bytes (text : List Char) : List UInt8 := text.flatMap String.utf8EncodeChar

@[simp] theorem utf8Bytes_cons (c : Char) (text : List Char) :
    utf8Bytes (c :: text) = String.utf8EncodeChar c ++ utf8Bytes text := List.flatMap_cons

/-! ### bytes that are owed -/

/-- what is known of a character behind one more of its bytes -/
def Partial.next (p : Partial) (b : UInt8) : Partial :=
  { p with owed := p.owed - 1, low := 0x80, high := 0xBF, bits := p.bits * 64 + b.toNat % 64 }

/-- that a byte may follow the bytes of a character -/
def Partial.Admits (p : Partial) (b : UInt8) : Prop := p.low ≤ b.toNat ∧ b.toNat ≤ p.high

/-- that bytes are those owed of a character with this number -/
inductive Partial.Completes : Partial → List UInt8 → Nat → Prop where
  | last {p : Partial} {b : UInt8} : p.owed ≤ 1 → p.Admits b → Completes p [b] (p.next b).bits
  | more {p : Partial} {b : UInt8} {tail : List UInt8} {n : Nat} : 1 < p.owed → p.Admits b →
      Completes (p.next b) tail n → Completes p (b :: tail) n

namespace Partial
variable {p : Partial} {tail : List UInt8} {n position : Nat} {b c : UInt8}

theorem completes_one_iff (h : p.owed = 1) :
    p.Completes tail n ↔ ∃ b, tail = [b] ∧ p.Admits b ∧ n = p.bits * 64 + b.toNat % 64 := by
  constructor
  · intro hcompletes
    cases hcompletes with
    | last _ hadmits => exact ⟨_, rfl, hadmits, rfl⟩
    | more hmore => omega
  · rintro ⟨b, rfl, hadmits, rfl⟩
    exact .last (by omega) hadmits

theorem completes_cons_iff (h : 1 < p.owed) :
    p.Completes tail n ↔ ∃ b rest, tail = b :: rest ∧ p.Admits b ∧ (p.next b).Completes rest n := by
  constructor
  · intro hcompletes
    cases hcompletes with
    | last hlast => omega
    | more _ hadmits hrest => exact ⟨_, _, rfl, hadmits, hrest⟩
  · rintro ⟨b, rest, rfl, hadmits, hrest⟩
    exact .more h hadmits hrest

/-! ### characters of two, three and four bytes -/

def two (position b : Nat) : Partial := ⟨position, b, 1, 0x80, 0xBF, b % 32⟩

def three (position b : Nat) : Partial :=
  ⟨position, b, 2, if b = 0xE0 then 0xA0 else 0x80, if b = 0xED then 0x9F else 0xBF, b % 16⟩

def four (position b : Nat) : Partial :=
  ⟨position, b, 3, if b = 0xF0 then 0x90 else 0x80, if b = 0xF4 then 0x8F else 0xBF, b % 8⟩

/-- that a byte is none with which a character begins -/
def IsTail (b : UInt8) : Prop := 0x80 ≤ b.toNat ∧ b.toNat ≤ 0xBF

theorem admits_three_iff : (three position b.toNat).Admits c ↔
    IsTail c ∧ (b.toNat = 0xE0 → 0xA0 ≤ c.toNat) ∧ (b.toNat = 0xED → c.toNat ≤ 0x9F) := by
  show (if b.toNat = 0xE0 then 0xA0 else 0x80) ≤ c.toNat ∧
    c.toNat ≤ (if b.toNat = 0xED then 0x9F else 0xBF) ↔ _
  unfold IsTail
  split <;> split <;> omega

theorem admits_four_iff : (four position b.toNat).Admits c ↔
    IsTail c ∧ (b.toNat = 0xF0 → 0x90 ≤ c.toNat) ∧ (b.toNat = 0xF4 → c.toNat ≤ 0x8F) := by
  show (if b.toNat = 0xF0 then 0x90 else 0x80) ≤ c.toNat ∧
    c.toNat ≤ (if b.toNat = 0xF4 then 0x8F else 0xBF) ↔ _
  unfold IsTail
  split <;> split <;> omega

theorem completes_two_iff : (two position b.toNat).Completes tail n ↔ ∃ b₁ : UInt8, tail = [b₁] ∧
    IsTail b₁ ∧ n = b.toNat % 32 * 64 + b₁.toNat % 64 := completes_one_iff rfl

theorem completes_three_iff : (three position b.toNat).Completes tail n ↔ ∃ b₁ b₂ : UInt8,
    tail = [b₁, b₂] ∧ (three position b.toNat).Admits b₁ ∧ IsTail b₂ ∧
      n = (b.toNat % 16 * 64 + b₁.toNat % 64) * 64 + b₂.toNat % 64 := by
  rw [completes_cons_iff Nat.one_lt_two]
  constructor
  · rintro ⟨b₁, _, rfl, hb₁, hrest⟩
    obtain ⟨b₂, rfl, hb₂, hn⟩ := (completes_one_iff rfl).mp hrest
    exact ⟨b₁, b₂, rfl, hb₁, hb₂, hn⟩
  · rintro ⟨b₁, b₂, rfl, hb₁, hb₂, hn⟩
    exact ⟨b₁, [b₂], rfl, hb₁, (completes_one_iff rfl).mpr ⟨b₂, rfl, hb₂, hn⟩⟩

theorem completes_four_iff : (four position b.toNat).Completes tail n ↔ ∃ b₁ b₂ b₃ : UInt8,
    tail = [b₁, b₂, b₃] ∧ (four position b.toNat).Admits b₁ ∧ IsTail b₂ ∧ IsTail b₃ ∧
      n = ((b.toNat % 8 * 64 + b₁.toNat % 64) * 64 + b₂.toNat % 64) * 64 + b₃.toNat % 64 := by
  rw [completes_cons_iff (Nat.lt_add_of_pos_right Nat.two_pos)]
  constructor
  · rintro ⟨b₁, _, rfl, hb₁, hrest⟩
    obtain ⟨b₂, _, rfl, hb₂, hrest⟩ := (completes_cons_iff Nat.one_lt_two).mp hrest
    obtain ⟨b₃, rfl, hb₃, hn⟩ := (completes_one_iff rfl).mp hrest
    exact ⟨b₁, b₂, b₃, rfl, hb₁, hb₂, hb₃, hn⟩
  · rintro ⟨b₁, b₂, b₃, rfl, hb₁, hb₂, hb₃, hn⟩
    exact ⟨b₁, [b₂, b₃], rfl, hb₁, (completes_cons_iff Nat.one_lt_two).mpr
      ⟨b₂, [b₃], rfl, hb₂, (completes_one_iff rfl).mpr ⟨b₃, rfl, hb₃, hn⟩⟩⟩

theorem begin?_two {b : Nat} (h : 0xC2 ≤ b ∧ b ≤ 0xDF) :
    begin? position b = some (two position b) := if_pos h

theorem begin?_three {b : Nat} (h : 0xE0 ≤ b ∧ b ≤ 0xEF) :
    begin? position b = some (three position b) := by
  unfold begin? three
  rw [if_neg (by omega)]
  by_cases hfirst : b = 0xE0
  · simp [hfirst]
  · rw [if_neg hfirst, if_neg hfirst]
    by_cases hlast : b = 0xED
    · simp [hlast]
    · rw [if_neg hlast, if_neg hlast, if_pos (by omega)]

theorem begin?_four {b : Nat} (h : 0xF0 ≤ b ∧ b ≤ 0xF4) :
    begin? position b = some (four position b) := by
  unfold begin? four
  rw [if_neg (by omega), if_neg (by omega), if_neg (by omega), if_neg (by omega)]
  by_cases hfirst : b = 0xF0
  · simp [hfirst]
  · rw [if_neg hfirst, if_neg hfirst]
    by_cases hlast : b = 0xF4
    · simp [hlast]
    · rw [if_neg hlast, if_neg hlast, if_pos (by omega)]

theorem range_of_begin? {b : Nat} (h : begin? position b = some p) :
    (0xC2 ≤ b ∧ b ≤ 0xDF) ∨ (0xE0 ≤ b ∧ b ≤ 0xEF) ∨ (0xF0 ≤ b ∧ b ≤ 0xF4) := by
  unfold begin? at h
  repeat' split at h
  all_goals first | omega | cases h

end Partial

/-! ### one character -/

theorem val_ofNat {n : Nat} (h : n.isValidChar) : (Char.ofNat n).val.toNat = n := by
  rw [Char.ofNat, dif_pos h]
  rfl

theorem ofNat_val (c : Char) : Char.ofNat c.val.toNat = c := Char.ofNat_toNat c

theorem toNat_ofNat_of_lt {k : Nat} (h : k < 256) : (UInt8.ofNat k).toNat = k :=
  UInt8.toNat_ofNat_of_lt' h

theorem utf8EncodeChar_one {c : Char} (h : c.val.toNat < 0x80) :
    String.utf8EncodeChar c = [UInt8.ofNat c.val.toNat] := if_pos (by omega)

theorem utf8EncodeChar_two {c : Char} {n : Nat} (hc : c.val.toNat = n) (h : 0x80 ≤ n ∧ n < 0x800) :
    ∃ b b₁, String.utf8EncodeChar c = [b, b₁] ∧ b.toNat = n / 64 + 192 ∧
      b₁.toNat = n % 64 + 128 := by
  refine ⟨UInt8.ofNat (n / 64 % 32 + 192), UInt8.ofNat (n % 64 + 128), ?_, ?_, ?_⟩
  · unfold String.utf8EncodeChar
    dsimp only
    rw [hc, if_neg (by omega), if_pos (by omega)]
  · rw [toNat_ofNat_of_lt (by omega)]
    omega
  · exact toNat_ofNat_of_lt (by omega)

theorem utf8EncodeChar_three {c : Char} {n : Nat} (hc : c.val.toNat = n)
    (h : 0x800 ≤ n ∧ n < 0x10000) : ∃ b b₁ b₂, String.utf8EncodeChar c = [b, b₁, b₂] ∧
      b.toNat = n / 4096 + 224 ∧ b₁.toNat = n / 64 % 64 + 128 ∧ b₂.toNat = n % 64 + 128 := by
  refine ⟨UInt8.ofNat (n / 4096 % 16 + 224), UInt8.ofNat (n / 64 % 64 + 128),
    UInt8.ofNat (n % 64 + 128), ?_, ?_, ?_, ?_⟩
  · unfold String.utf8EncodeChar
    dsimp only
    rw [hc, if_neg (by omega), if_neg (by omega), if_pos (by omega)]
  · rw [toNat_ofNat_of_lt (by omega)]
    omega
  · exact toNat_ofNat_of_lt (by omega)
  · exact toNat_ofNat_of_lt (by omega)

theorem utf8EncodeChar_four {c : Char} {n : Nat} (hc : c.val.toNat = n)
    (h : 0x10000 ≤ n ∧ n < 0x110000) : ∃ b b₁ b₂ b₃, String.utf8EncodeChar c = [b, b₁, b₂, b₃] ∧
      b.toNat = n / 262144 + 240 ∧ b₁.toNat = n / 4096 % 64 + 128 ∧
      b₂.toNat = n / 64 % 64 + 128 ∧ b₃.toNat = n % 64 + 128 := by
  refine ⟨UInt8.ofNat (n / 262144 % 8 + 240), UInt8.ofNat (n / 4096 % 64 + 128),
    UInt8.ofNat (n / 64 % 64 + 128), UInt8.ofNat (n % 64 + 128), ?_, ?_, ?_, ?_, ?_⟩
  · unfold String.utf8EncodeChar
    dsimp only
    rw [hc, if_neg (by omega), if_neg (by omega), if_neg (by omega)]
  · rw [toNat_ofNat_of_lt (by omega)]
    omega
  · exact toNat_ofNat_of_lt (by omega)
  · exact toNat_ofNat_of_lt (by omega)
  · exact toNat_ofNat_of_lt (by omega)

theorem digits_three {n x y z : Nat} (hx : 0xE0 ≤ x ∧ x ≤ 0xEF) (hy : 0x80 ≤ y ∧ y ≤ 0xBF)
    (hz : 0x80 ≤ z ∧ z ≤ 0xBF) (hn : n = ((x - 224) * 64 + (y - 128)) * 64 + (z - 128)) :
    n / 4096 + 224 = x ∧ n / 64 % 64 + 128 = y ∧ n % 64 + 128 = z := by
  refine ⟨?_, ?_, ?_⟩ <;> omega

theorem digits_four {n x y z w : Nat} (hx : 0xF0 ≤ x ∧ x ≤ 0xF4) (hy : 0x80 ≤ y ∧ y ≤ 0xBF)
    (hz : 0x80 ≤ z ∧ z ≤ 0xBF) (hw : 0x80 ≤ w ∧ w ≤ 0xBF)
    (hn : n = (((x - 240) * 64 + (y - 128)) * 64 + (z - 128)) * 64 + (w - 128)) :
    n / 262144 + 240 = x ∧ n / 4096 % 64 + 128 = y ∧ n / 64 % 64 + 128 = z ∧ n % 64 + 128 = w := by
  refine ⟨?_, ?_, ?_, ?_⟩ <;> omega

theorem Partial.IsTail.mod_eq {b : UInt8} (h : Partial.IsTail b) :
    b.toNat % 64 = b.toNat - 128 := by
  obtain ⟨hlow, hhigh⟩ := h
  omega

section
variable {position n : Nat} {b : UInt8} {tail : List UInt8}

theorem utf8EncodeChar_of_completes_two (hb : 0xC2 ≤ b.toNat ∧ b.toNat ≤ 0xDF)
    (h : (Partial.two position b.toNat).Completes tail n) :
    String.utf8EncodeChar (Char.ofNat n) = b :: tail := by
  obtain ⟨b₁, rfl, ⟨hlow, hhigh⟩, hn⟩ := Partial.completes_two_iff.mp h
  have hrange : 0x80 ≤ n ∧ n < 0x800 := by omega
  obtain ⟨c, c₁, hc, hfirst, hsecond⟩ := utf8EncodeChar_two (val_ofNat (.inl (by omega))) hrange
  rw [hc, UInt8.toNat_inj.mp (by omega : c.toNat = b.toNat),
    UInt8.toNat_inj.mp (by omega : c₁.toNat = b₁.toNat)]

theorem utf8EncodeChar_of_completes_three (hb : 0xE0 ≤ b.toNat ∧ b.toNat ≤ 0xEF)
    (h : (Partial.three position b.toNat).Completes tail n) :
    String.utf8EncodeChar (Char.ofNat n) = b :: tail := by
  obtain ⟨b₁, b₂, rfl, hadmits, htail₂, hn⟩ := Partial.completes_three_iff.mp h
  obtain ⟨htail₁, hlong, hplain⟩ := Partial.admits_three_iff.mp hadmits
  have hbits : b.toNat % 16 = b.toNat - 224 := by omega
  rw [hbits, htail₁.mod_eq, htail₂.mod_eq] at hn
  obtain ⟨hd, hd₁, hd₂⟩ := digits_three hb htail₁ htail₂ hn
  unfold Partial.IsTail at htail₁ htail₂
  have hvalid : n.isValidChar := by
    clear hd hd₁ hd₂ hbits
    obtain hbelow | habove : b.toNat ≤ 0xED ∨ 0xED < b.toNat := by omega
    · exact .inl (by omega)
    · exact .inr (by omega)
  have hrange : 0x800 ≤ n ∧ n < 0x10000 := by omega
  obtain ⟨c, c₁, c₂, hc, hfirst, hsecond, hthird⟩ := utf8EncodeChar_three (val_ofNat hvalid) hrange
  rw [hc, UInt8.toNat_inj.mp (hfirst.trans hd), UInt8.toNat_inj.mp (hsecond.trans hd₁),
    UInt8.toNat_inj.mp (hthird.trans hd₂)]

theorem utf8EncodeChar_of_completes_four (hb : 0xF0 ≤ b.toNat ∧ b.toNat ≤ 0xF4)
    (h : (Partial.four position b.toNat).Completes tail n) :
    String.utf8EncodeChar (Char.ofNat n) = b :: tail := by
  obtain ⟨b₁, b₂, b₃, rfl, hadmits, htail₂, htail₃, hn⟩ := Partial.completes_four_iff.mp h
  obtain ⟨htail₁, hlong, hbounded⟩ := Partial.admits_four_iff.mp hadmits
  have hbits : b.toNat % 8 = b.toNat - 240 := by omega
  rw [hbits, htail₁.mod_eq, htail₂.mod_eq, htail₃.mod_eq] at hn
  obtain ⟨hd, hd₁, hd₂, hd₃⟩ := digits_four hb htail₁ htail₂ htail₃ hn
  unfold Partial.IsTail at htail₁ htail₂ htail₃
  have hrange : 0x10000 ≤ n ∧ n < 0x110000 := by
    clear hd hd₁ hd₂ hd₃ hbits
    omega
  obtain ⟨c, c₁, c₂, c₃, hc, hfirst, hsecond, hthird, hfourth⟩ :=
    utf8EncodeChar_four (val_ofNat (.inr (by omega))) hrange
  rw [hc, UInt8.toNat_inj.mp (hfirst.trans hd), UInt8.toNat_inj.mp (hsecond.trans hd₁),
    UInt8.toNat_inj.mp (hthird.trans hd₂), UInt8.toNat_inj.mp (hfourth.trans hd₃)]

/-- the bytes that a first byte owes are those of a character with this first byte -/
theorem utf8EncodeChar_of_completes {p : Partial} (hbegin : Partial.begin? position b.toNat = some p)
    (h : p.Completes tail n) : String.utf8EncodeChar (Char.ofNat n) = b :: tail := by
  obtain htwo | hthree | hfour := Partial.range_of_begin? hbegin
  · rw [Partial.begin?_two htwo] at hbegin
    cases hbegin
    exact utf8EncodeChar_of_completes_two htwo h
  · rw [Partial.begin?_three hthree] at hbegin
    cases hbegin
    exact utf8EncodeChar_of_completes_three hthree h
  · rw [Partial.begin?_four hfour] at hbegin
    cases hbegin
    exact utf8EncodeChar_of_completes_four hfour h

end

theorem exists_completes_utf8EncodeChar (position : Nat) {c : Char} (hlarge : 0x80 ≤ c.val.toNat) :
    ∃ b tail p, String.utf8EncodeChar c = b :: tail ∧ Partial.begin? position b.toNat = some p ∧
      p.Completes tail c.val.toNat := by
  have hvalid : c.val.toNat < 0xD800 ∨ 0xDFFF < c.val.toNat ∧ c.val.toNat < 0x110000 := c.valid
  obtain ⟨n, hn⟩ : ∃ n, c.val.toNat = n := ⟨_, rfl⟩
  rw [hn] at hlarge hvalid ⊢
  obtain htwo | hthree | hfour : n < 0x800 ∨ (0x800 ≤ n ∧ n < 0x10000) ∨ 0x10000 ≤ n := by omega
  · obtain ⟨b, b₁, hbytes, hb, hb₁⟩ := utf8EncodeChar_two hn ⟨hlarge, htwo⟩
    have htail₁ : Partial.IsTail b₁ := ⟨by omega, by omega⟩
    exact ⟨b, [b₁], _, hbytes, Partial.begin?_two (by omega),
      Partial.completes_two_iff.mpr ⟨b₁, rfl, htail₁, by omega⟩⟩
  · obtain ⟨b, b₁, b₂, hbytes, hb, hb₁, hb₂⟩ := utf8EncodeChar_three hn hthree
    have htail₁ : Partial.IsTail b₁ := ⟨by omega, by omega⟩
    have htail₂ : Partial.IsTail b₂ := ⟨by omega, by omega⟩
    refine ⟨b, [b₁, b₂], _, hbytes, Partial.begin?_three (by omega),
      Partial.completes_three_iff.mpr ⟨b₁, b₂, rfl, ?_, htail₂, by omega⟩⟩
    exact Partial.admits_three_iff.mpr ⟨htail₁, by omega, by omega⟩
  · obtain ⟨b, b₁, b₂, b₃, hbytes, hb, hb₁, hb₂, hb₃⟩ := utf8EncodeChar_four hn (by omega)
    have htail₁ : Partial.IsTail b₁ := ⟨by omega, by omega⟩
    have htail₂ : Partial.IsTail b₂ := ⟨by omega, by omega⟩
    have htail₃ : Partial.IsTail b₃ := ⟨by omega, by omega⟩
    refine ⟨b, [b₁, b₂, b₃], _, hbytes, Partial.begin?_four (by omega),
      Partial.completes_four_iff.mpr ⟨b₁, b₂, b₃, rfl, ?_, htail₂, htail₃, by omega⟩⟩
    exact Partial.admits_four_iff.mpr ⟨htail₁, by omega, by omega⟩

/-! ### texts -/

theorem decodeFrom_cons_of_small {position : Nat} {b : UInt8} (h : b.toNat < 0x80)
    (rest : List UInt8) : decodeFrom position none (b :: rest) =
      (decodeFrom (position + 1) none rest).map (Char.ofNat b.toNat :: ·) := by
  rw [decodeFrom, if_pos h]

theorem decodeFrom_cons_of_begin? {position : Nat} {b : UInt8} {p : Partial} (h : ¬ b.toNat < 0x80)
    (hbegin : Partial.begin? position b.toNat = some p) (rest : List UInt8) :
    decodeFrom position none (b :: rest) = decodeFrom (position + 1) (some p) rest := by
  rw [decodeFrom, if_neg h]
  simp only [hbegin]

theorem decodeFrom_cons_of_begin?_none {position : Nat} {b : UInt8} (h : ¬ b.toNat < 0x80)
    (hbegin : Partial.begin? position b.toNat = none) (rest : List UInt8) :
    decodeFrom position none (b :: rest) =
      .error ⟨position, position, b.toNat, .invalidStart⟩ := by
  rw [decodeFrom, if_neg h]
  simp only [hbegin]

theorem decodeFrom_some_cons_of_last {position : Nat} {p : Partial} {b : UInt8} (h : p.Admits b)
    (hlast : p.owed ≤ 1) (rest : List UInt8) : decodeFrom position (some p) (b :: rest) =
      (decodeFrom (position + 1) none rest).map (Char.ofNat (p.next b).bits :: ·) := by
  rw [decodeFrom]
  exact (if_pos h).trans (if_pos hlast)

theorem decodeFrom_some_cons_of_more {position : Nat} {p : Partial} {b : UInt8} (h : p.Admits b)
    (hmore : 1 < p.owed) (rest : List UInt8) : decodeFrom position (some p) (b :: rest) =
      decodeFrom (position + 1) (some (p.next b)) rest := by
  rw [decodeFrom]
  exact (if_pos h).trans (if_neg (by omega))

theorem decodeFrom_some_cons_of_not_admits {position : Nat} {p : Partial} {b : UInt8}
    (h : ¬ p.Admits b) (rest : List UInt8) : decodeFrom position (some p) (b :: rest) =
      .error ⟨p.first, position - 1, p.byte, .invalidContinuation⟩ := by
  rw [decodeFrom]
  exact if_neg h

/-- Behind the first bytes of a character stand those that are owed, and then the next one. -/
theorem decodeFrom_some_eq_ok_iff {position : Nat} {p : Partial} {bytes : List UInt8}
    {text : List Char} : decodeFrom position (some p) bytes = .ok text ↔
      ∃ tail n rest others, bytes = tail ++ rest ∧ p.Completes tail n ∧
        decodeFrom (position + tail.length) none rest = .ok others ∧
        text = Char.ofNat n :: others := by
  induction bytes generalizing position p with
  | nil =>
    refine iff_of_false (fun h => by cases h) ?_
    rintro ⟨tail, n, rest, others, hbytes, hcompletes, -, -⟩
    cases hcompletes <;> cases hbytes
  | cons b rest ih =>
    by_cases hadmits : p.Admits b
    · by_cases hlast : p.owed ≤ 1
      · rw [decodeFrom_some_cons_of_last hadmits hlast, map_eq_ok_iff]
        constructor
        · rintro ⟨others, hrest, rfl⟩
          exact ⟨[b], _, rest, others, rfl, .last hlast hadmits, hrest, rfl⟩
        · rintro ⟨tail, n, _, others, hbytes, hcompletes, hrest, rfl⟩
          cases hcompletes with
          | last => cases hbytes; exact ⟨others, hrest, rfl⟩
          | more hmore => omega
      · rw [decodeFrom_some_cons_of_more hadmits (by omega), ih]
        constructor
        · rintro ⟨tail, n, rest, others, rfl, hcompletes, hrest, htext⟩
          refine ⟨b :: tail, n, rest, others, rfl, .more (by omega) hadmits hcompletes, ?_, htext⟩
          rwa [List.length_cons, Nat.add_comm tail.length, ← Nat.add_assoc]
        · rintro ⟨tail, n, rest, others, hbytes, hcompletes, hrest, htext⟩
          cases hcompletes with
          | last hone => omega
          | @more _ _ tail _ _ _ hcompletes =>
            cases hbytes
            refine ⟨tail, n, rest, others, rfl, hcompletes, ?_, htext⟩
            rwa [List.length_cons, Nat.add_comm tail.length, ← Nat.add_assoc] at hrest
    · refine iff_of_false (fun h => ?_) ?_
      · rw [decodeFrom_some_cons_of_not_admits hadmits] at h
        cases h
      · rintro ⟨tail, n, rest, others, hbytes, hcompletes, -, -⟩
        cases hcompletes with
        | last _ hlast => cases hbytes; exact hadmits hlast
        | more _ hmore => cases hbytes; exact hadmits hmore

/-- what is read starts with the bytes of the first character -/
theorem decodeFrom_none_eq_ok_cons_iff {position : Nat} {bytes : List UInt8} {c : Char}
    {text : List Char} : decodeFrom position none bytes = .ok (c :: text) ↔
      ∃ rest, bytes = String.utf8EncodeChar c ++ rest ∧
        decodeFrom (position + (String.utf8EncodeChar c).length) none rest = .ok text := by
  constructor
  · intro h
    cases bytes with
    | nil => cases h
    | cons b rest =>
      by_cases hsmall : b.toNat < 0x80
      · rw [decodeFrom_cons_of_small hsmall, map_eq_ok_iff] at h
        obtain ⟨others, hrest, htext⟩ := h
        cases htext
        have hval : (Char.ofNat b.toNat).val.toNat = b.toNat := val_ofNat (.inl (by omega))
        rw [utf8EncodeChar_one (by rwa [hval]), hval, UInt8.ofNat_toNat]
        exact ⟨rest, rfl, hrest⟩
      · cases hbegin : Partial.begin? position b.toNat with
        | none =>
          rw [decodeFrom_cons_of_begin?_none hsmall hbegin] at h
          cases h
        | some p =>
          rw [decodeFrom_cons_of_begin? hsmall hbegin, decodeFrom_some_eq_ok_iff] at h
          obtain ⟨tail, n, rest, others, rfl, hcompletes, hrest, htext⟩ := h
          cases htext
          rw [utf8EncodeChar_of_completes hbegin hcompletes, List.length_cons,
            Nat.add_comm tail.length, ← Nat.add_assoc]
          exact ⟨rest, rfl, hrest⟩
  · rintro ⟨rest, rfl, hrest⟩
    by_cases hsmall : c.val.toNat < 0x80
    · have htoNat := toNat_ofNat_of_lt (Nat.lt_trans hsmall (by decide))
      rw [utf8EncodeChar_one hsmall] at hrest ⊢
      rw [List.singleton_append, decodeFrom_cons_of_small (by rwa [htoNat]), map_eq_ok_iff, htoNat]
      exact ⟨text, hrest, by rw [ofNat_val]⟩
    · obtain ⟨b, tail, p, hbytes, hbegin, hcompletes⟩ :=
        exists_completes_utf8EncodeChar position (Nat.le_of_not_lt hsmall)
      have hlarge : ¬ b.toNat < 0x80 := by
        have hrange := Partial.range_of_begin? hbegin
        omega
      rw [hbytes] at hrest ⊢
      rw [List.cons_append, decodeFrom_cons_of_begin? hlarge hbegin, decodeFrom_some_eq_ok_iff]
      refine ⟨tail, _, rest, text, rfl, hcompletes, ?_, by rw [ofNat_val]⟩
      rwa [List.length_cons, Nat.add_comm tail.length, ← Nat.add_assoc] at hrest

theorem decodeFrom_none_eq_ok_nil_iff {position : Nat} {bytes : List UInt8} :
    decodeFrom position none bytes = .ok [] ↔ bytes = [] := by
  cases bytes with
  | nil => exact iff_of_true rfl rfl
  | cons b rest =>
    refine iff_of_false (fun h => ?_) (List.cons_ne_nil _ _)
    by_cases hsmall : b.toNat < 0x80
    · rw [decodeFrom_cons_of_small hsmall, map_eq_ok_iff] at h
      obtain ⟨_, _, htext⟩ := h
      cases htext
    · cases hbegin : Partial.begin? position b.toNat with
      | none =>
        rw [decodeFrom_cons_of_begin?_none hsmall hbegin] at h
        cases h
      | some p =>
        rw [decodeFrom_cons_of_begin? hsmall hbegin, decodeFrom_some_eq_ok_iff] at h
        obtain ⟨_, _, _, _, _, _, _, htext⟩ := h
        cases htext

theorem decodeFrom_none_eq_ok_iff {position : Nat} {bytes : List UInt8} {text : List Char} :
    decodeFrom position none bytes = .ok text ↔ bytes = utf8Bytes text := by
  induction text generalizing position bytes with
  | nil => exact decodeFrom_none_eq_ok_nil_iff
  | cons c text ih =>
    rw [decodeFrom_none_eq_ok_cons_iff, utf8Bytes_cons]
    constructor
    · rintro ⟨rest, rfl, hrest⟩
      rw [ih.mp hrest]
    · rintro rfl
      exact ⟨_, rfl, ih.mpr rfl⟩

/-- bytes are read as the text that has them, and not at all if there is none -/
theorem decodeUtf8_eq_ok_iff {bytes : List UInt8} {text : List Char} :
    decodeUtf8 bytes = .ok text ↔ bytes = utf8Bytes text := decodeFrom_none_eq_ok_iff

end RowMapping.Files
