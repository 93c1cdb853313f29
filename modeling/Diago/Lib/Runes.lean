import Diago.Lib.Bytes

/-! # Runes and letter case

Bytes are decoded as UTF-8, an undecodable byte standing for the replacement
rune. Letter case is fixed for ASCII; past it, the Unicode tables are a
parameter, so that results hold for whatever version of them is in use.
-/
namespace Diago.Lib

/-- The Unicode case tables past ASCII: simple upper and lower case, and the
least rune of the case-folding orbit. -/
class UnicodeCase where
  upper : ℕ → ℕ
  lower : ℕ → ℕ
  fold : ℕ → ℕ

@[reducible] def asciiOnly : UnicodeCase := ⟨id, id, id⟩

abbrev runeError : ℕ := 0xFFFD

def Continues (b : UInt8) : Prop := 0x80 ≤ b ∧ b ≤ 0xBF

instance (b : UInt8) : Decidable (Continues b) := inferInstanceAs (Decidable (_ ∧ _))

def decodeTwo (b c : UInt8) : ℕ × ℕ :=
  if 0xC2 ≤ b ∧ b ≤ 0xDF ∧ Continues c then (b.toNat % 32 * 64 + c.toNat % 64, 1)
  else (runeError, 0)

def decodeThree (b c d : UInt8) : ℕ × ℕ :=
  let lo : UInt8 := if b = 0xE0 then 0xA0 else 0x80
  let hi : UInt8 := if b = 0xED then 0x9F else 0xBF
  if 0xE0 ≤ b ∧ b ≤ 0xEF ∧ lo ≤ c ∧ c ≤ hi ∧ Continues d then
    (b.toNat % 16 * 4096 + c.toNat % 64 * 64 + d.toNat % 64, 2)
  else decodeTwo b c

def decodeFour (b c d e : UInt8) : ℕ × ℕ :=
  let lo : UInt8 := if b = 0xF0 then 0x90 else 0x80
  let hi : UInt8 := if b = 0xF4 then 0x8F else 0xBF
  if 0xF0 ≤ b ∧ b ≤ 0xF4 ∧ lo ≤ c ∧ c ≤ hi ∧ Continues d ∧ Continues e then
    (b.toNat % 8 * 262144 + c.toNat % 64 * 4096 + d.toNat % 64 * 64 + e.toNat % 64, 3)
  else decodeThree b c d

/-- The rune that `b` starts when `s` follows it, and how many bytes of `s` it takes. -/
def decodeRune (b : UInt8) (s : Bytes) : ℕ × ℕ :=
  if b < 0x80 then (b.toNat, 0) else
  match s with
  | [] => (runeError, 0)
  | [c] => decodeTwo b c
  | [c, d] => decodeThree b c d
  | c :: d :: e :: _ => decodeFour b c d e

def runesFrom : (skip : ℕ) → Bytes → List ℕ
  | _, [] => []
  | skip + 1, _ :: s => runesFrom skip s
  | 0, b :: s => (decodeRune b s).1 :: runesFrom (decodeRune b s).2 s

def runes (s : Bytes) : List ℕ := runesFrom 0 s

def encodeRune (r : ℕ) : Bytes :=
  if r < 0x80 then [UInt8.ofNat r]
  else if r < 0x800 then [UInt8.ofNat (0xC0 + r / 64), UInt8.ofNat (0x80 + r % 64)]
  else if 0x10FFFF < r ∨ (0xD800 ≤ r ∧ r ≤ 0xDFFF) then [0xEF, 0xBF, 0xBD]
  else if r < 0x10000 then [UInt8.ofNat (0xE0 + r / 4096), UInt8.ofNat (0x80 + r / 64 % 64),
    UInt8.ofNat (0x80 + r % 64)]
  else [UInt8.ofNat (0xF0 + r / 262144), UInt8.ofNat (0x80 + r / 4096 % 64),
    UInt8.ofNat (0x80 + r / 64 % 64), UInt8.ofNat (0x80 + r % 64)]

def asciiUpper (r : ℕ) : ℕ := if 0x61 ≤ r ∧ r ≤ 0x7A then r - 32 else r
def asciiLower (r : ℕ) : ℕ := if 0x41 ≤ r ∧ r ≤ 0x5A then r + 32 else r

def Ascii (s : Bytes) : Prop := ∀ b ∈ s, b < 0x80

instance (s : Bytes) : Decidable (Ascii s) := inferInstanceAs (Decidable (∀ b ∈ s, b < 0x80))

section
variable [UnicodeCase]

def upperRune (r : ℕ) : ℕ := if r < 0x80 then asciiUpper r else UnicodeCase.upper r
def lowerRune (r : ℕ) : ℕ := if r < 0x80 then asciiLower r else UnicodeCase.lower r
def foldRune (r : ℕ) : ℕ := if r < 0x80 then asciiUpper r else UnicodeCase.fold r

def toUpper (s : Bytes) : Bytes := (runes s).flatMap fun r => encodeRune (upperRune r)
def toLower (s : Bytes) : Bytes := (runes s).flatMap fun r => encodeRune (lowerRune r)

def equalFold (s t : Bytes) : Bool := (runes s).map foldRune == (runes t).map foldRune

end

theorem runes_of_ascii {s : Bytes} (h : Ascii s) : runes s = s.map UInt8.toNat := by
  induction s with
  | nil => rfl
  | cons b s ih =>
    have hb : b < 0x80 := h b (by simp)
    have hs := ih fun c hc => h c (List.mem_cons_of_mem b hc)
    simp only [runes] at hs ⊢
    simp [runesFrom, decodeRune, hb, hs]

theorem Graphic.lt_runeSelf {b : UInt8} (h : Graphic b) : b < 0x80 := by
  have hb : b.toNat ≤ 0x7E := UInt8.le_iff_toNat_le.mp h.2
  exact UInt8.lt_iff_toNat_lt.mpr (by simpa using Nat.lt_succ_of_le hb |>.trans (by norm_num))

theorem Ascii.of_graphic {s : Bytes} (h : ∀ b ∈ s, Graphic b) : Ascii s :=
  fun b hb => (h b hb).lt_runeSelf

theorem toNat_lt_of_ascii {b : UInt8} (h : b < 0x80) : b.toNat < 0x80 := UInt8.lt_iff_toNat_lt.mp h

variable [UnicodeCase]

theorem encodeRune_upperRune {b : UInt8} (h : b < 0x80) :
    encodeRune (upperRune b.toNat) = [UInt8.ofNat (asciiUpper b.toNat)] := by
  have hb := toNat_lt_of_ascii h
  have hu : asciiUpper b.toNat < 0x80 := by
    unfold asciiUpper
    split <;> omega
  simp [upperRune, hb, encodeRune, hu]

theorem encodeRune_lowerRune {b : UInt8} (h : b < 0x80) :
    encodeRune (lowerRune b.toNat) = [UInt8.ofNat (asciiLower b.toNat)] := by
  have hb := toNat_lt_of_ascii h
  have hu : asciiLower b.toNat < 0x80 := by
    unfold asciiLower
    split <;> omega
  simp [lowerRune, hb, encodeRune, hu]

theorem toUpper_of_ascii {s : Bytes} (h : Ascii s) :
    toUpper s = s.map fun b => UInt8.ofNat (asciiUpper b.toNat) := by
  rw [toUpper, runes_of_ascii h, List.flatMap_map, List.map_eq_flatMap]
  exact List.flatMap_congr fun b hb => encodeRune_upperRune (h b hb)

theorem toLower_of_ascii {s : Bytes} (h : Ascii s) :
    toLower s = s.map fun b => UInt8.ofNat (asciiLower b.toNat) := by
  rw [toLower, runes_of_ascii h, List.flatMap_map, List.map_eq_flatMap]
  exact List.flatMap_congr fun b hb => encodeRune_lowerRune (h b hb)

@[simp] theorem equalFold_refl (s : Bytes) : equalFold s s = true := by simp [equalFold]

end Diago.Lib
