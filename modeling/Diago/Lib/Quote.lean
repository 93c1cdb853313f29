import Diago.Lib.Lines
import Diago.Lib.Numeral
import Diago.Lib.Runes

/-! # Quoted text

A quoted string stands between double quotes; a rune that is not printable is
written as an escape, and so is a byte that starts no rune. Which runes past
Latin-1 are printable is a parameter. A quoted string has no line break
whatever it quotes.
-/
namespace Diago.Lib

def Unbroken (s : Bytes) : Prop := ∀ b ∈ s, b ≠ carriageReturn ∧ b ≠ lineFeed

instance (s : Bytes) : Decidable (Unbroken s) :=
  inferInstanceAs (Decidable (∀ b ∈ s, b ≠ carriageReturn ∧ b ≠ lineFeed))

@[simp] theorem unbroken_nil : Unbroken [] := by simp [Unbroken]

@[simp] theorem unbroken_append {s t : Bytes} : Unbroken (s ++ t) ↔ Unbroken s ∧ Unbroken t :=
  List.forall_mem_append

@[simp] theorem unbroken_cons {b : UInt8} {s : Bytes} :
    Unbroken (b :: s) ↔ (b ≠ carriageReturn ∧ b ≠ lineFeed) ∧ Unbroken s :=
  List.forall_mem_cons

/-- Text of one line is unbroken unless it has a carriage return. -/
theorem OneLine.unbroken_iff {s : Bytes} (h : OneLine s) : Unbroken s ↔ carriageReturn ∉ s := by
  constructor
  · intro hs hmem
    exact (hs _ hmem).1 rfl
  · intro hs b hb
    constructor
    · rintro rfl
      exact hs hb
    · rintro rfl
      exact h hb

theorem Unbroken.of_graphic {s : Bytes} (h : ∀ b ∈ s, Graphic b) : Unbroken s := by
  refine (OneLine.of_graphic h).unbroken_iff.mpr fun hmem => ?_
  have hnot : ¬ Graphic carriageReturn := by decide
  exact hnot (h _ hmem)

theorem unbroken_itoa (n : ℤ) : Unbroken (itoa n) := .of_graphic (graphic_itoa n)

theorem ofNat_ne_break {n : ℕ} (hlow : 0x20 ≤ n) (hhigh : n < 0x100) :
    UInt8.ofNat n ≠ carriageReturn ∧ UInt8.ofNat n ≠ lineFeed := by
  have hnat : (UInt8.ofNat n).toNat = n := by
    rw [UInt8.toNat_ofNat', Nat.mod_eq_of_lt hhigh]
  constructor
  · intro h
    rw [h] at hnat
    change 0x0D = n at hnat
    omega
  · intro h
    rw [h] at hnat
    change 0x0A = n at hnat
    omega

/-- A literal of Latin-1 letters without controls. It is stated of the list of its letters, which
a string literal unfolds to. -/
theorem unbroken_lit {cs : List Char} (h : cs.all (fun c => 0x20 ≤ c.toNat && c.toNat < 0x100)) :
    Unbroken (lit (String.ofList cs)) := by
  rw [lit, String.toList_ofList]
  intro b hb
  obtain ⟨c, hc, rfl⟩ := List.mem_map.mp hb
  have hrange := List.all_eq_true.mp h c hc
  simp only [Bool.and_eq_true, decide_eq_true_eq] at hrange
  exact ofNat_ne_break hrange.1 hrange.2

theorem NoSpace.unbroken {w : Bytes} (h : NoSpace w) : Unbroken w := by
  refine h.oneLine.unbroken_iff.mpr fun hmem => ?_
  obtain ⟨t, u, rfl⟩ := List.append_of_mem hmem
  have hzero := (spaceLen_eq_zero _).mp (h (carriageReturn :: u) (List.suffix_append t _))
  exact hzero [carriageReturn] (by decide) (by simp)

/-- The printable runes past Latin-1. -/
class UnicodePrint where
  printable : ℕ → Bool

section Quote

variable [UnicodePrint]

def isPrint (r : ℕ) : Bool :=
  if r ≤ 0xFF then (0x20 ≤ r && r < 0x7F) || (0xA1 ≤ r && r ≠ 0xAD) else UnicodePrint.printable r

def hexDigits (width n : ℕ) : Bytes :=
  (List.range width).reverse.map fun i => digitByte (n / 16 ^ i % 16)

abbrev backslash : UInt8 := 0x5C
abbrev doubleQuote : UInt8 := 0x22

def namedEscapes : List (ℕ × Bytes) :=
  [(0x07, lit "\\a"), (0x08, lit "\\b"), (0x0C, lit "\\f"), (0x0A, lit "\\n"),
    (0x0D, lit "\\r"), (0x09, lit "\\t"), (0x0B, lit "\\v")]

def numberedEscape (r : ℕ) : Bytes :=
  if r < 0x20 ∨ r = 0x7F then lit "\\x" ++ hexDigits 2 r
  else if r < 0x10000 then lit "\\u" ++ hexDigits 4 r
  else lit "\\U" ++ hexDigits 8 r

def escapedRune (r : ℕ) : Bytes :=
  if r = 0x22 ∨ r = 0x5C then [backslash, UInt8.ofNat r]
  else if isPrint r then encodeRune r
  else (namedEscapes.lookup r).getD (numberedEscape r)

/-- The escaped runes of `s`, where `skip` bytes of a rune are still to pass. -/
def escapeFrom : (skip : ℕ) → Bytes → Bytes
  | _, [] => []
  | skip + 1, _ :: s => escapeFrom skip s
  | 0, b :: s =>
    -- a byte that starts no rune
    (if decodeRune b s = (runeError, 0) then lit "\\x" ++ hexDigits 2 b.toNat
      else escapedRune (decodeRune b s).1) ++ escapeFrom (decodeRune b s).2 s

def quote (s : Bytes) : Bytes := doubleQuote :: escapeFrom 0 s ++ [doubleQuote]

omit [UnicodePrint] in
theorem unbroken_hexDigits (width n : ℕ) : Unbroken (hexDigits width n) := by
  refine .of_graphic fun b hb => ?_
  obtain ⟨i, -, rfl⟩ := List.mem_map.mp hb
  exact graphic_digitByte _ (Nat.mod_lt _ (by norm_num))

omit [UnicodePrint] in
theorem unbroken_encodeRune {r : ℕ} (h : r < 0x80 → 0x20 ≤ r ∧ r < 0x7F) :
    Unbroken (encodeRune r) := by
  unfold encodeRune
  split_ifs with hascii htwo hbad hthree
  · have hrange := h hascii
    simp only [unbroken_cons, unbroken_nil, and_true]
    exact ofNat_ne_break (by omega) (by omega)
  · simp only [unbroken_cons, unbroken_nil, and_true]
    exact ⟨ofNat_ne_break (by omega) (by omega), ofNat_ne_break (by omega) (by omega)⟩
  · decide
  · simp only [unbroken_cons, unbroken_nil, and_true]
    exact ⟨ofNat_ne_break (by omega) (by omega), ofNat_ne_break (by omega) (by omega),
      ofNat_ne_break (by omega) (by omega)⟩
  · rw [not_or] at hbad
    simp only [unbroken_cons, unbroken_nil, and_true]
    exact ⟨ofNat_ne_break (by omega) (by omega), ofNat_ne_break (by omega) (by omega),
      ofNat_ne_break (by omega) (by omega), ofNat_ne_break (by omega) (by omega)⟩

omit [UnicodePrint] in
theorem unbroken_numberedEscape (r : ℕ) : Unbroken (numberedEscape r) := by
  unfold numberedEscape
  split_ifs <;> exact unbroken_append.mpr ⟨by decide, unbroken_hexDigits _ r⟩

omit [UnicodePrint] in
theorem unbroken_namedEscapes : ∀ e ∈ namedEscapes, Unbroken e.2 := by decide

theorem unbroken_escapedRune (r : ℕ) : Unbroken (escapedRune r) := by
  unfold escapedRune
  split_ifs with hquote hprint
  · obtain rfl | rfl := hquote <;> decide
  · refine unbroken_encodeRune fun hascii => ?_
    rw [isPrint, if_pos (by omega)] at hprint
    simp only [Bool.or_eq_true, Bool.and_eq_true, decide_eq_true_eq] at hprint
    omega
  · cases hnamed : namedEscapes.lookup r with
    | none => exact unbroken_numberedEscape r
    | some e =>
      obtain ⟨before, after, hlist, -⟩ := List.lookup_eq_some_iff.mp hnamed
      exact unbroken_namedEscapes (r, e) (by rw [hlist]; simp)

theorem unbroken_escapeFrom (skip : ℕ) (s : Bytes) : Unbroken (escapeFrom skip s) := by
  induction s generalizing skip with
  | nil => cases skip <;> exact unbroken_nil
  | cons b s ih =>
    cases skip with
    | succ skip => exact ih skip
    | zero =>
      rw [escapeFrom, unbroken_append]
      refine ⟨?_, ih _⟩
      split_ifs
      · exact unbroken_append.mpr ⟨by decide, unbroken_hexDigits _ _⟩
      · exact unbroken_escapedRune _

theorem unbroken_quote (s : Bytes) : Unbroken (quote s) := by
  refine unbroken_append.mpr ⟨unbroken_cons.mpr ⟨by decide, unbroken_escapeFrom 0 s⟩, by decide⟩

end Quote

end Diago.Lib
