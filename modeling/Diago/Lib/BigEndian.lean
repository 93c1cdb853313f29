import Diago.Lib.Bytes
import Mathlib.Tactic

/-! # Numbers in big-endian bytes

The bytes of a number in a given width, the highest first, and the number that
bytes stand for. Within the width the two are inverse to each other.
-/
namespace Diago.Lib

/-- The number in `width` bytes; what does not fit is cut off. -/
def bigEndian : (width : ℕ) → ℕ → Bytes
  | 0, _ => []
  | width + 1, n => UInt8.ofNat (n / 256 ^ width) :: bigEndian width (n % 256 ^ width)

def fromBigEndian : Bytes → ℕ
  | [] => 0
  | b :: s => b.toNat * 256 ^ s.length + fromBigEndian s

@[simp] theorem length_bigEndian (width n : ℕ) : (bigEndian width n).length = width := by
  induction width generalizing n with
  | zero => rfl
  | succ width ih => rw [bigEndian, List.length_cons, ih]

theorem fromBigEndian_lt (s : Bytes) : fromBigEndian s < 256 ^ s.length := by
  induction s with
  | nil => exact Nat.one_pos
  | cons b s ih =>
    have hb : b.toNat + 1 ≤ 256 := b.toNat_lt
    calc fromBigEndian (b :: s)
      _ < b.toNat * 256 ^ s.length + 256 ^ s.length := Nat.add_lt_add_left ih _
      _ = (b.toNat + 1) * 256 ^ s.length := by ring
      _ ≤ 256 * 256 ^ s.length := Nat.mul_le_mul_right _ hb
      _ = 256 ^ (b :: s).length := by rw [List.length_cons, pow_succ, mul_comm]

theorem fromBigEndian_bigEndian {width n : ℕ} (h : n < 256 ^ width) :
    fromBigEndian (bigEndian width n) = n := by
  induction width generalizing n with
  | zero => exact (Nat.lt_one_iff.mp h).symm
  | succ width ih =>
    have hpos : 0 < 256 ^ width := by positivity
    have htop : n / 256 ^ width < 256 := by
      rw [Nat.div_lt_iff_lt_mul hpos, mul_comm, ← pow_succ]
      exact h
    rw [bigEndian, fromBigEndian, ih (Nat.mod_lt n hpos), length_bigEndian,
      UInt8.toNat_ofNat_of_lt' htop, Nat.div_add_mod']

theorem bigEndian_fromBigEndian (s : Bytes) : bigEndian s.length (fromBigEndian s) = s := by
  induction s with
  | nil => rfl
  | cons b s ih =>
    have hlt := fromBigEndian_lt s
    have hpos : 0 < 256 ^ s.length := by positivity
    rw [List.length_cons, bigEndian, fromBigEndian, Nat.mul_add_mod_of_lt hlt, ih]
    rw [mul_comm, Nat.mul_add_div hpos, Nat.div_eq_of_lt hlt, add_zero, UInt8.ofNat_toNat]

theorem fromBigEndian_inj {s t : Bytes} (hlen : s.length = t.length)
    (h : fromBigEndian s = fromBigEndian t) : s = t := by
  rw [← bigEndian_fromBigEndian s, ← bigEndian_fromBigEndian t, hlen, h]

theorem shiftLeft_or_toNat (n : ℕ) (b : UInt8) : n <<< 8 ||| b.toNat = n * 256 + b.toNat := by
  rw [Nat.shiftLeft_eq, mul_comm, ← Nat.two_pow_add_eq_or_of_lt b.toNat_lt]

end Diago.Lib
