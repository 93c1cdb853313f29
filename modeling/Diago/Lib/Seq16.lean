import Mathlib.Tactic

/-! # Sequence numbers of sixteen bits

Sequence numbers go round modulo `2 ^ 16`. `ahead e q` counts the steps forward
from `e` to `q`, and `int16` reads a difference as a signed number, the shorter
way round.
-/
namespace Diago.Lib

def int16 (u : UInt16) : ℤ := u.toInt16.toInt

/-- The steps forward from `e` to `q`. -/
def ahead (e q : UInt16) : ℕ := (q - e).toNat

theorem int16_eq (u : UInt16) :
    int16 u = if u.toNat < 32768 then (u.toNat : ℤ) else u.toNat - 65536 := by
  have h : int16 u = u.toBitVec.toInt := rfl
  rw [h, BitVec.toInt_eq_toNat_cond]
  simp only [UInt16.toNat_toBitVec]
  split_ifs <;> omega

theorem ahead_eq (e q : UInt16) : ahead e q = (65536 - e.toNat + q.toNat) % 65536 := by
  simp [ahead, UInt16.toNat_sub]

theorem ahead_lt (e q : UInt16) : ahead e q < 65536 := (q - e).toNat_lt

@[simp] theorem ahead_self (e : UInt16) : ahead e e = 0 := by simp [ahead]

@[simp] theorem int16_zero : int16 0 = 0 := rfl

theorem eq_of_ahead_eq_zero {e q : UInt16} (h : ahead e q = 0) : q = e := by
  have he := e.toNat_lt
  have hq := q.toNat_lt
  rw [ahead_eq] at h
  exact UInt16.toNat_inj.mp (by omega)

/-- A number unwrapped at `e` moves along the signed distance to one unwrapped at `q`. -/
theorem add_int16_emod {n : ℤ} {e : UInt16} (h : n % 65536 = e.toNat) (q : UInt16) :
    (n + int16 (q - e)) % 65536 = q.toNat := by
  have he := e.toNat_lt
  have hq := q.toNat_lt
  have hd := ahead_eq e q
  rw [int16_eq]
  rw [ahead] at hd
  split_ifs <;> omega

theorem int16_sub_succ (q : UInt16) : int16 (q - (q + 1)) = -1 := by
  have hq := q.toNat_lt
  have hd : (q - (q + 1)).toNat = 65535 := by
    rw [UInt16.toNat_sub, UInt16.toNat_add, UInt16.toNat_one]
    omega
  rw [int16_eq, hd]
  rfl

theorem ahead_of_int16_nonneg {e q : UInt16} (h : 0 ≤ int16 (q - e)) :
    (ahead e q : ℤ) = int16 (q - e) := by
  have hlt := (q - e).toNat_lt
  rw [int16_eq] at h ⊢
  rw [ahead]
  split_ifs at h ⊢ <;> omega

theorem int16_of_ahead_lt {e q : UInt16} (h : ahead e q < 32768) : int16 (q - e) = ahead e q := by
  rw [ahead] at h ⊢
  rw [int16_eq, if_pos h]

theorem int16_sub_lt (e q : UInt16) : int16 (q - e) < 32768 := by
  have hlt := (q - e).toNat_lt
  rw [int16_eq]
  split_ifs <;> omega

/-- Moving on to a number on the way to `q` leaves the rest of the way. -/
theorem ahead_move {e m q : UInt16} (h : ahead e m ≤ ahead e q) :
    ahead m q = ahead e q - ahead e m := by
  have he := e.toNat_lt
  have hm := m.toNat_lt
  have hq := q.toNat_lt
  simp only [ahead_eq] at h ⊢
  omega

@[simp] theorem ahead_add_ofNat (e : UInt16) (k : ℕ) : ahead e (e + UInt16.ofNat k) = k % 65536 := by
  have he := e.toNat_lt
  rw [ahead_eq, UInt16.toNat_add, UInt16.toNat_ofNat']
  omega

@[simp] theorem ahead_add_one (e : UInt16) : ahead e (e + 1) = 1 := ahead_add_ofNat e 1

theorem add_ofNat_ahead (e q : UInt16) : e + UInt16.ofNat (ahead e q) = q := by
  rw [ahead, UInt16.ofNat_toNat, UInt16.add_comm, UInt16.sub_add_cancel]

/-- A number that is not the next one is a step closer once that is passed. -/
theorem ahead_succ {e q : UInt16} (h : q ≠ e) : ahead (e + 1) q + 1 = ahead e q := by
  have hpos : ahead e q ≠ 0 := fun h0 => h (eq_of_ahead_eq_zero h0)
  have hmove : ahead (e + 1) q = ahead e q - ahead e (e + 1) :=
    ahead_move (by rw [ahead_add_one]; omega)
  rw [ahead_add_one] at hmove
  omega

theorem ahead_succ_right {e m : UInt16} (h : ahead e m + 1 < 65536) :
    ahead e (m + 1) = ahead e m + 1 := by
  have he := e.toNat_lt
  have hm := m.toNat_lt
  simp only [ahead_eq] at h ⊢
  rw [UInt16.toNat_add, UInt16.toNat_one]
  omega

theorem ahead_sub_ofNat {e q : UInt16} {k : ℕ} (h : k ≤ ahead e q) :
    ahead e (q - UInt16.ofNat k) = ahead e q - k := by
  have he := e.toNat_lt
  have hq := q.toNat_lt
  have hk := ahead_lt e q
  simp only [ahead_eq] at h hk ⊢
  rw [UInt16.toNat_sub, UInt16.toNat_ofNat']
  omega

end Diago.Lib
