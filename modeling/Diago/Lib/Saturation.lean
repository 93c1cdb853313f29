import Mathlib.Tactic

/-! # Saturating sums

Integers clamped to a range, and terms added one after the other with each sum
clamped.
-/
namespace Diago.Lib

variable {lo hi x y m : ℤ} {xs : List ℤ}

def clamp (lo hi x : ℤ) : ℤ := max lo (min hi x)

/-- The terms added one after the other, each sum clamped. -/
def clampedSum (lo hi : ℤ) (xs : List ℤ) : ℤ := xs.foldl (fun acc x => clamp lo hi (acc + x)) 0

theorem clamp_mem (h : lo ≤ hi) (x : ℤ) : lo ≤ clamp lo hi x ∧ clamp lo hi x ≤ hi := by
  unfold clamp
  omega

theorem clamp_of_mem (hlo : lo ≤ x) (hhi : x ≤ hi) : clamp lo hi x = x := by
  unfold clamp
  omega

/-- Two values clamp to one if they are equal or leave the range at the same end. -/
theorem clamp_eq_clamp_iff (h : lo < hi) : clamp lo hi x = clamp lo hi y ↔
    x = y ∨ (hi ≤ x ∧ hi ≤ y) ∨ (x ≤ lo ∧ y ≤ lo) := by
  unfold clamp
  omega

theorem clampedSum_mem (hlo : lo ≤ 0) (hhi : 0 ≤ hi) (xs : List ℤ) :
    lo ≤ clampedSum lo hi xs ∧ clampedSum lo hi xs ≤ hi := by
  have hfold (acc : ℤ) (hacc : lo ≤ acc ∧ acc ≤ hi) :
      lo ≤ xs.foldl (fun acc x => clamp lo hi (acc + x)) acc ∧
        xs.foldl (fun acc x => clamp lo hi (acc + x)) acc ≤ hi := by
    induction xs generalizing acc with
    | nil => exact hacc
    | cons x xs ih => exact ih _ (clamp_mem (hlo.trans hhi) _)
  exact hfold 0 ⟨hlo, hhi⟩

theorem clampedSum_of_forall_zero (hlo : lo ≤ 0) (hhi : 0 ≤ hi) (h : ∀ x ∈ xs, x = 0) :
    clampedSum lo hi xs = xs.sum := by
  have hrep := List.eq_replicate_of_mem h
  have hfold (n : ℕ) : clampedSum lo hi (List.replicate n 0) = 0 := by
    unfold clampedSum
    induction n with
    | zero => rfl
    | succ n ih => rwa [List.replicate_succ, List.foldl_cons, add_zero, clamp_of_mem hlo hhi]
  rw [hrep, hfold]
  simp

theorem sum_le_of_forall_nonpos (h : ∀ y ∈ xs, y ≤ 0) :
    xs.sum ≤ 0 ∧ ∀ x ∈ xs, xs.sum ≤ x := by
  induction xs with
  | nil => simp
  | cons y ys ih =>
    obtain ⟨hsum, hrest⟩ := ih fun z hz => h z (List.mem_cons_of_mem _ hz)
    have hy := h y (by simp)
    rw [List.sum_cons]
    refine ⟨by omega, fun x hx => ?_⟩
    rcases List.mem_cons.mp hx with rfl | hx
    · omega
    · have := hrest x hx
      omega

/-- A value of the range whose clamped differences with the terms are those of their sum is the
sum: a term that both leave at the upper end is at most zero and one at the lower end at least
zero, and with terms of both kinds the two differences are fixed. -/
theorem eq_sum_of_clamp_sub (hlo : lo < 0) (hhi : 0 < hi) (hm : lo ≤ m ∧ m ≤ hi)
    (hmem : ∀ x ∈ xs, lo ≤ x ∧ x ≤ hi) (hne : ∃ x ∈ xs, x ≠ 0)
    (h : ∀ x ∈ xs, x ≠ 0 → clamp lo hi (m - x) = clamp lo hi (xs.sum - x)) : m = xs.sum := by
  by_contra hdiff
  have hends : ∀ x ∈ xs, x ≠ 0 →
      (hi ≤ m - x ∧ hi ≤ xs.sum - x) ∨ (m - x ≤ lo ∧ xs.sum - x ≤ lo) := by
    intro x hx h0
    rcases (clamp_eq_clamp_iff (hlo.trans hhi)).mp (h x hx h0) with heq | hends
    · omega
    · exact hends
  obtain ⟨a, ha, ha0⟩ := hne
  rcases hends a ha ha0 with habove | hbelow
  · have hall : ∀ x ∈ xs, x ≤ 0 := by
      intro x hx
      by_cases h0 : x = 0
      · omega
      · rcases hends x hx h0 with h' | h'
        · omega
        · have := hmem x hx
          have := hmem a ha
          omega
    have := (sum_le_of_forall_nonpos hall).2 a ha
    omega
  · have hall : ∀ x ∈ xs, 0 ≤ x := by
      intro x hx
      by_cases h0 : x = 0
      · omega
      · rcases hends x hx h0 with h' | h'
        · have := hmem x hx
          have := hmem a ha
          omega
        · omega
    have := List.single_le_sum hall a ha
    omega

end Diago.Lib
