import Mathlib.Tactic

/-! # Taking two lists in turn

Two lists merged two elements at a time, and lists extended with zeros to a
common length. Both can be done piece by piece.
-/
namespace Diago.Lib

variable {α : Type}

/-- Two elements of each list in turn, as long as both have them. -/
def alternatePairs : List α → List α → List α
  | l₀ :: l₁ :: l, r₀ :: r₁ :: r => l₀ :: l₁ :: r₀ :: r₁ :: alternatePairs l r
  | _, _ => []

/-- Two lists of one even length are taken apart two elements at a time. -/
theorem pairs_induction {motive : List α → List α → Prop} (nil : motive [] [])
    (cons : ∀ l₀ l₁ l r₀ r₁ r, motive l r → motive (l₀ :: l₁ :: l) (r₀ :: r₁ :: r)) {l r : List α}
    (h : l.length = r.length) (heven : Even l.length) : motive l r := by
  induction l, r using alternatePairs.induct with
  | case1 l₀ l₁ l r₀ r₁ r ih =>
    apply cons
    apply ih
    · simpa using h
    · simpa [Nat.even_add_one] using heven
  | case2 l r hshort =>
    match l, r, h with
    | [], [], _ => exact nil
    | [_], _, _ => simp at heven
    | l₀ :: l₁ :: l, r₀ :: r₁ :: r, _ => exact absurd rfl (hshort l₀ l₁ l r₀ r₁ r rfl)

theorem alternatePairs_append {l r : List α} (h : l.length = r.length) (heven : Even l.length)
    (l' r' : List α) :
    alternatePairs (l ++ l') (r ++ r') = alternatePairs l r ++ alternatePairs l' r' := by
  refine pairs_induction (motive := fun l r => alternatePairs (l ++ l') (r ++ r') =
    alternatePairs l r ++ alternatePairs l' r') rfl ?_ h heven
  intro l₀ l₁ l r₀ r₁ r ih
  simp [alternatePairs, ih]

theorem length_alternatePairs {l r : List α} (h : l.length = r.length) (heven : Even l.length) :
    (alternatePairs l r).length = 2 * l.length := by
  refine pairs_induction (motive := fun l r => (alternatePairs l r).length = 2 * l.length) rfl ?_
    h heven
  intro l₀ l₁ l r₀ r₁ r ih
  simp only [alternatePairs, List.length_cons, ih]
  omega

section Padding

variable [Zero α]

def padTo (n : ℕ) (l : List α) : List α := l ++ List.replicate (n - l.length) 0

theorem length_padTo {n : ℕ} {l : List α} (h : l.length ≤ n) : (padTo n l).length = n := by
  simp [padTo, h]

theorem take_padTo {n : ℕ} {l : List α} (h : l.length ≤ n) (k : ℕ) :
    (padTo n l).take k = padTo (min k n) (l.take k) := by
  rw [padTo, padTo, List.take_append, List.take_replicate, List.length_take]
  congr 2
  omega

theorem drop_padTo (n : ℕ) (l : List α) (k : ℕ) :
    (padTo n l).drop k = padTo (n - k) (l.drop k) := by
  rw [padTo, padTo, List.drop_append, List.drop_replicate, List.length_drop]
  congr 2
  omega

/-- The first pieces of both lists are merged before the rest of them. -/
theorem alternatePairs_padTo {l r : List α} {n k : ℕ} (hl : l.length ≤ n) (hr : r.length ≤ n)
    (heven : Even (min k n)) :
    alternatePairs (padTo n l) (padTo n r) =
      alternatePairs (padTo (min k n) (l.take k)) (padTo (min k n) (r.take k)) ++
        alternatePairs (padTo (n - k) (l.drop k)) (padTo (n - k) (r.drop k)) := by
  have hltake : (l.take k).length ≤ min k n := by
    rw [List.length_take]
    omega
  have hrtake : (r.take k).length ≤ min k n := by
    rw [List.length_take]
    omega
  rw [← alternatePairs_append (by rw [length_padTo hltake, length_padTo hrtake])
      (by rwa [length_padTo hltake]),
    ← take_padTo hl, ← take_padTo hr, ← drop_padTo, ← drop_padTo, List.take_append_drop,
    List.take_append_drop]

end Padding

end Diago.Lib
