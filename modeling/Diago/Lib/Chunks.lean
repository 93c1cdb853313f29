import Mathlib.Tactic

/-! # Cutting a list into pieces and mapping pairs

A list cut into pieces of one length, and a map that takes its elements two at a time.
-/
namespace Diago.Lib

variable {α β : Type}

/-- Consecutive pieces of length `n`, the last one perhaps shorter. -/
def chunks (n : ℕ) (l : List α) : List (List α) :=
  if l = [] ∨ n = 0 then [] else l.take n :: chunks n (l.drop n)
termination_by l.length
decreasing_by
  rename_i h
  rw [not_or] at h
  have hpos := List.length_pos_of_ne_nil h.1
  rw [List.length_drop]
  omega

end Diago.Lib
