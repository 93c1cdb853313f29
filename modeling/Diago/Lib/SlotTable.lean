import Mathlib.Data.List.ReduceOption
import Mathlib.Tactic

/-! # Tables of slots

A table maps positions to slots, or to nothing. What it holds is its
`reduceOption`, and writing one position exchanges what stood there for what is
written.
-/
namespace Diago.Lib

variable {α : Type}

theorem reduceOption_cons (z : Option α) (l : List (Option α)) :
    (z :: l).reduceOption = z.toList ++ l.reduceOption := by
  cases z <;> simp

/-- What a write puts into the table and what was there change places. -/
theorem reduceOption_set_perm {l : List (Option α)} {p : ℕ} {x : Option α} (y : Option α)
    (h : l[p]? = some x) :
    (x.toList ++ (l.set p y).reduceOption).Perm (y.toList ++ l.reduceOption) := by
  induction l generalizing p with
  | nil => simp at h
  | cons z l ih =>
    cases p with
    | zero =>
      obtain rfl : z = x := by simpa using h
      rw [List.set_cons_zero, reduceOption_cons, reduceOption_cons]
      exact List.perm_append_comm_assoc ..
    | succ p =>
      rw [List.set_cons_succ, reduceOption_cons, reduceOption_cons]
      calc x.toList ++ (z.toList ++ (l.set p y).reduceOption)
          |>.Perm (z.toList ++ (x.toList ++ (l.set p y).reduceOption)) :=
            List.perm_append_comm_assoc ..
        _ |>.Perm (z.toList ++ (y.toList ++ l.reduceOption)) := (ih (by simpa using h)).append_left _
        _ |>.Perm (y.toList ++ (z.toList ++ l.reduceOption)) := List.perm_append_comm_assoc ..

theorem mem_reduceOption {l : List (Option α)} {a : α} :
    a ∈ l.reduceOption ↔ ∃ p : ℕ, l[p]? = some (some a) := by
  rw [List.reduceOption_mem_iff, List.mem_iff_getElem?]

end Diago.Lib
