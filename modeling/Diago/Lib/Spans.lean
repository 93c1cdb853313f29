import Mathlib.Tactic

/-! # Spans that tile an interval

Inclusive spans of integers, each beginning where the one before it ended. They
are disjoint, and they cover what lies between the beginning of the first and the
end of the last.
-/
namespace Diago.Lib

/-- The integers from `first` to `last`, both included. -/
structure Span where
  first : ℤ
  last : ℤ
  deriving DecidableEq, Repr

def Span.Mem (r : Span) (x : ℤ) : Prop := r.first ≤ x ∧ x ≤ r.last

/-- Spans that are not empty and lead from `a` to the integer before `c`. -/
inductive Tiles : ℤ → ℤ → List Span → Prop
  | nil (a : ℤ) : Tiles a a []
  | cons {a b c : ℤ} {rs : List Span} (h : a < b) (hrs : Tiles b c rs) :
    Tiles a c (⟨a, b - 1⟩ :: rs)

namespace Tiles

variable {a c : ℤ} {rs : List Span}

theorem le (h : Tiles a c rs) : a ≤ c := by
  induction h with
  | nil => exact le_rfl
  | cons hlt _ ih => exact hlt.le.trans ih

theorem within (h : Tiles a c rs) : ∀ r ∈ rs, a ≤ r.first ∧ r.last ≤ c - 1 := by
  induction h with
  | nil => simp
  | cons hlt hrs ih =>
    have hle := hrs.le
    rintro r (_ | ⟨_, hr⟩)
    · exact ⟨le_rfl, by dsimp only; omega⟩
    · have := ih r hr
      omega

theorem covers (h : Tiles a c rs) {x : ℤ} (hlow : a ≤ x) (hhigh : x < c) : ∃ r ∈ rs, r.Mem x := by
  induction h with
  | nil => omega
  | @cons a b c rs hlt _ ih =>
    by_cases hx : x < b
    · exact ⟨_, List.mem_cons_self, hlow, by dsimp only; omega⟩
    · obtain ⟨r, hr, hmem⟩ := ih (by omega) hhigh
      exact ⟨r, List.mem_cons_of_mem _ hr, hmem⟩

theorem consecutive (h : Tiles a c rs) : rs.IsChain fun r s => s.first = r.last + 1 := by
  induction h with
  | nil => exact List.IsChain.nil
  | cons _ hrs ih =>
    cases hrs with
    | nil => exact List.IsChain.singleton _
    | cons _ _ => exact List.isChain_cons_cons.mpr ⟨by dsimp only; omega, ih⟩

end Tiles

end Diago.Lib
