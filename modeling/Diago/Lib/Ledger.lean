import Mathlib.Data.List.Nodup
import Mathlib.Logic.Function.Basic
import Mathlib.Tactic

/-! # Tokens issued once and settled once

A ledger issues tokens to parties, a new one each time, and settles the token a party
owes.
-/
namespace Diago.Lib

/-- The tokens issued so far are the numbers below `issued`. -/
structure Ledger (ι : Type) where
  issued : ℕ := 0
  settled : List ℕ := []
  owes : ι → Option ℕ := fun _ => none

namespace Ledger

variable {ι : Type}

/-- No token is owed twice, an owed one is open, and those settled were issued. -/
structure Sound (l : Ledger ι) : Prop where
  apart : ∀ c c' token, l.owes c = some token → l.owes c' = some token → c = c'
  issued : ∀ c token, l.owes c = some token → token < l.issued
  unsettled : ∀ c token, l.owes c = some token → token ∉ l.settled
  past : ∀ token ∈ l.settled, token < l.issued
  nodup : l.settled.Nodup

theorem sound_empty : Sound ({} : Ledger ι) := by
  constructor <;> simp

variable [DecidableEq ι] {l : Ledger ι} {c : ι} {token : ℕ}

def issue (l : Ledger ι) (c : ι) : Ledger ι :=
  { l with issued := l.issued + 1, owes := Function.update l.owes c (some l.issued) }

def settle (l : Ledger ι) (c : ι) (token : ℕ) : Ledger ι :=
  { l with settled := token :: l.settled, owes := Function.update l.owes c none }

theorem owes_issue_self (l : Ledger ι) (c : ι) : (l.issue c).owes c = some l.issued :=
  Function.update_self ..

theorem owes_issue_of_ne {c' : ι} (h : c' ≠ c) : (l.issue c).owes c' = l.owes c' :=
  Function.update_of_ne h ..

theorem owes_settle_self (l : Ledger ι) (c : ι) (token : ℕ) : (l.settle c token).owes c = none :=
  Function.update_self ..

theorem owes_settle_of_ne {c' : ι} (h : c' ≠ c) : (l.settle c token).owes c' = l.owes c' :=
  Function.update_of_ne h ..

/-- Who owes a token after an issue owed it before, or was issued it. -/
theorem owes_issue {c' : ι} (h : (l.issue c).owes c' = some token) :
    c' = c ∧ token = l.issued ∨ l.owes c' = some token := by
  by_cases hc : c' = c
  · subst hc
    rw [owes_issue_self] at h
    exact .inl ⟨rfl, (Option.some.inj h).symm⟩
  · rw [owes_issue_of_ne hc] at h
    exact .inr h

/-- Who owes a token after a settlement is another party that owed it before. -/
theorem owes_settle {c' : ι} {token' : ℕ} (h : (l.settle c token).owes c' = some token') :
    c' ≠ c ∧ l.owes c' = some token' := by
  by_cases hc : c' = c
  · subst hc
    rw [owes_settle_self] at h
    cases h
  · rw [owes_settle_of_ne hc] at h
    exact ⟨hc, h⟩

theorem Sound.issue (h : l.Sound) (c : ι) : (l.issue c).Sound where
  apart c₁ c₂ token h₁ h₂ := by
    obtain ⟨hc₁, ht₁⟩ | hold₁ := owes_issue h₁
    · obtain ⟨hc₂, -⟩ | hold₂ := owes_issue h₂
      · rw [hc₁, hc₂]
      · exact absurd ht₁ (h.issued c₂ token hold₂).ne
    · obtain ⟨-, ht₂⟩ | hold₂ := owes_issue h₂
      · exact absurd ht₂ (h.issued c₁ token hold₁).ne
      · exact h.apart c₁ c₂ token hold₁ hold₂
  issued c' token hc' := by
    obtain ⟨-, rfl⟩ | hold := owes_issue hc'
    · exact Nat.lt_succ_self _
    · exact Nat.lt_succ_of_lt (h.issued c' token hold)
  unsettled c' token hc' hmem := by
    obtain ⟨-, rfl⟩ | hold := owes_issue hc'
    · exact lt_irrefl _ (h.past _ hmem)
    · exact h.unsettled c' token hold hmem
  past token hmem := Nat.lt_succ_of_lt (h.past token hmem)
  nodup := h.nodup

theorem Sound.settle (h : l.Sound) (howes : l.owes c = some token) : (l.settle c token).Sound where
  apart c₁ c₂ token' h₁ h₂ := h.apart c₁ c₂ token' (owes_settle h₁).2 (owes_settle h₂).2
  issued c' token' hc' := h.issued c' token' (owes_settle hc').2
  unsettled c' token' hc' hmem := by
    obtain ⟨hne, hold⟩ := owes_settle hc'
    obtain rfl | hmem := List.mem_cons.mp hmem
    · exact hne (h.apart c' c token' hold howes)
    · exact h.unsettled c' token' hold hmem
  past token' hmem := by
    obtain rfl | hmem := List.mem_cons.mp hmem
    · exact h.issued c _ howes
    · exact h.past token' hmem
  nodup := List.nodup_cons.mpr ⟨h.unsettled c token howes, h.nodup⟩

end Ledger

end Diago.Lib
