import Mathlib.Tactic

/-! # Two lists joined by a key

Every entry of the first list is joined with the first entry of the second that has
the same key.
-/
namespace Diago.Lib

variable {α β γ κ : Type} [DecidableEq κ] (keyA : α → κ) (keyB : β → κ) (f : α → β → γ)

def joinBy (xs : List α) (ys : List β) : List γ :=
  xs.filterMap fun x => (ys.find? fun y => keyA x = keyB y).map (f x)

variable {keyA keyB f} {xs : List α} {ys : List β}

theorem find?_key {y : β} {k : κ} (hys : (ys.map keyB).Nodup) :
    ys.find? (fun y => k = keyB y) = some y ↔ y ∈ ys ∧ k = keyB y := by
  constructor
  · intro h
    exact ⟨List.mem_of_find?_eq_some h, by simpa using List.find?_some h⟩
  · rintro ⟨hy, rfl⟩
    obtain ⟨z, hz⟩ : ∃ z, ys.find? (fun z => keyB y = keyB z) = some z := by
      rw [← Option.isSome_iff_exists, List.find?_isSome]
      exact ⟨y, hy, by simp⟩
    have hkey : keyB y = keyB z := by simpa using List.find?_some hz
    rw [hz, List.inj_on_of_nodup_map hys hy (List.mem_of_find?_eq_some hz) hkey]

theorem mem_joinBy (hys : (ys.map keyB).Nodup) {z : γ} :
    z ∈ joinBy keyA keyB f xs ys ↔ ∃ x ∈ xs, ∃ y ∈ ys, keyA x = keyB y ∧ f x y = z := by
  simp only [joinBy, List.mem_filterMap, Option.map_eq_some_iff, find?_key hys]
  constructor
  · rintro ⟨x, hx, y, ⟨hy, hkey⟩, hz⟩
    exact ⟨x, hx, y, hy, hkey, hz⟩
  · rintro ⟨x, hx, y, hy, hkey, hz⟩
    exact ⟨x, hx, y, ⟨hy, hkey⟩, hz⟩

theorem map_key_joinBy {keyC : γ → κ} (hkey : ∀ x y, keyA x = keyB y → keyC (f x y) = keyA x) :
    (joinBy keyA keyB f xs ys).map keyC = (xs.map keyA).filter (· ∈ ys.map keyB) := by
  unfold joinBy
  induction xs with
  | nil => rfl
  | cons x xs ih =>
    cases hfind : ys.find? fun y => keyA x = keyB y with
    | none =>
      have hnone : keyA x ∉ ys.map keyB := by
        simp only [List.find?_eq_none, decide_eq_true_eq] at hfind
        simpa [eq_comm] using hfind
      rw [List.filterMap_cons, hfind, Option.map_none, ih, List.map_cons,
        List.filter_cons_of_neg (by simpa using hnone)]
    | some y =>
      have hy : keyA x = keyB y := by simpa using List.find?_some hfind
      have hmem : keyA x ∈ ys.map keyB :=
        List.mem_map.mpr ⟨y, List.mem_of_find?_eq_some hfind, hy.symm⟩
      rw [List.filterMap_cons, hfind, Option.map_some, List.map_cons, ih, hkey x y hy,
        List.map_cons, List.filter_cons_of_pos (by simpa using hmem)]

end Diago.Lib
