import Mathlib.Data.List.Destutter
import Mathlib.Data.List.Sort
import Diago.Lib.Runes

/-! # Texts up to letter case, and lists up to order and repetition

Two ASCII texts that differ in the case of letters only have the same lower and the
same upper case form.
-/
namespace Diago.Lib

/-- The texts differ at most in the case of ASCII letters. -/
def SameText (s t : Bytes) : Prop :=
  s.map (fun b => asciiLower b.toNat) = t.map fun b => asciiLower b.toNat

instance (s t : Bytes) : Decidable (SameText s t) := inferInstanceAs (Decidable (_ = _))

@[refl] theorem SameText.refl (s : Bytes) : SameText s s := rfl

theorem SameText.symm {s t : Bytes} (h : SameText s t) : SameText t s := Eq.symm h

theorem SameText.trans {s t u : Bytes} (h : SameText s t) (h' : SameText t u) : SameText s u :=
  Eq.trans h h'

theorem SameText.forall_mem {p : UInt8 → Prop} {s t : Bytes} (h : SameText s t)
    (hp : ∀ b c : UInt8, asciiLower b.toNat = asciiLower c.toNat → p b → p c)
    (hs : ∀ b ∈ s, p b) : ∀ c ∈ t, p c := by
  intro c hc
  have hmem : asciiLower c.toNat ∈ s.map fun b => asciiLower b.toNat := by
    rw [h]
    exact List.mem_map_of_mem hc
  obtain ⟨b, hb, hbc⟩ := List.mem_map.mp hmem
  exact hp b c hbc (hs b hb)

theorem SameText.ne_nil {s t : Bytes} (h : SameText s t) (hs : s ≠ []) : t ≠ [] := by
  rintro rfl
  exact hs (List.map_eq_nil_iff.mp h)

theorem SameText.ascii {s t : Bytes} (h : SameText s t) (hs : Ascii s) : Ascii t := by
  apply h.forall_mem _ hs
  intro b c hbc hb
  rw [UInt8.lt_iff_toNat_lt] at hb ⊢
  unfold asciiLower at hbc
  change _ < 128 at hb ⊢
  split_ifs at hbc <;> omega

theorem SameText.not_mem {s t : Bytes} (h : SameText s t) {sep : UInt8} (hsep : sep < 0x41)
    (hs : sep ∉ s) : sep ∉ t := by
  rw [← List.forall_mem_ne'] at hs ⊢
  apply h.forall_mem _ hs
  rintro b c hbc hb rfl
  apply hb
  rw [← UInt8.toNat_inj]
  rw [UInt8.lt_iff_toNat_lt] at hsep
  change _ < 65 at hsep
  unfold asciiLower at hbc
  split_ifs at hbc <;> omega

/-- Two ways of mapping that tell the same elements apart tell the same lists apart. -/
theorem map_eq_map_iff_of {α β γ : Type*} {f : α → β} {g : α → γ} {p : α → Prop} {s t : List α}
    (hfg : ∀ a b, p a → p b → (f a = f b ↔ g a = g b)) (hs : ∀ a ∈ s, p a) (ht : ∀ b ∈ t, p b) :
    s.map f = t.map f ↔ s.map g = t.map g := by
  induction s generalizing t with
  | nil => simp [eq_comm]
  | cons a s ih =>
    cases t with
    | nil => simp
    | cons b t =>
      rw [List.forall_mem_cons] at hs ht
      simp only [List.map_cons, List.cons.injEq]
      exact and_congr (hfg a b hs.1 ht.1) (ih hs.2 ht.2)

theorem ofNat_inj {m n : ℕ} (hm : m < 256) (hn : n < 256) :
    UInt8.ofNat m = UInt8.ofNat n ↔ m = n := by
  rw [← UInt8.toNat_inj, UInt8.toNat_ofNat_of_lt' hm, UInt8.toNat_ofNat_of_lt' hn]

section Case

variable [UnicodeCase] {s t : Bytes}

theorem toLower_eq_iff (hs : Ascii s) (ht : Ascii t) : toLower s = toLower t ↔ SameText s t := by
  rw [toLower_of_ascii hs, toLower_of_ascii ht, SameText]
  apply map_eq_map_iff_of _ hs ht
  intro b c hb hc
  have hb := toNat_lt_of_ascii hb
  have hc := toNat_lt_of_ascii hc
  apply ofNat_inj <;> unfold asciiLower <;> split <;> omega

theorem toUpper_eq_iff (hs : Ascii s) (ht : Ascii t) : toUpper s = toUpper t ↔ SameText s t := by
  rw [toUpper_of_ascii hs, toUpper_of_ascii ht, SameText]
  apply map_eq_map_iff_of _ hs ht
  intro b c hb hc
  have hb := toNat_lt_of_ascii hb
  have hc := toNat_lt_of_ascii hc
  rw [ofNat_inj (by unfold asciiUpper; split <;> omega) (by unfold asciiUpper; split <;> omega)]
  unfold asciiUpper asciiLower
  split_ifs <;> omega

theorem equalFold_iff (hs : Ascii s) (ht : Ascii t) : equalFold s t = true ↔ SameText s t := by
  rw [equalFold, beq_iff_eq, runes_of_ascii hs, runes_of_ascii ht, List.map_map, List.map_map,
    SameText]
  apply map_eq_map_iff_of _ hs ht
  intro b c hb hc
  have hb := toNat_lt_of_ascii hb
  have hc := toNat_lt_of_ascii hc
  simp only [Function.comp_apply, foldRune, hb, hc, if_true]
  unfold asciiUpper asciiLower
  split_ifs <;> omega

theorem not_mem_toLower (hs : Ascii s) {sep : UInt8} (hsep : sep < 0x41) (h : sep ∉ s) :
    sep ∉ toLower s := by
  rw [toLower_of_ascii hs, List.mem_map]
  rintro ⟨b, hb, rfl⟩
  have hlt := toNat_lt_of_ascii (hs b hb)
  have hlow : asciiLower b.toNat < 256 := by
    unfold asciiLower
    split <;> omega
  rw [UInt8.lt_iff_toNat_lt, UInt8.toNat_ofNat_of_lt' hlow] at hsep
  have hsame : asciiLower b.toNat = b.toNat := by
    unfold asciiLower at hsep ⊢
    change _ < 65 at hsep
    split_ifs at hsep ⊢ <;> omega
  rw [hsame, UInt8.ofNat_toNat] at h
  exact h hb

end Case

section SortedSet

variable {α : Type*} [DecidableEq α] {r : α → α → Prop} [DecidableRel r] [Std.Antisymm r]
  [Std.Total r] [IsTrans α r]

theorem mem_sortedSet {x : α} {l : List α} :
    x ∈ (l.insertionSort r).destutter (· ≠ ·) ↔ x ∈ l := by
  rw [(List.pairwise_insertionSort r l).destutter_eq_dedup, List.mem_dedup, List.mem_insertionSort]

/-- Sorting and compacting two lists gives the same exactly if they have the same members. -/
theorem sortedSet_eq_iff {l l' : List α} :
    (l.insertionSort r).destutter (· ≠ ·) = (l'.insertionSort r).destutter (· ≠ ·) ↔
      ∀ x, x ∈ l ↔ x ∈ l' := by
  constructor
  · intro h x
    rw [← mem_sortedSet (r := r), h, mem_sortedSet]
  · intro h
    have hsorted (l : List α) : ((l.insertionSort r).destutter (· ≠ ·)).Pairwise r :=
      (List.pairwise_insertionSort r l).sublist (List.destutter_sublist _ _)
    have hnodup (l : List α) : ((l.insertionSort r).destutter (· ≠ ·)).Nodup := by
      rw [(List.pairwise_insertionSort r l).destutter_eq_dedup]
      exact List.nodup_dedup _
    apply List.Perm.eq_of_pairwise' (hsorted l) (hsorted l')
    rw [List.perm_ext_iff_of_nodup (hnodup l) (hnodup l')]
    intro x
    rw [mem_sortedSet, mem_sortedSet, h x]

end SortedSet

end Diago.Lib
