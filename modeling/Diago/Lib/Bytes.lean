import Mathlib.Data.List.Infix
import Mathlib.Data.List.SplitBy
import Mathlib.Tactic

/-! # Byte strings and white space

A string is its bytes.
-/
namespace Diago.Lib

abbrev Bytes := List UInt8

/-- The bytes of an ASCII literal. -/
def lit (s : String) : Bytes := s.toList.map fun c => UInt8.ofNat c.toNat

/-- The encodings of the runes of the Unicode White_Space property. -/
def spaceRunes : List Bytes :=
  [[0x09], [0x0A], [0x0B], [0x0C], [0x0D], [0x20], [0xC2, 0x85], [0xC2, 0xA0],
    [0xE1, 0x9A, 0x80],
    [0xE2, 0x80, 0x80], [0xE2, 0x80, 0x81], [0xE2, 0x80, 0x82], [0xE2, 0x80, 0x83],
    [0xE2, 0x80, 0x84], [0xE2, 0x80, 0x85], [0xE2, 0x80, 0x86], [0xE2, 0x80, 0x87],
    [0xE2, 0x80, 0x88], [0xE2, 0x80, 0x89], [0xE2, 0x80, 0x8A],
    [0xE2, 0x80, 0xA8], [0xE2, 0x80, 0xA9], [0xE2, 0x80, 0xAF], [0xE2, 0x81, 0x9F],
    [0xE3, 0x80, 0x80]]

/-- The length of the rune of `table` that `s` starts with, zero for none. -/
def leadLen (table : List Bytes) (s : Bytes) : ℕ :=
  ((table.find? fun r => r.isPrefixOf s).map List.length).getD 0

abbrev spaceLen (s : Bytes) : ℕ := leadLen spaceRunes s

/-- What follows `pre` in `s`, when `s` begins with it. -/
def cutPre (pre s : Bytes) : Option Bytes := if pre <+: s then some (s.drop pre.length) else none

abbrev semicolon : UInt8 := 0x3B
abbrev equals : UInt8 := 0x3D

/-- What stands before the separator, and after it if it is there. -/
def cutByte (sep : UInt8) (s : Bytes) : Bytes × Option Bytes :=
  (s.takeWhile (· != sep), (s.dropWhile (· != sep)).tail?)

def flush (word : Bytes) : List Bytes := if word = [] then [] else [word]

/-- Words of `s`, where `skip` bytes of a white-space rune are still to pass and
`word` holds the word read so far. -/
def fieldsFrom : (skip : ℕ) → (word s : Bytes) → List Bytes
  | _, word, [] => flush word
  | skip + 1, word, _ :: s => fieldsFrom skip word s
  | 0, word, b :: s => match spaceLen (b :: s) with
    | 0 => fieldsFrom 0 (word ++ [b]) s
    | n + 1 => flush word ++ fieldsFrom n [] s

/-- The maximal runs of `s` without white space, in order. -/
def fields (s : Bytes) : List Bytes := fieldsFrom 0 [] s

def trimLeft (table : List Bytes) : (skip : ℕ) → Bytes → Bytes
  | _, [] => []
  | skip + 1, _ :: s => trimLeft table skip s
  | 0, b :: s => match leadLen table (b :: s) with
    | 0 => b :: s
    | n + 1 => trimLeft table n s

def trimSpace (s : Bytes) : Bytes :=
  (trimLeft (spaceRunes.map List.reverse) 0 (trimLeft spaceRunes 0 s).reverse).reverse

def Graphic (b : UInt8) : Prop := 0x21 ≤ b ∧ b ≤ 0x7E

instance (b : UInt8) : Decidable (Graphic b) := inferInstanceAs (Decidable (_ ∧ _))

-- Deciding over the bytes of a text goes through the text, not through all 256 bytes.
instance decidableForallByte (p : UInt8 → Prop) [DecidablePred p] (w : List UInt8) :
    Decidable (∀ b ∈ w, p b) :=
  List.decidableBAll p w

instance decidableForallHeadByte (p : UInt8 → Prop) [DecidablePred p] (b? : Option UInt8) :
    Decidable (∀ b ∈ b?, p b) :=
  Option.decidableForallMem b?

def NoSpace (w : Bytes) : Prop := ∀ t, t <:+ w → spaceLen t = 0

theorem cutPre_eq_some {pre s t : Bytes} : cutPre pre s = some t ↔ s = pre ++ t := by
  unfold cutPre
  constructor
  · intro h
    split at h
    · rename_i hpre
      obtain ⟨u, rfl⟩ := hpre
      simpa using h
    · cases h
  · rintro rfl
    simp

@[simp] theorem cutPre_append (pre t : Bytes) : cutPre pre (pre ++ t) = some t :=
  cutPre_eq_some.mpr rfl

theorem cutPre_append_eq_none {pre head : Bytes} (h : ¬ pre <+: head ∧ ¬ head <+: pre)
    (rest : Bytes) : cutPre pre (head ++ rest) = none := by
  unfold cutPre
  rw [if_neg]
  intro hp
  rcases List.prefix_or_prefix_of_prefix hp (List.prefix_append head rest) with hp | hp
  · exact h.1 hp
  · exact h.2 hp

theorem forall_bne_of_not_mem {sep : UInt8} {u : Bytes} (hu : sep ∉ u) :
    ∀ b ∈ u, (b != sep) = true := by
  intro b hb
  simpa using fun h : b = sep => hu (h ▸ hb)

theorem cutByte_append {sep : UInt8} {u : Bytes} (hu : sep ∉ u) (v : Bytes) :
    cutByte sep (u ++ sep :: v) = (u, some v) := by
  have hall := forall_bne_of_not_mem hu
  simp [cutByte, List.takeWhile_append_of_pos hall, List.dropWhile_append_of_pos hall]

theorem cutByte_of_not_mem {sep : UInt8} {u : Bytes} (hu : sep ∉ u) :
    cutByte sep u = (u, none) := by
  have hall := forall_bne_of_not_mem hu
  have htake := @List.takeWhile_append_of_pos _ (· != sep) u [] hall
  have hdrop := @List.dropWhile_append_of_pos _ (· != sep) u [] hall
  simp only [List.append_nil, List.takeWhile_nil, List.dropWhile_nil] at htake hdrop
  simp [cutByte, htake, hdrop]

theorem forall_mem_intercalate {P : UInt8 → Prop} {sep : Bytes} {ls : List Bytes}
    (hsep : ∀ b ∈ sep, P b) (h : ∀ l ∈ ls, ∀ b ∈ l, P b) : ∀ b ∈ sep.intercalate ls, P b := by
  induction ls with
  | nil => simp
  | cons l ls ih =>
    simp only [List.forall_mem_cons] at h
    cases ls with
    | nil => simpa using h.1
    | cons m ls =>
      simp only [List.intercalate_cons_cons, List.forall_mem_append]
      exact ⟨⟨h.1, hsep⟩, ih h.2⟩

theorem append_cons_inj_of {α : Type*} {p : α → Prop} {xs xs' ys ys' : List α} {a a' : α}
    (hxs : ∀ x ∈ xs, p x) (hxs' : ∀ x ∈ xs', p x) (ha : ¬ p a) (ha' : ¬ p a') :
    xs ++ a :: ys = xs' ++ a' :: ys' ↔ xs = xs' ∧ a = a' ∧ ys = ys' := by
  constructor
  · intro h
    induction xs generalizing xs' with
    | nil =>
      cases xs' with
      | nil => exact ⟨rfl, List.cons.inj h⟩
      | cons x' xs' =>
        obtain ⟨rfl, -⟩ := List.cons.inj h
        exact absurd (hxs' _ List.mem_cons_self) ha
    | cons x xs ih =>
      cases xs' with
      | nil =>
        obtain ⟨rfl, -⟩ := List.cons.inj h
        exact absurd (hxs _ List.mem_cons_self) ha'
      | cons x' xs' =>
        obtain ⟨rfl, htail⟩ := List.cons.inj h
        obtain ⟨rfl, hrest⟩ := ih (List.forall_mem_cons.mp hxs).2 (List.forall_mem_cons.mp hxs').2 htail
        exact ⟨rfl, hrest⟩
  · rintro ⟨rfl, rfl, rfl⟩
    rfl

theorem append_sep_inj {sep : UInt8} {u v r r' : Bytes} (hu : sep ∉ u) (hv : sep ∉ v) :
    u ++ sep :: r = v ++ sep :: r' ↔ u = v ∧ r = r' := by
  have h : u ++ sep :: r = v ++ sep :: r' ↔ u = v ∧ sep = sep ∧ r = r' :=
    append_cons_inj_of (p := (· ≠ sep)) (List.forall_mem_ne'.mpr hu) (List.forall_mem_ne'.mpr hv)
      (by simp) (by simp)
  simpa using h

theorem mem_intercalate_of_mem (sep : Bytes) {w : Bytes} {ls : List Bytes} {b : UInt8} (hw : w ∈ ls)
    (hb : b ∈ w) : b ∈ sep.intercalate ls := by
  induction ls with
  | nil => cases hw
  | cons l ls ih =>
    cases ls with
    | nil =>
      rw [List.mem_singleton.mp hw] at hb
      simpa using hb
    | cons l' ls =>
      rw [List.intercalate_cons_cons, List.mem_append, List.mem_append]
      rcases List.mem_cons.mp hw with rfl | hw
      · exact .inl (.inl hb)
      · exact .inr (ih hw)

theorem mem_of_mem_splitOn {sep b : UInt8} {s w : Bytes} (hw : w ∈ s.splitOn sep) (hb : b ∈ w) :
    b ∈ s := by
  have hall := mem_intercalate_of_mem [sep] hw hb
  rwa [List.intercalate_splitOn] at hall

theorem splitOn_append_of_not_mem {sep : UInt8} {s : Bytes} (h : sep ∉ s) (t : Bytes) :
    ∃ w ws, t.splitOn sep = w :: ws ∧ (s ++ t).splitOn sep = (s ++ w) :: ws := by
  obtain ⟨w, ws, ht⟩ := List.exists_cons_of_ne_nil (List.splitOn_ne_nil sep t)
  refine ⟨w, ws, ht, ?_⟩
  induction s with
  | nil => exact ht
  | cons b s ih =>
    rw [List.mem_cons, not_or] at h
    have hb : (b == sep) = false := by simpa using Ne.symm h.1
    rw [List.cons_append, List.splitOn_cons_eq_if_modifyHead, hb, ih h.2]
    rfl

theorem not_mem_of_mem_splitOn {sep : UInt8} {s w : Bytes} (hw : w ∈ s.splitOn sep) : sep ∉ w := by
  induction s generalizing w with
  | nil => simp_all
  | cons b s ih =>
    rw [List.splitOn_cons_eq_if_modifyHead] at hw
    split at hw
    · rcases List.mem_cons.mp hw with rfl | hw
      · simp
      · exact ih hw
    · rename_i hne
      cases hwords : s.splitOn sep with
      | nil => exact absurd hwords (List.splitOn_ne_nil _ _)
      | cons v ws =>
        rw [hwords, List.modifyHead_cons] at hw
        rcases List.mem_cons.mp hw with rfl | hw
        · have hv := ih (hwords ▸ List.mem_cons_self)
          simp only [List.mem_cons, not_or]
          exact ⟨fun heq => hne (by simp [heq]), hv⟩
        · exact ih (hwords ▸ List.mem_cons_of_mem v hw)

theorem leadLen_eq_zero {table : List Bytes} (hne : ∀ r ∈ table, r ≠ []) (s : Bytes) :
    leadLen table s = 0 ↔ ∀ r ∈ table, ¬ r <+: s := by
  unfold leadLen
  cases hf : table.find? fun r => r.isPrefixOf s with
  | none => simpa using hf
  | some r =>
    have hr : r ≠ [] := hne r (List.mem_of_find?_eq_some hf)
    have hp : r <+: s := by simpa using List.find?_some hf
    simp only [Option.map_some, Option.getD_some, List.length_eq_zero_iff, hr, false_iff,
      not_forall, not_not]
    exact ⟨r, List.mem_of_find?_eq_some hf, hp⟩

theorem spaceRunes_ne_nil : ∀ r ∈ spaceRunes, r ≠ [] := by decide

theorem space_not_mem_tail : ∀ r ∈ spaceRunes, (0x20 : UInt8) ∉ r.tail := by decide

theorem spaceLen_eq_zero (s : Bytes) : spaceLen s = 0 ↔ ∀ r ∈ spaceRunes, ¬ r <+: s :=
  leadLen_eq_zero spaceRunes_ne_nil s

@[simp] theorem spaceLen_nil : spaceLen [] = 0 := by decide

@[simp] theorem spaceLen_space (s : Bytes) : spaceLen (0x20 :: s) = 1 := by
  simp [leadLen, spaceRunes, List.isPrefixOf]

theorem spaceLen_of_append {t s : Bytes} (h : spaceLen (t ++ s) = 0) : spaceLen t = 0 := by
  rw [spaceLen_eq_zero] at h ⊢
  intro r hr hp
  exact h r hr (hp.trans (List.prefix_append t s))

/-- A space byte never completes a white-space rune begun before it. -/
theorem spaceLen_append_space {t : Bytes} (hne : t ≠ []) (h : spaceLen t = 0) (s : Bytes) :
    spaceLen (t ++ 0x20 :: s) = 0 := by
  rw [spaceLen_eq_zero] at h ⊢
  intro r hr hp
  rcases List.prefix_or_prefix_of_prefix hp (List.prefix_append t (0x20 :: s)) with hrt | htr
  · exact h r hr hrt
  · obtain ⟨u, rfl⟩ := htr
    have hu : u <+: 0x20 :: s := (List.prefix_append_right_inj t).mp hp
    cases u with
    | nil => exact h _ hr (by simp)
    | cons b u =>
      obtain ⟨rfl, -⟩ := List.cons_prefix_cons.mp hu
      apply space_not_mem_tail _ hr
      cases t with
      | nil => exact absurd rfl hne
      | cons a t => simp

theorem NoSpace.nil : NoSpace [] := by
  intro t ht
  simp [List.suffix_nil.mp ht]

theorem NoSpace.tail {b : UInt8} {w : Bytes} (h : NoSpace (b :: w)) : NoSpace w :=
  fun t ht => h t (ht.trans (List.suffix_cons b w))

theorem fieldsFrom_cons_of_noSpace {b : UInt8} {word s : Bytes} (h : spaceLen (b :: s) = 0) :
    fieldsFrom 0 word (b :: s) = fieldsFrom 0 (word ++ [b]) s := by
  rw [fieldsFrom, h]

/-- A word without white space is read whole up to the next space. -/
theorem fieldsFrom_word (word w s : Bytes) (h : NoSpace w) :
    fieldsFrom 0 word (w ++ 0x20 :: s) = flush (word ++ w) ++ fieldsFrom 0 [] s := by
  induction w generalizing word with
  | nil => simp [fieldsFrom]
  | cons b w ih =>
    have hb : spaceLen ((b :: w) ++ 0x20 :: s) = 0 :=
      spaceLen_append_space (by simp) (h _ List.suffix_rfl) s
    rw [List.cons_append] at hb ⊢
    rw [fieldsFrom_cons_of_noSpace hb, ih _ h.tail, List.append_assoc]
    rfl

theorem fieldsFrom_last (word w : Bytes) (h : NoSpace w) :
    fieldsFrom 0 word w = flush (word ++ w) := by
  induction w generalizing word with
  | nil => simp [fieldsFrom]
  | cons b w ih =>
    rw [fieldsFrom_cons_of_noSpace (h _ List.suffix_rfl), ih _ h.tail, List.append_assoc]
    rfl

/-- Splitting a line of words joined by single spaces gives the words back. -/
theorem fields_intercalate (ws : List Bytes) (h : ∀ w ∈ ws, w ≠ [] ∧ NoSpace w) :
    fields (List.intercalate [0x20] ws) = ws := by
  induction ws with
  | nil => rfl
  | cons w ws ih =>
    obtain ⟨hne, hw⟩ := h w (by simp)
    cases ws with
    | nil => simp [fields, fieldsFrom_last _ _ hw, flush, hne]
    | cons v ws =>
      have hrest := ih fun x hx => h x (List.mem_cons_of_mem w hx)
      rw [List.intercalate_cons_cons]
      simp only [fields] at hrest ⊢
      rw [List.append_assoc, List.singleton_append, fieldsFrom_word _ _ _ hw, hrest]
      simp [flush, hne]

theorem mem_flush {word w : Bytes} (h : w ∈ flush word) : w = word ∧ w ≠ [] := by
  unfold flush at h
  split at h
  · simp at h
  · simp_all

theorem mem_fieldsFrom (skip : ℕ) (word s w : Bytes) (hskip : skip = 0 ∨ word = [])
    (hword : ∀ t, t <:+ word → t ≠ [] → spaceLen (t ++ s) = 0)
    (hw : w ∈ fieldsFrom skip word s) : w ≠ [] ∧ NoSpace w := by
  induction s generalizing skip word with
  | nil =>
    have hf : w ∈ flush word := by simpa [fieldsFrom] using hw
    obtain ⟨rfl, hne⟩ := mem_flush hf
    refine ⟨hne, fun t ht => ?_⟩
    by_cases htne : t = []
    · simp [htne]
    · simpa using hword t ht htne
  | cons b s ih =>
    cases skip with
    | succ k =>
      obtain rfl : word = [] := by simpa using hskip
      exact ih k [] (.inr rfl) (by simp) hw
    | zero =>
      cases hl : spaceLen (b :: s) with
      | zero =>
        rw [fieldsFrom_cons_of_noSpace hl] at hw
        refine ih 0 (word ++ [b]) (.inl rfl) (fun t ht htne => ?_) hw
        obtain ⟨u, hu⟩ := ht
        obtain ⟨t', rfl⟩ : ∃ t', t = t' ++ [b] := by
          have hl' := congrArg List.getLast? hu
          simp only [List.getLast?_append, List.getLast?_singleton] at hl'
          cases hgl : t.getLast? with
          | none => exact absurd (List.getLast?_eq_none_iff.mp hgl) htne
          | some c =>
            simp only [hgl, Option.some_or, Option.some.injEq] at hl'
            subst hl'
            exact ⟨t.dropLast, (List.dropLast_append_getLast? _ hgl).symm⟩
        have hu' : u ++ t' = word := by
          rw [← List.append_assoc] at hu
          exact List.append_inj_left' hu rfl
        by_cases ht' : t' = []
        · simpa [ht'] using hl
        · simpa using hword t' ⟨u, hu'⟩ ht'
      | succ n =>
        have hw' : w ∈ flush word ++ fieldsFrom n [] s := by
          rw [fieldsFrom, hl] at hw
          exact hw
        rcases List.mem_append.mp hw' with hf | hr
        · obtain ⟨rfl, hne⟩ := mem_flush hf
          refine ⟨hne, fun t ht => ?_⟩
          by_cases htne : t = []
          · simp [htne]
          · exact spaceLen_of_append (hword t ht htne)
        · exact ih n [] (.inr rfl) (by simp) hr

theorem mem_fields {s w : Bytes} (hw : w ∈ fields s) : w ≠ [] ∧ NoSpace w :=
  mem_fieldsFrom 0 [] s w (.inl rfl) (by simp) hw

theorem spaceRunes_head : ∀ r ∈ spaceRunes, ∀ b ∈ r.head?, ¬ Graphic b := by decide

theorem spaceRunes_last :
    ∀ r ∈ spaceRunes.map List.reverse, r ≠ [] ∧ ∀ b ∈ r.head?, ¬ Graphic b := by decide

theorem leadLen_cons_of_graphic {table : List Bytes} {b : UInt8} (s : Bytes)
    (ht : ∀ r ∈ table, r ≠ [] ∧ ∀ c ∈ r.head?, ¬ Graphic c) (hb : Graphic b) :
    leadLen table (b :: s) = 0 := by
  rw [leadLen_eq_zero fun r hr => (ht r hr).1]
  intro r hr hp
  cases r with
  | nil => exact (ht _ hr).1 rfl
  | cons c r =>
    obtain ⟨rfl, -⟩ := List.cons_prefix_cons.mp hp
    exact (ht _ hr).2 c rfl hb

theorem spaceLen_cons_of_graphic {b : UInt8} (s : Bytes) (hb : Graphic b) :
    spaceLen (b :: s) = 0 :=
  leadLen_cons_of_graphic s (fun r hr => ⟨spaceRunes_ne_nil r hr, spaceRunes_head r hr⟩) hb

theorem NoSpace.of_graphic {w : Bytes} (h : ∀ b ∈ w, Graphic b) : NoSpace w := by
  intro t ht
  cases t with
  | nil => rfl
  | cons b t => exact spaceLen_cons_of_graphic t (h b (ht.subset (by simp)))

theorem trimLeft_of_graphic {table : List Bytes} {s : Bytes}
    (ht : ∀ r ∈ table, r ≠ [] ∧ ∀ c ∈ r.head?, ¬ Graphic c) (hs : ∀ b ∈ s.head?, Graphic b) :
    trimLeft table 0 s = s := by
  cases s with
  | nil => rfl
  | cons b s => rw [trimLeft, leadLen_cons_of_graphic s ht (hs b rfl)]

theorem trimSpace_of_graphic {s : Bytes} (hhead : ∀ b ∈ s.head?, Graphic b)
    (hlast : ∀ b ∈ s.getLast?, Graphic b) : trimSpace s = s := by
  unfold trimSpace
  rw [trimLeft_of_graphic (fun r hr => ⟨spaceRunes_ne_nil r hr, spaceRunes_head r hr⟩) hhead,
    trimLeft_of_graphic spaceRunes_last (by simpa using hlast), List.reverse_reverse]

theorem trimSpace_of_forall_graphic {s : Bytes} (h : ∀ b ∈ s, Graphic b) : trimSpace s = s :=
  trimSpace_of_graphic (fun b hb => h b (List.mem_of_mem_head? hb))
    (fun b hb => h b (List.mem_of_getLast? hb))

end Diago.Lib
