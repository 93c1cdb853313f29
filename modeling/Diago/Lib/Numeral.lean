import Diago.Lib.Bytes

/-! # Numerals

Positional numerals as bytes, and the scanners that read decimal ones back.
-/
namespace Diago.Lib

inductive NumError
  | malformed
  | range
  deriving DecidableEq, Repr

/-- The numeral of `n` in `base`, with lower-case letters past nine. -/
def formatBase (base n : ℕ) : Bytes := (Nat.toDigits base n).map fun c => UInt8.ofNat c.toNat

abbrev formatNat (n : ℕ) : Bytes := formatBase 10 n

def itoa (n : ℤ) : Bytes := if n < 0 then 0x2D :: formatNat n.natAbs else formatNat n.toNat

def digitVal (base : ℕ) (c : UInt8) : Option ℕ :=
  (if 0x30 ≤ c ∧ c ≤ 0x39 then some (c.toNat - 0x30)
    else if 0x61 ≤ c ∧ c ≤ 0x66 then some (c.toNat - 0x61 + 10)
    else if 0x41 ≤ c ∧ c ≤ 0x46 then some (c.toNat - 0x41 + 10)
    else none).filter (· < base)

def scanDigit (bits n : ℕ) (c : UInt8) : Except NumError ℕ :=
  match digitVal 10 c with
  | none => .error .malformed
  | some d => if 10 * n + d < 2 ^ bits then .ok (10 * n + d) else .error .range

/-- An unsigned decimal numeral of at most `bits` bits. -/
def parseUint (bits : ℕ) (s : Bytes) : Except NumError ℕ :=
  if s = [] then .error .malformed else s.foldlM (scanDigit bits) 0

/-- A signed decimal numeral of 64 bits, saturated at the end of the range it leaves. -/
def atoi (s : Bytes) : ℤ × Option NumError :=
  let neg := s.head? = some 0x2D
  let digits := if s.head? = some 0x2D ∨ s.head? = some 0x2B then s.tail else s
  match parseUint 64 digits with
  | .error .malformed => (0, some .malformed)
  | .error .range => (if neg then -2 ^ 63 else 2 ^ 63 - 1, some .range)
  | .ok n =>
    if neg then if n ≤ 2 ^ 63 then (-n, none) else (-2 ^ 63, some .range)
    else if n < 2 ^ 63 then (n, none) else (2 ^ 63 - 1, some .range)

def digitByte (d : ℕ) : UInt8 := UInt8.ofNat (Nat.digitChar d).toNat

theorem formatBase_eq {base : ℕ} (hb : 1 < base) (n : ℕ) : formatBase base n =
    (if n < base then [] else formatBase base (n / base)) ++ [digitByte (n % base)] := by
  unfold formatBase
  rw [Nat.toDigits_eq_if hb]
  split
  · rename_i h
    simp [digitByte, Nat.mod_eq_of_lt h]
  · simp [digitByte]

theorem formatBase_ne_nil (base n : ℕ) : formatBase base n ≠ [] := by
  simp [formatBase, Nat.toDigits_ne_nil]

theorem digitVal_digitByte : ∀ d < 16, digitVal 16 (digitByte d) = some d := by decide

theorem digitVal_ten_digitByte : ∀ d < 10, digitVal 10 (digitByte d) = some d := by decide

theorem graphic_digitByte : ∀ d < 16, Graphic (digitByte d) := by decide

theorem forall_mem_formatBase {base : ℕ} (hb : 1 < base) {P : UInt8 → Prop}
    (hP : ∀ d < base, P (digitByte d)) (n : ℕ) : ∀ b ∈ formatBase base n, P b := by
  induction n using Nat.strong_induction_on with
  | _ n ih =>
    have hlast : P (digitByte (n % base)) := hP _ (Nat.mod_lt _ (by omega))
    rw [formatBase_eq hb]
    split
    · simpa using hlast
    · rename_i hn
      intro b hmem
      rcases List.mem_append.mp hmem with hm | hm
      · exact ih (n / base) (Nat.div_lt_self (by omega) hb) b hm
      · simp only [List.mem_singleton] at hm
        exact hm ▸ hlast

theorem graphic_formatBase {base : ℕ} (hb : 1 < base) (hb' : base ≤ 16) (n : ℕ) :
    ∀ b ∈ formatBase base n, Graphic b :=
  forall_mem_formatBase hb (fun d hd => graphic_digitByte d (by omega)) n

theorem graphic_itoa (n : ℤ) : ∀ b ∈ itoa n, Graphic b := by
  unfold itoa
  split
  · intro b hb
    rcases List.mem_cons.mp hb with rfl | hb
    · decide
    · exact graphic_formatBase (by norm_num) (by norm_num) _ b hb
  · exact graphic_formatBase (by norm_num) (by norm_num) _

theorem itoa_ne_nil (n : ℤ) : itoa n ≠ [] := by
  unfold itoa
  split <;> simp [formatBase_ne_nil]

theorem scanDigit_digitByte {bits n d : ℕ} (hd : d < 10) (h : 10 * n + d < 2 ^ bits) :
    scanDigit bits n (digitByte d) = .ok (10 * n + d) := by
  simp [scanDigit, digitVal_ten_digitByte d hd, h]

theorem foldlM_scanDigit_formatNat {bits n : ℕ} (h : n < 2 ^ bits) :
    (formatNat n).foldlM (scanDigit bits) 0 = .ok n := by
  induction n using Nat.strong_induction_on with
  | _ n ih =>
    have hmod : n % 10 < 10 := Nat.mod_lt _ (by norm_num)
    rw [formatNat, formatBase_eq (by norm_num)]
    split
    · rename_i hn
      have hd := @scanDigit_digitByte bits 0 _ hmod (by omega)
      simp only [List.nil_append, List.foldlM_cons, List.foldlM_nil, hd]
      change Except.ok _ = Except.ok n
      congr 1
      omega
    · rename_i hn
      have hinit := ih (n / 10) (by omega) (by omega)
      have hd := @scanDigit_digitByte bits (n / 10) _ hmod (by omega)
      rw [List.foldlM_append, hinit]
      change List.foldlM (scanDigit bits) (n / 10) [digitByte (n % 10)] = _
      simp only [List.foldlM_cons, List.foldlM_nil, hd]
      change Except.ok _ = Except.ok n
      congr 1
      omega

theorem parseUint_formatNat {bits n : ℕ} (h : n < 2 ^ bits) :
    parseUint bits (formatNat n) = .ok n := by
  rw [parseUint, if_neg (formatBase_ne_nil 10 n), foldlM_scanDigit_formatNat h]

theorem formatNat_injective : Function.Injective formatNat := by
  intro m n heq
  have hm : m < 2 ^ (m + n) := Nat.lt_two_pow_self.trans_le (Nat.pow_le_pow_right (by simp) (by simp))
  have hn : n < 2 ^ (m + n) := Nat.lt_two_pow_self.trans_le (Nat.pow_le_pow_right (by simp) (by simp))
  have hparse := parseUint_formatNat hm
  rw [heq, parseUint_formatNat hn] at hparse
  exact (Except.ok.inj hparse).symm

theorem not_mem_formatNat {b : UInt8} (hb : ¬ Graphic b) (n : ℕ) : b ∉ formatNat n :=
  fun hmem => hb (graphic_formatBase (by norm_num) (by norm_num) n b hmem)

theorem head_formatNat (n : ℕ) :
    ∀ b ∈ (formatNat n).head?, b ≠ 0x2D ∧ b ≠ 0x2B := by
  intro b hb
  exact @forall_mem_formatBase 10 (by norm_num) (fun c => c ≠ 0x2D ∧ c ≠ 0x2B) (by decide) n b
    (List.mem_of_mem_head? hb)

theorem itoa_injective : Function.Injective itoa := by
  have hsign (m n : ℕ) : 0x2D :: formatNat m ≠ formatNat n := by
    intro heq
    have hhead := head_formatNat n 0x2D (by rw [← heq]; rfl)
    exact hhead.1 rfl
  intro m n heq
  unfold itoa at heq
  split_ifs at heq with hm hn hn
  · have habs := formatNat_injective (List.cons.inj heq).2
    omega
  · exact absurd heq (hsign _ _)
  · exact absurd heq.symm (hsign _ _)
  · have habs := formatNat_injective heq
    omega

theorem atoi_itoa {n : ℤ} (hlo : -2 ^ 63 ≤ n) (hhi : n < 2 ^ 63) : atoi (itoa n) = (n, none) := by
  unfold itoa
  split
  · rename_i hn
    have hp : parseUint 64 (formatNat n.natAbs) = .ok n.natAbs :=
      parseUint_formatNat (by omega)
    simp only [atoi, List.head?_cons, List.tail_cons, true_or, if_true, hp]
    rw [if_pos (by omega)]
    simp only [Prod.mk.injEq, and_true]
    omega
  · rename_i hn
    have hp : parseUint 64 (formatNat n.toNat) = .ok n.toNat := parseUint_formatNat (by omega)
    have hhead := head_formatNat n.toNat
    have h1 : (formatNat n.toNat).head? ≠ some 0x2D := fun h => (hhead _ h).1 rfl
    have h2 : (formatNat n.toNat).head? ≠ some 0x2B := fun h => (hhead _ h).2 rfl
    simp only [atoi, h1, h2, or_self, if_false, hp]
    rw [if_pos (by omega)]
    simp only [Prod.mk.injEq, and_true]
    omega

theorem scanDigit_lt {bits n m : ℕ} {c : UInt8} (h : scanDigit bits n c = .ok m) : m < 2 ^ bits := by
  unfold scanDigit at h
  split at h
  · cases h
  · split at h
    · cases h
      assumption
    · cases h

theorem foldlM_scanDigit_lt {bits n m : ℕ} (s : Bytes) (hn : n < 2 ^ bits)
    (h : s.foldlM (scanDigit bits) n = .ok m) : m < 2 ^ bits := by
  induction s generalizing n with
  | nil =>
    cases h
    exact hn
  | cons c s ih =>
    rw [List.foldlM_cons] at h
    cases hc : scanDigit bits n c with
    | error e =>
      rw [hc] at h
      cases h
    | ok k =>
      rw [hc] at h
      exact ih (scanDigit_lt hc) h

theorem parseUint_lt {bits n : ℕ} {s : Bytes} (h : parseUint bits s = .ok n) : n < 2 ^ bits := by
  unfold parseUint at h
  split at h
  · cases h
  · exact foldlM_scanDigit_lt s (by positivity) h

theorem foldlM_scanDigit_mono {bits n m : ℕ} (bits' : ℕ) (s : Bytes) (hle : bits ≤ bits')
    (h : s.foldlM (scanDigit bits) n = .ok m) : s.foldlM (scanDigit bits') n = .ok m := by
  induction s generalizing n with
  | nil => exact h
  | cons c s ih =>
    rw [List.foldlM_cons] at h ⊢
    cases hc : scanDigit bits n c with
    | error e =>
      rw [hc] at h
      cases h
    | ok k =>
      rw [hc] at h
      have hwide : scanDigit bits' n c = .ok k := by
        have hlt := (scanDigit_lt hc).trans_le (Nat.pow_le_pow_right (by norm_num) hle)
        unfold scanDigit at hc ⊢
        split at hc
        · cases hc
        · split at hc
          · obtain rfl := Except.ok.inj hc
            rw [if_pos hlt]
          · cases hc
      rw [hwide]
      exact ih h

theorem parseUint_itoa_error {bits : ℕ} {n : ℤ} (h : ¬ (0 ≤ n ∧ n < 2 ^ bits)) :
    ∃ e, parseUint bits (itoa n) = .error e := by
  unfold itoa
  split
  · refine ⟨.malformed, ?_⟩
    have hminus : scanDigit bits 0 0x2D = .error .malformed := by
      have hnone : digitVal 10 0x2D = none := by decide
      rw [scanDigit, hnone]
    rw [parseUint, if_neg (by simp), List.foldlM_cons, hminus]
    rfl
  · rename_i hneg
    cases hread : parseUint bits (formatNat n.toNat) with
    | error e => exact ⟨e, rfl⟩
    | ok m =>
      have hlt := parseUint_lt hread
      rw [parseUint, if_neg (formatBase_ne_nil 10 _)] at hread
      have hwide := foldlM_scanDigit_mono (bits + n.toNat) _ (by omega) hread
      rw [foldlM_scanDigit_formatNat (Nat.lt_two_pow_self.trans_le
        (Nat.pow_le_pow_right (by norm_num) (by omega)))] at hwide
      have hm := Except.ok.inj hwide
      have hcast : n < 2 ^ bits := by
        have hpos : 0 ≤ n := by omega
        have hltz : (n.toNat : ℤ) < 2 ^ bits := by
          rw [hm]
          exact_mod_cast hlt
        rwa [Int.toNat_of_nonneg hpos] at hltz
      exact absurd ⟨by omega, hcast⟩ h

theorem atoi_range (s : Bytes) : -2 ^ 63 ≤ (atoi s).1 ∧ (atoi s).1 < 2 ^ 63 := by
  unfold atoi
  dsimp only
  split
  · simp
  · split_ifs <;> simp
  · split_ifs <;> simp <;> omega

def IsDigit (b : UInt8) : Prop := 0x30 ≤ b ∧ b ≤ 0x39

instance (b : UInt8) : Decidable (IsDigit b) := inferInstanceAs (Decidable (_ ∧ _))

def decimalFrom (n : ℕ) (s : Bytes) : ℕ := s.foldl (fun n b => 10 * n + (b.toNat - 0x30)) n

def decimalValue (s : Bytes) : ℕ := decimalFrom 0 s

theorem digitVal_of_isDigit {b : UInt8} (h : IsDigit b) :
    digitVal 10 b = some (b.toNat - 0x30) ∧ b.toNat - 0x30 < 10 := by
  have hhi : b.toNat ≤ 0x39 := UInt8.le_iff_toNat_le.mp h.2
  have hlt : b.toNat - 0x30 < 10 := by omega
  have hrange : 0x30 ≤ b ∧ b ≤ 0x39 := h
  unfold digitVal
  rw [if_pos hrange]
  exact ⟨by simpa [Option.filter] using hlt, hlt⟩

theorem decimalFrom_lt (n : ℕ) {s : Bytes} (h : ∀ b ∈ s, IsDigit b) :
    decimalFrom n s + 1 ≤ (n + 1) * 10 ^ s.length := by
  unfold decimalFrom
  induction s generalizing n with
  | nil => simp
  | cons b s ih =>
    simp only [List.forall_mem_cons] at h
    have hdigit := (digitVal_of_isDigit h.1).2
    calc s.foldl (fun n b => 10 * n + (b.toNat - 0x30)) (10 * n + (b.toNat - 0x30)) + 1
        ≤ (10 * n + (b.toNat - 0x30) + 1) * 10 ^ s.length := ih _ h.2
      _ ≤ ((n + 1) * 10) * 10 ^ s.length := Nat.mul_le_mul_right _ (by omega)
      _ = (n + 1) * 10 ^ (b :: s).length := by rw [List.length_cons, pow_succ']; ring

theorem le_decimalFrom (n : ℕ) (s : Bytes) : n ≤ decimalFrom n s := by
  unfold decimalFrom
  induction s generalizing n with
  | nil => exact le_rfl
  | cons b s ih => exact le_trans (by omega) (ih (10 * n + (b.toNat - 0x30)))

theorem foldlM_scanDigit_digits {bits n : ℕ} {s : Bytes} (h : ∀ b ∈ s, IsDigit b)
    (hlt : decimalFrom n s < 2 ^ bits) : s.foldlM (scanDigit bits) n = .ok (decimalFrom n s) := by
  induction s generalizing n with
  | nil => rfl
  | cons b s ih =>
    simp only [List.forall_mem_cons] at h
    have hscan : scanDigit bits n b = .ok (10 * n + (b.toNat - 0x30)) := by
      unfold scanDigit
      rw [(digitVal_of_isDigit h.1).1]
      exact if_pos (lt_of_le_of_lt (le_decimalFrom _ s) hlt)
    rw [List.foldlM_cons, hscan]
    exact ih h.2 hlt

/-- A byte that is no digit makes a numeral malformed, or it was out of range before. -/
theorem atoi_snd_of_digits {s t : Bytes} {c : UInt8} (hne : s ≠ []) (h : ∀ b ∈ s, IsDigit b)
    (hc : digitVal 10 c = none) : (atoi (s ++ c :: t)).2 ≠ none := by
  have hparse : ∀ n, parseUint 64 (s ++ c :: t) ≠ .ok n := by
    intro n hn
    rw [parseUint, if_neg (by simp), List.foldlM_append] at hn
    cases hs : s.foldlM (scanDigit 64) 0 with
    | error e =>
      rw [hs] at hn
      cases hn
    | ok m =>
      rw [hs] at hn
      change (c :: t).foldlM (scanDigit 64) m = .ok n at hn
      rw [List.foldlM_cons, scanDigit, hc] at hn
      cases hn
  have hhead : ∀ b, ¬ IsDigit b → (s ++ c :: t).head? ≠ some b := by
    intro b hb hs
    rw [List.head?_append_of_ne_nil s hne] at hs
    exact hb (h b (List.mem_of_head? hs))
  have hminus : (s ++ c :: t).head? ≠ some 0x2D := hhead _ (by decide)
  have hplus : (s ++ c :: t).head? ≠ some 0x2B := hhead _ (by decide)
  simp only [atoi, hminus, hplus, or_self, if_false]
  split
  · nofun
  · nofun
  · rename_i n hn
    exact absurd hn (hparse n)

theorem atoi_digits {s : Bytes} (hne : s ≠ []) (h : ∀ b ∈ s, IsDigit b)
    (hlt : decimalValue s < 2 ^ 63) : atoi s = ((decimalValue s : ℤ), none) := by
  have hparse : parseUint 64 s = .ok (decimalValue s) := by
    rw [parseUint, if_neg hne]
    exact foldlM_scanDigit_digits h (hlt.trans (by norm_num))
  have hhead : ∀ c, ¬ IsDigit c → s.head? ≠ some c := by
    intro c hc hs
    exact hc (h c (List.mem_of_head? hs))
  have hminus : s.head? ≠ some 0x2D := hhead _ (by decide)
  have hplus : s.head? ≠ some 0x2B := hhead _ (by decide)
  simp only [atoi, hminus, hplus, or_self, if_false, hparse]
  rw [if_pos (by exact_mod_cast hlt)]

end Diago.Lib
