import Diago.Lib.Bytes

/-! # Base64 with padding

The standard alphabet in groups of four. Line ends inside the text are ignored,
padding closes the last group, and the bits it stands for are not looked at.
-/
namespace Diago.Lib

def sextet (v : ℕ) : UInt8 :=
  if v < 26 then UInt8.ofNat (0x41 + v)
  else if v < 52 then UInt8.ofNat (0x61 + (v - 26))
  else if v < 62 then UInt8.ofNat (0x30 + (v - 52))
  else if v = 62 then 0x2B else 0x2F

def sextetVal (c : UInt8) : Option ℕ :=
  if 0x41 ≤ c ∧ c ≤ 0x5A then some (c.toNat - 0x41)
  else if 0x61 ≤ c ∧ c ≤ 0x7A then some (c.toNat - 0x61 + 26)
  else if 0x30 ≤ c ∧ c ≤ 0x39 then some (c.toNat - 0x30 + 52)
  else if c = 0x2B then some 62
  else if c = 0x2F then some 63
  else none

abbrev padChar : UInt8 := 0x3D

def group (a b c : UInt8) : ℕ := a.toNat * 65536 + b.toNat * 256 + c.toNat

def base64Encode : Bytes → Bytes
  | a :: b :: c :: s => sextet (group a b c / 262144) :: sextet (group a b c / 4096 % 64) ::
      sextet (group a b c / 64 % 64) :: sextet (group a b c % 64) :: base64Encode s
  | [a, b] => [sextet (group a b 0 / 262144), sextet (group a b 0 / 4096 % 64),
      sextet (group a b 0 / 64 % 64), padChar]
  | [a] => [sextet (group a 0 0 / 262144), sextet (group a 0 0 / 4096 % 64), padChar, padChar]
  | [] => []

def ungroup (v w x y : ℕ) : ℕ := v * 262144 + w * 4096 + x * 64 + y

def octet (n : ℕ) : UInt8 := UInt8.ofNat (n % 256)

def base64Quads : Bytes → Option Bytes
  | [] => some []
  | p :: q :: r :: t :: s =>
    match sextetVal p, sextetVal q with
    | some v, some w =>
      if r = padChar then
        if t = padChar ∧ s = [] then some [octet (ungroup v w 0 0 / 65536)] else none
      else match sextetVal r with
      | none => none
      | some x =>
        if t = padChar then
          if s = [] then some [octet (ungroup v w x 0 / 65536), octet (ungroup v w x 0 / 256)]
          else none
        else match sextetVal t with
        | none => none
        | some y => (base64Quads s).map fun rest =>
            octet (ungroup v w x y / 65536) :: octet (ungroup v w x y / 256) ::
              octet (ungroup v w x y) :: rest
    | _, _ => none
  | _ => none

def base64Decode (s : Bytes) : Option Bytes :=
  base64Quads (s.filter fun c => c ≠ 0x0D ∧ c ≠ 0x0A)

theorem base64Quads_of_sextetVal {p : UInt8} (hp : sextetVal p = none) (w : Bytes) :
    base64Quads (p :: w) = none := by
  rcases w with _ | ⟨q, _ | ⟨r, _ | ⟨t, rest⟩⟩⟩
  · rfl
  · rfl
  · rfl
  · rw [base64Quads, hp]

theorem sextetVal_sextet : ∀ v < 64, sextetVal (sextet v) = some v := by decide

theorem sextet_ne_padChar : ∀ v < 64, sextet v ≠ padChar := by decide

theorem graphic_sextet : ∀ v < 64, Graphic (sextet v) := by decide

theorem octet_toNat (b : UInt8) {n : ℕ} (h : n % 256 = b.toNat) : octet n = b := by
  unfold octet
  rw [h, UInt8.ofNat_toNat]

theorem group_lt (a b c : UInt8) : group a b c < 16777216 := by
  have := a.toNat_lt
  have := b.toNat_lt
  have := c.toNat_lt
  unfold group
  omega

theorem ungroup_sextets (n : ℕ) :
    ungroup (n / 262144) (n / 4096 % 64) (n / 64 % 64) (n % 64) = n := by
  unfold ungroup
  omega

theorem base64Quads_encode (s : Bytes) : base64Quads (base64Encode s) = some s := by
  induction s using base64Encode.induct with
  | case1 a b c s ih =>
    have hg := group_lt a b c
    have ha := a.toNat_lt
    have hb := b.toNat_lt
    have hc := c.toNat_lt
    have h1 : group a b c / 262144 < 64 := by omega
    have h2 : group a b c / 4096 % 64 < 64 := Nat.mod_lt _ (by norm_num)
    have h3 : group a b c / 64 % 64 < 64 := Nat.mod_lt _ (by norm_num)
    have h4 : group a b c % 64 < 64 := Nat.mod_lt _ (by norm_num)
    simp only [base64Encode, base64Quads, sextetVal_sextet _ h1, sextetVal_sextet _ h2,
      sextetVal_sextet _ h3, sextetVal_sextet _ h4, sextet_ne_padChar _ h3,
      sextet_ne_padChar _ h4, if_false, ih, ungroup_sextets, Option.map_some]
    rw [octet_toNat a (by unfold group; omega), octet_toNat b (by unfold group; omega),
      octet_toNat c (by unfold group; omega)]
  | case2 a b =>
    have hg := group_lt a b 0
    have ha := a.toNat_lt
    have hb := b.toNat_lt
    have h1 : group a b 0 / 262144 < 64 := by omega
    have h2 : group a b 0 / 4096 % 64 < 64 := Nat.mod_lt _ (by norm_num)
    have h3 : group a b 0 / 64 % 64 < 64 := Nat.mod_lt _ (by norm_num)
    have h0 : group a b 0 % 64 = 0 := by
      simp only [group, UInt8.toNat_zero]
      omega
    have hn := ungroup_sextets (group a b 0)
    rw [h0] at hn
    simp only [base64Encode, base64Quads, sextetVal_sextet _ h1, sextetVal_sextet _ h2,
      sextetVal_sextet _ h3, sextet_ne_padChar _ h3, if_false, if_true, hn]
    simp only [group, UInt8.toNat_zero, add_zero]
    rw [octet_toNat a (by omega), octet_toNat b (by omega)]
  | case3 a =>
    have hg := group_lt a 0 0
    have ha := a.toNat_lt
    have h1 : group a 0 0 / 262144 < 64 := by omega
    have h2 : group a 0 0 / 4096 % 64 < 64 := Nat.mod_lt _ (by norm_num)
    have h0 : group a 0 0 % 64 = 0 ∧ group a 0 0 / 64 % 64 = 0 := by
      simp only [group, UInt8.toNat_zero]
      omega
    have hn := ungroup_sextets (group a 0 0)
    rw [h0.1, h0.2] at hn
    simp only [base64Encode, base64Quads, sextetVal_sextet _ h1, sextetVal_sextet _ h2, if_true,
      and_self, hn]
    simp only [group, UInt8.toNat_zero, add_zero, zero_mul]
    rw [octet_toNat a (by omega)]
  | case4 => rfl

theorem graphic_base64Encode (s : Bytes) : ∀ b ∈ base64Encode s, Graphic b := by
  have hmod (n : ℕ) : Graphic (sextet (n % 64)) := graphic_sextet _ (Nat.mod_lt _ (by norm_num))
  have hpad : Graphic padChar := by decide
  induction s using base64Encode.induct with
  | case1 a b c s ih =>
    have hg := group_lt a b c
    have h1 := graphic_sextet (group a b c / 262144) (by omega)
    simp only [base64Encode, List.forall_mem_cons]
    exact ⟨h1, hmod _, hmod _, hmod _, ih⟩
  | case2 a b =>
    have hg := group_lt a b 0
    have h1 := graphic_sextet (group a b 0 / 262144) (by omega)
    simp only [base64Encode, List.forall_mem_cons]
    exact ⟨h1, hmod _, hmod _, hpad, by simp⟩
  | case3 a =>
    have hg := group_lt a 0 0
    have h1 := graphic_sextet (group a 0 0 / 262144) (by omega)
    simp only [base64Encode, List.forall_mem_cons]
    exact ⟨h1, hmod _, hpad, hpad, by simp⟩
  | case4 => simp [base64Encode]

theorem Graphic.ne_lineEnd {b : UInt8} (h : Graphic b) : b ≠ 0x0D ∧ b ≠ 0x0A := by
  constructor <;> rintro rfl <;> revert h <;> decide

theorem base64Decode_encode (s : Bytes) : base64Decode (base64Encode s) = some s := by
  have hfilter : (base64Encode s).filter (fun c => c ≠ 0x0D ∧ c ≠ 0x0A) = base64Encode s := by
    rw [List.filter_eq_self]
    intro b hb
    simpa using (graphic_base64Encode s b hb).ne_lineEnd
  rw [base64Decode, hfilter, base64Quads_encode]

end Diago.Lib
