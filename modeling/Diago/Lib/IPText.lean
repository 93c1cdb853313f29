import Diago.Lib.Numeral
import Mathlib.Data.List.TakeWhile

/-! # IP addresses as text

An address is IPv4 or an IPv6 address that does not map one, so that equal values are
equal addresses. IPv6 text elides the first longest run of two or more zero groups.
-/
namespace Diago.Lib

structure IPv6 where
  groups : List ℕ
  length_eq : groups.length = 8
  lt : ∀ g ∈ groups, g < 65536
  deriving DecidableEq

def mappedGroups (groups : List ℕ) : Bool := [0, 0, 0, 0, 0, 0xFFFF].isPrefixOf groups

inductive IP
  | v4 (a b c d : UInt8)
  | v6 (addr : IPv6) (unmapped : mappedGroups addr.groups = false)
  deriving DecidableEq

abbrev dot : UInt8 := 0x2E
abbrev colon : UInt8 := 0x3A
abbrev percent : UInt8 := 0x25

def hexGroup (g : ℕ) : Bytes := formatBase 16 g

def joinGroups (gs : List ℕ) : Bytes := List.intercalate [colon] (gs.map hexGroup)

def zeroRun (gs : List ℕ) (i : ℕ) : ℕ := ((gs.drop i).takeWhile (· == 0)).length

/-- Start and length of the first longest run of at least two zero groups. -/
def elision (gs : List ℕ) : Option (ℕ × ℕ) :=
  (List.range 8).foldl (fun best i =>
    if 2 ≤ zeroRun gs i ∧ (best.map Prod.snd).getD 0 < zeroRun gs i then some (i, zeroRun gs i)
    else best) none

def ip6String (gs : List ℕ) : Bytes :=
  match elision gs with
  | none => joinGroups gs
  | some (i, l) => joinGroups (gs.take i) ++ [colon, colon] ++ joinGroups (gs.drop (i + l))

def ipString : IP → Bytes
  | .v4 a b c d => List.intercalate [dot] [formatNat a.toNat, formatNat b.toNat,
      formatNat c.toNat, formatNat d.toNat]
  | .v6 addr _ => ip6String addr.groups

def parseOctet (s : Bytes) : Option UInt8 :=
  if 2 ≤ s.length ∧ s.head? = some 0x30 then none
  else (parseUint 8 s).toOption.map UInt8.ofNat

def parseIPv4 (s : Bytes) : Option (UInt8 × UInt8 × UInt8 × UInt8) :=
  match (s.splitOn dot).mapM parseOctet with
  | some [a, b, c, d] => some (a, b, c, d)
  | _ => none

def isHex (c : UInt8) : Bool := (digitVal 16 c).isSome

def hexVal (s : Bytes) : ℕ := s.foldl (fun n c => 16 * n + (digitVal 16 c).getD 0) 0

/-- Groups read off `s` after `acc`, the place of the elision in them, and what
is left of `s`. The fuel is the number of groups that still fit. -/
def parseGroups : (fuel : ℕ) → (s : Bytes) → (acc : List ℕ) → (ell : Option ℕ) →
    Option (List ℕ × Option ℕ × Bytes)
  | 0, s, acc, ell => some (acc, ell, s)
  | fuel + 1, s, acc, ell =>
    let digits := s.takeWhile isHex
    if digits = [] ∨ 4 < digits.length then none else
    match s.dropWhile isHex with
    | [] => some (acc ++ [hexVal digits], ell, [])
    | c :: rest =>
      if c = dot then
        if (ell = none ∧ acc.length ≠ 6) ∨ 8 < acc.length + 2 then none
        else (parseIPv4 s).map fun (a, b, c, d) =>
          (acc ++ [a.toNat * 256 + b.toNat, c.toNat * 256 + d.toNat], ell, [])
      else if c ≠ colon then none
      else match rest with
      | [] => none
      | d :: rest' =>
        if d = colon then
          if ell.isSome then none
          else if rest' = [] then some (acc ++ [hexVal digits], some (acc.length + 1), [])
          else parseGroups fuel rest' (acc ++ [hexVal digits]) (some (acc.length + 1))
        else parseGroups fuel rest (acc ++ [hexVal digits]) ell

def expandElision : List ℕ × Option ℕ × Bytes → Option (List ℕ)
  | (acc, ell, s) =>
    if s ≠ [] then none
    else if acc.length < 8 then
      ell.map fun i => acc.take i ++ List.replicate (8 - acc.length) 0 ++ acc.drop i
    else if ell.isSome then none else some acc

def parseIPv6 (s : Bytes) : Option (List ℕ) :=
  if percent ∈ s then none
  else if [colon, colon].isPrefixOf s then
    if s.drop 2 = [] then some (List.replicate 8 0)
    else (parseGroups 8 (s.drop 2) [] (some 0)).bind expandElision
  else (parseGroups 8 s [] none).bind expandElision

/-- The address of eight groups, IPv4 when they map one. -/
def ipOfGroups (gs : List ℕ) : Option IP :=
  if h : gs.length = 8 ∧ ∀ g ∈ gs, g < 65536 then
    if hm : mappedGroups gs = false then some (.v6 ⟨gs, h.1, h.2⟩ hm)
    else some (.v4 (UInt8.ofNat (gs.getD 6 0 / 256)) (UInt8.ofNat (gs.getD 6 0 % 256))
      (UInt8.ofNat (gs.getD 7 0 / 256)) (UInt8.ofNat (gs.getD 7 0 % 256)))
  else none

/-- Reads an address; a zone is refused. -/
def parseIP (s : Bytes) : Option IP :=
  match s.find? fun c => c == dot || c == colon || c == percent with
  | some c =>
    if c = dot then (parseIPv4 s).map fun (a, b, c, d) => .v4 a b c d
    else if c = colon then (parseIPv6 s).bind ipOfGroups
    else none
  | none => none

theorem parseOctet_formatNat : ∀ n < 256, parseOctet (formatNat n) = some (UInt8.ofNat n) := by
  decide +kernel

theorem dot_not_mem_formatNat (n : ℕ) : dot ∉ formatNat n :=
  fun h => @forall_mem_formatBase 10 (by norm_num) (· ≠ dot) (by decide) n dot h rfl

theorem parseIPv4_ipString (a b c d : UInt8) :
    parseIPv4 (ipString (.v4 a b c d)) = some (a, b, c, d) := by
  have hoctet (x : UInt8) : parseOctet (formatNat x.toNat) = some x := by
    rw [parseOctet_formatNat _ x.toNat_lt, UInt8.ofNat_toNat]
  have hsplit : (ipString (.v4 a b c d)).splitOn dot = [formatNat a.toNat, formatNat b.toNat,
      formatNat c.toNat, formatNat d.toNat] := by
    apply List.splitOn_intercalate
    · simp [dot_not_mem_formatNat]
    · simp
  simp [parseIPv4, hsplit, hoctet]

theorem hexGroup_ne_nil (g : ℕ) : hexGroup g ≠ [] := formatBase_ne_nil 16 g

theorem hexGroup_length {g : ℕ} (h : g < 65536) : (hexGroup g).length ≤ 4 := by
  rw [hexGroup, formatBase, List.length_map, Nat.length_toDigits_le_iff (by norm_num) (by norm_num)]
  exact h

theorem isHex_hexGroup (g : ℕ) : ∀ c ∈ hexGroup g, isHex c = true :=
  forall_mem_formatBase (by norm_num) (by decide) g

theorem hexVal_append (s : Bytes) (c : UInt8) :
    hexVal (s ++ [c]) = 16 * hexVal s + (digitVal 16 c).getD 0 := by
  simp [hexVal, List.foldl_append]

theorem hexVal_hexGroup (g : ℕ) : hexVal (hexGroup g) = g := by
  induction g using Nat.strong_induction_on with
  | _ g ih =>
    have hmod : g % 16 < 16 := Nat.mod_lt _ (by norm_num)
    rw [hexGroup, formatBase_eq (by norm_num), hexVal_append, digitVal_digitByte _ hmod]
    split
    · simp only [hexVal, List.foldl_nil, Option.getD_some]
      omega
    · rename_i hg
      have hdiv : hexVal (formatBase 16 (g / 16)) = g / 16 := ih (g / 16) (by omega)
      rw [hdiv, Option.getD_some]
      omega

theorem takeWhile_hexGroup (g : ℕ) (s : Bytes) :
    (hexGroup g ++ colon :: s).takeWhile isHex = hexGroup g := by
  rw [List.takeWhile_append_of_pos (isHex_hexGroup g)]
  simp [show isHex colon = false by decide]

theorem dropWhile_hexGroup (g : ℕ) (s : Bytes) :
    (hexGroup g ++ colon :: s).dropWhile isHex = colon :: s := by
  rw [List.dropWhile_append_of_pos (isHex_hexGroup g)]
  simp [show isHex colon = false by decide]

theorem takeWhile_hexGroup_nil (g : ℕ) : (hexGroup g).takeWhile isHex = hexGroup g :=
  List.takeWhile_eq_self_iff.mpr (isHex_hexGroup g)

theorem dropWhile_hexGroup_nil (g : ℕ) : (hexGroup g).dropWhile isHex = [] :=
  List.dropWhile_eq_nil_iff.mpr (isHex_hexGroup g)

theorem joinGroups_cons (g h : ℕ) (gs : List ℕ) :
    joinGroups (g :: h :: gs) = hexGroup g ++ colon :: joinGroups (h :: gs) := by
  simp [joinGroups, List.intercalate_cons_cons]

theorem joinGroups_head (g : ℕ) (gs : List ℕ) (t : Bytes) :
    ∃ c s, joinGroups (g :: gs) ++ t = c :: s ∧ isHex c = true := by
  obtain ⟨c, w, hw⟩ := List.exists_cons_of_ne_nil (hexGroup_ne_nil g)
  have hc : isHex c = true := isHex_hexGroup g c (by simp [hw])
  cases gs with
  | nil => exact ⟨c, w ++ t, by simp [joinGroups, hw], hc⟩
  | cons h gs => exact ⟨c, w ++ colon :: joinGroups (h :: gs) ++ t, by simp [joinGroups_cons, hw], hc⟩

theorem parseGroups_more (fuel g : ℕ) (s : Bytes) (acc : List ℕ) (ell : Option ℕ)
    (hg : g < 65536) (hs : ∃ c s', s = c :: s' ∧ isHex c = true) :
    parseGroups (fuel + 1) (hexGroup g ++ colon :: s) acc ell =
      parseGroups fuel s (acc ++ [g]) ell := by
  obtain ⟨c, s', rfl, hc⟩ := hs
  have hcolon : c ≠ colon := by
    rintro rfl
    revert hc
    decide
  rw [parseGroups]
  simp only [takeWhile_hexGroup, dropWhile_hexGroup, hexVal_hexGroup]
  rw [if_neg (by simp [hexGroup_ne_nil, hexGroup_length hg])]
  simp [hcolon, show colon ≠ dot by decide]

theorem parseGroups_elide (fuel g : ℕ) (s : Bytes) (acc : List ℕ) (hg : g < 65536) :
    parseGroups (fuel + 1) (hexGroup g ++ colon :: colon :: s) acc none =
      if s = [] then some (acc ++ [g], some (acc.length + 1), [])
      else parseGroups fuel s (acc ++ [g]) (some (acc.length + 1)) := by
  rw [parseGroups]
  simp only [takeWhile_hexGroup, dropWhile_hexGroup, hexVal_hexGroup]
  rw [if_neg (by simp [hexGroup_ne_nil, hexGroup_length hg])]
  simp [show colon ≠ dot by decide]

theorem parseGroups_last (fuel g : ℕ) (acc : List ℕ) (ell : Option ℕ) (hg : g < 65536) :
    parseGroups (fuel + 1) (hexGroup g) acc ell = some (acc ++ [g], ell, []) := by
  rw [parseGroups]
  simp only [takeWhile_hexGroup_nil, dropWhile_hexGroup_nil, hexVal_hexGroup]
  rw [if_neg (by simp [hexGroup_ne_nil, hexGroup_length hg])]

theorem parseGroups_join (g : ℕ) (gs : List ℕ) (fuel : ℕ) (acc : List ℕ) (ell : Option ℕ)
    (hlt : ∀ x ∈ g :: gs, x < 65536) (hfuel : gs.length < fuel) :
    parseGroups fuel (joinGroups (g :: gs)) acc ell = some (acc ++ g :: gs, ell, []) := by
  induction gs generalizing g fuel acc with
  | nil =>
    obtain ⟨fuel, rfl⟩ := Nat.exists_eq_succ_of_ne_zero (by omega : fuel ≠ 0)
    simpa [joinGroups] using parseGroups_last fuel g acc ell (hlt g (by simp))
  | cons h gs ih =>
    obtain ⟨fuel, rfl⟩ := Nat.exists_eq_succ_of_ne_zero (by omega : fuel ≠ 0)
    have hhead := joinGroups_head h gs []
    rw [List.append_nil] at hhead
    rw [joinGroups_cons, parseGroups_more fuel g _ acc ell (hlt g (by simp)) hhead,
      ih h fuel (acc ++ [g]) (fun x hx => hlt x (List.mem_cons_of_mem g hx))
        (by simp only [List.length_cons] at hfuel; omega)]
    simp

theorem parseGroups_join_elide (g : ℕ) (gs : List ℕ) (fuel : ℕ) (acc : List ℕ) (t : Bytes)
    (hlt : ∀ x ∈ g :: gs, x < 65536) (hfuel : gs.length < fuel) :
    parseGroups fuel (joinGroups (g :: gs) ++ colon :: colon :: t) acc none =
      if t = [] then some (acc ++ g :: gs, some (acc ++ g :: gs).length, [])
      else parseGroups (fuel - (gs.length + 1)) t (acc ++ g :: gs)
        (some (acc ++ g :: gs).length) := by
  induction gs generalizing g fuel acc with
  | nil =>
    obtain ⟨fuel, rfl⟩ := Nat.exists_eq_succ_of_ne_zero (by omega : fuel ≠ 0)
    simpa [joinGroups] using parseGroups_elide fuel g t acc (hlt g (by simp))
  | cons h gs ih =>
    obtain ⟨fuel, rfl⟩ := Nat.exists_eq_succ_of_ne_zero (by omega : fuel ≠ 0)
    rw [joinGroups_cons, List.append_assoc, List.cons_append,
      parseGroups_more fuel g _ acc none (hlt g (by simp)) (joinGroups_head h gs _),
      ih h fuel (acc ++ [g]) (fun x hx => hlt x (List.mem_cons_of_mem g hx))
        (by simp only [List.length_cons] at hfuel; omega)]
    simp

theorem zeroRun_split (gs : List ℕ) (i : ℕ) :
    gs = gs.take i ++ List.replicate (zeroRun gs i) 0 ++ gs.drop (i + zeroRun gs i) := by
  have hzeros : (gs.drop i).takeWhile (· == 0) = List.replicate (zeroRun gs i) 0 := by
    rw [List.eq_replicate_iff]
    refine ⟨rfl, fun x hx => ?_⟩
    simpa using List.mem_takeWhile_imp hx
  have hrest : (gs.drop i).drop (zeroRun gs i) = (gs.drop i).dropWhile (· == 0) := by
    conv_lhs => rw [← @List.takeWhile_append_dropWhile _ (· == 0) (gs.drop i)]
    exact List.drop_left
  rw [← hzeros, ← List.drop_drop, hrest, List.append_assoc, List.takeWhile_append_dropWhile,
    List.take_append_drop]

theorem elision_eq_some {gs : List ℕ} {i l : ℕ} (h : elision gs = some (i, l)) :
    l = zeroRun gs i ∧ 2 ≤ l := by
  have key (is : List ℕ) (best : Option (ℕ × ℕ))
      (hbest : ∀ p ∈ best, p.2 = zeroRun gs p.1 ∧ 2 ≤ p.2) :
      ∀ p ∈ is.foldl (fun best i =>
        if 2 ≤ zeroRun gs i ∧ (best.map Prod.snd).getD 0 < zeroRun gs i then
          some (i, zeroRun gs i) else best) best, p.2 = zeroRun gs p.1 ∧ 2 ≤ p.2 := by
    induction is generalizing best with
    | nil => exact hbest
    | cons j is ih =>
      rw [List.foldl_cons]
      apply ih
      split
      · rename_i hj
        intro p hp
        obtain rfl : (j, zeroRun gs j) = p := by simpa using hp
        exact ⟨rfl, hj.1⟩
      · exact hbest
  exact key (List.range 8) none (by simp) (i, l) h

theorem parseIPv6_no_percent (s : Bytes) (h : ∀ c ∈ s, isHex c = true ∨ c = colon) :
    percent ∉ s := by
  intro hp
  rcases h _ hp with h | h
  · revert h; decide
  · revert h; decide

theorem joinGroups_bytes (gs : List ℕ) : ∀ c ∈ joinGroups gs, isHex c = true ∨ c = colon := by
  induction gs with
  | nil => simp [joinGroups]
  | cons g gs ih =>
    cases gs with
    | nil => simpa [joinGroups] using fun c hc => Or.inl (isHex_hexGroup g c hc)
    | cons h gs =>
      rw [joinGroups_cons]
      intro c hc
      simp only [List.mem_append, List.mem_cons] at hc
      rcases hc with hc | rfl | hc
      · exact .inl (isHex_hexGroup g c hc)
      · exact .inr rfl
      · exact ih c hc

theorem ip6String_bytes (gs : List ℕ) : ∀ c ∈ ip6String gs, isHex c = true ∨ c = colon := by
  unfold ip6String
  split
  · exact joinGroups_bytes gs
  · intro c hc
    simp only [List.mem_append, List.mem_cons, List.not_mem_nil, or_false] at hc
    rcases hc with (hc | hc | hc) | hc
    · exact joinGroups_bytes _ c hc
    · exact .inr hc
    · exact .inr hc
    · exact joinGroups_bytes _ c hc

theorem expandElision_full {gs : List ℕ} (h : gs.length = 8) :
    expandElision (gs, none, []) = some gs := by
  simp [expandElision, h]

theorem expandElision_split {xs ys : List ℕ} {l : ℕ} (hl : xs.length + l + ys.length = 8)
    (h2 : 2 ≤ l) : expandElision (xs ++ ys, some xs.length, []) =
      some (xs ++ List.replicate l 0 ++ ys) := by
  have hlen : 8 - (xs ++ ys).length = l := by
    rw [List.length_append]
    omega
  have hlt : (xs ++ ys).length < 8 := by
    rw [List.length_append]
    omega
  simp only [expandElision, ne_eq, not_true_eq_false, if_false, hlt, if_true, hlen,
    Option.map_some, List.take_left, List.drop_left]

theorem not_elided_of_isHex {c : UInt8} {s : Bytes} (h : isHex c = true) :
    [colon, colon].isPrefixOf (c :: s) = false := by
  have hc : (colon == c) = false := by
    rw [beq_eq_false_iff_ne]
    rintro rfl
    revert h
    decide
  simp [List.isPrefixOf, hc]

theorem parseIPv6_ip6String {gs : List ℕ} (hlen : gs.length = 8) (hlt : ∀ g ∈ gs, g < 65536) :
    parseIPv6 (ip6String gs) = some gs := by
  have hpercent := parseIPv6_no_percent _ (ip6String_bytes gs)
  rw [parseIPv6, if_neg hpercent]
  cases he : elision gs with
  | none =>
    have htext : ip6String gs = joinGroups gs := by simp [ip6String, he]
    obtain ⟨g, gs, rfl⟩ := List.exists_cons_of_ne_nil (l := gs) (by rintro rfl; simp at hlen)
    obtain ⟨c, s, hcs, hc⟩ := joinGroups_head g gs []
    rw [List.append_nil] at hcs
    rw [htext, hcs, not_elided_of_isHex hc, ← hcs,
      parseGroups_join g gs 8 [] none hlt (by simp only [List.length_cons] at hlen; omega)]
    simpa using expandElision_full hlen
  | some p =>
    obtain ⟨i, l⟩ := p
    obtain ⟨rfl, h2⟩ := elision_eq_some he
    have hsplit := zeroRun_split gs i
    have htext : ip6String gs = joinGroups (gs.take i) ++ colon :: colon ::
        joinGroups (gs.drop (i + zeroRun gs i)) := by simp [ip6String, he]
    rw [htext]
    have hsum : (gs.take i).length + zeroRun gs i + (gs.drop (i + zeroRun gs i)).length = 8 := by
      have := congrArg List.length hsplit
      simp only [List.length_append, List.length_replicate] at this
      omega
    have hend := expandElision_split hsum h2
    rw [← hsplit] at hend
    have hys (x : ℕ) (hx : x ∈ gs.drop (i + zeroRun gs i)) : x < 65536 :=
      hlt x (List.mem_of_mem_drop hx)
    have hxs (x : ℕ) (hx : x ∈ gs.take i) : x < 65536 := hlt x (List.mem_of_mem_take hx)
    generalize hX : gs.take i = xs at *
    generalize hY : gs.drop (i + zeroRun gs i) = ys at *
    generalize zeroRun gs i = l at *
    cases xs with
    | nil =>
      simp only [joinGroups, List.map_nil, List.intercalate_nil, List.nil_append]
      rw [if_pos (by simp [List.isPrefixOf])]
      cases ys with
      | nil =>
        have hl : l = 8 := by simpa using hsum
        rw [if_pos (by simp), hsplit, hl]
        simp
      | cons y ys =>
        obtain ⟨c, s, hcs, -⟩ := joinGroups_head y ys []
        rw [List.append_nil] at hcs
        have hne : (colon :: colon :: joinGroups (y :: ys)).drop 2 ≠ [] := by simp [hcs]
        change (if (colon :: colon :: joinGroups (y :: ys)).drop 2 = [] then _ else _) = _
        rw [if_neg hne]
        change (parseGroups 8 (joinGroups (y :: ys)) [] (some 0)).bind expandElision = _
        rw [parseGroups_join y ys 8 [] (some 0) hys (by simp only [List.length_cons] at hsum; omega)]
        simpa using hend
    | cons x xs =>
      obtain ⟨c, s, hcs, hc⟩ := joinGroups_head x xs (colon :: colon :: joinGroups ys)
      rw [hcs, not_elided_of_isHex hc, ← hcs,
        parseGroups_join_elide x xs 8 [] _ hxs (by simp only [List.length_cons] at hsum; omega)]
      cases ys with
      | nil => simpa [joinGroups] using hend
      | cons y ys =>
        obtain ⟨c, s, hcs, -⟩ := joinGroups_head y ys []
        rw [List.append_nil] at hcs
        have hne : joinGroups (y :: ys) ≠ [] := by simp [hcs]
        rw [if_neg hne, parseGroups_join y ys _ _ _ hys
          (by simp only [List.length_cons] at hsum; omega)]
        simpa using hend

theorem find_append_mark {s t : Bytes} {m : UInt8} {p : UInt8 → Bool}
    (hs : ∀ c ∈ s, p c = false) (hm : p m = true) : (s ++ m :: t).find? p = some m := by
  have hnone : s.find? p = none := by
    rw [List.find?_eq_none]
    intro c hc
    simp [hs c hc]
  rw [List.find?_append, hnone]
  simp [hm]

theorem isHex_no_mark : ∀ d < 16,
    (digitByte d == dot || digitByte d == colon || digitByte d == percent) = false := by decide

theorem hexGroup_no_mark (g : ℕ) :
    ∀ c ∈ hexGroup g, (c == dot || c == colon || c == percent) = false :=
  forall_mem_formatBase (by norm_num) isHex_no_mark g

theorem find_ip6String {gs : List ℕ} (hlen : gs.length = 8) :
    (ip6String gs).find? (fun c => c == dot || c == colon || c == percent) = some colon := by
  have hjoin (g h : ℕ) (gs : List ℕ) (t : Bytes) : (joinGroups (g :: h :: gs) ++ t).find?
      (fun c => c == dot || c == colon || c == percent) = some colon := by
    rw [joinGroups_cons, List.append_assoc, List.cons_append]
    exact find_append_mark (hexGroup_no_mark g) (by decide)
  unfold ip6String
  split
  · match gs, hlen with
    | g :: h :: gs, _ => simpa using hjoin g h gs []
  · rename_i i l _
    match gs.take i with
    | [] => simp [joinGroups]
    | [g] =>
      simp only [joinGroups, List.map_cons, List.map_nil, List.intercalate_singleton,
        List.append_assoc, List.cons_append, List.nil_append]
      exact find_append_mark (hexGroup_no_mark g) (by decide)
    | g :: h :: gs =>
      rw [List.append_assoc]
      exact hjoin g h gs _

theorem parseIP_ipString (ip : IP) : parseIP (ipString ip) = some ip := by
  cases ip with
  | v4 a b c d =>
    have hfind : (ipString (.v4 a b c d)).find?
        (fun c => c == dot || c == colon || c == percent) = some dot := by
      simp only [ipString, List.intercalate_cons_cons, List.append_assoc, List.cons_append,
        List.nil_append]
      refine find_append_mark (fun x hx => ?_) (by decide)
      exact forall_mem_formatBase (P := fun c => (c == dot || c == colon || c == percent) = false)
        (by norm_num) (fun d hd => isHex_no_mark d (by omega)) _ x hx
    rw [parseIP, hfind]
    simp [parseIPv4_ipString]
  | v6 addr unmapped =>
    obtain ⟨gs, hlen, hlt⟩ := addr
    have hfind := find_ip6String hlen
    have hparse := parseIPv6_ip6String hlen hlt
    simp only [parseIP, ipString, hfind, hparse, show colon ≠ dot by decide, if_false, if_true,
      Option.bind_some]
    rw [ipOfGroups, dif_pos ⟨hlen, hlt⟩, dif_pos unmapped]

theorem ipString_bytes (ip : IP) :
    ∀ b ∈ ipString ip, isHex b = true ∨ b = dot ∨ b = colon := by
  cases ip with
  | v4 a b c d =>
    apply forall_mem_intercalate
    · simp
    · have hnat (n : ℕ) : ∀ b ∈ formatNat n, isHex b = true ∨ b = dot ∨ b = colon :=
        fun b hb => .inl (forall_mem_formatBase (P := fun b => isHex b = true) (by norm_num)
          (by decide) n b hb)
      simp only [List.forall_mem_cons]
      exact ⟨hnat _, hnat _, hnat _, hnat _, by simp⟩
  | v6 addr unmapped =>
    intro b hb
    rcases ip6String_bytes _ b hb with h | h
    · exact .inl h
    · exact .inr (.inr h)

theorem isHex_graphic {b : UInt8} (h : isHex b = true) : Graphic b ∧ b ≠ 0x2F := by
  have hall : ∀ n < 256, isHex (UInt8.ofNat n) = true →
      Graphic (UInt8.ofNat n) ∧ UInt8.ofNat n ≠ 0x2F := by decide +kernel
  have hb := hall b.toNat b.toNat_lt
  rw [UInt8.ofNat_toNat] at hb
  exact hb h

theorem ipString_graphic_ne_slash (ip : IP) : ∀ b ∈ ipString ip, Graphic b ∧ b ≠ 0x2F := by
  intro b hb
  rcases ipString_bytes ip b hb with h | rfl | rfl
  · exact isHex_graphic h
  · decide
  · decide

theorem graphic_ipString (ip : IP) : ∀ b ∈ ipString ip, Graphic b :=
  fun b hb => (ipString_graphic_ne_slash ip b hb).1

end Diago.Lib
