import Diago.Media.Keying
import Diago.Media.Sdes

/-! # The key an SDES answer takes

An offer may hold several a=crypto attributes. The first one for the profile of
the session keys its media, and the answer repeats its tag and its profile; what
comes after it is not read. An attribute for the profile that is not written with
single spaces is passed over, and a tag of zero is answered with one.
-/
namespace Diago.Media
open Lib SDP Op
variable {alg : ProtectionProfile} {v : Bytes} {r : CryptoAttr} {attrs : List Bytes} {handle : ℕ}
  {s t : MediaSession}

abbrev tab : UInt8 := 0x09

/-- The parts of an a=crypto attribute, with the white space between them. -/
structure CryptoLine where
  tag : Bytes
  tagGap : Bytes
  suite : Bytes
  suiteGap : Bytes
  params : Bytes

namespace CryptoLine

def text (c : CryptoLine) : Bytes :=
  lit "crypto:" ++ c.tag ++ c.tagGap ++ c.suite ++ c.suiteGap ++ c.params

def Blank (b : UInt8) : Prop := b = space ∨ b = tab

instance (b : UInt8) : Decidable (Blank b) := inferInstanceAs (Decidable (_ ∨ _))

/-- The attribute is written by the grammar: a tag of up to nine digits, a crypto suite and key
parameters, with white space between them. -/
structure WellFormed (c : CryptoLine) : Prop where
  tag : c.tag ≠ [] ∧ c.tag.length ≤ 9 ∧ ∀ b ∈ c.tag, IsDigit b
  tagGap : c.tagGap ≠ [] ∧ ∀ b ∈ c.tagGap, Blank b
  suite : c.suite ≠ [] ∧ ∀ b ∈ c.suite, ¬ Blank b
  suiteGap : c.suiteGap ≠ [] ∧ ∀ b ∈ c.suiteGap, Blank b
  params : c.params ≠ [] ∧ ∀ b ∈ c.params.head?, ¬ Blank b

structure SingleSpaced (c : CryptoLine) : Prop where
  tagGap : c.tagGap = [space]
  suiteGap : c.suiteGap = [space]

def number (c : CryptoLine) : ℕ := decimalValue c.tag

/-- The suite is one we support, and the one of the session. -/
def Offers (alg : ProtectionProfile) (c : CryptoLine) : Prop :=
  srtpProfileParse c.suite ≠ 0 ∧ srtpProfileParse c.suite = alg

instance (alg : ProtectionProfile) (c : CryptoLine) : Decidable (c.Offers alg) :=
  inferInstanceAs (Decidable (_ ∧ _))

def inline (c : CryptoLine) : Bytes := trimPre (lit "inline:") ((c.params.splitOn space).headD [])

def read (c : CryptoLine) : CryptoAttr := ⟨(c.number, none), srtpProfileParse c.suite, c.inline⟩

end CryptoLine

def isCrypto (v : Bytes) : Bool := (cutPre (lit "crypto:") v).isSome

theorem readCrypto_of_not (h : isCrypto v = false) : readCrypto v = none := by
  have hcut : cutPre (lit "crypto:") v = none := by simpa [isCrypto] using h
  unfold readCrypto
  rw [hcut]

theorem CryptoLine.WellFormed.space_not_mem_tag {c : CryptoLine} (h : c.WellFormed) :
    space ∉ lit "crypto:" ++ c.tag := by
  rw [List.mem_append, not_or]
  exact ⟨by decide, fun hmem => absurd (h.tag.2.2 _ hmem) (by decide)⟩

theorem CryptoLine.WellFormed.space_not_mem_suite {c : CryptoLine} (h : c.WellFormed) :
    space ∉ c.suite :=
  fun hmem => h.suite.2 _ hmem (.inl rfl)

theorem CryptoLine.WellFormed.readCrypto_text {c : CryptoLine} (h : c.WellFormed)
    (hspaced : c.SingleSpaced) : readCrypto c.text = some (.ok c.read) := by
  have htext : c.text = lit "crypto:" ++ c.tag ++ space :: (c.suite ++ space :: c.params) := by
    simp [CryptoLine.text, hspaced.tagGap, hspaced.suiteGap]
  obtain ⟨w, ws, hparams⟩ : ∃ w ws, c.params.splitOn space = w :: ws :=
    List.exists_cons_of_ne_nil (List.splitOn_ne_nil _ _)
  have hsplit : c.text.splitOn space = (lit "crypto:" ++ c.tag) :: c.suite :: w :: ws := by
    rw [htext, List.splitOn_append_cons_self_of_not_mem h.space_not_mem_tag,
      List.splitOn_append_cons_self_of_not_mem h.space_not_mem_suite, hparams]
  have hcut : cutPre (lit "crypto:") c.text =
      some (c.tag ++ space :: (c.suite ++ space :: c.params)) := by
    rw [htext, List.append_assoc, cutPre_append]
  have hnumber : decimalValue c.tag < 2 ^ 63 := by
    have hdigits := decimalFrom_lt 0 h.tag.2.2
    have hlength : 10 ^ c.tag.length ≤ 10 ^ 9 := Nat.pow_le_pow_right (by norm_num) h.tag.2.1
    unfold decimalValue
    omega
  unfold readCrypto
  rw [hcut, hsplit]
  simp [CryptoLine.read, CryptoLine.inline, CryptoLine.number, trimPre, hparams,
    atoi_digits h.tag.1 h.tag.2.2 hnumber]

theorem readCrypto_eq_ok (h : readCrypto v = some (.ok r)) :
    ∃ tag alg key rest, v.splitOn space = tag :: alg :: key :: rest ∧
      r = ⟨atoi (trimPre (lit "crypto:") tag), srtpProfileParse alg,
        trimPre (lit "inline:") key⟩ := by
  unfold readCrypto at h
  split at h
  · cases h
  · split at h
    · rename_i tag alg key rest hsplit
      cases h
      exact ⟨tag, alg, key, rest, hsplit, rfl⟩
    · cases h

theorem srtpProfileParse_of_tab (h : tab ∈ v) : srtpProfileParse v = 0 := by
  have hne : ∀ {w : Bytes}, tab ∉ w → v ≠ w := fun hw hvw => hw (hvw ▸ h)
  unfold srtpProfileParse
  rw [if_neg (hne (by decide)), if_neg (hne (by decide)), if_neg (hne (by decide)),
    if_neg (hne (by decide)), if_neg (hne (by decide))]

theorem base64Decode_tab (w : Bytes) : base64Decode (tab :: w) = none := by
  have hfilter : (tab :: w).filter (fun c => c ≠ 0x0D ∧ c ≠ 0x0A) =
      tab :: w.filter (fun c => c ≠ 0x0D ∧ c ≠ 0x0A) := List.filter_cons_of_pos (by decide)
  unfold base64Decode
  rw [hfilter]
  exact base64Quads_of_sextetVal (by decide) _

/-- The key is read after more than one blank, of which one is left in its place. -/
def NoKey (r : CryptoAttr) : Prop :=
  base64Decode r.inline = none ∨ base64Decode r.inline = some []

theorem noKey_of_blank {key : Bytes} (hr : r.inline = trimPre (lit "inline:") key)
    (hkey : key = [] ∨ ∃ w, key = tab :: w) : NoKey r := by
  rcases hkey with rfl | ⟨w, rfl⟩
  · exact .inr (by rw [hr]; rfl)
  · refine .inl ?_
    have htrim : trimPre (lit "inline:") (tab :: w) = tab :: w := by
      have hpre : ¬ lit "inline:" <+: tab :: w := by
        rintro ⟨t, ht⟩
        exact absurd (List.cons.inj ht).1 (by decide)
      rw [trimPre, cutPre, if_neg hpre, Option.getD_none]
    rw [hr, htrim]
    exact base64Decode_tab w

/-- A word before blanks that are not one space: nothing, or something with a tab. -/
theorem splitOn_blank {gap : Bytes} (hgap : gap ≠ []) (hblank : ∀ b ∈ gap, CryptoLine.Blank b)
    (t : Bytes) : ∃ w ws, (gap ++ t).splitOn space = w :: ws ∧ (w = [] ∨ ∃ v, w = tab :: v) := by
  obtain ⟨b, gap, rfl⟩ := List.exists_cons_of_ne_nil hgap
  rcases hblank b List.mem_cons_self with rfl | rfl
  · refine ⟨[], (gap ++ t).splitOn space, ?_, .inl rfl⟩
    exact List.splitOn_append_cons_self_of_not_mem (List.not_mem_nil : space ∉ []) _
  · have htab : space ∉ [tab] := by decide
    obtain ⟨w, ws, -, hsplit⟩ := splitOn_append_of_not_mem htab (gap ++ t)
    exact ⟨tab :: w, ws, hsplit, .inr ⟨w, rfl⟩⟩

theorem not_mem_append_tab {s : Bytes} (h : space ∉ s) : space ∉ s ++ [tab] := by
  rw [List.mem_append, not_or]
  exact ⟨h, by decide⟩

section Spacing
variable {c : CryptoLine} (h : c.WellFormed)
include h

/-- The first word of an attribute: a tab after the tag is part of it. -/
theorem CryptoLine.WellFormed.splitOn_text {tag : Bytes} {rest : List Bytes}
    (hsplit : c.text.splitOn space = tag :: rest) :
    (∃ w, trimPre (lit "crypto:") tag = c.tag ++ tab :: w) ∨
      ∃ gap, c.tagGap = space :: gap ∧
        rest = (gap ++ (c.suite ++ (c.suiteGap ++ c.params))).splitOn space := by
  obtain ⟨b, gap, hgap⟩ := List.exists_cons_of_ne_nil h.tagGap.1
  have htext : c.text = (lit "crypto:" ++ c.tag) ++
      b :: (gap ++ (c.suite ++ (c.suiteGap ++ c.params))) := by
    simp [CryptoLine.text, hgap]
  rcases h.tagGap.2 b (by rw [hgap]; exact List.mem_cons_self) with rfl | rfl
  · rw [htext, List.splitOn_append_cons_self_of_not_mem h.space_not_mem_tag] at hsplit
    exact .inr ⟨gap, hgap, (List.cons.inj hsplit).2.symm⟩
  · obtain ⟨w, ws, -, hw⟩ := splitOn_append_of_not_mem (not_mem_append_tab h.space_not_mem_tag)
      (gap ++ (c.suite ++ (c.suiteGap ++ c.params)))
    rw [htext, List.append_cons, hw] at hsplit
    refine .inl ⟨w, ?_⟩
    rw [← (List.cons.inj hsplit).1, trimPre, List.append_assoc, List.append_assoc, cutPre_append,
      Option.getD_some]
    rfl

/-- The word for the suite: a tab after the suite is part of it. -/
theorem CryptoLine.WellFormed.splitOn_suite {alg : Bytes} {rest : List Bytes}
    (hsplit : (c.suite ++ (c.suiteGap ++ c.params)).splitOn space = alg :: rest) :
    tab ∈ alg ∨ ∃ gap, c.suiteGap = space :: gap ∧ alg = c.suite ∧
      rest = (gap ++ c.params).splitOn space := by
  obtain ⟨b, gap, hgap⟩ := List.exists_cons_of_ne_nil h.suiteGap.1
  rw [hgap, List.cons_append] at hsplit
  rcases h.suiteGap.2 b (by rw [hgap]; exact List.mem_cons_self) with rfl | rfl
  · rw [List.splitOn_append_cons_self_of_not_mem h.space_not_mem_suite] at hsplit
    obtain ⟨halg, hrest⟩ := List.cons.inj hsplit
    exact .inr ⟨gap, hgap, halg.symm, hrest.symm⟩
  · obtain ⟨w, ws, -, hw⟩ := splitOn_append_of_not_mem (not_mem_append_tab h.space_not_mem_suite)
      (gap ++ c.params)
    rw [List.append_cons, hw] at hsplit
    rw [← (List.cons.inj hsplit).1]
    exact .inl (by simp)

/-- However an attribute is spaced, it is not read as one for another profile, and has no key
unless it is written with single spaces. -/
theorem CryptoLine.WellFormed.readCrypto_cases (hread : readCrypto c.text = some (.ok r))
    (htag : r.tag.2 = none) (hprofile : r.profile ≠ 0) :
    r.profile = srtpProfileParse c.suite ∧ (c.SingleSpaced ∨ NoKey r) := by
  obtain ⟨tag, alg, key, rest, hsplit, rfl⟩ := readCrypto_eq_ok hread
  rcases h.splitOn_text hsplit with ⟨w, htab⟩ | ⟨gap, hgap, hwords⟩
  · dsimp only at htag
    rw [htab] at htag
    exact absurd htag (atoi_snd_of_digits h.tag.1 h.tag.2.2 (by decide))
  by_cases hempty : gap = []
  · rw [hempty, List.nil_append] at hwords
    rcases h.splitOn_suite hwords.symm with htab | ⟨gap', hgap', rfl, hkey⟩
    · exact absurd (srtpProfileParse_of_tab htab) hprofile
    refine ⟨rfl, ?_⟩
    by_cases hempty' : gap' = []
    · exact .inl ⟨by rw [hgap, hempty], by rw [hgap', hempty']⟩
    · have hblank : ∀ b ∈ gap', Blank b :=
        fun b hb => h.suiteGap.2 b (by rw [hgap']; exact List.mem_cons_of_mem _ hb)
      obtain ⟨w, ws, hw, hkind⟩ := splitOn_blank hempty' hblank c.params
      obtain ⟨rfl, -⟩ := List.cons.inj (hkey.trans hw)
      exact .inr (noKey_of_blank rfl hkind)
  · have hblank : ∀ b ∈ gap, Blank b :=
      fun b hb => h.tagGap.2 b (by rw [hgap]; exact List.mem_cons_of_mem _ hb)
    obtain ⟨w, ws, hw, hkind⟩ := splitOn_blank hempty hblank (c.suite ++ (c.suiteGap ++ c.params))
    obtain ⟨rfl, -⟩ := List.cons.inj (hwords.trans hw)
    rcases hkind with rfl | ⟨v, rfl⟩
    · exact absurd (by decide : srtpProfileParse [] = 0) hprofile
    · exact absurd (srtpProfileParse_of_tab (List.mem_cons_self (a := tab) (l := v))) hprofile

end Spacing

def pickCrypto (alg : ProtectionProfile) (v : Bytes) : Option CryptoAttr :=
  match readCrypto v with
  | some (.ok c) => if c.tag.2 = none ∧ c.profile ≠ 0 ∧ c.profile = alg then some c else none
  | _ => none

theorem pickCrypto_eq_some :
    pickCrypto alg v = some r ↔
      readCrypto v = some (.ok r) ∧ r.tag.2 = none ∧ r.profile ≠ 0 ∧ r.profile = alg := by
  unfold pickCrypto
  split
  · rename_i c hc
    rw [Option.ite_none_right_eq_some]
    constructor
    · rintro ⟨hyes, hcr⟩
      obtain rfl := Option.some.inj hcr
      exact ⟨hc, hyes⟩
    · rintro ⟨hr, hyes⟩
      obtain rfl : c = r := by simpa [hc] using hr
      exact ⟨hyes, rfl⟩
  · rename_i hno
    exact iff_of_false nofun fun h => hno r h.1

theorem pickCrypto_of_not (h : isCrypto v = false) :
    pickCrypto alg v = none := by
  unfold pickCrypto
  rw [readCrypto_of_not h]

theorem findSome?_pickCrypto_filter (alg : ProtectionProfile) (attrs : List Bytes) :
    (attrs.filter isCrypto).findSome? (pickCrypto alg) = attrs.findSome? (pickCrypto alg) := by
  induction attrs with
  | nil => rfl
  | cons v attrs ih =>
    cases hv : isCrypto v with
    | true => rw [List.filter_cons_of_pos hv, List.findSome?_cons, List.findSome?_cons, ih]
    | false =>
      rw [List.filter_cons_of_neg (by simp [hv]), List.findSome?_cons, pickCrypto_of_not hv, ih]

theorem CryptoLine.WellFormed.pickCrypto_text {c : CryptoLine} (h : c.WellFormed)
    (hpick : pickCrypto alg c.text = some r) :
    c.Offers alg ∧ (c.SingleSpaced ∨ NoKey r) := by
  obtain ⟨hread, htag, hprofile, rfl⟩ := pickCrypto_eq_some.mp hpick
  obtain ⟨hsame, hspaced⟩ := h.readCrypto_cases hread htag hprofile
  exact ⟨⟨hsame ▸ hprofile, hsame.symm⟩, hspaced⟩

theorem CryptoLine.WellFormed.pickCrypto_read {c : CryptoLine} (h : c.WellFormed)
    (hspaced : c.SingleSpaced) (hoffers : c.Offers alg) :
    pickCrypto alg c.text = some c.read :=
  pickCrypto_eq_some.mpr ⟨h.readCrypto_text hspaced, rfl, hoffers⟩

theorem findSome?_pickCrypto_eq_none {cs : List CryptoLine} (hwell : ∀ c ∈ cs, c.WellFormed)
    (h : ∀ c ∈ cs, ¬ c.Offers alg) :
    (cs.map CryptoLine.text).findSome? (pickCrypto alg) = none := by
  rw [List.findSome?_eq_none_iff]
  intro v hv
  obtain ⟨c, hc, rfl⟩ := List.mem_map.mp hv
  cases hpick : pickCrypto alg c.text with
  | none => rfl
  | some r => exact absurd ((hwell c hc).pickCrypto_text hpick).1 (h c hc)

theorem findSome?_pickCrypto_append {xs ys : List Bytes} {before : List CryptoLine}
    (hxs : xs.filter isCrypto = before.map CryptoLine.text) (hwell : ∀ c ∈ before, c.WellFormed)
    (h : ∀ c ∈ before, ¬ c.Offers alg) :
    (xs ++ ys).findSome? (pickCrypto alg) = ys.findSome? (pickCrypto alg) := by
  rw [List.findSome?_append, ← findSome?_pickCrypto_filter alg xs, hxs,
    findSome?_pickCrypto_eq_none hwell h, Option.none_or]

/-- The first attribute for the profile, with what comes before and after it. -/
structure FirstOffer (alg : ProtectionProfile) (cs before : List CryptoLine) (c : CryptoLine)
    (after : List CryptoLine) : Prop where
  split : cs = before ++ c :: after
  before : ∀ d ∈ before, ¬ d.Offers alg
  offers : c.Offers alg

theorem exists_firstOffer {cs : List CryptoLine} (h : ∃ c ∈ cs, c.Offers alg) :
    ∃ before c after, FirstOffer alg cs before c after := by
  induction cs with
  | nil => simp at h
  | cons d cs ih =>
    by_cases hd : d.Offers alg
    · exact ⟨[], d, cs, rfl, nofun, hd⟩
    · obtain ⟨c, hc, hoffers⟩ := h
      have hcs : c ∈ cs := (List.mem_cons.mp hc).resolve_left fun hcd => hd (hcd ▸ hoffers)
      obtain ⟨before, c, after, hfirst⟩ := ih ⟨c, hcs, hoffers⟩
      refine ⟨d :: before, c, after, by rw [hfirst.split]; rfl, ?_, hfirst.offers⟩
      rw [List.forall_mem_cons]
      exact ⟨hd, hfirst.before⟩

theorem FirstOffer.unique {c c' : CryptoLine} {cs before after before' after' : List CryptoLine}
    (h : FirstOffer alg cs before c after) (h' : FirstOffer alg cs before' c' after') : c = c' := by
  have hfind : ∀ {before c after}, FirstOffer alg cs before c after →
      cs.find? (fun d => d.Offers alg) = some c := fun h => by
    rw [h.split, List.find?_append, List.find?_eq_none.mpr fun d hd => by simpa using h.before d hd,
      Option.none_or, List.find?_cons_of_pos (by simpa using h.offers)]
  exact Option.some.inj ((hfind h).symm.trans (hfind h'))

theorem FirstOffer.exists_attrs {cs before after : List CryptoLine} {c : CryptoLine}
    (h : FirstOffer alg cs before c after) (hattrs : attrs.filter isCrypto = cs.map CryptoLine.text)
     :
    ∃ xs ys, attrs = xs ++ c.text :: ys ∧ xs.filter isCrypto = before.map CryptoLine.text := by
  rw [h.split, List.map_append, List.filter_eq_append_iff] at hattrs
  obtain ⟨xs, rest, rfl, hxs, hrest⟩ := hattrs
  rw [List.map_cons, List.filter_eq_cons_iff] at hrest
  obtain ⟨mid, ys, rfl, hmid, -, -⟩ := hrest
  refine ⟨xs ++ mid, ys, by simp, ?_⟩
  rw [List.filter_append, hxs, List.filter_eq_nil_iff.mpr hmid, List.append_nil]

section Lib
variable [SrtpLib]

theorem KeysRead.first (h : KeysRead handle attrs s t) (halg : s.srtpAlg = alg) :
    (attrs.findSome? (pickCrypto alg) = none ∧ t.remoteCtxSRTP = s.remoteCtxSRTP) ∨
      ∃ c ctx, attrs.findSome? (pickCrypto alg) = some c ∧ sdesContext handle c = .ok ctx ∧
        t = { s with srtpRemoteTag := c.tag.1, remoteCtxSRTP := some ctx } := by
  induction h with
  | done s => exact .inl ⟨rfl, rfl⟩
  | other hv _ ih => simpa [List.findSome?_cons, pickCrypto, hv] using ih halg
  | @foreign v attrs s t c hv htag hskip _ ih =>
    have hnone : pickCrypto alg v = none := by
      have hno : ¬ (c.tag.2 = none ∧ c.profile ≠ 0 ∧ c.profile = alg) := by
        rw [← halg]
        tauto
      simp only [pickCrypto, hv, if_neg hno]
    simpa [List.findSome?_cons, hnone] using ih halg
  | @taken v attrs s c ctx hv htag htake hctx =>
    have hsome : pickCrypto alg v = some c := by
      have hyes : c.tag.2 = none ∧ c.profile ≠ 0 ∧ c.profile = alg := by
        rw [← halg]
        tauto
      simp only [pickCrypto, hv, if_pos hyes]
    exact .inr ⟨c, ctx, by simp [hsome], hctx, rfl⟩

theorem applyCrypto_rest {s : MediaSession} (xs : List Bytes) (hv : offersKey s.srtpAlg v = true)
    (ys : List Bytes) :
    applyCrypto handle (xs ++ v :: ys) s = applyCrypto handle (xs ++ [v]) s := by
  induction xs generalizing s with
  | nil =>
    obtain ⟨c, hc, hprofile⟩ : ∃ c, readCrypto v = some (.ok c) ∧ c.profile ≠ 0 ∧
        s.srtpAlg = c.profile := by
      unfold offersKey at hv
      split at hv
      · rename_i c hc
        exact ⟨c, hc, by simpa using hv⟩
      · cases hv
    have htake : ¬ (c.profile = 0 ∨ s.srtpAlg ≠ c.profile) := by tauto
    rw [List.nil_append, List.nil_append, applyCrypto, applyCrypto, hc]
    dsimp only
    rw [bind_of_ok (update_apply _ s), bind_of_ok (update_apply _ s)]
    unfold Op.require
    split
    · rw [bind_of_ok (pure_apply _ _), bind_of_ok (pure_apply _ _), bind_of_ok (read_apply _),
        bind_of_ok (read_apply _), if_neg htake, if_neg htake]
    · rfl
  | cons x xs ih =>
    rw [List.cons_append, List.cons_append, applyCrypto, applyCrypto]
    cases readCrypto x with
    | none => exact ih hv
    | some r =>
      cases r with
      | error e => rfl
      | ok c =>
        dsimp only
        rw [bind_of_ok (update_apply _ s), bind_of_ok (update_apply _ s)]
        unfold Op.require
        split
        · rw [bind_of_ok (pure_apply _ _), bind_of_ok (pure_apply _ _), bind_of_ok (read_apply _),
            bind_of_ok (read_apply _)]
          split
          · exact ih (by exact hv)
          · rfl
        · rfl

theorem sdesContext_ok {c : CryptoAttr} {ctx : SrtpContext} (h : sdesContext handle c = .ok ctx) :
    ∃ keyBytes, base64Decode c.inline = some keyBytes ∧
      ctx = ⟨handle, keyBytes.take 16, keyBytes.drop 16, c.profile⟩ ∧
      SrtpLib.keyLen c.profile = some 16 ∧ SrtpLib.saltLen c.profile = some 14 := by
  unfold sdesContext at h
  split at h
  · cases h
  rename_i keyBytes hdecode
  split at h
  · cases h
  rename_i hlen
  split at h
  · cases h
  · rename_i c' hc'
    obtain rfl := Except.ok.inj h
    have hlens := createContext_isSome.mp (Option.isSome_of_eq_some hc')
    rw [not_not] at hlen
    rw [List.length_take, List.length_drop, hlen] at hlens
    exact ⟨keyBytes, hdecode, createContext_eq_some hc', hlens⟩

theorem srtpProfileString_parse {suite : Bytes} (h : srtpProfileParse suite ≠ 0) :
    srtpProfileString (srtpProfileParse suite) = suite := by
  unfold srtpProfileParse at h ⊢
  split_ifs at h ⊢ with h₁ h₂ h₃ h₄ h₅
  · exact h₁.symm
  · exact h₂.symm
  · exact h₃.symm
  · exact h₄.symm
  · exact h₅.symm
  · exact absurd rfl h

theorem MediaSession.localSDES_keyed {s : MediaSession} (hsecure : s.secureRTP = .sdes)
    (hctx : s.remoteCtxSRTP ≠ none) (hkey : SrtpLib.keyLen s.srtpAlg = some 16)
    (hsalt : SrtpLib.saltLen s.srtpAlg = some 14) (env : LocalEnv) :
    ∃ base64, (s.localSDES env).1 = some ⟨srtpProfileString s.srtpAlg, base64,
      if 0 < s.srtpRemoteTag then s.srtpRemoteTag else 1⟩ := by
  have hoffers : s.offersSDES = true := by
    simp [MediaSession.offersSDES, hsecure, Option.isSome_iff_ne_none, hctx]
  have haccepts : SrtpLib.accepts ((draw env.random (16 + 14)).take 16)
      ((draw env.random (16 + 14)).drop 16) s.srtpAlg = true := by
    rw [SrtpLib.accepts_iff, hkey, hsalt, List.length_take, List.length_drop, length_draw]
    exact ⟨rfl, rfl⟩
  exact ⟨base64Encode (draw env.random (16 + 14)), by
    simp [MediaSession.localSDES, hoffers, generateMasterKeySalt, hkey, hsalt, createContext,
      haccepts]⟩

theorem NoKey.sdesContext_ne_ok (h : NoKey r) (handle : ℕ) (ctx : SrtpContext) :
    sdesContext handle r ≠ .ok ctx := by
  unfold sdesContext
  rcases h with h | h
  · rw [h]
    exact nofun
  · rw [h]
    exact nofun

/-- What an accepted body has done to the keys of a session. -/
structure KeysApplied (env : RemoteEnv) (attrs : List Bytes) (s t : MediaSession) : Prop where
  sdp : t.sdp = s.sdp
  secureRTP : t.secureRTP = s.secureRTP
  srtpAlg : t.srtpAlg = s.srtpAlg
  read : ∃ s₁ s₂ : MediaSession, s₁.srtpAlg = s.srtpAlg ∧ s₁.remoteCtxSRTP = s.remoteCtxSRTP ∧
    applyCrypto env.handle attrs s₁ = (.ok (), s₂) ∧ t.remoteCtxSRTP = s₂.remoteCtxSRTP ∧
    t.srtpRemoteTag = s₂.srtpRemoteTag

section Applied
variable {env : RemoteEnv} {attrs : List Bytes} {s t : MediaSession}
  {cs before after : List CryptoLine} {c : CryptoLine}

theorem KeysApplied.unkeyed (h : KeysApplied env attrs s t) (hctx : s.remoteCtxSRTP = none)
    (hattrs : attrs.filter isCrypto = cs.map CryptoLine.text) (hwell : ∀ c ∈ cs, c.WellFormed)
    (hnone : ∀ c ∈ cs, ¬ c.Offers s.srtpAlg) : t.remoteCtxSRTP = none := by
  obtain ⟨s₁, s₂, halg, hsame, hcrypto, hremote, -⟩ := h.read
  have hfind : attrs.findSome? (pickCrypto s.srtpAlg) = none := by
    rw [← findSome?_pickCrypto_filter, hattrs, findSome?_pickCrypto_eq_none hwell hnone]
  rcases (applyCrypto_keysRead hcrypto).first halg with ⟨-, hctx'⟩ | ⟨c, ctx, hsome, -⟩
  · rw [hremote, hctx', hsame, hctx]
  · exact absurd (hfind.symm.trans hsome) nofun

/-- Written with single spaces, the first attribute for the profile keys the session. -/
theorem KeysApplied.keyed (h : KeysApplied env attrs s t)
    (hattrs : attrs.filter isCrypto = cs.map CryptoLine.text) (hwell : ∀ c ∈ cs, c.WellFormed)
    (hfirst : FirstOffer s.srtpAlg cs before c after) (hspaced : c.SingleSpaced) :
    t.srtpRemoteTag = c.number ∧ SrtpLib.keyLen s.srtpAlg = some 16 ∧
      SrtpLib.saltLen s.srtpAlg = some 14 ∧
      ∃ keyBytes, base64Decode c.inline = some keyBytes ∧
        t.remoteCtxSRTP = some ⟨env.handle, keyBytes.take 16, keyBytes.drop 16, s.srtpAlg⟩ := by
  obtain ⟨s₁, s₂, halg, hsame, hcrypto, hremote, htag⟩ := h.read
  obtain ⟨xs, ys, rfl, hxs⟩ := hfirst.exists_attrs hattrs
  have hwell' : ∀ d ∈ before, d.WellFormed := fun d hd => hwell d (by rw [hfirst.split]; simp [hd])
  have hread := ((hwell c (by rw [hfirst.split]; simp)).pickCrypto_read hspaced hfirst.offers)
  have hfind : (xs ++ c.text :: ys).findSome? (pickCrypto s.srtpAlg) = some c.read := by
    rw [findSome?_pickCrypto_append hxs hwell' hfirst.before, List.findSome?_cons, hread]
  rcases (applyCrypto_keysRead hcrypto).first halg with ⟨hnone, -⟩ | ⟨r, ctx, hsome, hcontext, rfl⟩
  · exact absurd (hfind.symm.trans hnone) nofun
  · obtain rfl := Option.some.inj (hfind.symm.trans hsome)
    obtain ⟨keyBytes, hdecode, rfl, hkeyLen, hsaltLen⟩ := sdesContext_ok hcontext
    have hprofile : c.read.profile = s.srtpAlg := hfirst.offers.2
    rw [hprofile] at hkeyLen hsaltLen hremote
    exact ⟨htag, hkeyLen, hsaltLen, keyBytes, hdecode, hremote⟩

/-- Not written with single spaces, the first attribute for the profile does not key a session:
either it has no key, or those after it are read. -/
theorem KeysApplied.unread (h : KeysApplied env attrs s t) (hctx : s.remoteCtxSRTP = none)
    (hattrs : attrs.filter isCrypto = cs.map CryptoLine.text) (hwell : ∀ c ∈ cs, c.WellFormed)
    (hfirst : FirstOffer s.srtpAlg cs before c after) (hspaced : ¬ c.SingleSpaced)
    (hrest : ∀ {xs ys}, attrs = xs ++ c.text :: ys →
      xs.filter isCrypto = before.map CryptoLine.text → ∀ s' : MediaSession,
      s'.srtpAlg = s.srtpAlg →
        applyCrypto env.handle attrs s' = applyCrypto env.handle (xs ++ [c.text]) s') :
    t.remoteCtxSRTP = none := by
  obtain ⟨s₁, s₂, halg, hsame, hcrypto, hremote, -⟩ := h.read
  obtain ⟨xs, ys, hsplit, hxs⟩ := hfirst.exists_attrs hattrs
  have hwell' : ∀ d ∈ before, d.WellFormed := fun d hd => hwell d (by rw [hfirst.split]; simp [hd])
  rw [hrest hsplit hxs s₁ halg] at hcrypto
  rcases (applyCrypto_keysRead hcrypto).first halg with ⟨-, hctx'⟩ | ⟨r, ctx, hsome, hcontext, -⟩
  · rw [hremote, hctx', hsame, hctx]
  · rw [findSome?_pickCrypto_append hxs hwell' hfirst.before, List.findSome?_singleton] at hsome
    obtain ⟨-, hyes | hno⟩ := (hwell c (by rw [hfirst.split]; simp)).pickCrypto_text hsome
    · exact absurd hyes hspaced
    · exact absurd hcontext (hno.sdesContext_ne_ok _ _)

variable [UnicodeCase]

/-- The keying part leaves the keys the a=crypto attributes gave, in a session without an
association. -/
theorem applyKeying_crypto {g : Globals} {env : RemoteEnv} {req : Bool} {proto : Bytes}
    (hassoc : s.dtlsAssoc = none) (h : applyKeying g env attrs req proto s = (.ok (), t)) :
    ∃ u, applyCrypto env.handle attrs s = (.ok (), u) ∧ t.remoteCtxSRTP = u.remoteCtxSRTP ∧
      t.srtpRemoteTag = u.srtpRemoteTag := by
  obtain ⟨s₁, s₂, s₃, hcrypto, hice, hdtls, hsettle⟩ := applyKeying_eq_ok.mp h
  let keys (s : MediaSession) := (s.remoteCtxSRTP, s.srtpRemoteTag)
  have h₁ : s₁.dtlsAssoc = none := by
    obtain ⟨tag, ⟨-, rfl⟩ | ⟨-, ctx, -, rfl⟩⟩ := applyCrypto_ok hcrypto
    · exact hassoc
    · exact hassoc
  have h₂ : (keys s₂, s₂.dtlsAssoc) = (keys s₁, s₁.dtlsAssoc) :=
    (keeps_applyICE (f := fun s => (keys s, s.dtlsAssoc)) (fun _ _ _ _ _ => rfl) attrs).ok hice
  have h₃ : keys s₃ = keys s₂ := by
    cases hd : s₂.dtlsSRTP with
    | false =>
      rw [applyDTLS_of_not hd] at hdtls
      rw [(Prod.mk.inj hdtls).2]
    | true =>
      obtain ⟨setup, fingerprints, tlsID, -, hneg⟩ := applyDTLS_ok hd hdtls
      have hnone : s₂.dtlsAssoc = none := (congrArg Prod.snd h₂).trans h₁
      rcases negotiateDTLSAssociation_ok hneg with ⟨-, rfl⟩ | ⟨a, ha, -⟩ | ⟨a, _, _, ha, -⟩
      · unfold MediaSession.newAnswerTLSID
        split <;> rfl
      · exact absurd (ha.symm.trans hnone) (by simp)
      · exact absurd (ha.symm.trans hnone) (by simp)
  have h₄ : keys t = keys s₃ := by
    obtain ⟨-, rfl⟩ := settleContexts_eq_ok.mp hsettle
    rfl
  have hkeys : keys t = keys s₁ := h₄.trans (h₃.trans (congrArg Prod.fst h₂))
  exact ⟨s₁, hcrypto, congrArg Prod.fst hkeys, congrArg Prod.snd hkeys⟩

/-- The session has a key exactly if an attribute is for its profile, and it is the key of the
first such attribute, whose profile the answer names in its one line; the attributes after it
change nothing. -/
structure FirstKeyTaken (g : Globals) (env : RemoteEnv) (s t : MediaSession) (attrs : List Bytes)
    (cs : List CryptoLine) : Prop where
  set : t.remoteCtxSRTP ≠ none ↔ ∃ c ∈ cs, c.Offers s.srtpAlg
  key : ∀ {before c after}, FirstOffer s.srtpAlg cs before c after →
    ∃ keyBytes, base64Decode c.inline = some keyBytes ∧
      t.remoteCtxSRTP = some ⟨env.handle, keyBytes.take 16, keyBytes.drop 16, s.srtpAlg⟩
  answer : ∀ {before c after}, FirstOffer s.srtpAlg cs before c after → ∀ env',
    (t.localSDP g env').1 = generateSDPForAudio (t.description g env') ∧
      ∃ d : SdesInline, (t.description g env').sdes = some d ∧
        cryptoLines (t.description g env').sdes = [attr d.value] ∧ d.alg = c.suite
  rest : ∀ {before c after}, FirstOffer s.srtpAlg cs before c after → ∀ {xs ys},
    attrs = xs ++ c.text :: ys → xs.filter isCrypto = before.map CryptoLine.text →
    ∀ s' : MediaSession, s'.srtpAlg = s.srtpAlg →
      applyCrypto env.handle attrs s' = applyCrypto env.handle (xs ++ [c.text]) s'

structure FirstKeyEchoed (g : Globals) (env : RemoteEnv) (s t : MediaSession) (attrs : List Bytes)
    (cs : List CryptoLine) : Prop extends FirstKeyTaken g env s t attrs cs where
  tag : ∀ {before c after}, FirstOffer s.srtpAlg cs before c after → ∀ env',
    (t.description g env').sdes.map (·.tag) = some (c.number : ℤ)

theorem remoteSDP_keysApplied {g : Globals} {env : RemoteEnv} {body : Bytes} {sections : Sections}
    {audio : ℕ} {m : MediaSection} (hsound : s.Sound) (hctx : s.remoteCtxSRTP = none)
    (hbody : chooseAudio body = .ok (sections, audio, m))
    (happly : MediaSession.remoteSDP g env body s = (.ok (), t)) :
    KeysApplied env (values (sections.description m) (lit "a")) s t := by
  have hassoc : s.dtlsAssoc = none := by
    by_contra hne
    have hkeyed := hsound.keyed (Option.isSome_iff_ne_none.mpr hne)
    exact Option.isSome_iff_ne_none.mp (hsound.contexts hkeyed).2 hctx
  obtain ⟨r, happlied⟩ := remoteSDP_applied hbody happly
  obtain ⟨sections', audio', m', r', hbody', hr, hkey⟩ := remoteSDP_eq_ok.mp happly
  obtain ⟨rfl, rfl, rfl⟩ : sections = sections' ∧ audio = audio' ∧ m = m' := by
    simpa using Except.ok.inj (hbody.symm.trans hbody')
  obtain ⟨u, hcrypto, hctx', htag'⟩ := applyKeying_crypto (by exact hassoc) hkey
  exact ⟨happlied.sdp, happlied.secureRTP, happlied.srtpAlg, _, u, by exact rfl, by exact rfl,
    hcrypto, hctx', htag'⟩

/-- The line of the answer names the profile and, unless it is zero, the tag. -/
theorem KeysApplied.echo (h : KeysApplied env attrs s t) (hsecure : s.secureRTP = .sdes)
    (hattrs : attrs.filter isCrypto = cs.map CryptoLine.text) (hwell : ∀ c ∈ cs, c.WellFormed)
    (hfirst : FirstOffer s.srtpAlg cs before c after) (hspaced : c.SingleSpaced) (g : Globals)
    (env' : LocalEnv) :
    ∃ d : SdesInline, (t.description g env').sdes = some d ∧
      cryptoLines (t.description g env').sdes = [attr d.value] ∧ d.alg = c.suite ∧
      d.tag = if 0 < c.number then (c.number : ℤ) else 1 := by
  obtain ⟨htag, hkeyLen, hsaltLen, keyBytes, -, hremote⟩ := h.keyed hattrs hwell hfirst hspaced
  rw [← h.srtpAlg] at hkeyLen hsaltLen
  obtain ⟨base64, hsdes⟩ := MediaSession.localSDES_keyed (h.secureRTP.trans hsecure)
    (by rw [hremote]; simp) hkeyLen hsaltLen env'
  have halg : srtpProfileString t.srtpAlg = c.suite := by
    rw [h.srtpAlg, ← hfirst.offers.2]
    exact srtpProfileString_parse hfirst.offers.1
  have hname : c.suite ≠ [] := (hwell c (by rw [hfirst.split]; simp)).suite.1
  rw [halg, htag] at hsdes
  refine ⟨⟨c.suite, base64, if 0 < (c.number : ℤ) then (c.number : ℤ) else 1⟩, hsdes, ?_, rfl, ?_⟩
  · change cryptoLines (t.localSDES env').1 = _
    rw [hsdes]
    simp [cryptoLines, hname]
  · simp

theorem KeysApplied.firstKeyTaken_iff (h : KeysApplied env attrs s t)
    (hsecure : s.secureRTP = .sdes) (hctx : s.remoteCtxSRTP = none) (hstatic : s.sdp = [])
    (hattrs : attrs.filter isCrypto = cs.map CryptoLine.text) (hwell : ∀ c ∈ cs, c.WellFormed)
    (g : Globals) :
    FirstKeyTaken g env s t attrs cs ↔
      ∀ before c after, FirstOffer s.srtpAlg cs before c after → c.SingleSpaced := by
  constructor
  · intro htaken before c after hfirst
    by_contra hspaced
    refine htaken.set.mpr ⟨c, by rw [hfirst.split]; simp, hfirst.offers⟩ ?_
    exact h.unread hctx hattrs hwell hfirst hspaced (htaken.rest hfirst)
  · intro hspaced
    refine ⟨⟨fun hset => ?_, fun hoffers => ?_⟩, fun hfirst => ?_, fun hfirst env' => ?_, ?_⟩
    · by_contra hnone
      push Not at hnone
      exact hset (h.unkeyed hctx hattrs hwell hnone)
    · obtain ⟨before, c, after, hfirst⟩ := exists_firstOffer hoffers
      obtain ⟨-, -, -, keyBytes, -, hremote⟩ := h.keyed hattrs hwell hfirst (hspaced _ _ _ hfirst)
      rw [hremote]
      exact nofun
    · exact (h.keyed hattrs hwell hfirst (hspaced _ _ _ hfirst)).2.2.2
    · obtain ⟨d, hsdes, hline, halg, -⟩ :=
        h.echo hsecure hattrs hwell hfirst (hspaced _ _ _ hfirst) g env'
      exact ⟨by simp [MediaSession.localSDP, h.sdp, hstatic], d, hsdes, hline, halg⟩
    · rintro before c after hfirst xs ys rfl - s' halg
      refine applyCrypto_rest xs ?_ ys
      have hread := (hwell c (by rw [hfirst.split]; simp)).readCrypto_text (hspaced _ _ _ hfirst)
      unfold offersKey
      rw [hread, halg]
      exact decide_eq_true ⟨hfirst.offers.1, hfirst.offers.2.symm⟩

/-- A session keyed by SDES takes the key of the first a=crypto attribute for its profile, if
there is one, exactly if it is written with single spaces, and repeats it exactly if its tag is not
zero as well. -/
theorem first_key_echoed_iff (g : Globals) (env : RemoteEnv) (body : Bytes) (s t : MediaSession)
    (sections : Sections) (audio : ℕ) (m : MediaSection) (cs : List CryptoLine) (hsound : s.Sound)
    (hsecure : s.secureRTP = .sdes) (hctx : s.remoteCtxSRTP = none) (hstatic : s.sdp = [])
    (hbody : chooseAudio body = .ok (sections, audio, m))
    (happly : MediaSession.remoteSDP g env body s = (.ok (), t))
    (hattrs : (values (sections.description m) (lit "a")).filter isCrypto = cs.map CryptoLine.text)
    (hwell : ∀ c ∈ cs, c.WellFormed) :
    (FirstKeyTaken g env s t (values (sections.description m) (lit "a")) cs ↔
      ∀ before c after, FirstOffer s.srtpAlg cs before c after → c.SingleSpaced) ∧
    (FirstKeyEchoed g env s t (values (sections.description m) (lit "a")) cs ↔
      ∀ before c after, FirstOffer s.srtpAlg cs before c after →
        c.SingleSpaced ∧ 0 < c.number) := by
  have happlied := remoteSDP_keysApplied hsound hctx hbody happly
  have htaken := happlied.firstKeyTaken_iff hsecure hctx hstatic hattrs hwell g
  refine ⟨htaken, fun h before c after hfirst => ?_,
    fun h => ⟨htaken.mpr fun before c after hfirst => ?_, ?_⟩⟩
  · have hspaced : c.SingleSpaced := htaken.mp h.toFirstKeyTaken _ _ _ hfirst
    obtain ⟨d, hsdes, -, -, htag⟩ :=
      happlied.echo hsecure hattrs hwell hfirst hspaced g ⟨0, fun _ => 0, 0, sameLetter 0⟩
    have hsame := h.tag hfirst ⟨0, fun _ => 0, 0, sameLetter 0⟩
    rw [hsdes, Option.map_some, Option.some.injEq, htag] at hsame
    refine ⟨hspaced, ?_⟩
    split at hsame <;> omega
  · exact (h _ _ _ hfirst).1
  · intro before c after hfirst env'
    obtain ⟨hspaced, hpos⟩ := h _ _ _ hfirst
    obtain ⟨d, hsdes, -, -, htag⟩ := happlied.echo hsecure hattrs hwell hfirst hspaced g env'
    rw [hsdes, Option.map_some, htag, if_pos hpos]

end Applied

end Lib

section Sample

attribute [local instance] asciiOnly documentedSrtp

/-- A key of thirty zero bytes for the default profile. -/
def zeroTagKey (tag : Bytes) : CryptoLine :=
  { tag := tag
    tagGap := [space]
    suite := lit "AES_CM_128_HMAC_SHA1_80"
    suiteGap := [space]
    params := lit "inline:AAAAAAAAAAAAAAAAAAAAAAAAAAAAAAAAAAAAAAAA" }

def defaultSdes : MediaSession := sdesSession profileAes128CmHmacSha1_80

def zeroKeyOffer (tag : Bytes) : Bytes := audioBody (lit "RTP/SAVP") [(zeroTagKey tag).text]

/-- A key of another suite, written with a space too many. -/
def otherSuiteKey : CryptoLine :=
  { zeroTagKey (lit "3") with
    tagGap := [space, space]
    suite := lit "AES_CM_128_HMAC_SHA1_32" }

/-- A tag of seven is answered with seven, after a key of another suite. -/
theorem tag_seven_echoed : ∃ t,
    MediaSession.remoteSDP {} plainRemote
      (audioBody (lit "RTP/SAVP") [otherSuiteKey.text, (zeroTagKey (lit "7")).text]) defaultSdes =
        (.ok (), t) ∧
      t.remoteCtxSRTP ≠ none ∧
      (t.description {} sdesCalls.answer).sdes.map (·.tag) = some 7 := by
  have hread : (chooseAudio (audioBody (lit "RTP/SAVP")
      [otherSuiteKey.text, (zeroTagKey (lit "7")).text])).toOption.map (fun x =>
      (values (x.1.description x.2.2) (lit "a")).filter isCrypto) =
        some ([otherSuiteKey, zeroTagKey (lit "7")].map CryptoLine.text) := by decide +kernel
  obtain ⟨⟨sections, audio, m⟩, hbody, hattrs⟩ := Option.map_eq_some_iff.mp hread
  obtain ⟨t, happly, -⟩ := exists_ok (P := fun _ => True)
    (x := MediaSession.remoteSDP {} plainRemote (audioBody (lit "RTP/SAVP")
      [otherSuiteKey.text, (zeroTagKey (lit "7")).text]) defaultSdes)
    ⟨by decide +kernel, trivial⟩
  have hwell : ∀ c ∈ [otherSuiteKey, zeroTagKey (lit "7")], c.WellFormed := by
    simp only [List.forall_mem_cons]
    exact ⟨⟨by decide, by decide, by decide, by decide, by decide⟩,
      ⟨by decide, by decide, by decide, by decide, by decide⟩, nofun⟩
  have hfirst : FirstOffer profileAes128CmHmacSha1_80 [otherSuiteKey, zeroTagKey (lit "7")]
      [otherSuiteKey] (zeroTagKey (lit "7")) [] :=
    ⟨rfl, by simp only [List.forall_mem_singleton]; decide, by decide⟩
  have hechoed : FirstKeyEchoed {} plainRemote defaultSdes t
      (values (sections.description m) (lit "a")) [otherSuiteKey, zeroTagKey (lit "7")] := by
    refine (first_key_echoed_iff {} plainRemote _ defaultSdes t sections audio m _ (sound_new _) rfl
      rfl rfl (ok_of_toOption hbody) happly hattrs hwell).2.mpr fun before c after h => ?_
    obtain rfl := h.unique hfirst
    exact ⟨⟨rfl, rfl⟩, by decide⟩
  exact ⟨t, happly, hechoed.set.mpr ⟨_, by simp, hfirst.offers⟩, hechoed.tag hfirst _⟩

/-- A tag of zero keys the session as well, but is answered with one. -/
theorem tag_zero_not_echoed :
    (zeroTagKey (lit "0")).WellFormed ∧
    (MediaSession.remoteSDP {} plainRemote (zeroKeyOffer (lit "0")) defaultSdes).1 = .ok () ∧
    (MediaSession.remoteSDP {} plainRemote (zeroKeyOffer (lit "0")) defaultSdes).2.remoteCtxSRTP =
      some ⟨plainRemote.handle, List.replicate 16 0, List.replicate 14 0,
        profileAes128CmHmacSha1_80⟩ ∧
    ((MediaSession.remoteSDP {} plainRemote (zeroKeyOffer (lit "0")) defaultSdes).2.description {}
      sdesCalls.answer).sdes.map (·.tag) = some 1 := by
  refine ⟨⟨by decide, by decide, by decide, by decide, by decide⟩, ?_⟩
  decide +kernel

end Sample
end Diago.Media
