import Diago.Lib.LetterCase
import Diago.Media.RemoteSDP

/-! # Fingerprints up to their spelling

A peer may write the fingerprints of the same certificates in another order, in
another letter case or more than once.
-/
namespace Diago.Media
open Lib SDP

/-- An attribute of ASCII texts without spaces, none of them empty. -/
structure Plain (fp : SdpFingerprint) : Prop where
  alg_ne : fp.alg ≠ []
  alg_ascii : Ascii fp.alg
  alg_space : space ∉ fp.alg
  value_ne : fp.fingerprint ≠ []
  value_ascii : Ascii fp.fingerprint
  value_space : space ∉ fp.fingerprint

structure SamePair (fp fp' : SdpFingerprint) : Prop where
  alg : SameText fp.alg fp'.alg
  value : SameText fp.fingerprint fp'.fingerprint

/-- Another order, another letter case or more copies of the same attributes. -/
inductive Respelled : List SdpFingerprint → List SdpFingerprint → Prop
  | permute {l l' : List SdpFingerprint} (h : l.Perm l') : Respelled l l'
  | recase {l l' : List SdpFingerprint} (h : List.Forall₂ SamePair l l') : Respelled l l'
  | repeated {l : List SdpFingerprint} {fp : SdpFingerprint} (h : fp ∈ l) : Respelled l (fp :: l)
  | trans {l l' l'' : List SdpFingerprint} (h : Respelled l l') (h' : Respelled l' l'') :
      Respelled l l''

structure SamePairs (l l' : List SdpFingerprint) : Prop where
  left : ∀ fp ∈ l, ∃ fp' ∈ l', SamePair fp fp'
  right : ∀ fp' ∈ l', ∃ fp ∈ l, SamePair fp fp'

/-! ## Spellings -/

@[refl] theorem SamePair.refl (fp : SdpFingerprint) : SamePair fp fp := ⟨.refl _, .refl _⟩

theorem SamePair.trans {fp fp' fp'' : SdpFingerprint} (h : SamePair fp fp')
    (h' : SamePair fp' fp'') : SamePair fp fp'' :=
  ⟨h.alg.trans h'.alg, h.value.trans h'.value⟩

theorem SamePairs.trans {l l' l'' : List SdpFingerprint} (h : SamePairs l l')
    (h' : SamePairs l' l'') : SamePairs l l'' := by
  constructor
  · intro fp hfp
    obtain ⟨fp', hfp', hsame⟩ := h.left fp hfp
    obtain ⟨fp'', hfp'', hsame'⟩ := h'.left fp' hfp'
    exact ⟨fp'', hfp'', hsame.trans hsame'⟩
  · intro fp'' hfp''
    obtain ⟨fp', hfp', hsame'⟩ := h'.right fp'' hfp''
    obtain ⟨fp, hfp, hsame⟩ := h.right fp' hfp'
    exact ⟨fp, hfp, hsame.trans hsame'⟩

theorem SamePairs.of_mem_iff {l l' : List SdpFingerprint} (h : ∀ fp, fp ∈ l ↔ fp ∈ l') :
    SamePairs l l' :=
  ⟨fun fp hfp => ⟨fp, (h fp).mp hfp, .refl fp⟩, fun fp hfp => ⟨fp, (h fp).mpr hfp, .refl fp⟩⟩

theorem SamePairs.of_forall₂ {l l' : List SdpFingerprint} (h : List.Forall₂ SamePair l l') :
    SamePairs l l' := by
  induction h with
  | nil => exact ⟨by simp, by simp⟩
  | cons hpair _ ih =>
    constructor
    · rw [List.forall_mem_cons]
      refine ⟨⟨_, List.mem_cons_self, hpair⟩, fun fp hfp => ?_⟩
      obtain ⟨fp', hfp', hsame⟩ := ih.left fp hfp
      exact ⟨fp', List.mem_cons_of_mem _ hfp', hsame⟩
    · rw [List.forall_mem_cons]
      refine ⟨⟨_, List.mem_cons_self, hpair⟩, fun fp' hfp' => ?_⟩
      obtain ⟨fp, hfp, hsame⟩ := ih.right fp' hfp'
      exact ⟨fp, List.mem_cons_of_mem _ hfp, hsame⟩

theorem Respelled.samePairs {l l' : List SdpFingerprint} (h : Respelled l l') : SamePairs l l' := by
  induction h with
  | permute h => exact .of_mem_iff fun _ => h.mem_iff
  | recase h => exact .of_forall₂ h
  | repeated h => exact .of_mem_iff (by simp_all)
  | trans _ _ ih ih' => exact ih.trans ih'

theorem Plain.of_samePair {fp fp' : SdpFingerprint} (hfp : Plain fp) (h : SamePair fp fp') :
    Plain fp' where
  alg_ne := h.alg.ne_nil hfp.alg_ne
  alg_ascii := h.alg.ascii hfp.alg_ascii
  alg_space := h.alg.not_mem (by decide) hfp.alg_space
  value_ne := h.value.ne_nil hfp.value_ne
  value_ascii := h.value.ascii hfp.value_ascii
  value_space := h.value.not_mem (by decide) hfp.value_space

theorem SamePairs.plain {l l' : List SdpFingerprint} (h : SamePairs l l')
    (hl : ∀ fp ∈ l, Plain fp) : ∀ fp ∈ l', Plain fp := by
  intro fp' hfp'
  obtain ⟨fp, hfp, hsame⟩ := h.right fp' hfp'
  exact (hl fp hfp).of_samePair hsame

/-! ## The rendered set -/

section Rendered

variable [UnicodeCase] {l l' : List SdpFingerprint}

def render (fp : SdpFingerprint) : Bytes := toLower fp.alg ++ space :: toUpper fp.fingerprint

theorem render_eq_iff {fp fp' : SdpFingerprint} (hfp : Plain fp) (hfp' : Plain fp') :
    render fp = render fp' ↔ SamePair fp fp' := by
  have hspace : space ∉ toLower fp.alg :=
    not_mem_toLower hfp.alg_ascii (by decide) hfp.alg_space
  have hspace' : space ∉ toLower fp'.alg :=
    not_mem_toLower hfp'.alg_ascii (by decide) hfp'.alg_space
  rw [render, render, append_sep_inj hspace hspace', toLower_eq_iff hfp.alg_ascii hfp'.alg_ascii,
    toUpper_eq_iff hfp.value_ascii hfp'.value_ascii]
  exact ⟨fun h => ⟨h.1, h.2⟩, fun h => ⟨h.alg, h.value⟩⟩

theorem fingerprintSet_of_plain (hl : ∀ fp ∈ l, Plain fp) :
    fingerprintSet l = ((l.map render).insertionSort (· ≤ ·)).destutter (· ≠ ·) := by
  have hall : l.filter (fun fp => fp.fingerprint ≠ []) = l :=
    List.filter_eq_self.mpr fun fp hfp => decide_eq_true (hl fp hfp).value_ne
  rw [fingerprintSet, hall]
  rfl

theorem fingerprintSet_eq_iff (hl : ∀ fp ∈ l, Plain fp) (hl' : ∀ fp ∈ l', Plain fp) :
    fingerprintSet l = fingerprintSet l' ↔ SamePairs l l' := by
  rw [fingerprintSet_of_plain hl, fingerprintSet_of_plain hl', sortedSet_eq_iff]
  constructor
  · intro h
    constructor
    · intro fp hfp
      obtain ⟨fp', hfp', heq⟩ := List.mem_map.mp ((h (render fp)).mp (List.mem_map_of_mem hfp))
      exact ⟨fp', hfp', (render_eq_iff (hl fp hfp) (hl' fp' hfp')).mp heq.symm⟩
    · intro fp' hfp'
      obtain ⟨fp, hfp, heq⟩ := List.mem_map.mp ((h (render fp')).mpr (List.mem_map_of_mem hfp'))
      exact ⟨fp, hfp, (render_eq_iff (hl fp hfp) (hl' fp' hfp')).mp heq⟩
  · intro h x
    simp only [List.mem_map]
    constructor
    · rintro ⟨fp, hfp, rfl⟩
      obtain ⟨fp', hfp', hsame⟩ := h.left fp hfp
      exact ⟨fp', hfp', ((render_eq_iff (hl fp hfp) (hl' fp' hfp')).mpr hsame).symm⟩
    · rintro ⟨fp', hfp', rfl⟩
      obtain ⟨fp, hfp, hsame⟩ := h.right fp' hfp'
      exact ⟨fp, hfp, (render_eq_iff (hl fp hfp) (hl' fp' hfp')).mpr hsame⟩

/-- What the attributes ask for depends on their set alone, and another set than the one of the
association asks for a change. -/
theorem decision_ignores_spelling (a : DTLSAssociation) (s : MediaSession) (setup : SetupRole)
    (tlsID : Bytes) (hl : ∀ fp ∈ l, Plain fp) :
    (∀ l', Respelled l l' → a.changedBy s setup l' tlsID = a.changedBy s setup l tlsID) ∧
      ∀ made, (∀ fp ∈ made, Plain fp) → a.remoteFingerprints = fingerprintSet made →
        ¬ SamePairs l made → a.changedBy s setup l tlsID ≠ none := by
  constructor
  · intro l' hrespelled
    have hsame := hrespelled.samePairs
    have hset := (fingerprintSet_eq_iff hl (hsame.plain hl)).mpr hsame
    rw [DTLSAssociation.changedBy, DTLSAssociation.changedBy, hset]
  · intro made hmade hrecorded hother hnone
    apply hother
    rw [← fingerprintSet_eq_iff hl hmade, ← hrecorded]
    by_contra hne
    unfold DTLSAssociation.changedBy at hnone
    rw [if_pos hne] at hnone
    split_ifs at hnone

end Rendered

def singleCertificate : DTLSAssociation :=
  (@MediaSession.armedFor asciiOnly {} [⟨lit "AB:CD", lit "SHA-256"⟩] []).assoc

/-- The fingerprint in lower case, twice, asks for what it asks in upper case; another value asks
for a change. -/
theorem lower_case_twice_continues :
    @DTLSAssociation.changedBy asciiOnly singleCertificate {} .actpass
        [⟨lit "ab:cd", lit "sha-256"⟩, ⟨lit "ab:cd", lit "sha-256"⟩] [] =
      @DTLSAssociation.changedBy asciiOnly singleCertificate {} .actpass
        [⟨lit "AB:CD", lit "SHA-256"⟩] [] ∧
    @DTLSAssociation.changedBy asciiOnly singleCertificate {} .actpass
        [⟨lit "AB:CE", lit "SHA-256"⟩] [] ≠ none := by
  have hplain (v : Bytes) (hv : v ∈ [lit "AB:CD", lit "AB:CE"]) :
      ∀ fp ∈ [(⟨v, lit "SHA-256"⟩ : SdpFingerprint)], Plain fp := by
    rw [List.forall_mem_singleton]
    fin_cases hv <;> exact ⟨by decide, by decide, by decide, by decide, by decide, by decide⟩
  have hcase : List.Forall₂ SamePair [⟨lit "AB:CD", lit "SHA-256"⟩]
      [⟨lit "ab:cd", lit "sha-256"⟩] := .cons ⟨by decide, by decide⟩ .nil
  constructor
  · apply (@decision_ignores_spelling asciiOnly _ singleCertificate {} .actpass []
      (hplain _ (by decide))).1
    exact (Respelled.recase hcase).trans (.repeated List.mem_cons_self)
  · apply (@decision_ignores_spelling asciiOnly _ singleCertificate {} .actpass []
      (hplain _ (by decide))).2 [⟨lit "AB:CD", lit "SHA-256"⟩] (hplain _ (by decide)) rfl
    intro hsame
    obtain ⟨fp, hfp, hpair⟩ := hsame.left _ List.mem_cons_self
    obtain rfl := List.mem_singleton.mp hfp
    exact absurd hpair.value (by decide)

end Diago.Media
