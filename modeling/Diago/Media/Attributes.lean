import Diago.Media.ReadBack

/-! # The attributes of a written description

The attributes of one name stand in one place of a written description, so that
reading them back finds what was written there and nothing else.
-/
namespace Diago.Media
open Lib SDP

/-- What the attributes of the formats, the packet times and the direction begin with. -/
def formatHeads : List Bytes :=
  [lit "rtpmap:", lit "fmtp:", lit "ptime:20", lit "maxptime:20", lit "sendrecv", lit "sendonly",
    lit "recvonly", lit "inactive"]

/-- No attribute that begins with `pre` is one of these. -/
def Elsewhere (pre : Bytes) : Prop :=
  pre ≠ [] ∧ ∀ head ∈ formatHeads, ¬ pre <+: head ∧ ¬ head <+: pre

instance (pre : Bytes) : Decidable (Elsewhere pre) := inferInstanceAs (Decidable (_ ∧ _))

theorem Elsewhere.cutPre_append {pre head : Bytes} (h : Elsewhere pre) (hhead : head ∈ formatHeads)
    (rest : Bytes) : cutPre pre (head ++ rest) = none :=
  cutPre_append_eq_none (h.2 head hhead) rest

theorem Elsewhere.cutPre_word {pre w : Bytes} (h : Elsewhere pre) (hw : w ∈ formatHeads) :
    cutPre pre w = none := by
  simpa using h.cutPre_append hw []

theorem Elsewhere.cutPre_mode {pre : Bytes} (h : Elsewhere pre) (mode : Option Mode) :
    cutPre pre ((mode.map Mode.text).getD []) = none := by
  cases mode with
  | none => simpa [cutPre] using h.1
  | some mode =>
    cases mode
    all_goals exact h.cutPre_word (by decide)

section Fold
variable [UnicodeCase]

theorem formatRTPMap_heads (c : Codec) : ∀ l ∈ formatRTPMap c,
    ∃ rest, l.value = lit "rtpmap:" ++ rest ∨ l.value = lit "fmtp:" ++ rest := by
  have hstatic {v w : Bytes} (h : v = lit "rtpmap:" ++ w) :
      ∃ rest, v = lit "rtpmap:" ++ rest ∨ v = lit "fmtp:" ++ rest := ⟨w, .inl h⟩
  unfold formatRTPMap rtpmapHead
  split_ifs
  all_goals
    simp only [List.forall_mem_cons, attr, List.append_assoc]
  · exact ⟨⟨_, .inl rfl⟩, ⟨_, .inr rfl⟩, by simp⟩
  · exact ⟨⟨_, .inl rfl⟩, ⟨_, .inr rfl⟩, by simp⟩
  · exact ⟨hstatic (w := lit "0 PCMU/8000") (by decide), by simp⟩
  · exact ⟨hstatic (w := lit "8 PCMA/8000") (by decide), by simp⟩
  · exact ⟨hstatic (w := lit "9 G722/8000") (by decide), by simp⟩
  · exact ⟨⟨_, .inl rfl⟩, by simp⟩

def Description.formatAttributes (d : Description) : List Bytes :=
  (d.codecs.flatMap formatRTPMap).map Line.value ++
    [lit "ptime:20", lit "maxptime:20", (d.mode.map Mode.text).getD []]

theorem Elsewhere.formatAttributes {pre : Bytes} (h : Elsewhere pre) (d : Description) :
    ∀ v ∈ d.formatAttributes, cutPre pre v = none := by
  simp only [Description.formatAttributes, List.forall_mem_append, List.forall_mem_cons,
    List.forall_mem_map]
  refine ⟨fun l hl => ?_, h.cutPre_word (by decide), h.cutPre_word (by decide),
    h.cutPre_mode d.mode, by simp⟩
  obtain ⟨c, -, hl⟩ := List.mem_flatMap.mp hl
  obtain ⟨rest, heq | heq⟩ := formatRTPMap_heads c l hl
  all_goals
    rw [heq]
    exact h.cutPre_append (by decide) rest

def readBack (codecs : List Codec) : Option (List Codec) :=
  codecsFromSDPRead (codecs.map formatOf) ((codecs.flatMap formatRTPMap).map Line.value)
    codecs.length

theorem Description.attributes_eq (d : Description) (hice : d.ice = none) :
    d.attributes = d.formatAttributes ++ (cryptoLines d.sdes).map Line.value ++
      (dtlsLines d.dtls).map Line.value := by
  simp [Description.attributes, Description.attributeLines, Description.formatAttributes, hice,
    iceLiteLines, iceLines, attr]

end Fold

theorem cutPre_cryptoLines {pre : Bytes} (h : ¬ pre <+: lit "crypto:" ∧ ¬ lit "crypto:" <+: pre)
    (sdes : Option SdesInline) :
    ∀ v ∈ (cryptoLines sdes).map Line.value, cutPre pre v = none := by
  simp only [List.forall_mem_map, cryptoLines]
  intro x _
  simp only [attr, SdesInline.value, List.append_assoc]
  exact cutPre_append_eq_none h _

theorem lastValue_append {pre : Bytes} {xs : List Bytes} (h : ∀ v ∈ xs, cutPre pre v = none)
    (ys : List Bytes) : lastValue pre (xs ++ ys) = lastValue pre ys := by
  have hnil : xs.filterMap (cutPre pre) = [] := by simpa using h
  rw [lastValue, List.filterMap_append, hnil, List.nil_append, lastValue]

theorem fingerprintAttrs_append {xs : List Bytes}
    (h : ∀ v ∈ xs, cutPre (lit "fingerprint:") v = none) (ys : List Bytes) :
    fingerprintAttrs (xs ++ ys) = fingerprintAttrs ys := by
  have hnil : fingerprintAttrs xs = [] := by
    simp only [fingerprintAttrs, List.filter_eq_nil_iff]
    intro v hv
    simp [h v hv]
  rw [fingerprintAttrs, List.filter_append] at *
  rw [hnil, List.nil_append, fingerprintAttrs]

theorem readFingerprint_text {alg fingerprint : Bytes} (halg : space ∉ alg)
    (hfingerprint : space ∉ fingerprint) :
    readFingerprint (lit "fingerprint:" ++ alg ++ space :: fingerprint) =
      .ok ⟨fingerprint, alg⟩ := by
  have hsplit : (alg ++ space :: fingerprint).splitOn space = [alg, fingerprint] := by
    have hwords : ∀ w ∈ [alg, fingerprint], space ∉ w := by simpa using ⟨halg, hfingerprint⟩
    simpa [List.intercalate_cons_cons] using List.splitOn_intercalate space hwords (by simp)
  rw [readFingerprint, List.append_assoc, trimPre, cutPre_append, Option.getD_some, hsplit]

theorem space_not_graphic {s : Bytes} (h : ∀ b ∈ s, Graphic b) : space ∉ s := by
  intro hmem
  have hnot : ¬ Graphic space := by decide
  exact hnot (h space hmem)

theorem mapM_readFingerprint {fingerprints : List SdpFingerprint}
    (h : ∀ fp ∈ fingerprints, (∀ b ∈ fp.alg, Graphic b) ∧ ∀ b ∈ fp.fingerprint, Graphic b) :
    (fingerprints.map fun fp => lit "fingerprint:" ++ fp.alg ++ space :: fp.fingerprint).mapM
      readFingerprint = .ok fingerprints := by
  induction fingerprints with
  | nil => rfl
  | cons fp fingerprints ih =>
    simp only [List.forall_mem_cons] at h
    rw [List.map_cons, List.mapM_cons, ih h.2, readFingerprint_text (space_not_graphic h.1.1)
      (space_not_graphic h.1.2)]
    rfl

theorem graphic_setup (role : SetupRole) : role.text ≠ [] ∧ ∀ b ∈ role.text, Graphic b := by
  cases role <;> decide

theorem parseSetup_text [UnicodeCase] (role : SetupRole) : parseSetup role.text = some role := by
  have hgraphic := (graphic_setup role).2
  unfold parseSetup
  rw [trimSpace_of_forall_graphic hgraphic, toLower_of_ascii (.of_graphic hgraphic)]
  cases role <;> decide

/-- The attributes the DTLS part of a description is written as. -/
def DTLSSetup.attributes (x : DTLSSetup) : List Bytes :=
  (lit "setup:" ++ x.setup.text) ::
    ((x.fingerprints.filter fun fp => fp.fingerprint ≠ []).map fun fp =>
      lit "fingerprint:" ++ fp.alg ++ space :: fp.fingerprint) ++
    (if x.tlsID ≠ [] then [lit "tls-id:" ++ x.tlsID] else [])

theorem dtlsLines_value (x : DTLSSetup) : (dtlsLines (some x)).map Line.value = x.attributes := by
  simp only [dtlsLines, DTLSSetup.attributes, List.map_append, List.map_map, List.map_cons,
    List.singleton_append]
  split <;> rfl

structure DTLSSetup.Legible (x : DTLSSetup) : Prop where
  fingerprints : ∀ fp ∈ x.fingerprints,
    (∀ b ∈ fp.alg, Graphic b) ∧ ∀ b ∈ fp.fingerprint, Graphic b
  tlsID : ∀ b ∈ x.tlsID, Graphic b

theorem lastValue_setup (x : DTLSSetup) : lastValue (lit "setup:") x.attributes = x.setup.text := by
  have hfps : ∀ v ∈ (x.fingerprints.filter fun fp => fp.fingerprint ≠ []).map fun fp =>
      lit "fingerprint:" ++ fp.alg ++ space :: fp.fingerprint, cutPre (lit "setup:") v = none := by
    simp only [List.forall_mem_map, List.append_assoc]
    exact fun _ _ => cutPre_append_eq_none (by decide) _
  have htlsID : ∀ v ∈ (if x.tlsID ≠ [] then [lit "tls-id:" ++ x.tlsID] else []),
      cutPre (lit "setup:") v = none := by
    split
    · simp only [List.forall_mem_singleton]
      exact cutPre_append_eq_none (by decide) _
    · simp
  rw [lastValue, DTLSSetup.attributes, List.filterMap_append,
    List.filterMap_eq_nil_iff.mpr htlsID, List.append_nil, List.filterMap_cons, cutPre_append]
  simp only [List.filterMap_eq_nil_iff.mpr hfps, List.getLast?_singleton, Option.map_some,
    Option.getD_some]
  exact trimSpace_of_forall_graphic (graphic_setup x.setup).2

theorem lastValue_tlsID {x : DTLSSetup} (h : x.Legible) :
    lastValue (lit "tls-id:") x.attributes = x.tlsID := by
  rw [DTLSSetup.attributes, lastValue_append]
  · split
    · simp only [lastValue, List.filterMap_cons, cutPre_append, List.filterMap_nil,
        List.getLast?_singleton, Option.map_some, Option.getD_some]
      exact trimSpace_of_forall_graphic h.tlsID
    · rename_i hnil
      simp only [not_not] at hnil
      rw [hnil]
      rfl
  · simp only [List.forall_mem_cons, List.forall_mem_map, List.append_assoc]
    exact ⟨cutPre_append_eq_none (by decide) _, fun _ _ => cutPre_append_eq_none (by decide) _⟩

theorem fingerprintAttrs_attributes (x : DTLSSetup) :
    fingerprintAttrs x.attributes =
      (x.fingerprints.filter fun fp => fp.fingerprint ≠ []).map fun fp =>
        lit "fingerprint:" ++ fp.alg ++ space :: fp.fingerprint := by
  have hsetup : cutPre (lit "fingerprint:") (lit "setup:" ++ x.setup.text) = none :=
    cutPre_append_eq_none (by decide) _
  have htlsID : (if x.tlsID ≠ [] then [lit "tls-id:" ++ x.tlsID] else []).filter
      (fun v => (cutPre (lit "fingerprint:") v).isSome) = [] := by
    split
    · have hnone : cutPre (lit "fingerprint:") (lit "tls-id:" ++ x.tlsID) = none :=
        cutPre_append_eq_none (by decide) _
      simp [hnone]
    · rfl
  rw [fingerprintAttrs, DTLSSetup.attributes, List.filter_append, htlsID, List.append_nil,
    List.filter_cons, hsetup]
  simp only [Option.isSome_none, Bool.false_eq_true, if_false]
  apply List.filter_eq_self.mpr
  simp only [List.forall_mem_map, List.append_assoc, cutPre_append]
  exact fun _ _ => rfl

section Fold
variable [UnicodeCase]

theorem dtlsAttributes_tlsID {attrs : List Bytes} {setup : SetupRole}
    {fingerprints : List SdpFingerprint} {tlsID : Bytes}
    (h : dtlsAttributes attrs = .ok (setup, fingerprints, tlsID)) :
    tlsID = lastValue (lit "tls-id:") attrs := by
  unfold dtlsAttributes at h
  cases hread : (fingerprintAttrs attrs).mapM readFingerprint with
  | error e =>
    rw [hread] at h
    cases h
  | ok read =>
    rw [hread] at h
    simp only [bind, Except.bind] at h
    split_ifs at h
    split at h
    · cases h
    · cases h
      rfl

/-- The DTLS attributes of a body we wrote, when they are accepted, are the ones we wrote. -/
theorem dtlsAttributes_attributes {d : Description} {x : DTLSSetup} (hice : d.ice = none)
    (hdtls : d.dtls = some x) (hx : x.Legible)
    {read : SetupRole × List SdpFingerprint × Bytes} (h : dtlsAttributes d.attributes = .ok read) :
    read = (x.setup, x.fingerprints.filter fun fp => fp.fingerprint ≠ [], x.tlsID) := by
  have hquiet {pre : Bytes} (helse : Elsewhere pre)
      (hcrypto : ¬ pre <+: lit "crypto:" ∧ ¬ lit "crypto:" <+: pre) :
      ∀ v ∈ d.formatAttributes ++ (cryptoLines d.sdes).map Line.value, cutPre pre v = none :=
    List.forall_mem_append.mpr
      ⟨helse.formatAttributes d, cutPre_cryptoLines hcrypto d.sdes⟩
  have hfps : (fingerprintAttrs d.attributes).mapM readFingerprint =
      .ok (x.fingerprints.filter fun fp => fp.fingerprint ≠ []) := by
    rw [d.attributes_eq hice, fingerprintAttrs_append (hquiet (by decide) (by decide)), hdtls,
      dtlsLines_value, fingerprintAttrs_attributes, mapM_readFingerprint]
    exact fun fp hfp => hx.fingerprints fp (List.mem_of_mem_filter hfp)
  have hsetup : lastValue (lit "setup:") d.attributes = x.setup.text := by
    rw [d.attributes_eq hice, lastValue_append (hquiet (by decide) (by decide)), hdtls,
      dtlsLines_value, lastValue_setup]
  have htlsID : lastValue (lit "tls-id:") d.attributes = x.tlsID := by
    rw [d.attributes_eq hice, lastValue_append (hquiet (by decide) (by decide)), hdtls,
      dtlsLines_value, lastValue_tlsID hx]
  unfold dtlsAttributes at h
  rw [hfps, hsetup, htlsID] at h
  simp only [bind, Except.bind, parseSetup_text, (graphic_setup x.setup).1, if_false] at h
  split at h
  · cases h
  · exact (Except.ok.inj h).symm

omit [UnicodeCase] in
theorem cutPre_rtpmapHead {v : Bytes} (hv : cutPre (lit "rtpmap:") v = none) (f : Bytes) :
    cutPre (rtpmapHead f) v = none := by
  rw [Option.eq_none_iff_forall_ne_some] at hv ⊢
  intro rest heq
  apply hv (f ++ [space] ++ rest)
  rw [cutPre_eq_some] at heq ⊢
  rw [heq, rtpmapHead]
  simp only [List.append_assoc]

omit [UnicodeCase] in
theorem readFormat_middle {xs attrs ys : List Bytes}
    (hxs : ∀ v ∈ xs, cutPre (lit "rtpmap:") v = none)
    (hys : ∀ v ∈ ys, cutPre (lit "rtpmap:") v = none) (f : Bytes) :
    readFormat (xs ++ (attrs ++ ys)) f = readFormat attrs f := by
  have hnil {zs : List Bytes} (hzs : ∀ v ∈ zs, cutPre (lit "rtpmap:") v = none) (pt : UInt8) :
      zs.filterMap (fun a => (cutPre (rtpmapHead f) a).bind (readRTPMap pt)) = [] := by
    rw [List.filterMap_eq_nil_iff]
    intro v hv
    rw [cutPre_rtpmapHead (hzs v hv), Option.bind_none]
  unfold readFormat
  split_ifs
  · rfl
  · rfl
  · rfl
  · split
    · rfl
    · simp only [List.filterMap_append, hnil hxs, hnil hys, List.nil_append, List.append_nil]

theorem codecsFromSDPRead_attributes (d : Description)
    (hice : ∀ x ∈ d.ice, ∀ c ∈ x.candidates, cutPre (lit "rtpmap:") c = none) :
    codecsFromSDPRead d.audioMedia.formats d.attributes d.audioMedia.formats.length =
      readBack d.codecs := by
  have hmode : cutPre (lit "rtpmap:") ((d.mode.map Mode.text).getD []) = none := by
    cases d.mode with
    | none => rfl
    | some mode => cases mode <;> rfl
  have hlite : ∀ v ∈ (iceLiteLines d.ice).map Line.value, cutPre (lit "rtpmap:") v = none := by
    unfold iceLiteLines
    split
    · decide
    · simp
  have hdtls : ∀ v ∈ (dtlsLines d.dtls).map Line.value, cutPre (lit "rtpmap:") v = none := by
    cases d.dtls with
    | none => simp [dtlsLines]
    | some x =>
      rw [dtlsLines_value, DTLSSetup.attributes]
      simp only [List.cons_append, List.forall_mem_cons, List.forall_mem_append,
        List.forall_mem_map, List.append_assoc]
      refine ⟨cutPre_append_eq_none (by decide) _, fun _ _ => cutPre_append_eq_none (by decide) _,
        ?_⟩
      split
      · simp only [List.forall_mem_singleton]
        exact cutPre_append_eq_none (by decide) _
      · simp
  have hrest : ∀ v ∈ (iceLines d.ice).map Line.value, cutPre (lit "rtpmap:") v = none := by
    cases hsome : d.ice with
    | none => simp [iceLines]
    | some x =>
      simp only [iceLines, List.map_append, List.map_cons, List.map_nil, List.map_map,
        List.forall_mem_append, List.forall_mem_cons, List.forall_mem_map]
      refine ⟨⟨⟨cutPre_append_eq_none (by decide) _, cutPre_append_eq_none (by decide) _, by simp⟩,
        hice x hsome⟩, ?_⟩
      split
      · simp only [List.forall_mem_singleton]
        decide
      · simp
  have hsplit : d.attributes = (iceLiteLines d.ice).map Line.value ++
      ((d.codecs.flatMap formatRTPMap).map Line.value ++
        ([lit "ptime:20", lit "maxptime:20", (d.mode.map Mode.text).getD []] ++
          (cryptoLines d.sdes).map Line.value ++ (dtlsLines d.dtls).map Line.value ++
          (iceLines d.ice).map Line.value)) := by
    simp [Description.attributes, Description.attributeLines, attr]
  have htail : ∀ v ∈ [lit "ptime:20", lit "maxptime:20", (d.mode.map Mode.text).getD []] ++
      (cryptoLines d.sdes).map Line.value ++ (dtlsLines d.dtls).map Line.value ++
      (iceLines d.ice).map Line.value, cutPre (lit "rtpmap:") v = none := by
    simp only [List.forall_mem_append, List.forall_mem_cons]
    exact ⟨⟨⟨⟨by decide, by decide, hmode, by simp⟩, cutPre_cryptoLines (by decide) d.sdes⟩, hdtls⟩,
      hrest⟩
  unfold readBack codecsFromSDPRead
  rw [hsplit, funext (readFormat_middle hlite htail)]
  simp only [Description.audioMedia, List.length_map]

end Fold
end Diago.Media
