import Diago.Media.RemoteSDP

/-! # Reading a written description

A description whose texts stay on their lines reads back, section by section,
as what it was written from.
-/
namespace Diago.Media
open Lib SDP

/-- The texts a description is written from can be told apart once they are written. -/
structure Description.Legible (d : Description) : Prop where
  proto : d.rtpProfile ≠ [] ∧ NoSpace d.rtpProfile
  port : -2 ^ 63 ≤ d.rtpPort ∧ d.rtpPort < 2 ^ 63
  codecs : d.codecs ≠ []
  names : ∀ c ∈ d.codecs, OneLine c.name
  streams : ∀ md ∈ d.streams.media, md.Words
  sdes : ∀ x ∈ d.sdes, OneLine x.alg ∧ OneLine x.base64
  dtls : ∀ x ∈ d.dtls, OneLine x.tlsID ∧
    ∀ fp ∈ x.fingerprints, OneLine fp.alg ∧ OneLine fp.fingerprint
  ice : ∀ x ∈ d.ice, OneLine x.ufrag ∧ OneLine x.pwd ∧ ∀ c ∈ x.candidates, OneLine c

def IsAttribute (l : Line) : Prop := l.type = lit "a" ∧ OneLine l.value

theorem isAttribute_attr {v : Bytes} : IsAttribute (attr v) ↔ OneLine v := by
  simp [IsAttribute, attr]

theorem wellFormed_line {key value : Bytes} (hkey : key ≠ [] ∧ equals ∉ key ∧ OneLine key)
    (hvalue : OneLine value) : (line key value).WellFormed :=
  ⟨hkey.1, hkey.2.1, hkey.2.2, hvalue⟩

theorem IsAttribute.wellFormed {l : Line} (h : IsAttribute l) : l.WellFormed := by
  obtain ⟨type, value⟩ := l
  obtain ⟨rfl, hvalue⟩ := h
  exact wellFormed_line (by decide) hvalue

theorem IsAttribute.type_ne_m {l : Line} (h : IsAttribute l) : l.type ≠ lit "m" := by
  rw [h.1]
  decide

theorem oneLine_formatNat (n : ℕ) : OneLine (formatNat n) :=
  .of_graphic (graphic_formatBase (by norm_num) (by norm_num) n)

theorem oneLine_itoa (n : ℤ) : OneLine (itoa n) := .of_graphic (graphic_itoa n)

theorem oneLine_joinSpace {ws : List Bytes} (h : ∀ w ∈ ws, OneLine w) : OneLine (joinSpace ws) :=
  OneLine.intercalate (by decide) h

theorem ipString_ne_nil (ip : IP) : ipString ip ≠ [] := by
  intro hnil
  have hparse := parseIP_ipString ip
  rw [hnil] at hparse
  cases hparse

theorem graphic_ipText (ip : Option IP) : ipText ip ≠ [] ∧ ∀ b ∈ ipText ip, Graphic b := by
  cases ip with
  | none => decide
  | some ip => exact ⟨ipString_ne_nil ip, graphic_ipString ip⟩

theorem graphic_sdpIP (ip : Option IP) : sdpIP ip ≠ [] ∧ ∀ b ∈ sdpIP ip, Graphic b := by
  unfold sdpIP
  split <;> decide

theorem oneLine_mode (mode : Option Mode) : OneLine ((mode.map Mode.text).getD []) := by
  cases mode with
  | none => decide
  | some mode => cases mode <;> decide

theorem oneLine_mediaValue {m : MediaDescription} (h : m.Words) : OneLine m.value := by
  have hports : OneLine m.ports := by
    unfold MediaDescription.ports
    rw [oneLine_append]
    refine ⟨oneLine_itoa _, ?_⟩
    split
    · exact oneLine_cons.mpr ⟨by decide, oneLine_itoa _⟩
    · exact oneLine_nil
  apply oneLine_joinSpace
  simp only [List.forall_mem_cons]
  exact ⟨h.mediaType.2.oneLine, hports, h.proto.2.oneLine,
    oneLine_joinSpace fun f hf => (h.format f hf).2.oneLine, by simp⟩

theorem isAttribute_cryptoLines {sdes : Option SdesInline}
    (h : ∀ x ∈ sdes, OneLine x.alg ∧ OneLine x.base64) : ∀ l ∈ cryptoLines sdes, IsAttribute l := by
  intro l hl
  simp only [cryptoLines, List.mem_map, List.mem_filter, Option.mem_toList] at hl
  obtain ⟨x, ⟨hx, -⟩, rfl⟩ := hl
  rw [isAttribute_attr, SdesInline.value]
  simp only [oneLine_append, oneLine_cons]
  exact ⟨⟨⟨⟨by decide, oneLine_itoa _⟩, by decide, (h x hx).1⟩, by decide⟩, (h x hx).2⟩

theorem oneLine_setup (role : SetupRole) : OneLine role.text := by
  cases role <;> decide

theorem isAttribute_dtlsLines {dtls : Option DTLSSetup}
    (h : ∀ x ∈ dtls, OneLine x.tlsID ∧
      ∀ fp ∈ x.fingerprints, OneLine fp.alg ∧ OneLine fp.fingerprint) :
    ∀ l ∈ dtlsLines dtls, IsAttribute l := by
  cases dtls with
  | none => simp [dtlsLines]
  | some x =>
    obtain ⟨htlsID, hfps⟩ := h x rfl
    simp only [dtlsLines, List.forall_mem_append, List.forall_mem_singleton, List.forall_mem_map,
      isAttribute_attr, oneLine_append]
    refine ⟨⟨⟨by decide, oneLine_setup _⟩, fun fp hfp => ?_⟩, ?_⟩
    · obtain ⟨halg, hfingerprint⟩ := hfps fp (List.mem_of_mem_filter hfp)
      exact ⟨⟨by decide, halg⟩, oneLine_cons.mpr ⟨by decide, hfingerprint⟩⟩
    · split
      · simp only [List.forall_mem_singleton, isAttribute_attr, oneLine_append]
        exact ⟨by decide, htlsID⟩
      · simp

theorem isAttribute_iceLines {ice : Option ICESetup}
    (h : ∀ x ∈ ice, OneLine x.ufrag ∧ OneLine x.pwd ∧ ∀ c ∈ x.candidates, OneLine c) :
    ∀ l ∈ iceLines ice, IsAttribute l := by
  cases ice with
  | none => simp [iceLines]
  | some x =>
    obtain ⟨hufrag, hpwd, hcandidates⟩ := h x rfl
    simp only [iceLines, List.forall_mem_append, List.forall_mem_cons, List.forall_mem_map,
      isAttribute_attr, oneLine_append]
    refine ⟨⟨⟨⟨by decide, hufrag⟩, ⟨by decide, hpwd⟩, by simp⟩, hcandidates⟩, ?_⟩
    split
    · simp only [List.forall_mem_singleton, isAttribute_attr]
      decide
    · simp

theorem isAttribute_iceLiteLines (ice : Option ICESetup) :
    ∀ l ∈ iceLiteLines ice, IsAttribute l := by
  unfold iceLiteLines
  split
  · simp only [List.forall_mem_singleton, isAttribute_attr]
    decide
  · simp

section Fold
variable [UnicodeCase]

theorem isAttribute_formatRTPMap {c : Codec} (h : OneLine c.name) :
    ∀ l ∈ formatRTPMap c, IsAttribute l := by
  have hformat : OneLine (formatOf c) := oneLine_formatNat _
  have hsplit : OneLine (lit "rtpmap:") ∧ OneLine (lit "fmtp:") := by decide
  unfold formatRTPMap rtpmapHead
  split_ifs
  all_goals
    simp only [List.forall_mem_cons, isAttribute_attr, oneLine_append, oneLine_cons]
  · exact ⟨⟨⟨⟨hsplit.1, hformat⟩, by decide⟩, by decide⟩,
      ⟨⟨⟨hsplit.2, hformat⟩, by decide⟩, by decide⟩, by simp⟩
  · exact ⟨⟨⟨⟨hsplit.1, hformat⟩, by decide⟩, by decide⟩,
      ⟨⟨⟨hsplit.2, hformat⟩, by decide⟩, by decide⟩, by simp⟩
  · exact ⟨by decide, by simp⟩
  · exact ⟨by decide, by simp⟩
  · exact ⟨by decide, by simp⟩
  · exact ⟨⟨⟨⟨⟨⟨hsplit.1, hformat⟩, by decide⟩, h⟩, by decide, oneLine_formatNat _⟩,
      by decide, oneLine_itoa _⟩, by simp⟩

/-- The attributes of the audio stream, in the order in which they are written. -/
def Description.attributeLines (d : Description) : List Line :=
  d.codecs.flatMap formatRTPMap ++
    [attr (lit "ptime:20"), attr (lit "maxptime:20"), attr ((d.mode.map Mode.text).getD [])] ++
    cryptoLines d.sdes ++ dtlsLines d.dtls ++ iceLines d.ice

variable {d : Description} (h : d.Legible)
include h

theorem Description.Legible.attributeLines : ∀ l ∈ d.attributeLines, IsAttribute l := by
  have hcodecs : ∀ l ∈ d.codecs.flatMap formatRTPMap, IsAttribute l := by
    intro l hl
    obtain ⟨c, hc, hl⟩ := List.mem_flatMap.mp hl
    exact isAttribute_formatRTPMap (h.names c hc) l hl
  simp only [Description.attributeLines, List.forall_mem_append, List.forall_mem_cons,
    isAttribute_attr]
  exact ⟨⟨⟨⟨hcodecs, by decide, by decide, oneLine_mode _, by simp⟩,
    isAttribute_cryptoLines h.sdes⟩, isAttribute_dtlsLines h.dtls⟩, isAttribute_iceLines h.ice⟩

omit [UnicodeCase] in
theorem Description.Legible.audioMedia_words : d.audioMedia.Words where
  mediaType :=
    have hword : lit "audio" ≠ [] ∧ ∀ b ∈ lit "audio", Graphic b := by decide
    ⟨hword.1, NoSpace.of_graphic hword.2⟩
  proto := h.proto
  formats := by simpa [Description.audioMedia] using h.codecs
  format := by
    simp only [Description.audioMedia, List.forall_mem_map]
    intro c _
    exact ⟨formatBase_ne_nil _ _,
      NoSpace.of_graphic (graphic_formatBase (by norm_num) (by norm_num) _)⟩

omit h [UnicodeCase] in
theorem rejectedSection_wellFormed {md : MediaDescription} (h : md.Words) :
    (rejectedSection md).WellFormed :=
  ⟨_, [], rfl, parseMediaLine_value rfl (by simp) (by simp)
    ⟨h.mediaType, h.proto, h.formats, h.format⟩, by simp⟩

theorem Description.Legible.audioSection_wellFormed : d.audioSection.WellFormed :=
  ⟨_, d.attributeLines, rfl,
    parseMediaLine_value rfl h.port.1 h.port.2 h.audioMedia_words,
    fun l hl => (h.attributeLines l hl).type_ne_m⟩

omit [UnicodeCase] in
theorem Description.Legible.rejected : ∀ m ∈ d.streams.rejectedBefore ++ d.streams.rejectedAfter,
    ∃ md, md.Words ∧ m = rejectedSection md := by
  intro m hm
  simp only [OfferedStreams.rejectedBefore, OfferedStreams.rejectedAfter, List.mem_append,
    List.mem_map] at hm
  rcases hm with ⟨md, hmd, rfl⟩ | ⟨md, hmd, rfl⟩
  · exact ⟨md, h.streams md (List.mem_of_mem_take hmd), rfl⟩
  · exact ⟨md, h.streams md (List.mem_of_mem_drop hmd), rfl⟩

omit h [UnicodeCase] in
theorem sessionLines_wellFormed (d : Description) :
    ∀ l ∈ d.sessionLines, l.WellFormed ∧ l.type ≠ lit "m" := by
  have horigin : OneLine d.origin := by
    apply oneLine_joinSpace
    simp only [List.forall_mem_cons]
    exact ⟨by decide, oneLine_formatNat _, oneLine_formatNat _, by decide, (.of_graphic (graphic_sdpIP _).2),
      (.of_graphic (graphic_ipText _).2), by simp⟩
  have hconn : OneLine (joinSpace [lit "IN", sdpIP d.connectionIP, ipText d.connectionIP]) := by
    apply oneLine_joinSpace
    simp only [List.forall_mem_cons]
    exact ⟨by decide, (.of_graphic (graphic_sdpIP _).2), (.of_graphic (graphic_ipText _).2), by simp⟩
  have hline {key value : Bytes} (hkey : key ≠ [] ∧ equals ∉ key ∧ OneLine key)
      (hm : key ≠ lit "m") (hvalue : OneLine value) :
      (line key value).WellFormed ∧ (line key value).type ≠ lit "m" :=
    ⟨wellFormed_line hkey hvalue, hm⟩
  simp only [Description.sessionLines, List.forall_mem_append, List.forall_mem_cons]
  exact ⟨⟨hline (by decide) (by decide) (by decide), hline (by decide) (by decide) horigin,
    hline (by decide) (by decide) (by decide), hline (by decide) (by decide) hconn,
    hline (by decide) (by decide) (by decide), by simp⟩, fun l hl =>
    ⟨(isAttribute_iceLiteLines d.ice l hl).wellFormed,
      (isAttribute_iceLiteLines d.ice l hl).type_ne_m⟩⟩

theorem Description.Legible.sections_wellFormed : d.sections.WellFormed where
  session := fun l hl => (sessionLines_wellFormed d l hl).2
  media := by
    intro m hm
    simp only [Description.sections, List.mem_append, List.mem_cons] at hm
    by_cases hrejected : m ∈ d.streams.rejectedBefore ++ d.streams.rejectedAfter
    · obtain ⟨md, hmd, rfl⟩ := h.rejected m hrejected
      exact rejectedSection_wellFormed hmd
    · obtain rfl : m = d.audioSection := by
        simp only [List.mem_append, not_or] at hrejected
        tauto
      exact h.audioSection_wellFormed

theorem Description.Legible.lines_wellFormed : ∀ l ∈ d.sections.lines, l.WellFormed := by
  have hmedia {md : MediaDescription} (hmd : md.Words) : (line (lit "m") md.value).WellFormed :=
    wellFormed_line (by decide) (oneLine_mediaValue hmd)
  have hrejected : ∀ m ∈ d.streams.rejectedBefore ++ d.streams.rejectedAfter,
      ∀ l ∈ m.lines, l.WellFormed := by
    intro m hm l hl
    obtain ⟨md, hmd, rfl⟩ := h.rejected m hm
    rw [List.mem_singleton.mp hl]
    exact hmedia ⟨hmd.mediaType, hmd.proto, hmd.formats, hmd.format⟩
  have haudio : ∀ l ∈ d.audioSection.lines, l.WellFormed := by
    change ∀ l ∈ line (lit "m") d.audioMedia.value :: d.attributeLines, l.WellFormed
    simp only [List.forall_mem_cons]
    exact ⟨hmedia h.audioMedia_words, fun l hl => (h.attributeLines l hl).wellFormed⟩
  simp only [Sections.lines, Description.sections, List.forall_mem_append, List.flatMap_append,
    List.flatMap_cons, List.mem_flatMap, forall_exists_index, and_imp] at hrejected ⊢
  exact ⟨fun l hl => (sessionLines_wellFormed d l hl).1, fun l m hm hl => hrejected.1 m hm l hl,
    haudio, fun l m hm hl => hrejected.2 m hm l hl⟩

theorem unmarshalSections_generateSDPForAudio :
    unmarshalSections (generateSDPForAudio d) = .ok d.sections :=
  unmarshalSections_marshalLines h.sections_wellFormed h.lines_wellFormed

end Fold

theorem values_of_attributes {ls : List Line} (h : ∀ l ∈ ls, l.type = lit "a") :
    values ls (lit "a") = ls.map Line.value := by
  simp only [values]
  rw [List.filter_eq_self.mpr (by simpa using h)]

section Read
variable [UnicodeCase]

theorem attributeLines_type (d : Description) : ∀ l ∈ d.attributeLines, l.type = lit "a" := by
  have hmap {xs : List Bytes} : ∀ l ∈ xs.map attr, l.type = lit "a" := by simp [attr]
  have hcodec (c : Codec) : ∀ l ∈ formatRTPMap c, l.type = lit "a" := by
    unfold formatRTPMap
    split_ifs
    all_goals simp [attr]
  have hcrypto : ∀ l ∈ cryptoLines d.sdes, l.type = lit "a" := by
    simp only [cryptoLines, List.forall_mem_map]
    exact fun _ _ => rfl
  have hdtls : ∀ l ∈ dtlsLines d.dtls, l.type = lit "a" := by
    cases d.dtls with
    | none => simp [dtlsLines]
    | some x =>
      simp only [dtlsLines, List.forall_mem_append, List.forall_mem_map]
      refine ⟨⟨by simp [attr], fun _ _ => rfl⟩, ?_⟩
      split <;> simp [attr]
  have hice : ∀ l ∈ iceLines d.ice, l.type = lit "a" := by
    cases d.ice with
    | none => simp [iceLines]
    | some x =>
      simp only [iceLines, List.forall_mem_append]
      refine ⟨⟨by simp [attr], hmap⟩, ?_⟩
      split <;> simp [attr]
  simp only [Description.attributeLines, List.forall_mem_append]
  refine ⟨⟨⟨⟨fun l hl => ?_, by simp [attr]⟩, hcrypto⟩, hdtls⟩, hice⟩
  obtain ⟨c, -, hl⟩ := List.mem_flatMap.mp hl
  exact hcodec c l hl

def Description.lines (d : Description) : List Line := d.sections.description d.audioSection

def Description.attributes (d : Description) : List Bytes :=
  (iceLiteLines d.ice).map Line.value ++ d.attributeLines.map Line.value

theorem Description.lines_eq (d : Description) :
    d.lines = d.sessionLines ++ line (lit "m") d.audioMedia.value :: d.attributeLines := rfl

theorem values_lines_attributes (d : Description) : values d.lines (lit "a") = d.attributes := by
  have hlite : ∀ l ∈ iceLiteLines d.ice, l.type = lit "a" :=
    fun l hl => (isAttribute_iceLiteLines d.ice l hl).1
  have hkeys : lit "v" ≠ lit "a" ∧ lit "o" ≠ lit "a" ∧ lit "s" ≠ lit "a" ∧ lit "c" ≠ lit "a" ∧
      lit "t" ≠ lit "a" ∧ lit "m" ≠ lit "a" := by decide
  obtain ⟨hv, ho, hs, hc, ht, hm⟩ := hkeys
  rw [Description.lines_eq, Description.sessionLines]
  simp only [values_append, values_cons, values_nil, line, hv, ho, hs, hc, ht, hm, if_false,
    values_of_attributes hlite, values_of_attributes (attributeLines_type d), List.nil_append,
    Description.attributes]

theorem values_lines_of_ne (d : Description) {key : Bytes} (hkey : key ≠ lit "a") :
    values d.lines key =
      values [line (lit "v") (lit "0"), line (lit "o") d.origin,
        line (lit "s") (lit "Sip Go Media"),
        line (lit "c") (joinSpace [lit "IN", sdpIP d.connectionIP, ipText d.connectionIP]),
        line (lit "t") (lit "0 0"), line (lit "m") d.audioMedia.value] key := by
  have hnone {ls : List Line} (h : ∀ l ∈ ls, l.type = lit "a") : values ls key = [] :=
    values_eq_nil fun l hl => by rw [h l hl]; exact Ne.symm hkey
  have hlite : ∀ l ∈ iceLiteLines d.ice, l.type = lit "a" :=
    fun l hl => (isAttribute_iceLiteLines d.ice l hl).1
  rw [Description.lines_eq, Description.sessionLines, List.append_cons]
  simp only [values_append, hnone hlite, hnone (attributeLines_type d), List.append_nil]
  exact (values_append _ _ _).symm

theorem connectionInformation_lines (d : Description) {ip : IP} (hip : d.connectionIP = some ip) :
    ∃ ci, connectionInformation d.lines = .ok ci ∧ ci.ip = some ip := by
  have hm : values d.lines (lit "m") = [d.audioMedia.value] := by
    rw [values_lines_of_ne d (by decide)]
    simp +decide [values_cons, line]
  have hc : values d.lines (lit "c") =
      [joinSpace [lit "IN", sdpIP (some ip), ipString ip]] := by
    rw [values_lines_of_ne d (by decide), hip]
    simp +decide [values_cons, line, ipText]
  have hfields : fields (joinSpace [lit "IN", sdpIP (some ip), ipString ip]) =
      [lit "IN", sdpIP (some ip), ipString ip] := by
    have htype := graphic_sdpIP (some ip)
    have hin : lit "IN" ≠ [] ∧ ∀ b ∈ lit "IN", Graphic b := by decide
    apply fields_intercalate
    simp only [List.forall_mem_cons]
    exact ⟨⟨hin.1, .of_graphic hin.2⟩, ⟨htype.1, .of_graphic htype.2⟩,
      ⟨ipString_ne_nil ip, .of_graphic (graphic_ipString ip)⟩, by simp⟩
  have hsplit : (ipString ip).splitOn slash = [ipString ip] := by
    have hone : ∀ w ∈ [ipString ip], slash ∉ w := by
      simp only [List.forall_mem_singleton]
      exact fun hmem => (ipString_graphic_ne_slash ip slash hmem).2 rfl
    simpa using List.splitOn_intercalate slash hone (by simp)
  unfold connectionInformation
  rw [hm, hc]
  simp only [List.length_singleton, lt_self_iff_false, if_false, List.getLast?_singleton, hfields,
    hsplit, List.headD_cons, parseIP_ipString]
  cases ip with
  | v4 a b c d =>
    simp only [sdpIP, to4, Option.isSome_some, if_true]
    exact ⟨_, rfl, rfl⟩
  | v6 addr unmapped =>
    have hne : lit "IP6" ≠ lit "IP4" := by decide
    simp only [sdpIP, to4, Option.isSome_none, Bool.false_eq_true, if_false, hne, if_true,
      Option.isSome_some]
    exact ⟨_, rfl, rfl⟩

theorem sessionInformation_lines (d : Description) :
    sessionInformation d.lines = .ok
      { origin := lit "-"
        sessionID := d.sessionID
        sessionVersion := d.sessionVersion
        networkType := lit "IN"
        addressType := sdpIP d.originIP
        address := ipText d.originIP } := by
  have ho : values d.lines (lit "o") = [d.origin] := by
    rw [values_lines_of_ne d (by decide)]
    simp +decide [values_cons, line]
  have hfields : fields d.origin = [lit "-", formatNat d.sessionID.toNat,
      formatNat d.sessionVersion.toNat, lit "IN", sdpIP d.originIP, ipText d.originIP] := by
    have hword {w : Bytes} (h : w ≠ [] ∧ ∀ b ∈ w, Graphic b) : w ≠ [] ∧ NoSpace w :=
      ⟨h.1, .of_graphic h.2⟩
    have hnat (n : ℕ) : formatNat n ≠ [] ∧ ∀ b ∈ formatNat n, Graphic b :=
      ⟨formatBase_ne_nil _ _, graphic_formatBase (by norm_num) (by norm_num) n⟩
    apply fields_intercalate
    simp only [List.forall_mem_cons]
    exact ⟨hword (by decide), hword (hnat _), hword (hnat _), hword (by decide),
      hword (graphic_sdpIP _), hword (graphic_ipText _), by simp⟩
  have hne : d.origin ≠ [] := by
    intro hnil
    rw [hnil] at hfields
    cases hfields
  have hnumber (n : UInt64) : parseUint64 (formatNat n.toNat) = .ok n := by
    rw [parseUint64, parseUint_formatNat n.toNat_lt]
    simp only [UInt64.ofNat_toNat]
  unfold sessionInformation
  simp only [ho, List.headD_cons, if_neg hne, hfields, hnumber]
  rfl

end Read
end Diago.Media
