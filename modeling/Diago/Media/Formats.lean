import Diago.Media.Direction
import Diago.Media.Legible

/-! # The formats of a written description

A codec is written by its encoding name, and opus and telephone-event with fixed
rates. It is read by the number of its format, and every a=rtpmap line of that number
is a codec.
-/
namespace Diago.Media
open Lib SDP Op

def TokenByte (b : UInt8) : Prop :=
  b = 0x21 ∨ (0x23 ≤ b ∧ b ≤ 0x27) ∨ (0x2A ≤ b ∧ b ≤ 0x2B) ∨ (0x2D ≤ b ∧ b ≤ 0x2E) ∨
    (0x30 ≤ b ∧ b ≤ 0x39) ∨ (0x41 ≤ b ∧ b ≤ 0x5A) ∨ (0x5E ≤ b ∧ b ≤ 0x7E)

instance (b : UInt8) : Decidable (TokenByte b) := inferInstanceAs (Decidable (_ ∨ _))

def Token (w : Bytes) : Prop := w ≠ [] ∧ ∀ b ∈ w, TokenByte b

instance (w : Bytes) : Decidable (Token w) := inferInstanceAs (Decidable (_ ∧ _))

def Codec.Plain (c : Codec) : Prop := space ∉ c.name ∧ slash ∉ c.name

theorem Token.plain {c : Codec} (h : Token c.name) : c.Plain := by
  have hspace : ¬ TokenByte space := by decide
  have hslash : ¬ TokenByte slash := by decide
  exact ⟨fun hmem => hspace (h.2 _ hmem), fun hmem => hslash (h.2 _ hmem)⟩

def Codec.isDynamic (c : Codec) : Bool :=
  c.payloadType ≠ 0 && c.payloadType ≠ 8 && c.payloadType ≠ 9

theorem length_eq_one_of_flatMap {α β : Type*} {f : α → List β} {l : List α}
    (hpos : ∀ x ∈ l, 1 ≤ (f x).length) (hlen : (l.flatMap f).length = l.length) :
    ∀ x ∈ l, (f x).length = 1 := by
  have hle {l : List α} (hpos : ∀ x ∈ l, 1 ≤ (f x).length) : l.length ≤ (l.flatMap f).length := by
    induction l with
    | nil => simp
    | cons x l ih =>
      obtain ⟨hx, hl⟩ := List.forall_mem_cons.mp hpos
      have hrest := ih hl
      simp only [List.flatMap_cons, List.length_append, List.length_cons]
      omega
  induction l with
  | nil => simp
  | cons x l ih =>
    obtain ⟨hx, hl⟩ := List.forall_mem_cons.mp hpos
    have hrest := hle hl
    simp only [List.flatMap_cons, List.length_append, List.length_cons] at hlen
    exact List.forall_mem_cons.mpr ⟨by omega, ih hl (by omega)⟩

section Fold
variable [UnicodeCase]

def SameFormat (c c' : Codec) : Prop :=
  equalFold c.name c'.name = true ∧ c.payloadType = c'.payloadType ∧
    c.sampleRate = c'.sampleRate ∧ c.numChannels = c'.numChannels

/-- The format that the number or the name of the codec stands for, whatever its own is. -/
def Codec.fixedFormat (c : Codec) : Option Codec :=
  if c.payloadType = 0 then some codecAudioUlaw
  else if c.payloadType = 8 then some codecAudioAlaw
  else if c.payloadType = 9 then some codecAudioG722
  else if equalFold c.name codecAudioOpus.name then some codecAudioOpus
  else if equalFold c.name codecTelephoneEvent8000.name then some codecTelephoneEvent8000
  else none

/-- The codec is the format its number or its name stands for; any other one has a number of
channels that can be read. -/
def Codec.Faithful (c : Codec) : Prop :=
  match c.fixedFormat with
  | some f => equalFold c.name f.name = true ∧ c.sampleRate = f.sampleRate ∧
      c.numChannels = f.numChannels
  | none => 0 ≤ c.numChannels ∧ c.numChannels < 2 ^ 32

def Codec.written (c : Codec) : Codec :=
  match c.fixedFormat with
  | some f => { f with payloadType := c.payloadType, sampleDur := 20 * millisecond }
  | none => ⟨c.name, c.payloadType, c.sampleRate, 20 * millisecond,
      if 0 ≤ c.numChannels ∧ c.numChannels < 2 ^ 32 then c.numChannels else 1⟩

theorem sameFormat_written_iff (c : Codec) : SameFormat c c.written ↔ c.Faithful := by
  unfold SameFormat Codec.written Codec.Faithful
  cases c.fixedFormat with
  | some f => simp
  | none =>
    simp only [equalFold_refl, true_and]
    constructor
    · intro h
      split at h
      · assumption
      · omega
    · intro h
      rw [if_pos h]

/-- The text after the payload type of the codec's a=rtpmap line. -/
def Codec.encoding (c : Codec) : Bytes :=
  if equalFold c.name codecAudioOpus.name then lit "opus/48000/2"
  else if equalFold c.name codecTelephoneEvent8000.name then lit "telephone-event/8000"
  else if c.payloadType = codecAudioUlaw.payloadType then lit "PCMU/8000"
  else if c.payloadType = codecAudioAlaw.payloadType then lit "PCMA/8000"
  else if c.payloadType = codecAudioG722.payloadType then lit "G722/8000"
  else c.name ++ slash :: formatNat c.sampleRate.toNat ++ slash :: itoa c.numChannels

theorem formatRTPMap_values (c : Codec) : ∃ rest, (formatRTPMap c).map Line.value =
    (rtpmapHead (formatOf c) ++ c.encoding) :: rest ∧
      ∀ v ∈ rest, cutPre (lit "rtpmap:") v = none := by
  have hstatic {n : UInt8} {v w : Bytes} (hpt : c.payloadType = n)
      (hv : v = rtpmapHead (formatNat n.toNat) ++ w) : v = rtpmapHead (formatOf c) ++ w := by
    rw [formatOf, hpt, hv]
  unfold formatRTPMap Codec.encoding
  split_ifs with hopus hevent h0 h8 h9
  · refine ⟨_, rfl, ?_⟩
    simp only [List.map_cons, List.map_nil, List.forall_mem_singleton, attr, List.append_assoc]
    exact cutPre_append_eq_none (by decide) _
  · refine ⟨_, rfl, ?_⟩
    simp only [List.map_cons, List.map_nil, List.forall_mem_singleton, attr, List.append_assoc]
    exact cutPre_append_eq_none (by decide) _
  · exact ⟨[], by simpa [attr] using hstatic h0 (by decide), by simp⟩
  · exact ⟨[], by simpa [attr] using hstatic h8 (by decide), by simp⟩
  · exact ⟨[], by simpa [attr] using hstatic h9 (by decide), by simp⟩
  · exact ⟨[], by simp [attr], by simp⟩

omit [UnicodeCase] in
theorem cutPre_rtpmapHead_append (c c' : Codec) (text : Bytes) :
    cutPre (rtpmapHead (formatOf c)) (rtpmapHead (formatOf c') ++ text) =
      if c'.payloadType = c.payloadType then some text else none := by
  split_ifs with hpt
  · rw [formatOf, formatOf, hpt, cutPre_append]
  · rw [Option.eq_none_iff_forall_ne_some]
    intro rest heq
    rw [cutPre_eq_some, rtpmapHead, rtpmapHead] at heq
    simp only [List.append_assoc, List.append_cancel_left_eq, List.singleton_append] at heq
    have hspace : ¬ Graphic space := by decide
    obtain ⟨hformat, -⟩ :=
      (append_sep_inj (not_mem_formatNat hspace _) (not_mem_formatNat hspace _)).mp heq
    exact hpt (UInt8.toNat_inj.mp (formatNat_injective hformat))

omit [UnicodeCase] in
theorem readChannels_itoa (n : ℤ) :
    readChannels [itoa n] = if 0 ≤ n ∧ n < 2 ^ 32 then n else 1 := by
  unfold readChannels
  dsimp only
  split_ifs with h
  · have hread : parseUint 32 (itoa n) = .ok n.toNat := by
      rw [itoa, if_neg (by omega)]
      exact parseUint_formatNat (by omega)
    rw [hread]
    exact Int.toNat_of_nonneg h.1
  · obtain ⟨e, he⟩ := parseUint_itoa_error h
    rw [he]

omit [UnicodeCase] in
theorem readRTPMap_text {c : Codec} (hplain : c.Plain) :
    readRTPMap c.payloadType
        (c.name ++ slash :: formatNat c.sampleRate.toNat ++ slash :: itoa c.numChannels) =
      some ⟨c.name, c.payloadType, c.sampleRate, 20 * millisecond,
        if 0 ≤ c.numChannels ∧ c.numChannels < 2 ^ 32 then c.numChannels else 1⟩ := by
  obtain ⟨text, htext⟩ : ∃ text, text =
      c.name ++ slash :: formatNat c.sampleRate.toNat ++ slash :: itoa c.numChannels := ⟨_, rfl⟩
  have hrate : formatNat c.sampleRate.toNat = itoa c.sampleRate.toNat := by simp [itoa]
  have hspace : text.splitOn space = [text] := by
    have hone : ∀ w ∈ [text], space ∉ w := by
      have hslash : space ≠ slash := by decide
      rw [List.forall_mem_singleton, htext, hrate]
      simp only [List.mem_append, List.mem_cons, hslash, false_or, not_or]
      exact ⟨⟨hplain.1, space_not_graphic (graphic_itoa _)⟩, space_not_graphic (graphic_itoa _)⟩
    simpa using List.splitOn_intercalate space hone (by simp)
  have hslash : text.splitOn slash =
      [c.name, formatNat c.sampleRate.toNat, itoa c.numChannels] := by
    have hwords : ∀ w ∈ [c.name, formatNat c.sampleRate.toNat, itoa c.numChannels], slash ∉ w := by
      simp only [List.forall_mem_cons, hrate]
      exact ⟨hplain.2, slash_not_mem_itoa _, slash_not_mem_itoa _, by simp⟩
    simpa [List.intercalate_cons_cons, htext] using List.splitOn_intercalate slash hwords (by simp)
  rw [← htext, readRTPMap, hspace, List.headD_cons, hslash]
  simp only [parseUint_formatNat c.sampleRate.toNat_lt, readChannels_itoa, UInt32.ofNat_toNat]

theorem readRTPMap_encoding {c : Codec} (hplain : c.Plain) (hdynamic : c.isDynamic = true) :
    readRTPMap c.payloadType c.encoding = some c.written := by
  simp only [Codec.isDynamic, Bool.and_eq_true, decide_eq_true_eq] at hdynamic
  obtain ⟨⟨h0, h8⟩, h9⟩ := hdynamic
  have hnumbers : c.payloadType ≠ codecAudioUlaw.payloadType ∧
      c.payloadType ≠ codecAudioAlaw.payloadType ∧ c.payloadType ≠ codecAudioG722.payloadType :=
    ⟨h0, h8, h9⟩
  unfold Codec.encoding Codec.written Codec.fixedFormat
  simp only [h0, h8, h9, hnumbers.1, hnumbers.2.1, hnumbers.2.2, if_false]
  by_cases hopus : equalFold c.name codecAudioOpus.name = true
  · simp only [hopus, if_true]
    rfl
  · by_cases hevent : equalFold c.name codecTelephoneEvent8000.name = true
    · simp only [hopus, hevent, if_true]
      rfl
    · simp only [hopus, hevent]
      exact readRTPMap_text hplain

theorem filterMap_readRTPMap {codecs : List Codec} (hplain : ∀ c ∈ codecs, c.Plain) {c : Codec}
    (hdynamic : c.isDynamic = true) :
    ((codecs.flatMap formatRTPMap).map Line.value).filterMap
        (fun a => (cutPre (rtpmapHead (formatOf c)) a).bind (readRTPMap c.payloadType)) =
      (codecs.filter (·.payloadType = c.payloadType)).map Codec.written := by
  induction codecs with
  | nil => rfl
  | cons c' codecs ih =>
    obtain ⟨hc', hplain⟩ := List.forall_mem_cons.mp hplain
    obtain ⟨rest, hvalues, hrest⟩ := formatRTPMap_values c'
    have hnil : rest.filterMap
        (fun a => (cutPre (rtpmapHead (formatOf c)) a).bind (readRTPMap c.payloadType)) = [] := by
      rw [List.filterMap_eq_nil_iff]
      intro v hv
      rw [cutPre_rtpmapHead (hrest v hv), Option.bind_none]
    rw [List.flatMap_cons, List.map_append, List.filterMap_append, ih hplain, hvalues,
      List.filterMap_cons, hnil, cutPre_rtpmapHead_append, List.filter_cons]
    by_cases hpt : c'.payloadType = c.payloadType
    · have hread := readRTPMap_encoding hc' (show c'.isDynamic = true by
        rwa [Codec.isDynamic, hpt])
      rw [hpt] at hread
      simp [hpt, hread]
    · simp [hpt]

theorem readFormat_written {codecs : List Codec} (hplain : ∀ c ∈ codecs, c.Plain) (c : Codec) :
    readFormat ((codecs.flatMap formatRTPMap).map Line.value) (formatOf c) =
      if c.isDynamic then (codecs.filter (·.payloadType = c.payloadType)).map Codec.written
      else [c.written] := by
  have hformat {n : UInt8} {text : Bytes} (htext : text = formatNat n.toNat) :
      formatOf c = text ↔ c.payloadType = n := by
    rw [htext]
    exact ⟨fun h => UInt8.toNat_inj.mp (formatNat_injective h), fun h => by rw [formatOf, h]⟩
  have h0 : formatOf c = lit "0" ↔ c.payloadType = 0 := hformat (by decide)
  have h8 : formatOf c = lit "8" ↔ c.payloadType = 8 := hformat (by decide)
  have h9 : formatOf c = lit "9" ↔ c.payloadType = 9 := hformat (by decide)
  unfold readFormat
  by_cases hdynamic : c.isDynamic = true
  · rw [if_pos hdynamic, ← filterMap_readRTPMap hplain hdynamic]
    simp only [Codec.isDynamic, Bool.and_eq_true, decide_eq_true_eq] at hdynamic
    rw [if_neg (h0.not.mpr hdynamic.1.1), if_neg (h8.not.mpr hdynamic.1.2),
      if_neg (h9.not.mpr hdynamic.2), formatOf, parseUint_formatNat c.payloadType.toNat_lt]
    simp only [UInt8.ofNat_toNat]
  · rw [if_neg hdynamic]
    simp only [Codec.isDynamic, Bool.and_eq_true, decide_eq_true_eq, not_and_or, ne_eq,
      not_not] at hdynamic
    simp only [h0, h8, h9, Codec.written, Codec.fixedFormat]
    rcases hdynamic with (hpt | hpt) | hpt
    · simp [hpt, codecAudioUlaw]
    · simp [hpt, codecAudioAlaw]
    · simp [hpt, codecAudioG722]

/-- No two dynamic codecs share a number, and every codec is the format it is written as. -/
def FaithfulFormats (codecs : List Codec) : Prop :=
  ((codecs.filter Codec.isDynamic).map (·.payloadType)).Nodup ∧ ∀ c ∈ codecs, c.Faithful

omit [UnicodeCase] in
theorem nodup_dynamic_iff {codecs : List Codec} :
    ((codecs.filter Codec.isDynamic).map (·.payloadType)).Nodup ↔
      ∀ c ∈ codecs, c.isDynamic = true →
        (codecs.filter (·.payloadType = c.payloadType)).length = 1 := by
  have hcount {c : Codec} (hc : c.isDynamic = true) :
      ((codecs.filter Codec.isDynamic).map (·.payloadType)).count c.payloadType =
        (codecs.filter (·.payloadType = c.payloadType)).length := by
    rw [List.count, List.countP_map, ← List.countP_eq_length_filter, List.countP_filter]
    apply List.countP_congr
    intro c' _
    simp only [Function.comp_apply, beq_iff_eq, Bool.and_eq_true, decide_eq_true_eq,
      and_iff_left_iff_imp]
    intro hpt
    rwa [Codec.isDynamic, hpt]
  rw [List.nodup_iff_count_eq_one]
  simp only [List.forall_mem_map, List.mem_filter, and_imp]
  exact forall₂_congr fun c _ => forall_congr' fun hc => by rw [hcount hc]

theorem readBack_iff {codecs : List Codec} (hplain : ∀ c ∈ codecs, c.Plain) :
    (∃ read, readBack codecs = some read ∧ List.Forall₂ SameFormat codecs read) ↔
      FaithfulFormats codecs := by
  obtain ⟨block, hblock⟩ : ∃ block : Codec → List Codec, block = fun c =>
      if c.isDynamic then (codecs.filter (·.payloadType = c.payloadType)).map Codec.written
      else [c.written] := ⟨_, rfl⟩
  have hread : (codecs.map formatOf).flatMap
      (readFormat ((codecs.flatMap formatRTPMap).map Line.value)) = codecs.flatMap block := by
    rw [List.flatMap_map, hblock]
    exact congrArg codecs.flatMap (funext fun c => readFormat_written hplain c)
  have hmem {c : Codec} (hc : c ∈ codecs) : c ∈ codecs.filter (·.payloadType = c.payloadType) := by
    simp [hc]
  have hpos : ∀ c ∈ codecs, 1 ≤ (block c).length := by
    intro c hc
    rw [hblock]
    dsimp only
    split_ifs
    · rw [List.length_map]
      exact List.length_pos_of_mem (hmem hc)
    · simp
  have hsingle : ∀ c ∈ codecs, (block c).length = 1 → block c = [c.written] := by
    intro c hc hlen
    rw [hblock] at hlen ⊢
    dsimp only at hlen ⊢
    split_ifs at hlen ⊢
    · rw [List.length_map] at hlen
      obtain ⟨c', hc'⟩ := List.length_eq_one_iff.mp hlen
      have hown := hmem hc
      rw [hc', List.mem_singleton] at hown
      rw [hc', ← hown, List.map_singleton]
    · rfl
  have hwritten (hones : ∀ c ∈ codecs, (block c).length = 1) :
      codecs.flatMap block = codecs.map Codec.written := by
    rw [← List.flatMap_pure_eq_map]
    exact List.flatMap_congr fun c hc => hsingle c hc (hones c hc)
  have hdistinct : ((codecs.filter Codec.isDynamic).map (·.payloadType)).Nodup ↔
      ∀ c ∈ codecs, (block c).length = 1 := by
    rw [nodup_dynamic_iff, hblock]
    refine forall₂_congr fun c _ => ?_
    by_cases hc : c.isDynamic = true
    · simp [hc]
    · simp [hc]
  have hsame : List.Forall₂ SameFormat codecs (codecs.map Codec.written) ↔
      ∀ c ∈ codecs, c.Faithful := by
    rw [List.forall₂_map_right_iff, List.forall₂_same]
    exact forall₂_congr fun c _ => sameFormat_written_iff c
  unfold readBack codecsFromSDPRead FaithfulFormats
  rw [hread, hdistinct]
  constructor
  · rintro ⟨read, hsome, hall⟩
    dsimp only at hsome
    split at hsome
    · obtain rfl := Option.some.inj hsome
      have hones := length_eq_one_of_flatMap hpos hall.length_eq.symm
      rw [hwritten hones] at hall
      exact ⟨hones, hsame.mp hall⟩
    · cases hsome
  · rintro ⟨hones, hfaithful⟩
    rw [hwritten hones]
    exact ⟨_, if_pos (by simp), hsame.mpr hfaithful⟩

/-- Section `i` of the body reads as these codecs, in their order. -/
def DescribesCodecs (body : Bytes) (i : ℕ) (codecs : List Codec) : Prop :=
  ∃ sections m read, unmarshalSections body = .ok sections ∧ sections.media[i]? = some m ∧
    codecsFromSDPRead m.media.formats (values (sections.description m) (lit "a"))
      m.media.formats.length = some read ∧ List.Forall₂ SameFormat codecs read

theorem describesCodecs_generateSDPForAudio {d : Description} {i : ℕ} (hd : d.Legible)
    (hplain : ∀ c ∈ d.codecs, c.Plain)
    (hice : ∀ x ∈ d.ice, ∀ c ∈ x.candidates, cutPre (lit "rtpmap:") c = none)
    (hi : d.sections.media[i]? = some d.audioSection) :
    DescribesCodecs (generateSDPForAudio d) i d.codecs ↔ FaithfulFormats d.codecs := by
  have hread := codecsFromSDPRead_attributes d hice
  rw [← values_lines_attributes] at hread
  rw [← readBack_iff hplain, ← hread]
  constructor
  · rintro ⟨sections, m, read, hsections, hm, hcodecs, hall⟩
    obtain rfl := Except.ok.inj ((unmarshalSections_generateSDPForAudio hd).symm.trans hsections)
    obtain rfl := Option.some.inj (hi.symm.trans hm)
    exact ⟨read, hcodecs, hall⟩
  · rintro ⟨read, hcodecs, hall⟩
    exact ⟨d.sections, d.audioSection, read, unmarshalSections_generateSDPForAudio hd, hi, hcodecs,
      hall⟩

end Fold

/-- The name of a codec that is read ends where the text around it goes on. -/
theorem readFormat_plain {attrs : List Bytes} {f : Bytes} : ∀ c ∈ readFormat attrs f, c.Plain := by
  unfold readFormat
  split_ifs
  · simp only [List.forall_mem_singleton]
    exact Token.plain (by decide)
  · simp only [List.forall_mem_singleton]
    exact Token.plain (by decide)
  · simp only [List.forall_mem_singleton]
    exact Token.plain (by decide)
  · split
    · simp
    · intro c hc
      obtain ⟨a, -, hread⟩ := List.mem_filterMap.mp hc
      obtain ⟨str, -, hread⟩ := Option.bind_eq_some_iff.mp hread
      unfold readRTPMap at hread
      split at hread
      · rename_i name rate rest hsplit
        split at hread
        · obtain rfl := Option.some.inj hread
          have hname : name ∈ ((str.splitOn space).headD []).splitOn slash := by
            rw [hsplit]
            exact List.mem_cons_self
          refine ⟨fun hspace => ?_, not_mem_of_mem_splitOn hname⟩
          cases hwords : str.splitOn space with
          | nil => exact absurd hwords (List.splitOn_ne_nil _ _)
          | cons w ws =>
            rw [hwords, List.headD_cons] at hname
            have hw : w ∈ str.splitOn space := by simp [hwords]
            exact not_mem_of_mem_splitOn hw (mem_of_mem_splitOn hname hspace)
        · cases hread
      · cases hread

section Lib
variable [UnicodeCase] [SrtpLib] {g : Globals} {env : RemoteEnv} {body : Bytes}
  {s t : MediaSession} {sections : Sections} {audio : ℕ} {m : MediaSection}

/-- The negotiated codecs carry local names, or names the peer described. -/
theorem activeCodecs_plain (htokens : ∀ c ∈ s.codecs ++ s.filterCodecs, Token c.name)
    (hbody : chooseAudio body = .ok (sections, audio, m))
    (h : MediaSession.remoteSDP g env body s = (.ok (), t)) :
    t.activeCodecs ≠ [] ∧ ∀ c ∈ t.activeCodecs, c.Plain := by
  obtain ⟨r, happlied⟩ := remoteSDP_applied hbody h
  have hr := happlied.accepted
  obtain ⟨hlocal, hkept⟩ := List.forall_mem_append.mp htokens
  unfold MediaSession.activeCodecs
  rw [happlied.codecs, happlied.filterCodecs]
  by_cases hnil : s.codecs = []
  · simp only [hnil, if_true]
    split
    · rename_i hne
      exact ⟨hne, fun c hc => (hkept c hc).plain⟩
    · refine ⟨hr.remote, fun c hc => ?_⟩
      have hread := hr.codecs
      unfold codecsFromSDPRead at hread
      dsimp only at hread
      split at hread
      · rw [← Option.some.inj hread] at hc
        obtain ⟨f, -, hc⟩ := List.mem_flatMap.mp hc
        exact readFormat_plain c hc
      · cases hread
  · have hcommon := hr.common.resolve_left hnil
    simp only [hnil, if_false, hcommon, ne_eq, not_false_eq_true, if_true, true_and]
    intro c hc
    obtain ⟨lc, hlc, hname⟩ := commonCodecs_name c hc
    have hplain := (hlocal lc hlc).plain
    rwa [Codec.Plain, ← hname] at hplain

/-- A body written after an accepted offer describes the negotiated codecs exactly when their
formats are faithful. -/
theorem negotiated_codecs_described_iff (g : Globals) (env : RemoteEnv) (env' : LocalEnv)
    (body : Bytes) (s t : MediaSession) (offer : Sections) (audio : ℕ) (m : MediaSection)
    (hs : s.Legible) (htokens : ∀ c ∈ s.codecs ++ s.filterCodecs, Token c.name)
    (hcandidates : ∀ e ∈ s.establishedICE, ∀ c ∈ e.localSetup.candidates, lit "candidate:" <+: c)
    (hsdp : s.sdp = []) (hanswer : s.remoteSDPIsAnswer = false)
    (hbody : chooseAudio body = .ok (offer, audio, m))
    (happly : MediaSession.remoteSDP g env body s = (.ok (), t)) :
    DescribesCodecs (t.localSDP g env').1 audio t.activeCodecs ↔ FaithfulFormats t.activeCodecs := by
  obtain ⟨hcodecs, hplain⟩ := activeCodecs_plain htokens hbody happly
  obtain ⟨-, -, hm⟩ := chooseAudio_eq_ok.mp hbody
  obtain ⟨r, happlied⟩ := remoteSDP_applied hbody happly
  have hstreams := happlied.offeredStreams
  rw [hanswer, if_neg (by simp)] at hstreams
  have hquiet {c : Bytes} (hc : lit "candidate:" <+: c) : cutPre (lit "rtpmap:") c = none := by
    obtain ⟨rest, rfl⟩ := hc
    exact cutPre_append_eq_none (by decide) rest
  have hice : ∀ x ∈ (t.description g env').ice, ∀ c ∈ x.candidates,
      cutPre (lit "rtpmap:") c = none := by
    intro x hx c hc
    have hx : t.localICESetup = some x := hx
    unfold MediaSession.localICESetup at hx
    split at hx
    · obtain rfl := Option.some.inj hx
      obtain ⟨cand, -, rfl⟩ := List.mem_map.mp hc
      exact hquiet ⟨_, rfl⟩
    · rw [happlied.establishedICE] at hx
      obtain ⟨e, he, rfl⟩ := Option.map_eq_some_iff.mp hx
      exact hquiet (hcandidates e he c hc)
  have haudio : (t.description g env').sections.media[audio]? =
      some (t.description g env').audioSection := by
    have hlt : audio < offer.media.length := (List.getElem?_eq_some_iff.mp hm).1
    have hbefore : t.offeredStreams.rejectedBefore.length = audio := by
      simp [OfferedStreams.rejectedBefore, hstreams]
      omega
    have hsections : (t.description g env').sections.media = t.offeredStreams.rejectedBefore ++
        (t.description g env').audioSection :: t.offeredStreams.rejectedAfter := rfl
    rw [hsections, List.getElem?_append_right hbefore.le, hbefore]
    simp
  have hbodyText : (t.localSDP g env').1 = generateSDPForAudio (t.description g env') := by
    simp [MediaSession.localSDP, happlied.sdp, hsdp]
  rw [hbodyText]
  exact describesCodecs_generateSDPForAudio ((hs.remoteSDP happly).description hcodecs g env')
    hplain hice haudio

end Lib

section Sample

attribute [local instance] asciiOnly documentedSrtp

def eventCodec (rate : UInt32) : Codec :=
  { codecTelephoneEvent8000 with payloadType := 110, sampleRate := rate }

/-- A session with opus, and telephone-event at this rate. -/
def eventSession (rate : UInt32) : MediaSession :=
  { plainSession with codecs := [codecAudioOpus, eventCodec rate] }

def eventOffer (rate : Bytes) : Bytes :=
  marshalLines
    [⟨lit "v", lit "0"⟩, ⟨lit "o", lit "- 1 1 IN IP4 10.0.0.2"⟩, ⟨lit "s", lit "-"⟩,
      ⟨lit "c", lit "IN IP4 10.0.0.2"⟩, ⟨lit "t", lit "0 0"⟩,
      ⟨lit "m", lit "audio 4002 RTP/AVP 96 110"⟩, ⟨lit "a", lit "rtpmap:96 opus/48000/2"⟩,
      ⟨lit "a", lit "rtpmap:110 telephone-event/" ++ rate⟩]

def formatsEnv : LocalEnv := ⟨0x100000000, fun _ => 0, 4, sameLetter 0⟩

/-- At the rate it is written with, telephone-event is described. -/
theorem event_8000_described : ∃ t, MediaSession.remoteSDP {} plainRemote
      (eventOffer (lit "8000")) (eventSession 8000) = (.ok (), t) ∧
    DescribesCodecs (t.localSDP {} formatsEnv).1 0 t.activeCodecs := by
  have hchoose : (chooseAudio (eventOffer (lit "8000"))).toOption.map (fun x => x.2.1) = some 0 := by
    decide +kernel
  obtain ⟨⟨offer, audio, m⟩, hbody, haudio⟩ := Option.map_eq_some_iff.mp hchoose
  dsimp only at haudio
  subst haudio
  have hbody := ok_of_toOption hbody
  obtain ⟨t, happly, hactive⟩ := exists_ok
    (P := fun t : MediaSession => t.activeCodecs = [codecAudioOpus, eventCodec 8000])
    (x := MediaSession.remoteSDP {} plainRemote (eventOffer (lit "8000")) (eventSession 8000))
    (by decide +kernel)
  refine ⟨t, happly, (negotiated_codecs_described_iff {} plainRemote formatsEnv _ _ t offer 0 m
    ?_ (by decide) (by simp [eventSession, plainSession]) rfl rfl hbody happly).mpr ?_⟩
  · exact ⟨by decide, by simp [eventSession, plainSession], NoSpace.nil,
      by simp [eventSession, plainSession], by simp [eventSession, plainSession],
      by simp [eventSession, plainSession], by simp [eventSession, plainSession],
      by simp [eventSession, plainSession]⟩
  · rw [hactive]
    refine ⟨by decide, ?_⟩
    simp only [List.forall_mem_cons]
    exact ⟨⟨rfl, rfl, rfl⟩, ⟨rfl, rfl, rfl⟩, by simp⟩

/-- Telephone-event at 48000 is negotiated and described at 8000. -/
theorem event_48000_not_described : ∃ t, MediaSession.remoteSDP {} plainRemote
      (eventOffer (lit "48000")) (eventSession 48000) = (.ok (), t) ∧
    ¬ DescribesCodecs (t.localSDP {} formatsEnv).1 0 t.activeCodecs := by
  obtain ⟨t, happly, hactive, hread⟩ := exists_ok
    (P := fun t : MediaSession => t.activeCodecs.map (·.sampleRate) = [48000, 48000] ∧
      ((unmarshalSections (t.localSDP {} formatsEnv).1).toOption.bind fun sections =>
        (sections.media[0]?).bind fun m =>
          (codecsFromSDPRead m.media.formats (values (sections.description m) (lit "a"))
            m.media.formats.length).map (List.map (·.sampleRate))) = some [48000, 8000])
    (x := MediaSession.remoteSDP {} plainRemote (eventOffer (lit "48000")) (eventSession 48000))
    (by decide +kernel)
  refine ⟨t, happly, ?_⟩
  rintro ⟨sections, m, read, hsections, hm, hcodecs, hall⟩
  have hrates : t.activeCodecs.map (·.sampleRate) = read.map (·.sampleRate) := by
    rw [← List.forall₂_eq_eq_eq, List.forall₂_map_left_iff, List.forall₂_map_right_iff]
    exact hall.imp fun _ _ h => h.2.2.1
  simp only [hsections, Except.toOption, Option.bind_some, hm, hcodecs, Option.map_some,
    Option.some.injEq] at hread
  rw [hactive, hread] at hrates
  exact absurd hrates (by decide)

end Sample
end Diago.Media
