import Diago.Lib.Run
import Diago.Rtp.Dtmf

/-! # What the DTMF reader depends on

The reader decodes its whole buffer, also where the wrapped reader wrote nothing to
it, and under the header of the last packet with a payload, also when nothing was
read.
-/
namespace Diago.Rtp
open Lib Media

/-! ### Two runs over the same reads -/

def newRTPDTMFReader (codec : Codec) : RTPDtmfReader := { codec }

/-- A read into a buffer of `len` bytes, and whether ReadDTMF is called after it. -/
structure Turn where
  len : ℕ
  result : ReadResult
  polled : Bool := false
  fits : result.data.length ≤ len

def Turn.next (t : Turn) (w : RTPDtmfReader) (b : Bytes) : RTPDtmfReader :=
  if t.polled = true then (w.read b t.result).readDTMF.2 else w.read b t.result

/-- The same turn in two runs, with what their buffers held before. -/
structure Twin where
  turn : Turn
  fst : Bytes
  snd : Bytes
  fst_len : fst.length = turn.len
  snd_len : snd.length = turn.len

def Twin.step (s : RTPDtmfReader × RTPDtmfReader) (e : Twin) : RTPDtmfReader × RTPDtmfReader :=
  (e.turn.next s.1 e.fst, e.turn.next s.2 e.snd)

/-- The remembered event and the digits reported are as they were. -/
def Undisturbed (w v : RTPDtmfReader) : Prop :=
  v.lastEv = w.lastEv ∧ v.readDTMF.1 = w.readDTMF.1

/-- Both runs report the same after the read, and reading nothing disturbs neither. -/
def SameReports (s : RTPDtmfReader × RTPDtmfReader) (e : Twin) : Prop :=
  (s.1.read e.fst e.turn.result).readDTMF.1 = (s.2.read e.snd e.turn.result).readDTMF.1 ∧
    (e.turn.result.data = [] →
      Undisturbed s.1 (s.1.read e.fst e.turn.result) ∧
        Undisturbed s.2 (s.2.read e.snd e.turn.result))

/-- What is reported depends only on what was read, whatever the buffers held. -/
def DependsOnlyOnReads (codec : Codec) (turns : List Turn) : Prop :=
  ∀ es : List Twin, es.map Twin.turn = turns →
    Along Twin.step SameReports (newRTPDTMFReader codec, newRTPDTMFReader codec) es

/-! ### Reads that bring what the reader looks at -/

/-- The bytes read, or a buffer too small to be decoded, decide which event it is, whether it ends,
and if not whether its duration is zero. -/
def Decides (len : ℕ) : Bytes → Prop
  | [] => False
  | [_] => len < 4
  | [_, b₁] => len < 4 ∨ b₁ &&& 0x80 ≠ 0
  | [_, b₁, b₂] => len < 4 ∨ b₁ &&& 0x80 ≠ 0 ∨ b₂ ≠ 0
  | _ => True

/-- The read failed, was of another payload type, or brought enough of the event. -/
def Turn.Determined (codec : Codec) (t : Turn) : Prop :=
  t.result.failed = true ∨ t.result.header.payloadType ≠ codec.payloadType ∨
    Decides t.len t.result.data

/-- The event the reader decodes, in a buffer that held `b`. -/
def decoded (b data : Bytes) : DTMFEvent := (dtmfDecode (data ++ b.drop data.length)).getD {}

structure SameEvent (e f : DTMFEvent) : Prop where
  event : e.event = f.event
  ends : e.endOfEvent = f.endOfEvent
  started : e.endOfEvent = false → (e.duration = 0 ↔ f.duration = 0)

theorem dtmfDecode_short {bytes : Bytes} (h : bytes.length < 4) : dtmfDecode bytes = none := by
  match bytes, h with
  | [], _ | [_], _ | [_, _], _ | [_, _, _], _ => rfl

theorem decoded_short {b data : Bytes} (hfits : data.length ≤ b.length) (h : b.length < 4) :
    decoded b data = {} := by
  have hlen : (data ++ b.drop data.length).length < 4 := by
    rw [List.length_append, List.length_drop]
    omega
  rw [decoded, dtmfDecode_short hlen]
  rfl

theorem dtmfDecode_long {bytes : Bytes} (h : 4 ≤ bytes.length) :
    ∃ b₀ b₁ b₂ b₃ rest, bytes = b₀ :: b₁ :: b₂ :: b₃ :: rest := by
  match bytes, h with
  | b₀ :: b₁ :: b₂ :: b₃ :: rest, _ => exact ⟨b₀, b₁, b₂, b₃, rest, rfl⟩

theorem duration_ne_zero {b₂ : UInt8} (h : b₂ ≠ 0) (b₃ : UInt8) :
    UInt16.ofNat (256 * b₂.toNat + b₃.toNat) ≠ 0 := by
  have hpos : b₂.toNat ≠ 0 := fun h0 => h (UInt8.toNat_inj.mp h0)
  have h₂ := b₂.toNat_lt
  have h₃ := b₃.toNat_lt
  intro heq
  have hnat := congrArg UInt16.toNat heq
  rw [UInt16.toNat_ofNat'] at hnat
  simp only [UInt16.toNat_zero] at hnat
  omega

theorem sameEvent_of_decides {len : ℕ} {data b b' : Bytes} (h : Decides len data)
    (hfits : data.length ≤ len) (hb : b.length = len) (hb' : b'.length = len) :
    SameEvent (decoded b data) (decoded b' data) := by
  by_cases hshort : len < 4
  · rw [decoded_short (hfits.trans hb.ge) (hb.trans_lt hshort),
      decoded_short (hfits.trans hb'.ge) (hb'.trans_lt hshort)]
    exact ⟨rfl, rfl, fun _ => Iff.rfl⟩
  · obtain ⟨c₀, c₁, c₂, c₃, c, rfl⟩ := dtmfDecode_long (hb.ge.trans' (not_lt.mp hshort))
    obtain ⟨d₀, d₁, d₂, d₃, d, rfl⟩ := dtmfDecode_long (hb'.ge.trans' (not_lt.mp hshort))
    match data, h with
    | [_], h => exact absurd h hshort
    | [x, y], h =>
      have hends : y &&& 0x80 ≠ 0 := h.resolve_left hshort
      exact ⟨rfl, rfl, fun hnot => absurd hnot (by simp [decoded, dtmfDecode, hends])⟩
    | [x, y, z], h =>
      refine ⟨rfl, rfl, fun hnot => ?_⟩
      have hz : z ≠ 0 := by
        refine (h.resolve_left hshort).resolve_left fun hends => ?_
        simp [decoded, dtmfDecode, hends] at hnot
      exact iff_of_false (duration_ne_zero hz c₃) (duration_ne_zero hz d₃)
    | x :: y :: z :: u :: rest, _ => exact ⟨rfl, rfl, fun _ => Iff.rfl⟩

/-! ### Readers that are alike -/

structure Alike (codec : Codec) (w v : RTPDtmfReader) : Prop where
  fst : w.codec = codec
  snd : v.codec = codec
  lastTimestamp : w.lastTimestamp = v.lastTimestamp
  reported : w.readDTMF.1 = v.readDTMF.1
  event : w.lastEv.event = v.lastEv.event
  started : w.lastEv.duration = 0 ↔ v.lastEv.duration = 0

namespace Alike

variable {codec : Codec} {w v : RTPDtmfReader}

theorem refl (h : w.codec = codec) : Alike codec w w :=
  ⟨h, h, rfl, rfl, rfl, Iff.rfl⟩

theorem processDTMFEvent (h : Alike codec w v) {e f : DTMFEvent} (hev : SameEvent e f)
    (mbit : Bool) : Alike codec (w.processDTMFEvent e mbit) (v.processDTMFEvent f mbit) := by
  unfold RTPDtmfReader.processDTMFEvent
  rw [← hev.ends]
  by_cases hend : e.endOfEvent = true
  · simp only [if_pos hend, ← h.started, ← h.event, ← hev.event]
    split_ifs
    · exact h
    · exact h
    · exact ⟨h.fst, h.snd, h.lastTimestamp, rfl, rfl, Iff.rfl⟩
  · simp only [if_neg hend]
    split_ifs
    · exact h
    · exact ⟨h.fst, h.snd, h.lastTimestamp, h.reported, hev.event,
        hev.started (Bool.eq_false_iff.mpr hend)⟩

theorem read (h : Alike codec w v) {t : Turn} (ht : t.Determined codec) {b b' : Bytes}
    (hb : b.length = t.len) (hb' : b'.length = t.len) :
    Alike codec (w.read b t.result) (v.read b' t.result) := by
  unfold RTPDtmfReader.read
  rw [h.fst, h.snd, ← h.lastTimestamp]
  split_ifs with hfailed hother
  · exact h
  · exact h
  · have hdecides := (ht.resolve_left hfailed).resolve_left hother
    have hev := sameEvent_of_decides hdecides t.fits hb hb'
    have halike := h.processDTMFEvent hev
      (t.result.header.marker || w.lastTimestamp ≠ t.result.header.timestamp)
    exact ⟨halike.fst, halike.snd, rfl, halike.reported, halike.event, halike.started⟩

theorem next (h : Alike codec w v) {t : Turn} (ht : t.Determined codec) {b b' : Bytes}
    (hb : b.length = t.len) (hb' : b'.length = t.len) :
    Alike codec (t.next w b) (t.next v b') := by
  have hread := h.read ht hb hb'
  unfold Turn.next
  split_ifs
  · refine ⟨hread.fst, hread.snd, hread.lastTimestamp, ?_, hread.event, hread.started⟩
    have hdigit := congrArg Prod.fst hread.reported
    exact congrArg (·, false) hdigit
  · exact hread

end Alike

theorem read_nothing {codec : Codec} {t : Turn} (ht : t.Determined codec)
    (hnothing : t.result.data = []) {w : RTPDtmfReader} (hw : w.codec = codec) (b : Bytes) :
    w.read b t.result = w := by
  unfold RTPDtmfReader.read
  rw [hw]
  split_ifs with hfailed hother
  · rfl
  · rfl
  · have hdecides := (ht.resolve_left hfailed).resolve_left hother
    rw [hnothing] at hdecides
    exact hdecides.elim

theorem sameReports_of_alike {codec : Codec} {s : RTPDtmfReader × RTPDtmfReader}
    (h : Alike codec s.1 s.2) {e : Twin} (he : e.turn.Determined codec) : SameReports s e := by
  refine ⟨(h.read he e.fst_len e.snd_len).reported, fun hnothing => ?_⟩
  rw [read_nothing he hnothing h.fst, read_nothing he hnothing h.snd]
  exact ⟨⟨rfl, rfl⟩, rfl, rfl⟩

/-- Whatever the buffers held, two runs of determined reads report the same. -/
theorem dependsOnlyOnReads_of_determined {codec : Codec} {turns : List Turn}
    (h : ∀ t ∈ turns, t.Determined codec) : DependsOnlyOnReads codec turns := by
  intro es hes
  have hall : ∀ e ∈ es, e.turn.Determined codec := by
    intro e he
    apply h
    rw [← hes]
    exact List.mem_map_of_mem he
  have hstart : Alike codec (newRTPDTMFReader codec) (newRTPDTMFReader codec) := Alike.refl rfl
  exact Along.of_invariant (fun s => Alike codec s.1 s.2)
    (fun s e hs he => hs.next he e.fst_len e.snd_len)
    (fun s e hs he => sameReports_of_alike hs he) hstart (Along.of_mem hall _)

/-! ### Reads that leave it to the buffer -/

def starting (codec : Codec) (e : UInt8) (timestamp : UInt32) : Turn where
  len := 4
  result :=
    { data := [e, 0, 0, 1]
      header := { marker := true, payloadType := codec.payloadType, timestamp } }
  fits := le_refl 4

def ending (codec : Codec) (e : UInt8) (timestamp : UInt32) : Turn where
  len := 4
  result :=
    { data := [e, 0x80, 0, 1], header := { payloadType := codec.payloadType, timestamp } }
  fits := le_refl 4

theorem determined_starting (codec : Codec) (e : UInt8) (timestamp : UInt32) :
    (starting codec e timestamp).Determined codec := .inr (.inr trivial)

theorem determined_ending (codec : Codec) (e : UInt8) (timestamp : UInt32) :
    (ending codec e timestamp).Determined codec := .inr (.inr trivial)

def Turn.blank (t : Turn) : Twin :=
  ⟨t, List.replicate t.len 0, List.replicate t.len 0, List.length_replicate, List.length_replicate⟩

def heldBefore (len : ℕ) (front : Bytes) : Bytes := front ++ List.replicate (len - front.length) 0

theorem length_heldBefore {len : ℕ} {front : Bytes} (h : front.length ≤ len) :
    (heldBefore len front).length = len := by
  rw [heldBefore, List.length_append, List.length_replicate]
  omega

def begun (codec : Codec) (e : UInt8) (timestamp : UInt32) : RTPDtmfReader :=
  { codec, lastTimestamp := timestamp, lastEv := { event := e, duration := 1 } }

theorem step_starting (codec : Codec) (e : UInt8) (timestamp : UInt32) :
    Twin.step (newRTPDTMFReader codec, newRTPDTMFReader codec)
      (starting codec e timestamp).blank =
        (begun codec e timestamp, begun codec e timestamp) := by
  simp [Twin.step, Turn.blank, Turn.next, starting, newRTPDTMFReader, RTPDtmfReader.read,
    dtmfDecode, RTPDtmfReader.processDTMFEvent, begun]

theorem dtmfEnd_read_ending {codec : Codec} {w : RTPDtmfReader} (hcodec : w.codec = codec)
    (hend : w.dtmfEnd = false) (e : UInt8) (timestamp : UInt32) (b : Bytes) :
    (w.read b (ending codec e timestamp).result).dtmfEnd = true ↔
      w.lastEv.duration ≠ 0 ∧ w.lastEv.event = e := by
  simp only [RTPDtmfReader.read, ending, hcodec, dtmfDecode, RTPDtmfReader.processDTMFEvent,
    List.cons_append, Option.getD_some]
  by_cases hduration : w.lastEv.duration = 0
  · simp [hduration, hend]
  · by_cases hevent : w.lastEv.event = e
    · simp [hduration, hevent]
    · simp [hduration, hevent, hend]

section Left

variable {codec : Codec} {t : Turn} {b : Bytes} {e : UInt8} {timestamp : UInt32}

theorem lastEv_next (w : RTPDtmfReader) :
    (t.next w b).lastEv = (w.read b t.result).lastEv := by
  unfold Turn.next
  split_ifs <;> rfl

theorem codec_processDTMFEvent (w : RTPDtmfReader) (ev : DTMFEvent) (mbit : Bool) :
    (w.processDTMFEvent ev mbit).codec = w.codec := by
  unfold RTPDtmfReader.processDTMFEvent
  split_ifs <;> rfl

theorem codec_next (w : RTPDtmfReader) : (t.next w b).codec = w.codec := by
  have hread : (w.read b t.result).codec = w.codec := by
    unfold RTPDtmfReader.read
    split_ifs
    · rfl
    · rfl
    · exact codec_processDTMFEvent _ _ _
  unfold Turn.next
  split_ifs <;> exact hread

theorem dtmfEnd_next {w : RTPDtmfReader} (h : (w.read b t.result).dtmfEnd = false) :
    (t.next w b).dtmfEnd = false := by
  unfold Turn.next
  split_ifs
  · rfl
  · exact h

variable (hok : t.result.failed ≠ true)
  (hcodec : t.result.header.payloadType = codec.payloadType)

include hok hcodec

theorem read_begun (b : Bytes) :
    (begun codec e timestamp).read b t.result =
      { (begun codec e timestamp).processDTMFEvent (decoded b t.result.data)
          (t.result.header.marker || timestamp ≠ t.result.header.timestamp) with
        lastTimestamp := t.result.header.timestamp } := by
  have hevents : ¬ t.result.header.payloadType ≠ (begun codec e timestamp).codec.payloadType :=
    not_not.mpr hcodec
  rw [RTPDtmfReader.read, if_neg hok, if_neg hevents]
  rfl

theorem read_begun_end (hend : (decoded b t.result.data).endOfEvent = true)
    (hevent : (decoded b t.result.data).event = e) :
    ((begun codec e timestamp).read b t.result).dtmfEnd = true := by
  rw [read_begun hok hcodec]
  simp [RTPDtmfReader.processDTMFEvent, hend, hevent, begun]

theorem read_begun_goes (hgoes : (decoded b t.result.data).endOfEvent = false) :
    ((begun codec e timestamp).read b t.result).dtmfEnd = false := by
  rw [read_begun hok hcodec, RTPDtmfReader.processDTMFEvent, if_neg (by simp [hgoes])]
  split_ifs <;> rfl

theorem lastEv_read_begun (hgoes : (decoded b t.result.data).endOfEvent = false)
    (hmoved : timestamp ≠ t.result.header.timestamp) :
    ((begun codec e timestamp).read b t.result).lastEv = decoded b t.result.data := by
  rw [read_begun hok hcodec, RTPDtmfReader.processDTMFEvent, if_neg (by simp [hgoes]),
    if_neg (by simp [hmoved])]

theorem not_depends_of_end {b b' : Bytes} (hb : b.length = t.len) (hb' : b'.length = t.len)
    (hend : (decoded b t.result.data).endOfEvent = true)
    (hevent : (decoded b t.result.data).event = e)
    (hgoes : (decoded b' t.result.data).endOfEvent = false) :
    ¬ DependsOnlyOnReads codec [starting codec e timestamp, t] := by
  intro h
  have hsame := (h [(starting codec e timestamp).blank, ⟨t, b, b', hb, hb'⟩] rfl).2.1
  rw [step_starting] at hsame
  have hdone : ((begun codec e timestamp).read b t.result).dtmfEnd =
      ((begun codec e timestamp).read b' t.result).dtmfEnd := congrArg Prod.snd hsame.1
  rw [read_begun_end hok hcodec hend hevent, read_begun_goes hok hcodec hgoes] at hdone
  exact absurd hdone (by decide)

theorem not_depends_of_duration {b b' : Bytes} (hb : b.length = t.len) (hb' : b'.length = t.len)
    (hmoved : timestamp ≠ t.result.header.timestamp)
    (hgoes : (decoded b t.result.data).endOfEvent = false)
    (hgoes' : (decoded b' t.result.data).endOfEvent = false)
    (hevent : (decoded b' t.result.data).event = e)
    (hzero : (decoded b t.result.data).duration = 0)
    (hsome : (decoded b' t.result.data).duration ≠ 0) :
    ¬ DependsOnlyOnReads codec [starting codec e timestamp, t, ending codec e timestamp] := by
  intro h
  have hsame := (h [(starting codec e timestamp).blank, ⟨t, b, b', hb, hb'⟩,
    (ending codec e timestamp).blank] rfl).2.2.1
  rw [step_starting] at hsame
  have hreports : ∀ c, (decoded c t.result.data).endOfEvent = false →
      (((t.next (begun codec e timestamp) c).read (List.replicate 4 0)
        (ending codec e timestamp).result).dtmfEnd = true ↔
        (decoded c t.result.data).duration ≠ 0 ∧ (decoded c t.result.data).event = e) := by
    intro c hc
    have hsent : (t.next (begun codec e timestamp) c).codec = codec := codec_next _
    rw [dtmfEnd_read_ending hsent (dtmfEnd_next (read_begun_goes hok hcodec hc)),
      lastEv_next, lastEv_read_begun hok hcodec hc hmoved]
  have hdone := congrArg Prod.snd hsame.1
  have hreported := (hreports b' hgoes').mpr ⟨hsome, hevent⟩
  have hsilent := mt (hreports b hgoes).mp (fun h => h.1 hzero)
  exact hsilent (hdone.trans hreported)

theorem not_depends_of_nothing (hdata : t.result.data = []) (hshort : t.len < 4)
    (hmoved : timestamp ≠ t.result.header.timestamp) :
    ¬ DependsOnlyOnReads codec [starting codec e timestamp, t] := by
  intro h
  have hsame := (h [(starting codec e timestamp).blank, t.blank] rfl).2.1
  rw [step_starting] at hsame
  have hkept : ((begun codec e timestamp).read t.blank.fst t.result).lastEv =
      (begun codec e timestamp).lastEv := (hsame.2 hdata).1.1
  have hdecoded : decoded t.blank.fst t.result.data = {} :=
    decoded_short (t.fits.trans t.blank.fst_len.ge) (t.blank.fst_len.trans_lt hshort)
  rw [lastEv_read_begun hok hcodec (by rw [hdecoded]) hmoved, hdecoded] at hkept
  have hduration : (0 : UInt16) = 1 := congrArg DTMFEvent.duration hkept
  exact absurd hduration (by decide)

theorem exists_of_end (hlen : 4 ≤ t.len) (front front' : Bytes) (hfront : front.length = 4)
    (hfront' : front'.length = 4)
    (hend : (decoded (heldBefore t.len front) t.result.data).endOfEvent = true)
    (hgoes : (decoded (heldBefore t.len front') t.result.data).endOfEvent = false) :
    ∃ before after, (∀ u ∈ before ++ after, u.Determined codec) ∧
      ¬ DependsOnlyOnReads codec (before ++ t :: after) := by
  refine ⟨[starting codec _ 0], [], fun u hu => ?_,
    not_depends_of_end hok hcodec (length_heldBefore (hfront.trans_le hlen))
      (length_heldBefore (hfront'.trans_le hlen)) hend rfl hgoes⟩
  obtain rfl := List.mem_singleton.mp hu
  exact determined_starting codec _ _

theorem exists_of_duration (hlen : 4 ≤ t.len) (front front' : Bytes) (hfront : front.length = 4)
    (hfront' : front'.length = 4)
    (hgoes : (decoded (heldBefore t.len front) t.result.data).endOfEvent = false)
    (hgoes' : (decoded (heldBefore t.len front') t.result.data).endOfEvent = false)
    (hzero : (decoded (heldBefore t.len front) t.result.data).duration = 0)
    (hsome : (decoded (heldBefore t.len front') t.result.data).duration ≠ 0) :
    ∃ before after, (∀ u ∈ before ++ after, u.Determined codec) ∧
      ¬ DependsOnlyOnReads codec (before ++ t :: after) := by
  have hmoved : t.result.header.timestamp + 1 ≠ t.result.header.timestamp := by simp
  refine ⟨[starting codec _ _], [ending codec _ _], fun u hu => ?_,
    not_depends_of_duration hok hcodec (length_heldBefore (hfront.trans_le hlen))
      (length_heldBefore (hfront'.trans_le hlen)) hmoved hgoes hgoes' rfl hzero hsome⟩
  rcases List.mem_pair.mp hu with rfl | rfl
  · exact determined_starting codec _ _
  · exact determined_ending codec _ _

theorem exists_of_nothing (hdata : t.result.data = []) (hshort : t.len < 4) :
    ∃ before after, (∀ u ∈ before ++ after, u.Determined codec) ∧
      ¬ DependsOnlyOnReads codec (before ++ t :: after) := by
  have hmoved : t.result.header.timestamp + 1 ≠ t.result.header.timestamp := by simp
  refine ⟨[starting codec 0 _], [], fun u hu => ?_,
    not_depends_of_nothing hok hcodec hdata hshort hmoved⟩
  obtain rfl := List.mem_singleton.mp hu
  exact determined_starting codec _ _

end Left

/-- A read under the payload type of the events that did not bring enough. -/
theorem exists_not_depends {codec : Codec} {t : Turn} (h : ¬ t.Determined codec) :
    ∃ before after, (∀ u ∈ before ++ after, u.Determined codec) ∧
      ¬ DependsOnlyOnReads codec (before ++ t :: after) := by
  obtain ⟨hok, hcodec, hleft⟩ : t.result.failed ≠ true ∧
      t.result.header.payloadType = codec.payloadType ∧ ¬ Decides t.len t.result.data := by
    unfold Turn.Determined at h
    push Not at h
    exact h
  have hone : UInt16.ofNat (256 * (0 : UInt8).toNat + (1 : UInt8).toNat) ≠ 0 := by decide
  -- the bytes that were not read come from what the buffer held
  match hdata : t.result.data, hleft with
  | [], _ =>
    by_cases hshort : t.len < 4
    · exact exists_of_nothing hok hcodec hdata hshort
    · exact exists_of_end hok hcodec (not_lt.mp hshort) [0, 0x80, 0, 0] [0, 0, 0, 0] rfl rfl
        (by rw [hdata]; rfl) (by rw [hdata]; rfl)
  | [x], hlen =>
    exact exists_of_end hok hcodec (not_lt.mp hlen) [0, 0x80, 0, 0] [0, 0, 0, 0] rfl rfl
      (by rw [hdata]; rfl) (by rw [hdata]; rfl)
  | [x, y], hleft =>
    obtain ⟨hlen, hends⟩ := not_or.mp hleft
    have hgoes : decide (y &&& 0x80 ≠ 0) = false := decide_eq_false hends
    exact exists_of_duration hok hcodec (not_lt.mp hlen) [0, 0, 0, 0] [0, 0, 0, 1] rfl rfl
      (by rw [hdata]; exact hgoes) (by rw [hdata]; exact hgoes) (by rw [hdata]; rfl)
      (by rw [hdata]; exact hone)
  | [x, y, z], hleft =>
    obtain ⟨hlen, hrest⟩ := not_or.mp hleft
    obtain ⟨hends, hz⟩ := not_or.mp hrest
    obtain rfl := not_not.mp hz
    have hgoes : decide (y &&& 0x80 ≠ 0) = false := decide_eq_false hends
    exact exists_of_duration hok hcodec (not_lt.mp hlen) [0, 0, 0, 0] [0, 0, 0, 1] rfl rfl
      (by rw [hdata]; exact hgoes) (by rw [hdata]; exact hgoes) (by rw [hdata]; rfl)
      (by rw [hdata]; exact hone)
  | _ :: _ :: _ :: _ :: _, hleft => exact absurd trivial hleft

/-- Two runs over the same reads report the same digits, and reading nothing disturbs neither, if
each read under the payload type of the events brought what the reader looks at. Any other read
has runs around it, of reads that did, in which what the buffers held before is told. -/
theorem dtmf_runs_agree (codec : Codec) :
    (∀ turns : List Turn, (∀ t ∈ turns, t.Determined codec) → DependsOnlyOnReads codec turns) ∧
      ∀ t : Turn, ¬ t.Determined codec →
        ∃ before after, (∀ u ∈ before ++ after, u.Determined codec) ∧
          ¬ DependsOnlyOnReads codec (before ++ t :: after) :=
  ⟨fun _ => dependsOnlyOnReads_of_determined, fun _ => exists_not_depends⟩

section Sample

/-- A digit whose start and end are read whole. -/
theorem whole_digit_agrees :
    DependsOnlyOnReads codecTelephoneEvent8000
      [starting codecTelephoneEvent8000 5 160, ending codecTelephoneEvent8000 5 160] := by
  refine (dtmf_runs_agree codecTelephoneEvent8000).1 _ fun t ht => ?_
  rcases List.mem_pair.mp ht with rfl | rfl
  · exact determined_starting _ _ _
  · exact determined_ending _ _ _

/-- Nothing is read, under the header of the packet before. -/
def onHold : Turn where
  len := 160
  result := { data := [], header := (starting codecTelephoneEvent8000 5 160).result.header }
  fits := Nat.zero_le 160

/-- A digit was taken up and the call is put on hold: bytes an earlier read left in the buffer end
the digit, and it is reported. -/
theorem stale_bytes_report_digit :
    ¬ DependsOnlyOnReads codecTelephoneEvent8000
      [starting codecTelephoneEvent8000 5 160, onHold] := by
  have hheld : ∀ front : Bytes, front.length = 4 →
      (heldBefore onHold.len front).length = onHold.len :=
    fun front hfront => length_heldBefore (hfront.trans_le (by decide))
  exact not_depends_of_end (by decide) rfl (hheld [5, 0x80, 3, 32] rfl) (hheld [0, 0, 0, 0] rfl) rfl
    rfl rfl

end Sample

end Diago.Rtp
