import Diago.Rtp.PacketWriter

/-! # DTMF over RTP

A digit is sent as a series of telephone events: four that report it with a
growing duration and three that end it, all with one timestamp. The reader takes
an event up when its packet has the marker or a timestamp other than the last
one, and reports the digit with the first end it sees of it.
-/
namespace Diago.Rtp
open Lib Media

def dtmfEventMapping : List (Char × UInt8) :=
  [('0', 0), ('1', 1), ('2', 2), ('3', 3), ('4', 4), ('5', 5), ('6', 6), ('7', 7), ('8', 8),
    ('9', 9), ('*', 10), ('#', 11), ('A', 12), ('B', 13), ('C', 14), ('D', 15)]

def dtmfEventMappingRev : List (UInt8 × Char) :=
  [(0, '0'), (1, '1'), (2, '2'), (3, '3'), (4, '4'), (5, '5'), (6, '6'), (7, '7'), (8, '8'),
    (9, '9'), (10, '*'), (11, '#'), (12, 'A'), (13, 'B'), (14, 'C'), (15, 'D')]

def dtmfDigits : List Char := dtmfEventMapping.map (·.1)

def dtmfEvent (char : Char) : UInt8 := (dtmfEventMapping.lookup char).getD 0

def dtmfToRune (event : UInt8) : Char := (dtmfEventMappingRev.lookup event).getD '\x00'

structure DTMFEvent where
  event : UInt8 := 0
  endOfEvent : Bool := false
  volume : UInt8 := 0
  duration : UInt16 := 0
  deriving DecidableEq, Repr

def reportEvent (char : Char) (i : ℕ) : DTMFEvent :=
  { event := dtmfEvent char, endOfEvent := false, volume := 10
    duration := 160 * (UInt16.ofNat i + 1) }

def endEvent (char : Char) : DTMFEvent :=
  { event := dtmfEvent char, endOfEvent := true, volume := 10, duration := 160 * 5 }

def rtpDTMFEncode8000 (char : Char) : List DTMFEvent :=
  (List.range 4).map (reportEvent char) ++ List.replicate 3 (endEvent char)

def dtmfEncode (d : DTMFEvent) : Bytes :=
  [d.event, (if d.endOfEvent = true then 0x80 else 0) ||| (d.volume &&& 0x3F),
    UInt8.ofNat (d.duration.toNat / 256), UInt8.ofNat d.duration.toNat]

def dtmfDecode : Bytes → Option DTMFEvent
  | b₀ :: b₁ :: b₂ :: b₃ :: _ =>
    some
      { event := b₀
        endOfEvent := b₁ &&& 0x80 ≠ 0
        volume := b₁ &&& 0x7F
        duration := UInt16.ofNat (256 * b₂.toNat + b₃.toNat) }
  | _ => none

/-! ## The writer -/

/-- The packets of the events, up to the first that is not delivered. -/
def writeEvents (delivered : RTPPacket → Bool) (payloadType : UInt8) :
    (marker : Bool) → RTPPacketWriter → List DTMFEvent → List RTPPacket × RTPPacketWriter
  | _, p, [] => ([], p)
  | marker, p, e :: es =>
    let pkt := (p.writeSamples (dtmfEncode e) 0 marker payloadType).1
    let q := (p.writeSamples (dtmfEncode e) 0 marker payloadType).2
    if delivered pkt = true then
      (pkt :: (writeEvents delivered payloadType false q es).1,
        (writeEvents delivered payloadType false q es).2)
    else ([pkt], q)

/-- The digit through the packet writer; only a clock of 8000 Hz is supported. -/
def writeDTMF (delivered : RTPPacket → Bool) (codec : Codec) (dtmf : Char) (p : RTPPacketWriter) :
    Option (List RTPPacket × RTPPacketWriter) :=
  if codec.sampleRate ≠ 8000 then none
  else some (writeEvents delivered codec.payloadType true p (rtpDTMFEncode8000 dtmf))

/-! ## The reader -/

structure RTPDtmfReader where
  codec : Codec
  lastTimestamp : UInt32 := 0
  lastEv : DTMFEvent := {}
  dtmf : Char := '\x00'
  dtmfEnd : Bool := false

/-- What the wrapped reader put at the beginning of the buffer, and the header of its packet. -/
structure ReadResult where
  data : Bytes
  header : RTPPacket
  failed : Bool := false

namespace RTPDtmfReader

def processDTMFEvent (w : RTPDtmfReader) (ev : DTMFEvent) (mbit : Bool) : RTPDtmfReader :=
  if ev.endOfEvent = true then
    if w.lastEv.duration = 0 then w
    else if w.lastEv.event ≠ ev.event then w
    else { w with dtmf := dtmfToRune ev.event, dtmfEnd := true, lastEv := {} }
  else if mbit = false then w
  else { w with lastEv := ev }

/-- A read into the buffer `b`. The whole buffer is decoded, and one too short leaves the event
at its zero value. -/
def read (w : RTPDtmfReader) (b : Bytes) (r : ReadResult) : RTPDtmfReader :=
  if r.failed = true then w
  else if r.header.payloadType ≠ w.codec.payloadType then w
  else
    { w.processDTMFEvent ((dtmfDecode (r.data ++ b.drop r.data.length)).getD {})
        (r.header.marker || w.lastTimestamp ≠ r.header.timestamp) with
      lastTimestamp := r.header.timestamp }

def readDTMF (w : RTPDtmfReader) : (Char × Bool) × RTPDtmfReader :=
  ((w.dtmf, w.dtmfEnd), { w with dtmfEnd := false })

def readAndPoll (w : RTPDtmfReader) (b : Bytes) (pkt : RTPPacket) : (Char × Bool) × RTPDtmfReader :=
  (w.read b { data := pkt.payload.take b.length, header := pkt }).readDTMF

/-- The digits reported over reads, each of a packet into a buffer. -/
def reports (w : RTPDtmfReader) : List (Bytes × RTPPacket) → List Char
  | [] => []
  | (b, pkt) :: rest =>
    (if (w.readAndPoll b pkt).1.2 = true then [(w.readAndPoll b pkt).1.1] else []) ++
      reports (w.readAndPoll b pkt).2 rest

end RTPDtmfReader

/-! ## A lossy path -/

/-- What is written: audio, or a digit, with the packets of it that survive the path. -/
inductive Written
  | audio (payload : Bytes) (kept : Bool)
  | digit (char : Char) (kept : ℕ → Bool)

/-- The path leaves of a digit one of the four reports and one of the three ends. -/
def Written.Allowed : Written → Prop
  | .audio _ _ => True
  | .digit char kept =>
    char ∈ dtmfDigits ∧ (∃ i < 4, kept i = true) ∧ ∃ i < 3, kept (4 + i) = true

def Written.digits : Written → List Char
  | .audio _ _ => []
  | .digit char _ => [char]

def survive (kept : ℕ → Bool) : List RTPPacket → List RTPPacket
  | [] => []
  | pkt :: rest =>
    (if kept 0 = true then [pkt] else []) ++ survive (fun i => kept (i + 1)) rest

def send (codec : Codec) : RTPPacketWriter → List Written → List RTPPacket
  | _, [] => []
  | p, .audio payload kept :: rest =>
    (if kept = true then [(p.write payload).1] else []) ++ send codec (p.write payload).2 rest
  | p, .digit char kept :: rest =>
    match writeDTMF (fun _ => true) codec char p with
    | none => []
    | some (pkts, q) => survive kept pkts ++ send codec q rest

theorem survive_append (kept : ℕ → Bool) (xs ys : List RTPPacket) :
    survive kept (xs ++ ys) = survive kept xs ++ survive (fun i => kept (xs.length + i)) ys := by
  induction xs generalizing kept with
  | nil => simp [survive]
  | cons x xs ih =>
    have hshift : (fun i => kept (xs.length + i + 1)) =
        fun i => kept ((x :: xs).length + i) := by
      funext i
      rw [List.length_cons]
      congr 1
      omega
    simp only [List.cons_append, survive, ih, List.append_assoc]
    rw [hshift]

theorem mem_of_mem_survive {kept : ℕ → Bool} {xs : List RTPPacket} {pkt : RTPPacket}
    (h : pkt ∈ survive kept xs) : pkt ∈ xs := by
  induction xs generalizing kept with
  | nil => simp [survive] at h
  | cons x xs ih =>
    rw [survive, List.mem_append] at h
    rcases h with h | h
    · split at h
      · simp_all
      · simp at h
    · exact List.mem_cons_of_mem _ (ih h)

theorem survive_ne_nil {kept : ℕ → Bool} {xs : List RTPPacket} {i : ℕ} (hi : i < xs.length)
    (h : kept i = true) : survive kept xs ≠ [] := by
  induction xs generalizing kept i with
  | nil => simp at hi
  | cons x xs ih =>
    rw [survive]
    cases i with
    | zero => simp [h]
    | succ i =>
      have hrest := @ih (fun j => kept (j + 1)) i (by simpa using hi) h
      simp [hrest]

structure Carries (payloadType : UInt8) (timestamp : UInt32) (pkt : RTPPacket) (ev : DTMFEvent) :
    Prop where
  payloadType : pkt.payloadType = payloadType
  timestamp : pkt.timestamp = timestamp
  payload : pkt.payload = dtmfEncode ev

section Digit

variable {char : Char} {payloadType : UInt8} {timestamp : UInt32}

def ReportsDigit (char : Char) (payloadType : UInt8) (timestamp : UInt32) (pkt : RTPPacket) :
    Prop :=
  ∃ i < 4, Carries payloadType timestamp pkt (reportEvent char i)

def EndsDigit (char : Char) (payloadType : UInt8) (timestamp : UInt32) (pkt : RTPPacket) : Prop :=
  Carries payloadType timestamp pkt (endEvent char)

/-- Packets of a digit: the reports, of which only the first may have the marker, and the ends. -/
structure DigitPackets (char : Char) (payloadType : UInt8) (timestamp : UInt32) (first : RTPPacket)
    (more ends : List RTPPacket) : Prop where
  reportsFirst : ReportsDigit char payloadType timestamp first
  reports : ∀ pkt ∈ more, ReportsDigit char payloadType timestamp pkt
  unmarked : ∀ pkt ∈ more, pkt.marker = false
  ends : ∀ pkt ∈ ends, EndsDigit char payloadType timestamp pkt

theorem writeEvents_digit (char : Char) (payloadType : UInt8) (p : RTPPacketWriter) :
    ∃ first more ends, (writeEvents (fun _ => true) payloadType true p
        (rtpDTMFEncode8000 char)).1 = (first :: more) ++ ends ∧
      more.length = 3 ∧ ends.length = 3 ∧ first.marker = true ∧
      DigitPackets char payloadType p.nextTimestamp first more ends := by
  refine ⟨_, [_, _, _], [_, _, _], rfl, rfl, rfl, rfl, ⟨0, by decide, rfl, rfl, rfl⟩, ?_, ?_, ?_⟩
  · simp only [List.mem_cons, List.not_mem_nil, or_false, forall_eq_or_imp, forall_eq]
    exact ⟨⟨1, by decide, rfl, by simp [RTPPacketWriter.writeSamples], rfl⟩,
      ⟨2, by decide, rfl, by simp [RTPPacketWriter.writeSamples], rfl⟩,
      ⟨3, by decide, rfl, by simp [RTPPacketWriter.writeSamples], rfl⟩⟩
  · simp [RTPPacketWriter.writeSamples]
  · simp only [List.mem_cons, List.not_mem_nil, or_false, forall_eq_or_imp, forall_eq]
    exact ⟨⟨rfl, by simp [RTPPacketWriter.writeSamples], rfl⟩,
      ⟨rfl, by simp [RTPPacketWriter.writeSamples], rfl⟩,
      ⟨rfl, by simp [RTPPacketWriter.writeSamples], rfl⟩⟩

/-- What the path leaves of a digit: a report, which has the marker if the first one survived,
perhaps more reports, and at least one end. -/
theorem survive_digit {kept : ℕ → Bool} (payloadType : UInt8) (p : RTPPacketWriter)
    (h : (Written.digit char kept).Allowed) :
    ∃ first more ends, survive kept (writeEvents (fun _ => true) payloadType true p
        (rtpDTMFEncode8000 char)).1 = (first :: more) ++ ends ∧ ends ≠ [] ∧
      first.marker = kept 0 ∧
      DigitPackets char payloadType p.nextTimestamp first more ends := by
  obtain ⟨-, ⟨i, hi, hikept⟩, j, hj, hjkept⟩ := h
  obtain ⟨first, more, ends, hpkts, hmore, hends, hmarker, hdigit⟩ :=
    writeEvents_digit char payloadType p
  have hlen : (first :: more).length = 4 := by rw [List.length_cons, hmore]
  have hleft : survive (fun k => kept (4 + k)) ends ≠ [] := survive_ne_nil (hends ▸ hj) hjkept
  have hsome : survive kept (first :: more) ≠ [] := survive_ne_nil (hlen ▸ hi) hikept
  have hrest : ∀ pkt ∈ survive (fun k => kept (4 + k)) ends,
      EndsDigit char payloadType p.nextTimestamp pkt :=
    fun pkt hpkt => hdigit.ends pkt (mem_of_mem_survive hpkt)
  rw [hpkts, survive_append, hlen]
  cases hfirst : kept 0 with
  | true =>
    refine ⟨first, survive (fun k => kept (k + 1)) more, _, ?_, hleft, hmarker, ?_⟩
    · simp [survive, hfirst]
    · exact ⟨hdigit.reportsFirst, fun pkt hpkt => hdigit.reports pkt (mem_of_mem_survive hpkt),
        fun pkt hpkt => hdigit.unmarked pkt (mem_of_mem_survive hpkt), hrest⟩
  | false =>
    have hskip : survive kept (first :: more) = survive (fun k => kept (k + 1)) more := by
      simp [survive, hfirst]
    rw [hskip] at hsome ⊢
    obtain ⟨next, others, hnext⟩ := List.exists_cons_of_ne_nil hsome
    have hmem : ∀ pkt ∈ next :: others, pkt ∈ more := fun pkt hpkt =>
      mem_of_mem_survive (hnext ▸ hpkt)
    refine ⟨next, others, _, by rw [hnext], hleft, hdigit.unmarked next (hmem next (by simp)), ?_⟩
    exact ⟨hdigit.reports next (hmem next (by simp)),
      fun pkt hpkt => hdigit.reports pkt (hmem pkt (List.mem_cons_of_mem _ hpkt)),
      fun pkt hpkt => hdigit.unmarked pkt (hmem pkt (List.mem_cons_of_mem _ hpkt)), hrest⟩

end Digit

/-! ## What the reader makes of the packets -/

theorem dtmfDecode_encode {ev : DTMFEvent} (h : ev.volume = 10) (rest : Bytes) :
    dtmfDecode (dtmfEncode ev ++ rest) = some ev := by
  obtain ⟨event, endOfEvent, volume, duration⟩ := ev
  obtain rfl : volume = 10 := h
  have hduration : UInt16.ofNat (256 * (UInt8.ofNat (duration.toNat / 256)).toNat +
      (UInt8.ofNat duration.toNat).toNat) = duration := by
    have hlt := duration.toNat_lt
    rw [UInt8.toNat_ofNat', UInt8.toNat_ofNat']
    have hsum : 256 * (duration.toNat / 256 % 2 ^ 8) + duration.toNat % 2 ^ 8 = duration.toNat := by
      omega
    rw [hsum, UInt16.ofNat_toNat]
  simp only [dtmfEncode, List.cons_append, dtmfDecode, hduration]
  cases endOfEvent <;> simp +decide

namespace RTPDtmfReader

variable {w : RTPDtmfReader} {b : Bytes} {pkt : RTPPacket} {ev : DTMFEvent} {timestamp : UInt32}

theorem readAndPoll_event (hb : 4 ≤ b.length) (h : Carries w.codec.payloadType timestamp pkt ev)
    (hvolume : ev.volume = 10) :
    w.readAndPoll b pkt =
      readDTMF { w.processDTMFEvent ev (pkt.marker || w.lastTimestamp ≠ timestamp) with
        lastTimestamp := timestamp } := by
  have hwhole : pkt.payload.take b.length = dtmfEncode ev := by
    rw [h.payload]
    exact List.take_of_length_le hb
  unfold readAndPoll read
  rw [if_neg (by simp), if_neg (by simp [h.payloadType]), hwhole, dtmfDecode_encode hvolume,
    Option.getD_some, h.timestamp]

theorem readAndPoll_audio (h : pkt.payloadType ≠ w.codec.payloadType) :
    w.readAndPoll b pkt = w.readDTMF := by
  simp [readAndPoll, read, h]

def tookUp (w : RTPDtmfReader) (ev : DTMFEvent) (timestamp : UInt32) : RTPDtmfReader :=
  { w with lastEv := ev, lastTimestamp := timestamp }

def reported (w : RTPDtmfReader) (char : Char) (timestamp : UInt32) : RTPDtmfReader :=
  { w with dtmf := char, dtmfEnd := false, lastEv := {}, lastTimestamp := timestamp }

/-- Between two digits: no event is remembered and no digit waits to be polled. -/
structure Idle (w : RTPDtmfReader) : Prop where
  forgotten : w.lastEv.duration = 0
  polled : w.dtmfEnd = false

def Ignores (w : RTPDtmfReader) (b : Bytes) (pkt : RTPPacket) : Prop :=
  w.readAndPoll b pkt = ((w.dtmf, false), w)

theorem reports_of_ignores {reads : List (Bytes × RTPPacket)}
    (h : ∀ r ∈ reads, w.Ignores r.1 r.2) (rest : List (Bytes × RTPPacket)) :
    w.reports (reads ++ rest) = w.reports rest := by
  induction reads with
  | nil => rfl
  | cons r reads ih =>
    have hr : w.readAndPoll r.1 r.2 = ((w.dtmf, false), w) := h r (by simp)
    rw [List.cons_append, reports, hr]
    exact ih fun r' hr' => h r' (List.mem_cons_of_mem _ hr')

section Digit

variable {char : Char}

theorem dtmfToRune_dtmfEvent : ∀ c ∈ dtmfDigits, dtmfToRune (dtmfEvent c) = c := by
  have hall : (dtmfDigits.all fun c => dtmfToRune (dtmfEvent c) = c) = true := by decide
  intro c hc
  exact of_decide_eq_true (List.all_eq_true.mp hall c hc)

theorem reportEvent_duration (char : Char) {i : ℕ} (h : i < 4) :
    (reportEvent char i).duration ≠ 0 := by
  have hdur : ∀ j < 4, (160 * (UInt16.ofNat j + 1) : UInt16) ≠ 0 := by decide
  exact hdur i h

theorem ignores_audio (hw : w.dtmfEnd = false) (h : pkt.payloadType ≠ w.codec.payloadType) :
    w.Ignores b pkt := by
  rw [Ignores, readAndPoll_audio h, readDTMF, hw]
  cases w
  simp_all

theorem readAndPoll_report (hb : 4 ≤ b.length) (hw : w.dtmfEnd = false)
    (h : ReportsDigit char w.codec.payloadType timestamp pkt)
    (hnew : pkt.marker = true ∨ w.lastTimestamp ≠ timestamp) :
    ∃ i < 4, w.readAndPoll b pkt =
      ((w.dtmf, false), w.tookUp (reportEvent char i) timestamp) := by
  obtain ⟨i, hi, hcarries⟩ := h
  refine ⟨i, hi, ?_⟩
  have hmbit : (pkt.marker || w.lastTimestamp ≠ timestamp) = true := by simpa using hnew
  rw [readAndPoll_event hb hcarries rfl, hmbit]
  simp [processDTMFEvent, reportEvent, readDTMF, tookUp, hw]

theorem ignores_report (hb : 4 ≤ b.length) (hw : w.dtmfEnd = false)
    (h : ReportsDigit char w.codec.payloadType timestamp pkt)
    (hold : pkt.marker = false ∧ w.lastTimestamp = timestamp) : w.Ignores b pkt := by
  obtain ⟨i, -, hcarries⟩ := h
  rw [Ignores, readAndPoll_event hb hcarries rfl]
  cases w
  simp_all [processDTMFEvent, reportEvent, readDTMF]

theorem readAndPoll_end (hb : 4 ≤ b.length) (hchar : char ∈ dtmfDigits)
    (h : EndsDigit char w.codec.payloadType timestamp pkt) {i : ℕ} (hi : i < 4)
    (hlast : w.lastEv = reportEvent char i) :
    w.readAndPoll b pkt = ((char, true), w.reported char timestamp) := by
  have hdur : w.lastEv.duration ≠ 0 := hlast ▸ reportEvent_duration char hi
  have hsame : ¬ w.lastEv.event ≠ (endEvent char).event := by simp [hlast, reportEvent, endEvent]
  have hproc (mbit : Bool) : w.processDTMFEvent (endEvent char) mbit =
      { w with dtmf := char, dtmfEnd := true, lastEv := {} } := by
    have hrune : dtmfToRune (endEvent char).event = char := dtmfToRune_dtmfEvent char hchar
    rw [processDTMFEvent, if_pos (by rfl), if_neg hdur, if_neg hsame, hrune]
  rw [readAndPoll_event hb h rfl, hproc]
  rfl

theorem ignores_end (hb : 4 ≤ b.length) (hw : w.Idle)
    (h : EndsDigit char w.codec.payloadType timestamp pkt) (hold : w.lastTimestamp = timestamp) :
    w.Ignores b pkt := by
  obtain ⟨hforgotten, hpolled⟩ := hw
  have hproc (mbit : Bool) : w.processDTMFEvent (endEvent char) mbit = w := by
    rw [processDTMFEvent, if_pos (by rfl), if_pos hforgotten]
  rw [Ignores, readAndPoll_event hb h rfl, hproc]
  cases w
  simp_all [readDTMF]

/-- The survivors of a digit report it exactly if its first survivor is taken up. -/
theorem reports_digit {first : RTPPacket} {more ends : List RTPPacket}
    {reads : List (Bytes × RTPPacket)} (rest : List (Bytes × RTPPacket)) (hw : w.Idle) (hchar : char ∈ dtmfDigits)
    (hdigit : DigitPackets char w.codec.payloadType timestamp first more ends) (hends : ends ≠ [])
    (hreads : reads.map (·.2) = (first :: more) ++ ends) (hroom : ∀ r ∈ reads, 4 ≤ r.1.length) :
    ∃ w' : RTPDtmfReader, w'.Idle ∧ w'.codec = w.codec ∧ w'.lastTimestamp = timestamp ∧
      w.reports (reads ++ rest) =
        (if first.marker = true ∨ w.lastTimestamp ≠ timestamp then [char] else []) ++
          w'.reports rest := by
  obtain ⟨left, right, rfl, hleft, hright⟩ := List.map_eq_append_iff.mp hreads
  obtain ⟨⟨b₀, pkt₀⟩, left, rfl, rfl, hmore⟩ := List.map_eq_cons_iff.mp hleft
  have hroomLeft : ∀ r ∈ left, 4 ≤ r.1.length := fun r hr => hroom r (by simp [hr])
  have hroomRight : ∀ r ∈ right, 4 ≤ r.1.length := fun r hr => hroom r (by simp [hr])
  have hmemLeft : ∀ r ∈ left, r.2 ∈ more := fun r hr => hmore ▸ List.mem_map_of_mem hr
  have hmemRight : ∀ r ∈ right, r.2 ∈ ends := fun r hr => hright ▸ List.mem_map_of_mem hr
  by_cases hnew : pkt₀.marker = true ∨ w.lastTimestamp ≠ timestamp
  · obtain ⟨i, hi, hfirst⟩ := readAndPoll_report (hroom (b₀, pkt₀) (by simp)) hw.polled
      hdigit.reportsFirst hnew
    obtain ⟨⟨b₁, pkt₁⟩, right, rfl⟩ : ∃ r rs, right = r :: rs :=
      List.exists_cons_of_ne_nil fun hnil => hends (by simp [← hright, hnil])
    have hend : (w.tookUp (reportEvent char i) timestamp).readAndPoll b₁ pkt₁ =
        ((char, true), w.reported char timestamp) :=
      readAndPoll_end (hroomRight (b₁, pkt₁) (by simp)) hchar
        (hdigit.ends _ (hmemRight (b₁, pkt₁) (by simp))) hi rfl
    have hagain (r) (hr : r ∈ left) :
        (w.tookUp (reportEvent char i) timestamp).Ignores r.1 r.2 :=
      ignores_report (hroomLeft r hr) hw.polled (hdigit.reports _ (hmemLeft r hr))
        ⟨hdigit.unmarked _ (hmemLeft r hr), rfl⟩
    have hidle : (w.reported char timestamp).Idle := ⟨rfl, rfl⟩
    have hlate (r) (hr : r ∈ right) : (w.reported char timestamp).Ignores r.1 r.2 :=
      ignores_end (hroomRight r (by simp [hr])) hidle (hdigit.ends _ (hmemRight r (by simp [hr]))) rfl
    refine ⟨_, hidle, rfl, rfl, ?_⟩
    rw [if_pos hnew, List.cons_append, List.cons_append, reports, hfirst, List.append_assoc]
    simp only [Bool.false_eq_true, if_false, List.nil_append]
    rw [reports_of_ignores hagain, List.cons_append, reports, hend]
    simp only [if_true]
    rw [reports_of_ignores hlate]
  · rw [if_neg hnew]
    rw [not_or, Bool.not_eq_true, not_not] at hnew
    refine ⟨w, hw, rfl, hnew.2, ?_⟩
    rw [List.nil_append]
    refine reports_of_ignores (fun r hr => ?_) rest
    rcases List.mem_append.mp hr with hr | hr
    · rcases List.mem_cons.mp hr with rfl | hr
      · exact ignores_report (hroom _ (by simp)) hw.polled hdigit.reportsFirst hnew
      · exact ignores_report (hroomLeft r hr) hw.polled (hdigit.reports _ (hmemLeft r hr))
          ⟨hdigit.unmarked _ (hmemLeft r hr), hnew.2⟩
    · exact ignores_end (hroomRight r hr) hw (hdigit.ends _ (hmemRight r hr)) hnew.2

end Digit

end RTPDtmfReader

/-- The digits taken up, `last` being the timestamp of the last digit and `next` that of the next
packet. -/
def takenUp (step : UInt32) : (last next : UInt32) → List Written → List Char
  | _, _, [] => []
  | last, next, .audio _ _ :: ops => takenUp step last (next + step) ops
  | last, next, .digit char kept :: ops =>
    (if kept 0 = true ∨ last ≠ next then [char] else []) ++ takenUp step next next ops

/-- Of each digit the first packet survives, or its timestamp is not that of the digit before. -/
def EachTakenUp (step : UInt32) : (last next : UInt32) → List Written → Prop
  | _, _, [] => True
  | last, next, .audio _ _ :: ops => EachTakenUp step last (next + step) ops
  | last, next, .digit _ kept :: ops =>
    (kept 0 = true ∨ last ≠ next) ∧ EachTakenUp step next next ops

theorem takenUp_length_le (step last next : UInt32) (ops : List Written) :
    (takenUp step last next ops).length ≤ (ops.flatMap Written.digits).length := by
  induction ops generalizing last next with
  | nil => simp [takenUp]
  | cons op ops ih =>
    cases op with
    | audio payload kept => simpa [takenUp, Written.digits] using ih last (next + step)
    | digit char kept =>
      have hrest := ih next next
      simp only [takenUp, Written.digits, List.flatMap_cons, List.length_append,
        List.length_singleton]
      split
      · simpa using hrest
      · simp only [List.length_nil]
        omega

theorem takenUp_eq_iff (step last next : UInt32) (ops : List Written) :
    takenUp step last next ops = ops.flatMap Written.digits ↔ EachTakenUp step last next ops := by
  induction ops generalizing last next with
  | nil => simp [takenUp, EachTakenUp]
  | cons op ops ih =>
    cases op with
    | audio payload kept => simpa [takenUp, EachTakenUp, Written.digits] using ih last (next + step)
    | digit char kept =>
      simp only [takenUp, EachTakenUp, List.flatMap_cons, Written.digits, List.singleton_append]
      by_cases htaken : kept 0 = true ∨ last ≠ next
      · rw [if_pos htaken, List.singleton_append, List.cons.injEq, ih next next]
        exact ⟨fun h => ⟨htaken, h.2⟩, fun h => ⟨rfl, h.2⟩⟩
      · rw [if_neg htaken, List.nil_append]
        refine ⟨fun heq => ?_, fun h => absurd h.1 htaken⟩
        have hshort := takenUp_length_le step next next ops
        rw [heq, List.length_cons] at hshort
        omega

theorem writeEvents_clock (payloadType : UInt8) (marker : Bool) (p : RTPPacketWriter)
    (evs : List DTMFEvent) :
    ∃ seq, (writeEvents (fun _ => true) payloadType marker p evs).2 = { p with seqWriter := seq } := by
  induction evs generalizing marker p with
  | nil => exact ⟨p.seqWriter, rfl⟩
  | cons e es ih =>
    obtain ⟨seq, hseq⟩ := ih false (p.writeSamples (dtmfEncode e) 0 marker payloadType).2
    refine ⟨seq, ?_⟩
    simp only [writeEvents, if_true]
    rw [hseq]
    simp only [RTPPacketWriter.writeSamples, UInt32.add_zero]

theorem reports_send {codec : Codec} (hrate : codec.sampleRate = 8000) {p : RTPPacketWriter}
    (hdistinct : p.codec.payloadType ≠ codec.payloadType) {w : RTPDtmfReader} (hw : w.Idle)
    (hcodec : w.codec = codec) {ops : List Written} (hallowed : ∀ op ∈ ops, op.Allowed)
    {reads : List (Bytes × RTPPacket)} (hreads : reads.map (·.2) = send codec p ops)
    (hroom : ∀ r ∈ reads, 4 ≤ r.1.length) :
    w.reports reads = takenUp p.sampleRateTimestamp w.lastTimestamp p.nextTimestamp ops := by
  induction ops generalizing p w reads with
  | nil =>
    rw [send, List.map_eq_nil_iff] at hreads
    rw [hreads, takenUp, RTPDtmfReader.reports]
  | cons op ops ih =>
    have hrest : ∀ op ∈ ops, op.Allowed := fun op hop => hallowed op (List.mem_cons_of_mem _ hop)
    cases op with
    | audio payload kept =>
      rw [send] at hreads
      obtain ⟨left, right, rfl, hleft, hright⟩ := List.map_eq_append_iff.mp hreads
      have hignored : ∀ r ∈ left, w.Ignores r.1 r.2 := by
        intro r hr
        have hmem : r.2 ∈ left.map (·.2) := List.mem_map_of_mem hr
        rw [hleft] at hmem
        have hpkt : r.2 = (p.write payload).1 := by
          split_ifs at hmem
          · exact List.mem_singleton.mp hmem
          · exact absurd hmem List.not_mem_nil
        exact RTPDtmfReader.ignores_audio hw.polled (hpkt ▸ hcodec ▸ hdistinct)
      rw [RTPDtmfReader.reports_of_ignores hignored, takenUp]
      exact @ih (p.write payload).2 hdistinct w hw hcodec hrest right hright
        fun r hr => hroom r (List.mem_append_right _ hr)
    | digit char kept =>
      have hdigit := hallowed (.digit char kept) (by simp)
      obtain ⟨first, more, ends, hsurvive, hends, hmarker, hpackets⟩ :=
        survive_digit codec.payloadType p hdigit
      obtain ⟨seq, hseq⟩ := writeEvents_clock codec.payloadType true p (rtpDTMFEncode8000 char)
      rw [send, writeDTMF, if_neg (not_not.mpr hrate)] at hreads
      simp only [hseq, hsurvive] at hreads
      obtain ⟨left, right, rfl, hleft, hright⟩ := List.map_eq_append_iff.mp hreads
      obtain ⟨w', hidle, hcodec', hlast, hreports⟩ := RTPDtmfReader.reports_digit right hw hdigit.1
        (hcodec ▸ hpackets) hends hleft fun r hr => hroom r (List.mem_append_left _ hr)
      have hnext := @ih { p with seqWriter := seq } hdistinct w' hidle (hcodec'.trans hcodec) hrest
        right hright fun r hr => hroom r (List.mem_append_right _ hr)
      rw [hreports, hnext, takenUp, hmarker, hlast]

/-- Over a path that leaves a report and an end of each digit, the digits arrive exactly once
exactly if each is taken up. -/
theorem digits_arrive_once_iff (codec : Codec) (hrate : codec.sampleRate = 8000)
    (p : RTPPacketWriter) (hdistinct : p.codec.payloadType ≠ codec.payloadType)
    (ops : List Written) (hallowed : ∀ op ∈ ops, op.Allowed) (reads : List (Bytes × RTPPacket))
    (hreads : reads.map (·.2) = send codec p ops) (hroom : ∀ r ∈ reads, 4 ≤ r.1.length) :
    RTPDtmfReader.reports { codec := codec } reads = ops.flatMap Written.digits ↔
      EachTakenUp p.sampleRateTimestamp 0 p.nextTimestamp ops := by
  have hidle : RTPDtmfReader.Idle { codec := codec } := ⟨rfl, rfl⟩
  rw [reports_send hrate hdistinct hidle rfl hallowed hreads hroom, takenUp_eq_iff]

section Sample

def eventCodec : Codec :=
  { name := lit "telephone-event", payloadType := 101, sampleRate := 8000, sampleDur := 20000000
    numChannels := 1 }

def audioWriter : RTPPacketWriter :=
  { ssrc := 7
    codec := { eventCodec with name := lit "PCMU", payloadType := 0 }
    sampleRateTimestamp := 160
    seqWriter := {} }

def readAll (pkts : List RTPPacket) : List (Bytes × RTPPacket) :=
  pkts.map fun pkt => ([0, 0, 0, 0], pkt)

def firstLost (i : ℕ) : Bool := i ≠ 0

theorem allowed_of_later {char : Char} (h : char ∈ dtmfDigits) {kept : ℕ → Bool}
    (hreport : kept 1 = true) (hend : kept 4 = true) : (Written.digit char kept).Allowed :=
  ⟨h, ⟨1, by decide, hreport⟩, 0, by decide, hend⟩

/-- With audio between them both digits arrive, although the first packet of the second is lost. -/
theorem digits_arrive_between_audio :
    RTPDtmfReader.reports { codec := eventCodec } (readAll (send eventCodec audioWriter
      [.digit '1' fun _ => true, .audio [1] true, .digit '5' firstLost])) = ['1', '5'] := by
  refine (digits_arrive_once_iff eventCodec rfl audioWriter (by decide)
    [.digit '1' fun _ => true, .audio [1] true, .digit '5' firstLost] ?_ _ ?_ ?_).mpr ?_
  · simp only [List.mem_cons, List.not_mem_nil, or_false, forall_eq_or_imp, forall_eq]
    exact ⟨allowed_of_later (by decide) rfl rfl, trivial, allowed_of_later (by decide) rfl rfl⟩
  · simp [readAll]
  · simp [readAll]
  · exact ⟨.inl rfl, .inr (by decide), trivial⟩

/-- Without audio between them the second digit is not reported. -/
theorem second_digit_missed :
    (∀ op ∈ [Written.digit '1' fun _ => true, .digit '5' firstLost], op.Allowed) ∧
      RTPDtmfReader.reports { codec := eventCodec } (readAll (send eventCodec audioWriter
        [.digit '1' fun _ => true, .digit '5' firstLost])) = ['1'] := by
  refine ⟨?_, by decide +kernel⟩
  simp only [List.mem_cons, List.not_mem_nil, or_false, forall_eq_or_imp, forall_eq]
  exact ⟨allowed_of_later (by decide) rfl rfl, allowed_of_later (by decide) rfl rfl⟩

end Sample

end Diago.Rtp
