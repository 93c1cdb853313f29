import Diago.Lib.Region
import Diago.Lib.Run
import Diago.Rtp.PacketReader

/-! # The payload reader as a byte stream

The payload of a packet is a slice of the buffer its datagram was read into: the
buffer of the caller, or one of the reader's own when that of the caller may be too
small.
-/
namespace Diago.Rtp
open Lib Media

/-! ### Payloads as slices -/

def payloadAt (data : Bytes) (pkt : RTPPacket) : Region := ⟨headerBytes data, pkt.payload.length⟩

/-- The RTP library does not copy a payload: it is the slice after the header. -/
structure SlicingLib extends RtpLib where
  slices : ∀ data pkt, unmarshal data = some pkt → pkt.payload = (payloadAt data pkt).view data

/-- What a call of ReadRTP does: it reads a datagram, reads one and returns zero (the call is on
hold), or fails. -/
inductive Delivery
  | packet (data : Bytes)
  | zero (data : Bytes)
  | failed (closed : Bool)

inductive ReadErr
  | shortBuffer
  | eof
  | failed
  | panicked
  deriving DecidableEq

/-! ### The reader and its memory -/

structure BufferedReader where
  /-- Empty until it is made. -/
  unreadPayload : Bytes := []
  unread : ℕ := 0
  lastSSRC : UInt32 := 0
  seqReader : RTPExtendedSequenceNumber := {}
  sized : unreadPayload.length = 0 ∨ unreadPayload.length = rtpBufSize := by decide
  fits : unread ≤ unreadPayload.length := by decide

/-- What Read returns, with the buffer of the caller and the reader as it leaves them. -/
structure ReadOut where
  n : ℕ
  err : Option ReadErr := none
  b : Bytes
  reader : BufferedReader

namespace BufferedReader

def ensure (r : BufferedReader) : BufferedReader :=
  if h : r.unreadPayload = [] then
    { r with
      unreadPayload := List.replicate rtpBufSize 0
      sized := .inr List.length_replicate
      fits := by
        have hfits := r.fits
        rw [h] at hfits
        exact hfits.trans (Nat.zero_le _) }
  else r

def write (r : BufferedReader) (src : Bytes) : BufferedReader :=
  { r with
    unreadPayload := copyInto r.unreadPayload src
    sized := by rw [length_copyInto]; exact r.sized
    fits := by rw [length_copyInto]; exact r.fits }

def setUnread (r : BufferedReader) (n : ℕ) (h : n ≤ r.unreadPayload.length) : BufferedReader :=
  { r with unread := n, fits := h }

/-- Copies out what fits and moves the rest to the front of the reader's own buffer. The payload
is a slice of that buffer. -/
def readPayload (r : BufferedReader) (b : Bytes) (payload : Region) : ReadOut :=
  let shown := payload.view r.unreadPayload
  let n := copied b shown
  if n < shown.length then
    let rest := (payload.tail n).view r.unreadPayload
    { n, b := copyInto b shown
      reader := (r.write rest).setUnread (copied r.unreadPayload rest)
        ((copied_le _ _).trans (length_copyInto _ _).ge) }
  else { n, b := copyInto b shown, reader := r.setUnread 0 (Nat.zero_le _) }

def track (r : BufferedReader) (pkt : RTPPacket) : BufferedReader :=
  { r with
    seqReader :=
      if r.lastSSRC = pkt.ssrc then (r.seqReader.updateSeq pkt.sequenceNumber).2
      else .initSeq pkt.sequenceNumber
    lastSSRC := pkt.ssrc }

/-- Lets ReadRTP write to the buffer of the caller if it is large enough, else to the reader's. -/
def readInto (r : BufferedReader) (b data : Bytes) : Bytes × BufferedReader :=
  if b.length < rtpBufSize then (b, r.ensure.write data) else (copyInto b data, r)

def take (r : BufferedReader) (bufLen : ℕ) (b data : Bytes) (pkt : RTPPacket) : ReadOut :=
  if (data.length : ℤ) - pkt.marshalSize - pkt.paddingSize.toNat ≠ pkt.payload.length then
    { n := 0, err := some .panicked, b, reader := r }
  else if pkt.payload = [] then { n := 0, b, reader := r }
  else if bufLen < rtpBufSize then (r.track pkt).readPayload b (payloadAt data pkt)
  else
    let shown := (payloadAt data pkt).view b
    { n := copied b shown
      err := if copied b shown < pkt.payload.length then some .shortBuffer else none
      b := copyInto b shown
      reader := r.track pkt }

def receive (lib : RtpLib) (r : BufferedReader) (b : Bytes) : Delivery → ReadOut
  | .failed closed =>
    let (b, r) := r.readInto b []
    { n := 0, err := some (if closed then .eof else .failed), b, reader := r }
  | .zero data =>
    let (b, r) := r.readInto b data
    { n := 0, b, reader := r }
  | .packet data =>
    let data := data.take (RTPPacketReader.readLen b.length)
    let m := r.readInto b data
    match lib.unmarshal data with
    | none => { n := 0, err := some .failed, b := m.1, reader := m.2 }
    | some pkt => m.2.take b.length m.1 data pkt

/-- Reads into the buffer `b` from what ReadRTP delivers; none while it waits for more. -/
def read (lib : RtpLib) (r : BufferedReader) (b : Bytes) (source : List Delivery) :
    Option (ReadOut × List Delivery) :=
  if 0 < r.unread then some (r.readPayload b ⟨0, r.unread⟩, source)
  else
    match source with
    | [] => none
    | d :: source => some (r.receive lib b d, source)

/-! ### The reader refines the one of values -/

def left (r : BufferedReader) : Bytes := r.unreadPayload.take r.unread

def toReader (r : BufferedReader) : RTPPacketReader := ⟨r.left, r.lastSSRC, r.seqReader⟩

theorem left_eq_nil {r : BufferedReader} (h : r.unread = 0) : r.left = [] := by
  rw [left, h, List.take_zero]

theorem left_ne_nil {r : BufferedReader} (h : 0 < r.unread) : r.left ≠ [] := by
  apply List.ne_nil_of_length_pos
  rw [left, List.length_take_of_le r.fits]
  exact h

theorem toReader_ensure {r : BufferedReader} (h : r.unread = 0) :
    r.ensure.toReader = r.toReader := by
  unfold ensure
  split_ifs with hmade
  · simp [toReader, left, h]
  · rfl

theorem length_ensure (r : BufferedReader) : r.ensure.unreadPayload.length = rtpBufSize := by
  unfold ensure
  split_ifs with h
  · exact List.length_replicate
  · exact r.sized.resolve_left fun hlen => h (List.eq_nil_of_length_eq_zero hlen)

theorem unread_ensure (r : BufferedReader) : r.ensure.unread = r.unread := by
  unfold ensure
  split_ifs <;> rfl

/-- While nothing is unread, what the reader's own buffer holds does not matter. -/
theorem toReader_write {r : BufferedReader} (h : r.unread = 0) (src : Bytes) :
    (r.write src).toReader = r.toReader := by
  simp [toReader, left, write, h]

theorem toReader_track (r : BufferedReader) (pkt : RTPPacket) :
    (r.track pkt).toReader = r.toReader.track pkt := rfl

end BufferedReader

def ReadOut.toRead (o : ReadOut) : PayloadRead :=
  match o.err with
  | none => if o.n = 0 then .nothing else .payload (o.b.take o.n)
  | some .shortBuffer => .shortBuffer (o.b.take o.n)
  | some .panicked => .mismatch
  | some .eof | some .failed => .failed

def PayloadRead.bytes : PayloadRead → Bytes
  | .payload bytes | .shortBuffer bytes => bytes
  | .nothing | .failed | .noCodecs | .mismatch => []

def PayloadRead.Ok : PayloadRead → Prop
  | .payload _ | .nothing => True
  | .shortBuffer _ | .failed | .noCodecs | .mismatch => False

theorem ReadOut.err_of_ok {o : ReadOut} (h : o.toRead.Ok) : o.err = none := by
  unfold toRead at h
  split at h
  · assumption
  all_goals exact h.elim

theorem ReadOut.bytes_of_ok {o : ReadOut} (h : o.toRead.Ok) : o.b.take o.n = o.toRead.bytes := by
  rw [toRead, ReadOut.err_of_ok h]
  by_cases hn : o.n = 0
  · simp [hn, PayloadRead.bytes]
  · simp [hn, PayloadRead.bytes]

namespace BufferedReader

theorem readPayload_refines {r : BufferedReader} (hmade : r.unreadPayload.length = rtpBufSize)
    {b : Bytes} (hb : b ≠ []) {payload : Region} {value : Bytes} (hvalue : value ≠ [])
    (hshown : payload.view r.unreadPayload = value) :
    ((r.readPayload b payload).toRead, (r.readPayload b payload).reader.toReader) =
      r.toReader.readPayload b.length value := by
  have hn : copied b value ≠ 0 := by
    have hpos := List.length_pos_iff.mpr hb
    have hlen := List.length_pos_iff.mpr hvalue
    unfold copied
    omega
  have hrest : (payload.tail (copied b value)).view r.unreadPayload = value.drop b.length := by
    rw [Region.view_tail, hshown, drop_copied]
  have hbytes := take_copyInto b value
  unfold readPayload RTPPacketReader.readPayload
  simp only [hshown, hrest]
  split_ifs with hfits
  · have hleft : (copyInto r.unreadPayload (value.drop b.length)).take
        (copied r.unreadPayload (value.drop b.length)) = (value.drop b.length).take rtpBufSize := by
      rw [take_copyInto, hmade]
    simp [ReadOut.toRead, hn, hbytes, toReader, left, setUnread, write, hleft]
  · have hdrop : value.drop b.length = [] := by
      rw [← drop_copied]
      exact List.drop_of_length_le (not_lt.mp hfits)
    simp [ReadOut.toRead, hn, hbytes, toReader, left, setUnread, hdrop]

theorem readUnread_refines {r : BufferedReader} (hunread : 0 < r.unread) {b : Bytes} (hb : b ≠ []) :
    ((r.readPayload b ⟨0, r.unread⟩).toRead, (r.readPayload b ⟨0, r.unread⟩).reader.toReader) =
      r.toReader.readPayload b.length r.toReader.unread := by
  have hmade : r.unreadPayload.length = rtpBufSize := by
    have hfits := r.fits
    exact r.sized.resolve_left (by omega)
  exact readPayload_refines hmade hb (left_ne_nil hunread) rfl

theorem payloadAt_le {lib : RtpLib} {data : Bytes} {pkt : RTPPacket}
    (hpkt : lib.unmarshal data = some pkt) :
    (payloadAt data pkt).off + (payloadAt data pkt).len ≤ data.length := by
  have hconsumes := lib.consumes data pkt hpkt
  change headerBytes data + pkt.payload.length ≤ data.length
  omega

theorem length_ne_zero_of_unmarshal {lib : RtpLib} {data : Bytes} {pkt : RTPPacket}
    (hpkt : lib.unmarshal data = some pkt) : data.length ≠ 0 := by
  have hconsumes := lib.consumes data pkt hpkt
  unfold headerBytes fixedBytes at hconsumes
  omega

theorem receive_refines (lib : SlicingLib) {r : BufferedReader} (hunread : r.unread = 0) {b : Bytes}
    (hb : b ≠ []) {data : Bytes} (hdata : data.length ≤ rtpBufSize) {pkt : RTPPacket}
    (hpkt : lib.unmarshal data = some pkt) :
    ((r.receive lib.toRtpLib b (.packet data)).toRead,
      (r.receive lib.toRtpLib b (.packet data)).reader.toReader) =
      r.toReader.take b.length data.length pkt := by
  have hwhole : data.take (RTPPacketReader.readLen b.length) = data :=
    List.take_of_length_le (hdata.trans (readLen_ge b.length))
  have hpos := length_ne_zero_of_unmarshal hpkt
  have hslice := lib.slices data pkt hpkt
  simp only [receive, hwhole, hpkt]
  unfold RTPPacketReader.take take
  rw [if_neg hpos]
  by_cases hsmall : b.length < rtpBufSize
  · have hinto : r.readInto b data = (b, r.ensure.write data) := if_pos hsmall
    have hunread' : r.ensure.unread = 0 := (unread_ensure r).trans hunread
    have hmemory : (r.ensure.write data).toReader = r.toReader :=
      (toReader_write hunread' data).trans (toReader_ensure hunread)
    have hview : (payloadAt data pkt).view (r.ensure.write data).unreadPayload = pkt.payload := by
      rw [hslice]
      exact Region.view_copyInto (payloadAt_le hpkt) (by rw [length_ensure]; exact hdata)
    rw [hinto]
    split_ifs with hcheck hempty
    · simp [ReadOut.toRead, hmemory]
    · simp [ReadOut.toRead, hmemory]
    · rw [← hmemory, ← toReader_track]
      refine readPayload_refines ?_ hb hempty hview
      exact (length_copyInto _ _).trans (length_ensure r)
  · have hinto : r.readInto b data = (copyInto b data, r) := if_neg hsmall
    have hview : (payloadAt data pkt).view (copyInto b data) = pkt.payload := by
      rw [hslice]
      exact Region.view_copyInto (payloadAt_le hpkt) (hdata.trans (not_lt.mp hsmall))
    have hroom : pkt.payload.length ≤ b.length := by
      have hle : headerBytes data + pkt.payload.length ≤ data.length := payloadAt_le hpkt
      omega
    have hcopied : copied (copyInto b data) pkt.payload = pkt.payload.length := by
      rw [copied, length_copyInto, min_eq_right hroom]
    have hbytes : (copyInto (copyInto b data) pkt.payload).take pkt.payload.length =
        pkt.payload := by
      rw [← hcopied, take_copyInto, length_copyInto, List.take_of_length_le hroom]
    rw [hinto]
    simp only [hview, hcopied, if_neg hsmall, lt_irrefl, if_false, if_neg (not_lt.mpr hroom)]
    split_ifs with hcheck hempty
    · simp [ReadOut.toRead]
    · simp [ReadOut.toRead]
    · simp [ReadOut.toRead, hbytes, hempty, toReader_track]

end BufferedReader

/-! ### What the reader of values returns -/

namespace RTPPacketReader

theorem readPayload_splits (r : RTPPacketReader) {bufLen : ℕ} {payload : Bytes}
    (h : payload.length ≤ rtpBufSize) :
    (r.readPayload bufLen payload).1.bytes ++ (r.readPayload bufLen payload).2.unread =
      payload := by
  have hrest : (payload.drop bufLen).length ≤ rtpBufSize := by
    rw [List.length_drop]
    omega
  unfold readPayload
  rw [List.take_of_length_le hrest]
  exact List.take_append_drop bufLen payload

/-- The size check passed, and the payload fits into the reader's own buffer. -/
theorem take_splits {r : RTPPacketReader} (hunread : r.unread = []) (bufLen : ℕ) {n : ℕ}
    (hn : n ≠ 0) {pkt : RTPPacket} (hlen : pkt.payload.length ≤ rtpBufSize)
    (hcheck : (n : ℤ) - pkt.marshalSize - pkt.paddingSize.toNat = pkt.payload.length) :
    (r.take bufLen n pkt).1.Ok ∧ (r.take bufLen n pkt).1.bytes = pkt.payload.take bufLen ∧
      (r.take bufLen n pkt).1.bytes ++ (r.take bufLen n pkt).2.unread = pkt.payload := by
  unfold take
  rw [if_neg hn, if_neg (not_not.mpr hcheck)]
  split_ifs with hempty hsmall hshort
  · simp [PayloadRead.Ok, PayloadRead.bytes, hunread, hempty]
  · exact ⟨trivial, rfl, readPayload_splits _ hlen⟩
  · omega
  · simpa [PayloadRead.Ok, PayloadRead.bytes, track, hunread] using hshort

end RTPPacketReader

/-! ### The stream -/

/-- A datagram that fits and has no header extension, or a read that returned zero. -/
def Delivery.Plain (lib : RtpLib) : Delivery → Prop
  | .packet data =>
    data.length ≤ rtpBufSize ∧ hasExtension data = false ∧ (lib.unmarshal data).isSome
  | .zero _ => True
  | .failed _ => False

def Delivery.payload (lib : RtpLib) : Delivery → Bytes
  | .packet data => ((lib.unmarshal data).map RTPPacket.payload).getD []
  | .zero _ | .failed _ => []

/-- A reader, what is still to be delivered to it, and what its reads returned so far. -/
structure StreamRun where
  reader : BufferedReader := {}
  source : List Delivery
  returned : Bytes := []
  errs : List ReadErr := []

/-- A call of Read. One that waits for a delivery changes nothing. -/
def StreamRun.call (lib : RtpLib) (s : StreamRun) (b : Bytes) : StreamRun :=
  match s.reader.read lib b s.source with
  | none => s
  | some (out, source) =>
    { reader := out.reader, source
      returned := s.returned ++ out.b.take out.n
      errs := s.errs ++ out.err.toList }

/-- What was returned and what is left unread are the payloads of the deliveries taken. -/
structure StreamRun.Faithful (lib : RtpLib) (source : List Delivery) (s : StreamRun) : Prop where
  plain : ∀ d ∈ s.source, d.Plain lib
  errs : s.errs = []
  stream : ∃ taken, taken ++ s.source = source ∧
    s.returned ++ s.reader.left = taken.flatMap (Delivery.payload lib)

structure ReadOut.Gives (lib : RtpLib) (r : BufferedReader) (b : Bytes) (taken : List Delivery)
    (o : ReadOut) : Prop where
  err : o.err = none
  fills : o.b.take o.n = (r.left ++ taken.flatMap (Delivery.payload lib)).take b.length
  bytes : o.b.take o.n ++ o.reader.left = r.left ++ taken.flatMap (Delivery.payload lib)

namespace BufferedReader

variable {r : BufferedReader} {b : Bytes}

theorem readUnread_gives (lib : RtpLib) (hunread : 0 < r.unread) (hb : b ≠ []) :
    (r.readPayload b ⟨0, r.unread⟩).Gives lib r b [] := by
  have hrefines := readUnread_refines hunread hb
  have hread := congrArg Prod.fst hrefines
  have hreader := congrArg Prod.snd hrefines
  dsimp only at hread hreader
  have hok : (r.readPayload b ⟨0, r.unread⟩).toRead.Ok := by
    rw [hread]
    trivial
  have hlen : r.left.length ≤ rtpBufSize := by
    have hsized := r.sized
    rw [left, List.length_take]
    omega
  refine ⟨ReadOut.err_of_ok hok, ?_, ?_⟩ <;>
    rw [ReadOut.bytes_of_ok hok, hread, List.flatMap_nil, List.append_nil]
  · rfl
  · change _ ++ (r.readPayload b ⟨0, r.unread⟩).reader.toReader.unread = _
    rw [hreader]
    exact RTPPacketReader.readPayload_splits _ hlen

theorem receive_gives (lib : SlicingLib) (hunread : r.unread = 0) (hb : b ≠ []) {d : Delivery}
    (hd : d.Plain lib.toRtpLib) :
    (r.receive lib.toRtpLib b d).Gives lib.toRtpLib r b [d] := by
  cases d with
  | failed closed => exact hd.elim
  | zero data =>
    have hleft : (r.readInto b data).2.left = r.left := by
      unfold readInto
      split_ifs
      · have hmemory := (toReader_write ((unread_ensure r).trans hunread) data).trans
          (toReader_ensure hunread)
        exact congrArg RTPPacketReader.unread hmemory
      · rfl
    refine ⟨rfl, ?_, ?_⟩
    · simp [receive, left_eq_nil hunread, Delivery.payload]
    · simp [receive, hleft, Delivery.payload]
  | packet data =>
    obtain ⟨hdata, hext, hsome⟩ := hd
    obtain ⟨pkt, hpkt⟩ := Option.isSome_iff_exists.mp hsome
    have hconsumes := lib.consumes data pkt hpkt
    have hcheck := (check_iff hpkt).mpr fun h => absurd h (by simp [hext])
    have hrefines := receive_refines lib hunread hb hdata hpkt
    have hread := congrArg Prod.fst hrefines
    have hreader := congrArg Prod.snd hrefines
    dsimp only at hread hreader
    have hempty : r.toReader.unread = [] := left_eq_nil hunread
    obtain ⟨hok, hfills, hsplits⟩ := RTPPacketReader.take_splits hempty b.length
      (length_ne_zero_of_unmarshal hpkt) (by omega) hcheck
    rw [← hread] at hok
    have hpayload : r.left ++ [.packet data].flatMap (Delivery.payload lib.toRtpLib) =
        pkt.payload := by
      simp [Delivery.payload, hpkt, left_eq_nil hunread]
    refine ⟨ReadOut.err_of_ok hok, ?_, ?_⟩ <;> rw [ReadOut.bytes_of_ok hok, hread, hpayload]
    · exact hfills
    · rw [← hsplits]
      change _ ++ (r.receive lib.toRtpLib b (.packet data)).reader.toReader.unread = _
      rw [hreader]

end BufferedReader

theorem StreamRun.Faithful.call (lib : SlicingLib) {source : List Delivery} {s : StreamRun}
    (h : s.Faithful lib.toRtpLib source) {b : Bytes} (hb : b ≠ []) :
    (s.call lib.toRtpLib b).Faithful lib.toRtpLib source := by
  obtain ⟨taken, htaken, hstream⟩ := h.stream
  have hgives : ∀ (out : ReadOut) (now rest : List Delivery), s.source = now ++ rest →
      out.Gives lib.toRtpLib s.reader b now →
      StreamRun.Faithful lib.toRtpLib source
        { reader := out.reader, source := rest, returned := s.returned ++ out.b.take out.n
          errs := s.errs ++ out.err.toList } := by
    intro out now rest hsource hout
    refine ⟨fun d hd => h.plain d ?_, ?_, taken ++ now, ?_, ?_⟩
    · rw [hsource]
      exact List.mem_append_right now hd
    · simp [h.errs, hout.err]
    · rw [List.append_assoc, ← hsource, htaken]
    · rw [List.append_assoc, hout.bytes, ← List.append_assoc, hstream, List.flatMap_append]
  unfold StreamRun.call BufferedReader.read
  by_cases hunread : 0 < s.reader.unread
  · rw [if_pos hunread]
    exact hgives _ [] s.source rfl (BufferedReader.readUnread_gives _ hunread hb)
  · rw [if_neg hunread]
    cases hsource : s.source with
    | nil => exact h
    | cons d rest =>
      refine hgives _ [d] rest hsource ?_
      apply BufferedReader.receive_gives lib (by omega) hb
      apply h.plain
      simp [hsource]

/-- A call returns what fits of the bytes unread or, when there are none, of the delivery it
takes. -/
structure StreamRun.Fills (lib : RtpLib) (s : StreamRun) (b : Bytes) : Prop where
  unread : 0 < s.reader.unread → (s.call lib b).source = s.source ∧
    (s.call lib b).returned = s.returned ++ s.reader.left.take b.length
  taken : s.reader.unread = 0 → ∀ d rest, s.source = d :: rest → (s.call lib b).source = rest ∧
    (s.call lib b).returned = s.returned ++ (d.payload lib).take b.length

theorem StreamRun.Faithful.fills (lib : SlicingLib) {source : List Delivery} {s : StreamRun}
    (h : s.Faithful lib.toRtpLib source) {b : Bytes} (hb : b ≠ []) :
    s.Fills lib.toRtpLib b := by
  constructor <;> simp only [StreamRun.call, BufferedReader.read]
  · intro hunread
    have hfills := (BufferedReader.readUnread_gives lib.toRtpLib hunread hb).fills
    rw [List.flatMap_nil, List.append_nil] at hfills
    rw [if_pos hunread, ← hfills]
    exact ⟨rfl, rfl⟩
  · intro hunread d rest hsource
    have hplain := h.plain d (by simp [hsource])
    have hfills := (BufferedReader.receive_gives lib hunread hb hplain).fills
    rw [BufferedReader.left_eq_nil hunread, List.flatMap_singleton, List.nil_append] at hfills
    rw [if_neg (by omega), hsource, ← hfills]
    exact ⟨rfl, rfl⟩

/-- The bytes read are those of the payloads taken, in their order: all of them whenever nothing is
left unread, and never any others. No read returns an error, and each returns what fits of what is
unread or, if nothing is, of the one delivery it takes. -/
theorem payload_stream_faithful (lib : SlicingLib) (source : List Delivery)
    (hsource : ∀ d ∈ source, d.Plain lib.toRtpLib) (calls : List Bytes)
    (hcalls : ∀ b ∈ calls, b ≠ []) :
    let s := runFrom (StreamRun.call lib.toRtpLib) { source } calls
    s.errs = [] ∧ (∃ taken, taken ++ s.source = source ∧
      s.returned <+: taken.flatMap (Delivery.payload lib.toRtpLib) ∧
      (s.reader.unread = 0 → s.returned = taken.flatMap (Delivery.payload lib.toRtpLib))) ∧
    ∀ b, b ≠ [] → s.Fills lib.toRtpLib b := by
  intro s
  have hstart : StreamRun.Faithful lib.toRtpLib source { source } := ⟨hsource, rfl, [], rfl, rfl⟩
  have hfaithful : s.Faithful lib.toRtpLib source :=
    runFrom_invariant_of_mem _ (fun _ _ h hb => h.call lib hb) hstart hcalls
  obtain ⟨taken, htaken, hstream⟩ := hfaithful.stream
  refine ⟨hfaithful.errs, ⟨taken, htaken, ⟨s.reader.left, hstream⟩, fun hunread => ?_⟩,
    fun b hb => hfaithful.fills lib hb⟩
  rw [← hstream, BufferedReader.left_eq_nil hunread, List.append_nil]

section Sample

def oneByteSlices : SlicingLib where
  toRtpLib := oneByteLib
  slices data pkt h := by
    simp only [oneByteLib] at h
    split_ifs at h with hlen
    cases h
    simp only [payloadAt, Region.view, oneBytePacket, List.length_take, List.length_drop]
    rw [min_eq_left (by omega)]

def threeBytes : Bytes := [0x80, 0, 0, 1, 0, 0, 0, 0, 0, 0, 0, 7, 1, 2, 3]

/-- Read with small buffers of changing sizes, around a read that returned zero. -/
theorem small_reads_faithful :
    let s := runFrom (StreamRun.call oneByteSlices.toRtpLib)
      { source := [.packet threeBytes, .zero plainPacket, .packet plainPacket] }
      [[9, 9], [9], [9, 9, 9], [9, 9]]
    s.errs = [] ∧ s.source = [] ∧ s.returned = [1, 2, 3, 255] := by
  intro s
  obtain ⟨herrs, ⟨taken, htaken, -, hall⟩, -⟩ := payload_stream_faithful oneByteSlices
    [.packet threeBytes, .zero plainPacket, .packet plainPacket]
    (by simp [Delivery.Plain]; decide) [[9, 9], [9], [9, 9, 9], [9, 9]] (by decide)
  have hdone : s.source = [] := by decide +kernel
  rw [hdone, List.append_nil] at htaken
  refine ⟨herrs, hdone, ?_⟩
  rw [hall (by decide +kernel), htaken]
  decide

end Sample

end Diago.Rtp
