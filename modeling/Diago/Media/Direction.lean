import Diago.Media.Applied
import Diago.Media.Protection

/-! # The negotiated direction on the wire

Negotiation settles on one of four directions. A write is stopped only when it
is recvonly, and a read withholds only packets, and only when it is sendonly:
an inactive session sends and receives, and a sendonly one returns the length
of a datagram that is no packet.
-/
namespace Diago.Media
open Lib SDP Op

def Mode.Sends (m : Mode) : Prop := m = .sendrecv ∨ m = .sendonly

def Mode.Receives (m : Mode) : Prop := m = .sendrecv ∨ m = .recvonly

namespace MediaSession

/-- A write under the negotiated direction `dir` and a read under it keep to it. -/
def Respects (s : MediaSession) (dir : Mode) (w : WriteEnv) (r : ReadEnv) (bufLen : ℕ)
    (deliveries : List Delivery) : Prop :=
  ((s.writeRTP w).sent.isSome = true → Mode.Sends dir) ∧
    ∀ res t, s.readRTP r bufLen deliveries = some (res, t) → 0 < res.n → Mode.Receives dir

/-- The session, the marshaling, the encryption and the socket let the packet through. -/
def ReachesSocket (s : MediaSession) (w : WriteEnv) : Prop :=
  s.dtlsUnkeyed = false ∧
    (∃ plain ∈ w.marshaled, (protect w s.localCtxSRTP plain).isSome = true) ∧
    (∃ conn ∈ s.rtpConn, conn ≠ .unbound) ∧ w.written.isSome = true

/-- What the first datagram that is not discarded reads as. -/
def firstReading (env : ReadEnv) (bufLen : ℕ) : List Delivery → MediaSession → Option Reading
  | [], _ => none
  | .failure :: _, _ => none
  | .datagram data _ :: rest, s =>
    match s.readDatagram env (data.take bufLen) with
    | .discarded t => firstReading env bufLen rest t
    | reading => some reading

/-- The read ends on a packet of some bytes. -/
def ReadsPacket (s : MediaSession) (env : ReadEnv) (bufLen : ℕ) (deliveries : List Delivery) :
    Prop :=
  rtpBufSize ≤ bufLen ∧
    ∃ h n, s.firstReading env bufLen deliveries = some (.packet h n) ∧ 0 < n

/-- The read ends on some bytes that are no packet. -/
def ReadsGarbage (s : MediaSession) (env : ReadEnv) (bufLen : ℕ) (deliveries : List Delivery) :
    Prop :=
  rtpBufSize ≤ bufLen ∧ ∃ n, s.firstReading env bufLen deliveries = some (.refused n) ∧ 0 < n

theorem writeRTP_sent_iff (s : MediaSession) (w : WriteEnv) :
    (s.writeRTP w).sent.isSome = true ↔ s.mode ≠ some .recvonly ∧ s.ReachesSocket w := by
  have hwrite (conn : Option Conn) (dest : UDPAddr) (data : Bytes) :
      (writeTo w conn dest data).sent.isSome = true ↔
        (∃ c ∈ conn, c ≠ .unbound) ∧ w.written.isSome = true := by
    unfold writeTo
    cases conn with
    | none => simp
    | some c => cases c <;> cases w.written <;> simp
  unfold writeRTP ReachesSocket
  split_ifs with hunkeyed hmode
  · simp [hunkeyed]
  · simp [hmode]
  · cases w.marshaled with
    | none => simp
    | some plain =>
      dsimp only
      cases hprotect : protect w s.localCtxSRTP plain with
      | none => simp [hprotect]
      | some data => simp [hprotect, hwrite, hunkeyed, hmode]

theorem readDatagram_mode {env : ReadEnv} {s t : MediaSession} {data : Bytes}
    (h : s.readDatagram env data = .discarded t) : t.mode = s.mode := by
  unfold readDatagram at h
  split at h
  · obtain rfl := Reading.discarded.inj h
    rfl
  · split at h
    · split at h <;> cases h
    · split at h
      · obtain rfl := Reading.discarded.inj h
        rfl
      · split at h <;> cases h

theorem readRTP_pos_iff (env : ReadEnv) (bufLen : ℕ) (deliveries : List Delivery)
    (s : MediaSession) :
    (∃ res t, s.readRTP env bufLen deliveries = some (res, t) ∧ 0 < res.n) ↔
      (s.mode ≠ some .sendonly ∧ s.ReadsPacket env bufLen deliveries) ∨
        s.ReadsGarbage env bufLen deliveries := by
  unfold ReadsPacket ReadsGarbage
  by_cases hbuf : bufLen < rtpBufSize
  · have hshort : ¬ rtpBufSize ≤ bufLen := not_le.mpr hbuf
    have hread : s.readRTP env bufLen deliveries = some (⟨0, some .shortBuffer⟩, s) := by
      rw [readRTP.eq_def]
      exact if_pos hbuf
    simp [hread, hshort]
  · have hlong : rtpBufSize ≤ bufLen := not_lt.mp hbuf
    simp only [hlong, true_and]
    induction deliveries generalizing s with
    | nil => simp [readRTP, firstReading, hbuf]
    | cons delivery rest ih =>
      cases delivery with
      | failure => simp [readRTP, firstReading, hbuf]
      | datagram data source =>
        rw [readRTP, firstReading]
        simp only [hbuf, if_false]
        cases hread : s.readDatagram env (data.take bufLen) with
        | discarded t =>
          rw [← readDatagram_mode hread]
          exact ih t
        | refused n => simp
        | packet h n =>
          by_cases hmode : s.mode = some .sendonly <;> simp [hmode]

end MediaSession

section Lib
variable [UnicodeCase] [SrtpLib]

theorem remoteSDP_mode {g : Globals} {env : RemoteEnv} {body : Bytes} {s t : MediaSession}
    {sections : Sections} {audio : ℕ} {m : MediaSection}
    (hbody : chooseAudio body = .ok (sections, audio, m))
    (h : MediaSession.remoteSDP g env body s = (.ok (), t)) :
    t.mode = some (negotiateMediaDirection (mediaDirection (sections.description m)) s.prefMode) := by
  obtain ⟨r, happlied⟩ := remoteSDP_applied hbody h
  exact happlied.mode

/-- A session that accepted a body keeps to the direction exactly when no call that moves media is
made under an inactive one and no read under a sendonly one ends on a datagram that is no
packet. -/
theorem direction_respected_iff (g : Globals) (env : RemoteEnv) (body : Bytes) (s t : MediaSession)
    (sections : Sections) (audio : ℕ) (m : MediaSection) (dir : Mode) (w : WriteEnv) (r : ReadEnv)
    (bufLen : ℕ) (deliveries : List Delivery)
    (hbody : chooseAudio body = .ok (sections, audio, m))
    (happly : MediaSession.remoteSDP g env body s = (.ok (), t))
    (hdir : dir = negotiateMediaDirection (mediaDirection (sections.description m)) s.prefMode) :
    t.Respects dir w r bufLen deliveries ↔
      (dir = .inactive → ¬ t.ReachesSocket w ∧ ¬ t.ReadsPacket r bufLen deliveries) ∧
        (dir = .inactive ∨ dir = .sendonly → ¬ t.ReadsGarbage r bufLen deliveries) := by
  have hmode : t.mode = some dir := by rw [hdir, remoteSDP_mode hbody happly]
  have hread : (∀ res u, t.readRTP r bufLen deliveries = some (res, u) → 0 < res.n →
      Mode.Receives dir) ↔
      ((t.mode ≠ some .sendonly ∧ t.ReadsPacket r bufLen deliveries) ∨
        t.ReadsGarbage r bufLen deliveries → Mode.Receives dir) := by
    rw [← MediaSession.readRTP_pos_iff]
    constructor
    · rintro h ⟨res, u, hres, hpos⟩
      exact h res u hres hpos
    · intro h res u hres hpos
      exact h ⟨res, u, hres, hpos⟩
  unfold MediaSession.Respects
  rw [MediaSession.writeRTP_sent_iff, hread, hmode]
  cases dir with
  | sendrecv => simp [Mode.Sends, Mode.Receives]
  | sendonly => simp [Mode.Sends, Mode.Receives]
  | recvonly => simp [Mode.Sends, Mode.Receives]
  | inactive =>
    simp only [Mode.Sends, Mode.Receives, reduceCtorEq, or_self, imp_false, not_or, not_and, true_or,
      ne_eq, Option.some.injEq, not_false_eq_true, true_imp_iff]
    tauto

end Lib

section Sample

attribute [local instance] asciiOnly documentedSrtp

def plainSession : MediaSession :=
  { toSettings :=
      { codecs := [codecAudioUlaw]
        prefMode := some .sendrecv
        laddr := { ip := some (.v4 10 0 0 1), port := 4000 } }
    rtpConn := some (.udp { ip := some (.v4 10 0 0 1), port := 4000 }) }

def packetRead : ReadEnv where
  unmarshal data :=
    if data.head? = some 0x80 ∧ 12 ≤ data.length then some ⟨2, false, 12⟩ else none
  decrypt _ data := some (⟨2, false, 12⟩, data.take (data.length - 10))

def packetDelivery : List Delivery :=
  [.datagram pcmuHeader { ip := some (.v4 10 0 0 2), port := 4002 }]

theorem exists_chooseAudio (body : Bytes) (dir : Mode)
    (h : (chooseAudio body).toOption.map (fun x => mediaDirection (x.1.description x.2.2)) =
      some dir) : ∃ sections audio m, chooseAudio body = .ok (sections, audio, m) ∧
        mediaDirection (sections.description m) = dir := by
  obtain ⟨⟨sections, audio, m⟩, hbody, hdir⟩ := Option.map_eq_some_iff.mp h
  exact ⟨sections, audio, m, ok_of_toOption hbody, hdir⟩

/-- A body without a direction leaves the session free to send and receive. -/
theorem sendrecv_respected : ∃ t,
    MediaSession.remoteSDP {} plainRemote (audioBody (lit "RTP/AVP") []) plainSession = (.ok (), t) ∧
      t.Respects .sendrecv (packetWrite 12) packetRead 1500 packetDelivery := by
  obtain ⟨sections, audio, m, hbody, hdir⟩ := exists_chooseAudio
    (audioBody (lit "RTP/AVP") []) .sendrecv (by decide +kernel)
  obtain ⟨t, happly, -⟩ := exists_ok (P := fun _ => True)
    (x := MediaSession.remoteSDP {} plainRemote (audioBody (lit "RTP/AVP") []) plainSession)
    ⟨by decide +kernel, trivial⟩
  exact ⟨t, happly, (direction_respected_iff {} plainRemote _ _ t sections audio m .sendrecv
    (packetWrite 12) packetRead 1500 packetDelivery hbody happly (by rw [hdir]; rfl)).mpr
    ⟨by simp, by simp⟩⟩

/-- After an inactive offer the packet still goes out, and a datagram still comes in. -/
theorem inactive_not_respected : ∃ sections audio m t,
    chooseAudio (audioBody (lit "RTP/AVP") [lit "inactive"]) = .ok (sections, audio, m) ∧
      MediaSession.remoteSDP {} plainRemote (audioBody (lit "RTP/AVP") [lit "inactive"])
        plainSession = (.ok (), t) ∧
      negotiateMediaDirection (mediaDirection (sections.description m)) plainSession.prefMode =
        .inactive ∧
      (t.writeRTP (packetWrite 12)).sent.isSome = true ∧
      ((t.readRTP packetRead 1500 packetDelivery).map fun x => x.1.n) = some 12 ∧
      ¬ t.Respects .inactive (packetWrite 12) packetRead 1500 packetDelivery := by
  obtain ⟨sections, audio, m, hbody, hdir⟩ := exists_chooseAudio
    (audioBody (lit "RTP/AVP") [lit "inactive"]) .inactive (by decide +kernel)
  obtain ⟨t, happly, hsent, hread⟩ := exists_ok
    (P := fun t : MediaSession => (t.writeRTP (packetWrite 12)).sent.isSome = true ∧
      ((t.readRTP packetRead 1500 packetDelivery).map fun x => x.1.n) = some 12)
    (x := MediaSession.remoteSDP {} plainRemote (audioBody (lit "RTP/AVP") [lit "inactive"])
      plainSession) (by decide +kernel)
  refine ⟨sections, audio, m, t, hbody, happly, by rw [hdir]; rfl, hsent, hread, fun h => ?_⟩
  simpa [Mode.Sends] using h.1 hsent

end Sample
end Diago.Media
