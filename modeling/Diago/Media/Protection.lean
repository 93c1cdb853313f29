import Diago.Lib.Run
import Diago.Media.Keying
import Diago.Media.Wire

/-! # Protection of sent media

A session, its forks and the calls made on them, in any order and with any outcome of
the handshakes.
-/
namespace Diago.Media
open Lib SDP Op

inductive Channel
  | rtp
  | rtcp
  | rtcps
  deriving DecidableEq

def MediaSession.send (env : WriteEnv) (s : MediaSession) : Channel → Written
  | .rtp => s.writeRTP env
  | .rtcp => s.writeRTCP env
  | .rtcps => s.writeRTCPs env

inductive Call
  | configure (settings : Settings)
  | init (env : InitEnv)
  | localSDP (env : LocalEnv)
  | remoteSDP (env : RemoteEnv) (body : Bytes)
  | fork
  | finalizeContext (h : HandshakeEnv) (stop : Option Stop)
  | finalizeWithin (ends : Option HandshakeEnv) (seen : Bool)
  | returns (h : HandshakeEnv)
  | close (h : HandshakeEnv)
  | write (channel : Channel) (env : WriteEnv)

/-- A call on one of the sessions, numbered in the order in which they came to be. -/
structure Event where
  session : ℕ
  call : Call

/-- What was sent is the marshaled packet encrypted under the local context; without a context
nothing is sent and the write fails. -/
structure MediaSession.Protects (s : MediaSession) (env : WriteEnv) (out : Written) : Prop where
  encrypted : ∀ d ∈ out.sent, ∃ ctx plain, s.localCtxSRTP = some ctx ∧
    env.marshaled = some plain ∧ env.encrypt ctx plain = some d.data
  refused : s.localCtxSRTP = none → out.sent = none ∧ ∃ e, out.result = .error e

def ProtectsWrites (sessions : List MediaSession) (e : Event) : Prop :=
  ∀ s ∈ sessions[e.session]?, ∀ channel env, e.call = .write channel env →
    s.Protects env (s.send env channel)

/-- Writes are made only on a session that is keyed or refuses until it is. -/
def WritesWhenKeyed (sessions : List MediaSession) (e : Event) : Prop :=
  ∀ s ∈ sessions[e.session]?, ∀ channel env, e.call = .write channel env →
    s.dtlsKeyed = true ∨ s.dtlsUnkeyed = true

theorem writeTo_sent {env : WriteEnv} {conn : Option Conn} {dest : UDPAddr} {data : Bytes}
    {d : Datagram} (h : d ∈ (writeTo env conn dest data).sent) : d.data = data := by
  unfold writeTo at h
  split at h
  · simp at h
  · simp at h
  · simp at h
  · rw [← Option.mem_some_iff.mp h]

theorem MediaSession.protects_of_unkeyed {s : MediaSession} (h : s.dtlsUnkeyed = true)
    (env : WriteEnv) (channel : Channel) : s.Protects env (s.send env channel) := by
  have hsend : s.send env channel = ⟨none, .error .dtlsNotKeyed⟩ := by
    cases channel
    all_goals simp [send, writeRTP, writeRTCP, writeRTCPs, sendRTCP, h]
  rw [hsend]
  exact ⟨by simp, fun _ => ⟨rfl, _, rfl⟩⟩

theorem MediaSession.send_encrypted {s : MediaSession} {ctx : SrtpContext}
    (hctx : s.localCtxSRTP = some ctx) {env : WriteEnv} {channel : Channel} {d : Datagram}
    (h : d ∈ (s.send env channel).sent) :
    ∃ plain, env.marshaled = some plain ∧ env.encrypt ctx plain = some d.data := by
  have hdata {conn : Option Conn} {dest : UDPAddr} {plain data : Bytes}
      (hp : protect env s.localCtxSRTP plain = some data)
      (h : d ∈ (writeTo env conn dest data).sent) : env.encrypt ctx plain = some d.data := by
    rw [hctx] at hp
    rw [writeTo_sent h]
    exact hp
  have hrtcp (h : d ∈ (s.sendRTCP env).sent) :
      ∃ plain, env.marshaled = some plain ∧ env.encrypt ctx plain = some d.data := by
    unfold sendRTCP at h
    split at h
    · simp at h
    cases hm : env.marshaled with
    | none => simp [hm] at h
    | some plain =>
      simp only [hm, writeRTCPData] at h
      cases hp : protect env s.localCtxSRTP plain with
      | none => simp [hp] at h
      | some data =>
        simp only [hp] at h
        exact ⟨plain, rfl, hdata hp h⟩
  cases channel with
  | rtp =>
    simp only [send, writeRTP] at h
    split at h
    · simp at h
    split at h
    · simp at h
    cases hm : env.marshaled with
    | none => simp [hm] at h
    | some plain =>
      simp only [hm] at h
      cases hp : protect env s.localCtxSRTP plain with
      | none => simp [hp] at h
      | some data =>
        simp only [hp] at h
        exact ⟨plain, rfl, hdata hp h⟩
  | rtcp => exact hrtcp h
  | rtcps => exact hrtcp h

theorem MediaSession.Sound.protects {s : MediaSession} (hs : s.Sound)
    (h : s.dtlsKeyed = true ∨ s.dtlsUnkeyed = true) (env : WriteEnv) (channel : Channel) :
    s.Protects env (s.send env channel) := by
  rcases h with hkeyed | hunkeyed
  · obtain ⟨ctx, hctx⟩ := Option.isSome_iff_exists.mp (hs.contexts hkeyed).1
    have hlocal : s.localCtxSRTP = some ctx := hctx
    refine ⟨fun d hd => ?_, fun hnone => by simp [hlocal] at hnone⟩
    obtain ⟨plain, hm, he⟩ := send_encrypted hlocal hd
    exact ⟨ctx, plain, hlocal, hm, he⟩
  · exact protects_of_unkeyed hunkeyed env channel

section Lib
variable [UnicodeCase] [SrtpLib]

def MediaSession.after (g : Globals) (s : MediaSession) : Call → MediaSession
  | .configure settings => { s with toSettings := settings }
  | .init env => (MediaSession.init g env s).2
  | .localSDP env => (s.localSDP g env).2
  | .remoteSDP env body => (MediaSession.remoteSDP g env body s).2
  | .finalizeContext h stop => (MediaSession.finalizeContext h stop s).2
  | .finalizeWithin ends seen => (MediaSession.finalizeWithin ends seen s).2
  | .returns h => s.completeRun h
  | .close h => s.close h
  | .fork => s
  | .write _ _ => s

/-- A call on a session that does not exist does nothing; a fork joins the sessions. -/
def stepSessions (g : Globals) (sessions : List MediaSession) (e : Event) : List MediaSession :=
  match sessions[e.session]?, e.call with
  | none, _ => sessions
  | some s, .fork => sessions ++ [s.fork]
  | some s, call => sessions.set e.session (s.after g call)

theorem MediaSession.Sound.after {s : MediaSession} (hs : s.Sound) (g : Globals) (call : Call) :
    (s.after g call).Sound := by
  cases call with
  | configure settings => exact hs
  | init env => exact ((keeps_keying_init g env).maintains Keying.Sound) s hs
  | localSDP env => exact hs.localSDP g env
  | remoteSDP env body => exact maintains_remoteSDP g env body s hs
  | finalizeContext h stop => exact maintains_finalizeContext h stop s hs
  | finalizeWithin ends seen => exact maintains_finalizeWithin ends seen s hs
  | returns h => exact hs.completeRun h
  | close h => exact hs.close h
  | fork => exact hs
  | write channel env => exact hs

theorem sound_stepSessions (g : Globals) {sessions : List MediaSession}
    (h : ∀ s ∈ sessions, s.Sound) (e : Event) : ∀ s ∈ stepSessions g sessions e, s.Sound := by
  unfold stepSessions
  split
  · exact h
  · rename_i s hs _
    simp only [List.forall_mem_append, List.forall_mem_singleton]
    exact ⟨h, (h s (List.mem_of_getElem? hs)).fork⟩
  · rename_i s hs _
    intro t ht
    rcases List.mem_or_eq_of_mem_set ht with ht | rfl
    · exact h t ht
    · exact (h s (List.mem_of_getElem? hs)).after g _

/-- In every run of a session and its forks in which writes are made on keyed sessions, or on
sessions that refuse until they are keyed, nothing is sent in the clear. -/
theorem writes_protected_of_keyed (g : Globals) (settings : Settings) (events : List Event)
    (h : Along (stepSessions g) WritesWhenKeyed [{ toSettings := settings }] events) :
    Along (stepSessions g) ProtectsWrites [{ toSettings := settings }] events := by
  apply Along.of_invariant (fun sessions => ∀ s ∈ sessions, s.Sound) _ _ _ h
  · exact fun sessions e hs _ => sound_stepSessions g hs e
  · intro sessions e hs hkeyed s hmem channel env hcall
    exact (hs s (List.mem_of_getElem? hmem)).protects (hkeyed s hmem channel env hcall) env channel
  · simpa using sound_new settings

end Lib

/-! ## A run that is protected and one that is not

A handshake that fails inline leaves the session without keys and without a flag that refuses
writes. -/

section Sample

attribute [local instance] asciiOnly documentedSrtp

def dtlsSettings : Settings :=
  { codecs := [codecAudioUlaw]
    prefMode := some .sendrecv
    laddr := { ip := some (.v4 10 0 0 1), port := 4000 }
    secureRTP := .dtls
    dtlsConf := { certificates := [⟨some fun _ => 0⟩] } }

def audioBody (proto : Bytes) (attrs : List Bytes) : Bytes :=
  marshalLines
    ([⟨lit "v", lit "0"⟩, ⟨lit "o", lit "- 1 1 IN IP4 10.0.0.2"⟩, ⟨lit "s", lit "-"⟩,
      ⟨lit "c", lit "IN IP4 10.0.0.2"⟩, ⟨lit "t", lit "0 0"⟩,
      ⟨lit "m", lit "audio 4002 " ++ proto ++ lit " 0"⟩] ++ attrs.map attr)

def dtlsOffer : Bytes :=
  audioBody (lit "UDP/TLS/RTP/SAVP") [lit "setup:actpass", lit "fingerprint:SHA-256 AA"]

def boundListen : ListenEnv := { attempts := fun _ => ⟨some ⟨.v4 10 0 0 1, 4000⟩, true⟩ }

def boundInit : InitEnv := ⟨boundListen, ⟨fun _ => 0, fun _ => 0, true, []⟩⟩

def handshake (completes : Bool) : HandshakeEnv :=
  { checks := none
    dials := true
    completes := completes
    retires := true
    hasState := true
    profile := profileAes128CmHmacSha1_80
    material := some fun _ => 0
    localHandle := 1
    remoteHandle := 2 }

def sameLetter (letter : ℕ) : TLSID := ⟨fun _ => Fin.ofNat 32 letter⟩

def plainRemote : RemoteEnv :=
  { handle := 3
    tlsID := sameLetter 0
    listen := boundListen
    dials := true
    ending := handshake false }

def pcmuHeader : Bytes := 0x80 :: List.replicate 11 0

/-- A tag of ten bytes is put to what is encrypted. -/
def packetWrite (n : ℕ) : WriteEnv :=
  { marshaled := some pcmuHeader
    encrypt := fun _ data => some (data ++ List.replicate 10 0xFF)
    written := some n }

def handshakeRun (completes : Bool) : List Event :=
  [⟨0, .init boundInit⟩, ⟨0, .remoteSDP plainRemote dtlsOffer⟩,
    ⟨0, .finalizeContext (handshake completes) none⟩]

/-- After a handshake that completed the packet goes out protected. -/
theorem protected_after_handshake :
    ((runFrom (stepSessions {}) [{ toSettings := dtlsSettings }] (handshakeRun true))[0]?.bind
        fun s => (s.send (packetWrite 22) .rtp).sent.map (·.data)) =
      some (pcmuHeader ++ List.replicate 10 0xFF) ∧
    Along (stepSessions {}) ProtectsWrites [{ toSettings := dtlsSettings }]
      (handshakeRun true ++ [⟨0, .write .rtp (packetWrite 22)⟩]) := by
  refine ⟨by decide +kernel, ?_⟩
  have hkeyed : ((runFrom (stepSessions {}) [{ toSettings := dtlsSettings }]
      (handshakeRun true))[0]?.map fun s => s.dtlsKeyed) = some true := by decide +kernel
  apply writes_protected_of_keyed
  refine ⟨?_, ?_, ?_, ?_, trivial⟩
  · exact fun _ _ _ _ h => nomatch h
  · exact fun _ _ _ _ h => nomatch h
  · exact fun _ _ _ _ h => nomatch h
  · intro s hs channel env _
    have hs : (runFrom (stepSessions {}) [{ toSettings := dtlsSettings }]
      (handshakeRun true))[0]? = some s := hs
    rw [hs] at hkeyed
    exact .inl (Option.some.inj hkeyed)

/-- After a handshake that failed inline the packet goes out as it was marshaled. -/
theorem plaintext_after_failed_handshake :
    MediaSession.dtlsSRTP { toSettings := dtlsSettings } = true ∧
      ¬ Along (stepSessions {}) ProtectsWrites [{ toSettings := dtlsSettings }]
        (handshakeRun false ++ [⟨0, .write .rtp (packetWrite 12)⟩]) := by
  refine ⟨rfl, fun h => ?_⟩
  have hsent : ((runFrom (stepSessions {}) [{ toSettings := dtlsSettings }]
      (handshakeRun false))[0]?.map fun s =>
        (s.localCtxSRTP, (s.send (packetWrite 12) .rtp).sent.map (·.data))) =
      some (none, some pcmuHeader) := by decide +kernel
  obtain ⟨s, hs, heq⟩ := Option.map_eq_some_iff.mp hsent
  obtain ⟨hctx, hdata⟩ := Prod.mk.inj heq
  have hnone := (h.last s hs .rtp (packetWrite 12) rfl).refused hctx
  simp [hnone.1] at hdata

end Sample
end Diago.Media
