import Diago.Media.RemoteSDP

/-! # What each stage of a remote description changes

A frame lemma for each stage: what does not depend on the fields the stage
writes is left alone, also when the stage refuses the body.
-/
namespace Diago.Media
open Lib SDP Op

variable {γ : Type} {f : MediaSession → γ}

theorem keeps_applyOrigin (h : ∀ s i v, f { s with sessionID := i, sessionVersion := v } = f s)
    (lines : List Line) : Keeps f (applyOrigin lines) := by
  unfold applyOrigin
  split
  · exact keeps_fail f _
  · exact keeps_update fun s => h s _ _

section Fold
variable [UnicodeCase]

theorem keeps_applyProfile (h : ∀ s p, f { s with remoteProto := p } = f s)
    (md : MediaDescription) (attrs : List Bytes) : Keeps f (applyProfile md attrs) := by
  unfold applyProfile
  split
  · exact keeps_fail f _
  · exact (keeps_update fun s => h s _).bind fun _ => keeps_pure f _

theorem keeps_applyCodecs (h : ∀ s cs ds, f { s with codecs := cs, filterCodecs := ds } = f s)
    (g : Globals) (md : MediaDescription) (attrs : List Bytes) :
    Keeps f (applyCodecs g md attrs) := by
  unfold applyCodecs
  split
  · exact keeps_fail f _
  · exact keeps_fail f _
  · exact (keeps_read f).bind fun s =>
      (keeps_update fun s => h s _ _).bind fun _ => keeps_require f _ _

end Fold

theorem keeps_applyStreams (h : ∀ s o, f { s with offeredStreams := o } = f s)
    (media : List MediaSection) (audio : ℕ) : Keeps f (applyStreams media audio) :=
  keeps_update fun s => h s _

theorem keeps_applyConnection (h : ∀ s a b, f { s with raddr := a, rtcpRaddr := b } = f s)
    (lines : List Line) (md : MediaDescription) : Keeps f (applyConnection lines md) := by
  unfold applyConnection
  split
  · exact keeps_fail f _
  · exact (keeps_require f _ _).bind fun _ => (keeps_require f _ _).bind fun _ =>
      keeps_update fun s => h s _ _

theorem keeps_applyDirection (h : ∀ s m, f { s with mode := m } = f s) (lines : List Line) :
    Keeps f (applyDirection lines) :=
  keeps_update fun s => h s _

def MediaSession.withRemoteICE (s : MediaSession) (ufrag pwd : Bytes) (lite : Bool)
    (agent : Option ICEAgent) : MediaSession :=
  { s with
    remoteICEUfrag := ufrag
    remoteICEPwd := pwd
    remoteICELite := lite
    iceAgent := agent }

theorem keeps_remoteICE
    (h : ∀ s u p l a, f (s.withRemoteICE u p l a) = f s) (attrs : List Bytes) : Keeps f (remoteICE attrs) := by
  unfold remoteICE
  refine (keeps_require f _ _).bind fun _ => (keeps_require f _ _).bind fun _ =>
    (keeps_read f).bind fun s => ?_
  split
  · exact keeps_update fun s => h s _ _ _ _
  · exact (keeps_require f _ _).bind fun _ => keeps_update fun s => h s _ _ s.remoteICELite s.iceAgent
  · exact keeps_fail f _

theorem keeps_applyICE
    (h : ∀ s u p l a, f (s.withRemoteICE u p l a) = f s) (attrs : List Bytes) : Keeps f (applyICE attrs) := by
  unfold applyICE
  exact (keeps_read f).bind fun s => (keeps_remoteICE h attrs).only _

structure StreamFields where
  sessionID : UInt64
  sessionVersion : UInt64
  remoteProto : Bytes
  offeredStreams : OfferedStreams
  codecs : List Codec
  filterCodecs : List Codec
  raddr : UDPAddr
  rtcpRaddr : UDPAddr
  mode : Option Mode

def MediaSession.withStream (s : MediaSession) (x : StreamFields) : MediaSession :=
  { s with
    sessionID := x.sessionID
    sessionVersion := x.sessionVersion
    remoteProto := x.remoteProto
    offeredStreams := x.offeredStreams
    codecs := x.codecs
    filterCodecs := x.filterCodecs
    raddr := x.raddr
    rtcpRaddr := x.rtcpRaddr
    mode := x.mode }

section Fold
variable [UnicodeCase]

theorem keeps_applyStream (h : ∀ s x, f (s.withStream x) = f s) (g : Globals)
    (sections : Sections) (audio : ℕ) (m : MediaSection) :
    Keeps f (applyStream g sections audio m) := by
  unfold applyStream
  refine (keeps_applyOrigin (fun s i v => ?_) _).bind fun _ =>
    (keeps_applyProfile (fun s p => ?_) _ _).bind fun _ =>
    (keeps_applyStreams (fun s o => ?_) _ _).bind fun _ =>
    (keeps_applyCodecs (fun s cs ds => ?_) _ _ _).bind fun _ =>
    (keeps_applyConnection (fun s a b => ?_) _ _).bind fun _ =>
    (keeps_applyDirection (fun s m => ?_) _).bind fun _ => keeps_pure f _
  · exact h s ⟨i, v, s.remoteProto, s.offeredStreams, s.codecs, s.filterCodecs, s.raddr,
      s.rtcpRaddr, s.mode⟩
  · exact h s ⟨s.sessionID, s.sessionVersion, p, s.offeredStreams, s.codecs, s.filterCodecs,
      s.raddr, s.rtcpRaddr, s.mode⟩
  · exact h s ⟨s.sessionID, s.sessionVersion, s.remoteProto, o, s.codecs, s.filterCodecs, s.raddr,
      s.rtcpRaddr, s.mode⟩
  · exact h s ⟨s.sessionID, s.sessionVersion, s.remoteProto, s.offeredStreams, cs, ds, s.raddr,
      s.rtcpRaddr, s.mode⟩
  · exact h s ⟨s.sessionID, s.sessionVersion, s.remoteProto, s.offeredStreams, s.codecs,
      s.filterCodecs, a, b, s.mode⟩
  · exact h s ⟨s.sessionID, s.sessionVersion, s.remoteProto, s.offeredStreams, s.codecs,
      s.filterCodecs, s.raddr, s.rtcpRaddr, m⟩

end Fold
structure SocketFields where
  rtpConn : Option Conn
  rtcpConn : Option Conn
  laddr : UDPAddr
  iceUDPConn : Option UDPAddr
  rtcpMux : Bool

def MediaSession.sockets (s : MediaSession) : SocketFields :=
  ⟨s.rtpConn, s.rtcpConn, s.laddr, s.iceUDPConn, s.rtcpMux⟩

def MediaSession.withSockets (s : MediaSession) (x : SocketFields) : MediaSession :=
  { s with
    rtpConn := x.rtpConn
    rtcpConn := x.rtcpConn
    laddr := x.laddr
    iceUDPConn := x.iceUDPConn
    rtcpMux := x.rtcpMux }

section Sockets
variable (h : ∀ s x, f (MediaSession.withSockets s x) = f s)
include h

theorem keeps_listen (port : ℤ) (a : Attempt) : Keeps f (listen port a) := by
  have hRTP (s : MediaSession) (c : Option Conn) : f { s with rtpConn := c } = f s :=
    h s { s.sockets with rtpConn := c }
  have hRTCP (s : MediaSession) (c : Option Conn) : f { s with rtcpConn := c } = f s :=
    h s { s.sockets with rtcpConn := c }
  unfold listen
  refine (keeps_read f).bind fun s => ?_
  split
  · unfold listenICE
    split
    · exact keeps_fail f _
    · rename_i bound _
      exact keeps_update fun s =>
        h s { s.sockets with iceUDPConn := some bound, laddr := bound, rtcpMux := true }
  · unfold listenRTPandRTCP
    split
    · exact (keeps_update fun s => hRTP s _).bind fun _ => keeps_fail f _
    · rename_i bound _
      refine (keeps_update fun s => hRTP s _).bind fun _ => ?_
      split
      · exact keeps_update fun s => h s
          { s.sockets with
            rtcpConn := some (.udp { bound with port := bound.port + 1 })
            laddr := bound }
      · exact (keeps_update fun s => hRTCP s _).bind fun _ => keeps_fail f _

theorem keeps_createListeners (g : Globals) (env : ListenEnv) (own : Bool) (port : ℤ) :
    Keeps f (createListeners g env own port) := by
  unfold createListeners
  split
  · exact (keeps_listen h _ _).bind fun _ => keeps_pure f _
  split
  · have htry (k : ℕ) (p : ℤ) : Keeps f (do
        Op.update fun s : MediaSession =>
          { s with laddr := { s.laddr with port := if own then p else s.laddr.port } }
        listen p (env.attempts k)) :=
      (keeps_update fun s => h s
        { s.sockets with laddr := { s.laddr with port := if own then p else s.laddr.port } }).bind
        fun _ => keeps_listen h _ _
    refine Keeps.bind (fun s => ?_) fun _ => keeps_pure f _
    have hfirst := Keeps.firstOk htry 0 (portsFrom (g.rtpPortStart + env.rtpPortOffset) g.rtpPortEnd) s
    split
    all_goals
      rename_i heq
      rw [heq] at hfirst
      exact hfirst
  · exact (Keeps.firstOk (fun k p => keeps_listen h p _) 0 _).bind fun _ => keeps_pure f _

end Sockets

theorem keeps_rebindForAssociation
    (h : ∀ s x, f (MediaSession.withSockets s x) = f s) (g : Globals) (env : RemoteEnv) :
    Keeps f (rebindForAssociation g env) := by
  unfold rebindForAssociation
  refine (keeps_update fun s => h s { s.sockets with rtpConn := none, rtcpConn := none }).bind
    fun _ s => ?_
  have hbind := keeps_createListeners h g env.listen false 0 s
  split
  all_goals
    rename_i heq
    rw [heq] at hbind
    exact hbind

theorem keeps_startICE
    (hf : ∀ s raddr rtcpRaddr mux rtpConn rtcpConn,
      f { s with raddr := raddr, rtcpRaddr := rtcpRaddr, iceMux := mux, rtpConn := rtpConn,
                 rtcpConn := rtcpConn } = f s) (h : HandshakeEnv) : Keeps f (startICE h) := by
  unfold startICE
  refine (keeps_read f).bind fun s => ?_
  split
  · exact keeps_fail f _
  · exact (keeps_require f _ _).bind fun _ => keeps_update fun s => hf s _ _ _ _ _
  · exact keeps_fail f _

theorem keeps_reachPeer
    (hf : ∀ s raddr rtcpRaddr mux rtpConn rtcpConn,
      f { s with raddr := raddr, rtcpRaddr := rtcpRaddr, iceMux := mux, rtpConn := rtpConn,
                 rtcpConn := rtcpConn } = f s) (h : HandshakeEnv) : Keeps f (reachPeer h) := by
  unfold reachPeer
  exact (keeps_read f).bind fun s =>
    (Keeps.only ((keeps_startICE hf h).bind fun _ => keeps_require f _ _) _).bind fun _ =>
    (keeps_require f _ _).bind fun _ => (keeps_require f _ _).bind fun _ => keeps_require f _ _

theorem keeps_initICE
    (hf : ∀ s conn agent, f { s with iceUDPConn := conn, iceAgent := agent } = f s) (env : ICEEnv) :
    Keeps f (initICE env) := by
  unfold initICE
  refine (keeps_read f).bind fun s => ?_
  dsimp only
  split
  · exact (keeps_update fun s => hf s _ s.iceAgent).bind fun _ => keeps_fail f _
  split
  · exact (keeps_update fun s => hf s _ s.iceAgent).bind fun _ => keeps_fail f _
  · exact keeps_update fun s => hf s s.iceUDPConn _

theorem keeps_checkSettings : Keeps f checkSettings := by
  unfold checkSettings
  exact (keeps_read f).bind fun s => (keeps_require f _ _).bind fun _ =>
    (keeps_require f _ _).bind fun _ => keeps_require f _ _

section Fold
variable [UnicodeCase]

theorem keeps_armDTLSHandshake
    (h : ∀ s a, f { s with onFinalize := a } = f s) (env : RemoteEnv)
    (fingerprints : List SdpFingerprint) (tlsID : Bytes) :
    Keeps f (armDTLSHandshake env fingerprints tlsID) := by
  unfold armDTLSHandshake
  exact (keeps_read f).bind fun s => (keeps_require f _ _).bind fun _ =>
    keeps_update fun s => h s _

end Fold
end Diago.Media
