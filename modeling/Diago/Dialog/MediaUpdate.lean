import Diago.Media.LocalSDP
import Diago.Media.RemoteSDP
import Diago.Rtp.Session

/-! # Media updates

An update forks the installed media session, applies a description to the fork and
swaps the fork and a new RTP session in.
-/
namespace Diago.Dialog.MediaUpdate
open Lib Media Rtp

/-- An object with its identity. -/
structure Object (α : Type) where
  id : ℕ
  val : α

/-- An RTP session on the media session `sess`; `monitoring` while the goroutines of its monitor
run. -/
structure RTPObject where
  id : ℕ
  sess : ℕ
  session : RTPSession
  monitoring : Bool

structure AckOffer where
  cseq : UInt32
  msess : Object MediaSession

/-- The media of a dialog. The packet reader, the jitter buffer and the packet writer are the
identity of what they are bound to. -/
structure DialogMedia where
  mediaSession : Option (Object MediaSession)
  rtpSession : Option RTPObject
  iceAgentOwner : Option ℕ := none
  rtpPacketReader : ℕ
  rtpPacketWriter : ℕ
  jitterBuffer : Option ℕ := none
  mediaUpdating : Bool := false
  ackOffer : Option AckOffer := none
  closed : Bool := false

inductive UpdateErr
  | mediaClosed
  | noRTPSession
  | monitorClose
  | noRemoteAddr
  | startMonitor
  | carryDeadlines
  | closeReplaced
  | noMediaSession
  | remoteSDP (e : Media.Err)
  | finalize (e : Media.Err)
  | closeFork
  deriving DecidableEq

inductive Result (α : Type)
  | done (a : α)
  | failed (e : UpdateErr)
  | panicked

/-- What the sockets do in one update. -/
structure SocketEnv where
  /-- The deadline that stops the old monitor is set. -/
  stopsMonitor : Bool := true
  startsMonitor : Bool := true
  carriesDeadlines : Bool := true
  closesReplaced : Bool := true
  closesFork : Bool := true

/-- MonitorClose, which has stopped the monitor also when it returns an error. -/
def RTPObject.monitorClose (r : RTPObject) : RTPObject :=
  { r with session := { r.session with closed := true }, monitoring := false }

namespace DialogMedia

variable (d : DialogMedia)

def ids : List ℕ :=
  d.mediaSession.toList.map Object.id ++ d.rtpSession.toList.flatMap (fun r => [r.id, r.sess]) ++
    d.iceAgentOwner.toList ++ [d.rtpPacketReader, d.rtpPacketWriter] ++ d.jitterBuffer.toList ++
    d.ackOffer.toList.map (·.msess.id)

def fresh : ℕ := d.ids.toFinset.sup id + 1

/-- Who keeps the ICE agent once `msess` is installed: the first session replaced that has one. -/
def ownerAfter (msess : Object MediaSession) : Option ℕ :=
  match d.mediaSession with
  | some old =>
    if old.id ≠ msess.id ∧ old.val.iceAgent.isSome ∧ d.iceAgentOwner = none then some old.id
    else d.iceAgentOwner
  | none => d.iceAgentOwner

/-- Another session takes over, with a reader, a writer and, where there is one, the jitter buffer
on it. -/
def install (msess : Object MediaSession) (rtp : RTPObject) : DialogMedia :=
  { d with
    rtpPacketReader := if d.jitterBuffer.isSome then d.rtpPacketReader else rtp.id
    jitterBuffer := d.jitterBuffer.map fun _ => rtp.id
    rtpPacketWriter := rtp.id
    iceAgentOwner := d.ownerAfter msess
    mediaSession := some msess
    rtpSession := some rtp }

/-- A change of the installed session, which the RTP session on it sees too. -/
def changeSession (f : MediaSession → MediaSession) : DialogMedia :=
  { d with
    mediaSession := d.mediaSession.map fun cur => { cur with val := f cur.val }
    rtpSession := d.rtpSession.map fun r =>
      if d.mediaSession.any (·.id = r.sess) then
        { r with session := { r.session with sess := f r.session.sess } }
      else r }

end DialogMedia

def moved (old msess : MediaSession) : Prop :=
  old.laddr.ip ≠ msess.laddr.ip ∨ old.laddr.port ≠ msess.laddr.port

instance (old msess : MediaSession) : Decidable (moved old msess) :=
  inferInstanceAs (Decidable (_ ∨ _))

def carryRTPDeadlines (env : SocketEnv) (old msess : MediaSession) : Result Unit :=
  if old.rtpConn = msess.rtpConn then .done ()
  else if msess.rtpConn = none then .panicked
  else if env.carriesDeadlines then .done () else .failed .carryDeadlines

def retire (env : SocketEnv) (iceAgentOwner : Option ℕ) (old msess : Object MediaSession) :
    Result Unit :=
  match if old.id = msess.id then .done () else carryRTPDeadlines env old.val msess.val with
  | .done _ =>
    if iceAgentOwner ≠ some old.id ∧ moved old.val msess.val ∧ env.closesReplaced = false then
      .failed .closeReplaced
    else .done ()
  | r => r

def monitorBackground (env : SocketEnv) (sess : MediaSession) : Result Unit :=
  if sess.raddr.ip = none ∨ sess.rtcpRaddr.ip = none then .failed .noRemoteAddr
  else if sess.rtcpConn = none then .panicked
  else if env.startsMonitor then .done () else .failed .startMonitor

/-- An RTP session whose monitor does not start is closed, which takes its RTCP socket. -/
def monitorOrClose (env : SocketEnv) (sess : MediaSession) : Result Unit :=
  match monitorBackground env sess with
  | .failed e => if sess.rtcpConn = none then .panicked else .failed e
  | r => r

def swapRTPSession (env : SocketEnv) (msess : Object MediaSession) (old : RTPObject)
    (d : DialogMedia) : Result Unit × DialogMedia :=
  if old.session.sess.rtcpConn = none then (.panicked, d) else
  let stopped := { d with rtpSession := some old.monitorClose }
  if env.stopsMonitor = false then (.failed .monitorClose, stopped) else
  match old.session.fork msess.val with
  | none => (.panicked, stopped)
  | some fork =>
    match monitorOrClose env msess.val with
    | .done _ =>
      ((d.mediaSession.map fun old => retire env (d.ownerAfter msess) old msess).getD (.done ()),
        stopped.install msess ⟨d.fresh, msess.id, { fork with monitorRun := true }, true⟩)
    | r => (r, stopped)

def replaceRTPSession (env : SocketEnv) (msess : Object MediaSession) (d : DialogMedia) :
    Result Unit × DialogMedia :=
  if d.closed then (.failed .mediaClosed, d)
  else
    match d.rtpSession with
    | none => (.failed .noRTPSession, d)
    | some old => swapRTPSession env msess old d

/-- Closing a fork that is not installed, unless it is on the sockets of the installed session. -/
def discardFork (env : SocketEnv) (msess : MediaSession) (d : DialogMedia) : Result Unit :=
  if d.mediaSession.all (fun cur => moved cur.val msess) ∧ env.closesFork = false then
    .failed .closeFork
  else .done ()

section Lib
variable [UnicodeCase] [SrtpLib]

/-- What happens outside the dialog while an update runs. -/
structure Env extends SocketEnv where
  globals : Globals := {}
  remote : RemoteEnv
  offer : LocalEnv
  handshake : HandshakeEnv
  /-- The end of the dialog's context during a handshake. -/
  stop : Option Stop := none
  /-- The media is closed during a handshake. -/
  closes : Bool := false
  /-- The 2xx is sent, and not what a BYE puts in its place. -/
  sends : Bool := true

def applyRemote (env : Env) (body : Bytes) (s : MediaSession) : Result MediaSession :=
  match MediaSession.remoteSDP env.globals env.remote body s with
  | (.ok _, t) => .done t
  | (.error .codecsOutOfRange, _) => .panicked
  | (.error e, _) => .failed (.remoteSDP e)

/-- An inbound re-INVITE carries an offer. -/
def DialogMedia.expectOffer (d : DialogMedia) : DialogMedia :=
  d.changeSession fun s => { s with remoteSDPIsAnswer := false }

def sdpReInvite (env : Env) (body : Bytes) (d : DialogMedia) :
    Result (Object MediaSession) × DialogMedia :=
  match d.expectOffer.mediaSession with
  | none => (.failed .noMediaSession, d)
  | some cur =>
    match applyRemote env body cur.val.fork with
    | .done t => (.done ⟨d.fresh, t⟩, d.expectOffer)
    | .failed e => (.failed e, d.expectOffer)
    | .panicked => (.panicked, d.expectOffer)

/-- The media after a handshake, which runs with the lock released. -/
def DialogMedia.handshaken (env : Env) (d : DialogMedia) : DialogMedia :=
  { d with closed := d.closed || env.closes }

/-- The media was closed, or the dialog ended, meanwhile. -/
def Ended (env : Env) (d : DialogMedia) : Prop :=
  (d.handshaken env).closed = true ∨ env.stop.isSome = true

instance (env : Env) (d : DialogMedia) : Decidable (Ended env d) :=
  inferInstanceAs (Decidable (_ ∨ _))

/-- The pending negotiation of a fork runs and the fork is installed. -/
def finalizeAndReplace (env : Env) (msess : Object MediaSession) (d : DialogMedia) :
    Result Unit × DialogMedia :=
  match msess.val.finalizeContext env.handshake env.stop with
  | (.error e, _) => (.failed (.finalize e), d.handshaken env)
  | (.ok _, t) =>
    if Ended env d then (.failed .mediaClosed, d.handshaken env)
    else replaceRTPSession env.toSocketEnv { msess with val := t } (d.handshaken env)

/-- How a re-INVITE is answered. A 2xx may be followed by an error. -/
inductive Answer
  | refused (status : ℕ) (why : Option UpdateErr)
  | accepted (after : Option UpdateErr)
  | panicked

/-- An offer that needs an ICE restart is not acceptable here; any other error ends the request. -/
def refusal (e : UpdateErr) : Answer :=
  match e with
  | .remoteSDP .iceCredentialsChanged | .remoteSDP (.associationNeedsICERestart _) =>
    .refused 488 (some e)
  | _ => .refused 487 (some e)

/-- The 2xx goes out before the handshake of a new association, and the fork is installed after
it. -/
def answerNewAssociation (env : Env) (msess : Object MediaSession) (d : DialogMedia) :
    Answer × DialogMedia :=
  let msess := { msess with val := (msess.val.localSDP env.globals env.offer).2 }
  if env.sends = false then (.accepted none, d)
  else if env.stop.isSome then (.accepted none, d.handshaken env)
  else
    match finalizeAndReplace env msess d with
    | (.done _, d) => (.accepted none, d)
    | (.failed e, d) => (.accepted (some e), d)
    | (.panicked, d) => (.panicked, d)

/-- A re-INVITE without a description asks for an offer, which a fork makes: the codecs in use are
offered, and the fork keeps all of its own for the answer. -/
def requestOffer (env : Env) (cseq : UInt32) (d : DialogMedia) : Answer × DialogMedia :=
  match d.mediaSession with
  | none => (.refused 487 (some .noMediaSession), d)
  | some cur =>
    let fork := cur.val.fork
    let offering := if cur.val.filterCodecs = [] then fork
      else { fork with codecs := cur.val.filterCodecs }
    let described := (offering.localSDP env.globals env.offer).2
    let offer : AckOffer := ⟨cseq, ⟨d.fresh, { described with codecs := fork.codecs }⟩⟩
    (.accepted none, { d with ackOffer := if env.sends then some offer else none })

def applyOffer (env : Env) (body : Bytes) (d : DialogMedia) : Answer × DialogMedia :=
  match sdpReInvite env body d with
  | (.failed e, d) => (refusal e, d)
  | (.panicked, d) => (.panicked, d)
  | (.done msess, d) =>
    if msess.val.finalizePending then answerNewAssociation env msess d
    else
      match replaceRTPSession env.toSocketEnv msess d with
      | (.failed e, d) => (refusal e, d)
      | (.panicked, d) => (.panicked, d)
      | (.done _, d) =>
        (.accepted none, d.changeSession fun s => (s.localSDP env.globals env.offer).2)

def handleMediaUpdate (env : Env) (cseq : UInt32) (body : Bytes) (d : DialogMedia) :
    Answer × DialogMedia :=
  if d.closed then (.refused 487 none, d)
  else if d.mediaUpdating then (.refused 491 none, d)
  else if body = [] then requestOffer env cseq d
  else applyOffer env body d

/-- The ACK to a 2xx, as far as it matters here. -/
structure Ack where
  cseq : Option UInt32
  contentType : Option Bytes
  body : Bytes

/-- The ACK carries no answer, or none that is still of use. -/
def Ack.Unanswered (ack : Ack) (d : DialogMedia) : Prop :=
  d.closed = true ∨ ack.body = [] ∨ ack.contentType ≠ some (lit "application/sdp")

instance (ack : Ack) (d : DialogMedia) : Decidable (ack.Unanswered d) :=
  inferInstanceAs (Decidable (_ ∨ _))

def answered (fork : Object MediaSession) : MediaSession :=
  { fork.val with remoteSDPIsAnswer := true }

def applyAnswer (env : Env) (ack : Ack) (fork : Object MediaSession) (d : DialogMedia) :
    Result Unit × DialogMedia :=
  if ack.Unanswered d then (discardFork env.toSocketEnv fork.val d, d)
  else
    match applyRemote env ack.body (answered fork) with
    | .failed e => (.failed e, d)
    | .panicked => (.panicked, d)
    | .done t =>
      if t.finalizePending then finalizeAndReplace env { fork with val := t } d
      else replaceRTPSession env.toSocketEnv { fork with val := t } d

/-- Whether the ACK is the one to the 2xx with our offer. -/
def applyAckAnswer (env : Env) (ack : Ack) (d : DialogMedia) : Result Bool × DialogMedia :=
  match d.ackOffer with
  | none => (.done false, d)
  | some offer =>
    if ack.cseq ≠ some offer.cseq then (.done false, d)
    else
      match applyAnswer env ack offer.msess { d with ackOffer := none } with
      | (.done _, d) => (.done true, d)
      | (.failed e, d) => (.failed e, d)
      | (.panicked, d) => (.panicked, d)

end Lib

end Diago.Dialog.MediaUpdate
