import Diago.Media.Endpoint
import Diago.Media.Finalizing

/-! # One exchange of two DTLS endpoints

Two sessions exchange an offer and an answer, each on a fork of the installed session.
-/
namespace Diago.Media
open Lib SDP Op

/-- One offer and its answer, with what the calls of both sides draw and what the system and the
handshakes do for them. -/
structure Exchange where
  fromLeft : Bool
  /-- The port the offerer moves its fork to before the offer. -/
  rebind : Option (ℤ × InitEnv)
  offer : LocalEnv
  applied : RemoteEnv
  answer : LocalEnv
  settled : RemoteEnv
  leftKeys : HandshakeEnv
  rightKeys : HandshakeEnv

def Exchange.draws (x : Exchange) : List Bytes := [x.offer.tlsID.text, x.applied.tlsID.text]

structure Pair where
  left : MediaSession
  right : MediaSession

structure Settings.Configured (s : Settings) : Prop where
  secureRTP : s.secureRTP = .dtls
  iceConf : s.iceConf = none
  setupRole : s.dtlsConf.sdpSetupRole = none
  dtlsRole : s.dtlsRole = .unknown
  externalIP : s.externalIP = none
  /-- An encoding name does not break the line it stands on. -/
  names : ∀ c ∈ s.codecs, OneLine c.name
  /-- No description carries a zone; a bound socket has none either, but with a used up range of
  ports the address stays as it was. -/
  zone : s.laddr.port = 0 → s.laddr.zone = []

section Lib
variable [UnicodeCase] [SrtpLib]

def Exchange.offerer (g : Globals) (x : Exchange) (s : MediaSession) : Option MediaSession :=
  match x.rebind with
  | none => some s.fork
  | some (port, env) =>
    match MediaSession.init g env { s.fork with laddr := { s.fork.laddr with port := port } } with
    | (.ok _, t) => some t
    | (.error _, _) => none

def accept (g : Globals) (env : RemoteEnv) (isAnswer : Bool) (body : Bytes) (s : MediaSession) :
    Option MediaSession :=
  match MediaSession.remoteSDP g env body { s with remoteSDPIsAnswer := isAnswer } with
  | (.ok _, t) => some t
  | (.error _, _) => none

/-- The forks of the offerer and of the answerer once both have accepted the other's
description; none when one of them has not. -/
def Exchange.negotiated (g : Globals) (x : Exchange) (offerer answerer : MediaSession) :
    Option (MediaSession × MediaSession) := do
  let o ← x.offerer g offerer
  let a ← accept g x.applied false (o.localSDP g x.offer).1 answerer.fork
  let o ← accept g x.settled true (a.localSDP g x.answer).1 (o.localSDP g x.offer).2
  return (o, (a.localSDP g x.answer).2)

def Exchange.forks (g : Globals) (x : Exchange) (pair : Pair) : Option Pair :=
  if x.fromLeft then (x.negotiated g pair.left pair.right).map fun p => ⟨p.1, p.2⟩
  else (x.negotiated g pair.right pair.left).map fun p => ⟨p.2, p.1⟩

end Lib

/-- What one side recorded of the other is what the other recorded of itself, and exactly one of
them is active. -/
structure Mirrored (p q : DTLSAssociation) : Prop where
  active : p.setup = .active ↔ ¬ q.setup = .active
  leftTLSID : p.remoteTLSID = q.localTLSID
  rightTLSID : q.remoteTLSID = p.localTLSID
  leftAddr : p.raddr = q.laddr
  rightAddr : q.raddr = p.laddr

section Fold
variable [UnicodeCase] {a : DTLSAssociation} {s : MediaSession} {setup : SetupRole}
  {fingerprints : List SdpFingerprint} {tlsID : Bytes}

theorem changedBy_eq_none (hrole : ∀ role ∈ dtlsRoleAgainst setup, role = a.setup)
    (hremote : fingerprintSet fingerprints = a.remoteFingerprints)
    (hlocal : fingerprintSet s.localDTLSFingerprints = a.localFingerprints)
    (htlsID : tlsID = a.remoteTLSID) (hne : tlsID ≠ []) (hladdr : s.laddr = a.laddr) :
    a.changedBy s setup fingerprints tlsID = none := by
  have hroles : ¬ ∃ role ∈ dtlsRoleAgainst setup, role ≠ a.setup := by
    simpa using hrole
  unfold DTLSAssociation.changedBy
  rw [if_neg hroles, if_neg (not_not.mpr hremote), if_neg (not_not.mpr hlocal),
    if_neg (fun h => h.2 htlsID)]
  split
  · rfl
  · rw [if_neg (not_not.mpr hladdr), if_neg (fun h => hne h.1)]

theorem changedBy_ne_none_of_tlsID (hne : tlsID ≠ []) (htlsID : tlsID ≠ a.remoteTLSID) :
    a.changedBy s setup fingerprints tlsID ≠ none := by
  intro hnone
  unfold DTLSAssociation.changedBy at hnone
  split_ifs at hnone with _ _ _ hnew
  all_goals exact hnew ⟨hne, htlsID⟩

theorem changedBy_ne_none_of_laddr (hice : s.iceEnabled = false) (hladdr : s.laddr ≠ a.laddr) :
    a.changedBy s setup fingerprints tlsID ≠ none := by
  intro hnone
  unfold DTLSAssociation.changedBy at hnone
  split_ifs at hnone with _ _ _ _ henabled
  simp [hice] at henabled

/-- What an association says of the side that recorded it. -/
structure DTLSAssociation.Own (used : List Bytes) (p : DTLSAssociation) (s : MediaSession) :
    Prop where
  laddr : p.laddr = s.laddr
  localTLSID : p.localTLSID = s.localTLSID
  localFingerprints : p.localFingerprints = fingerprintSet s.localDTLSFingerprints
  drawn : ∃ t : TLSID, p.localTLSID = t.text ∧ t.text ∈ used

structure Matched (used : List Bytes) (p q : DTLSAssociation) (l r : MediaSession) : Prop where
  left : p.Own used l
  right : q.Own used r
  roles : p.setup = .active ∧ q.setup = .passive ∨ p.setup = .passive ∧ q.setup = .active
  mirrored : Mirrored p q
  leftFingerprints : p.remoteFingerprints = q.localFingerprints
  rightFingerprints : q.remoteFingerprints = p.localFingerprints

/-- Two sides that have no association yet, or agree on the one they have. -/
def Linked (used : List Bytes) (l r : MediaSession) : Prop :=
  (l.dtlsAssoc = none ∧ r.dtlsAssoc = none ∧ l.localTLSID = [] ∧ r.localTLSID = []) ∨
    ∃ p q, l.dtlsAssoc = some p ∧ r.dtlsAssoc = some q ∧ Matched used p q l r

end Fold

theorem Mirrored.symm {p q : DTLSAssociation} (h : Mirrored p q) : Mirrored q p :=
  ⟨by rw [h.active, not_not], h.rightTLSID, h.leftTLSID, h.rightAddr, h.leftAddr⟩

section Fold
variable [UnicodeCase] {used : List Bytes} {p q : DTLSAssociation} {l r : MediaSession}

theorem Matched.symm (h : Matched used p q l r) : Matched used q p r l :=
  ⟨h.right, h.left, h.roles.elim (fun h => .inr ⟨h.2, h.1⟩) (fun h => .inl ⟨h.2, h.1⟩),
    h.mirrored.symm, h.rightFingerprints, h.leftFingerprints⟩

theorem DTLSAssociation.Own.mono {used' : List Bytes} (h : p.Own used l) (hsub : used ⊆ used') :
    p.Own used' l :=
  ⟨h.laddr, h.localTLSID, h.localFingerprints,
    h.drawn.imp fun _ ⟨htext, hmem⟩ => ⟨htext, hsub hmem⟩⟩

theorem Matched.mono {used' : List Bytes} (h : Matched used p q l r) (hsub : used ⊆ used') :
    Matched used' p q l r :=
  ⟨h.left.mono hsub, h.right.mono hsub, h.roles, h.mirrored, h.leftFingerprints,
    h.rightFingerprints⟩

theorem Linked.mono {used' : List Bytes} (h : Linked used l r) (hsub : used ⊆ used') :
    Linked used' l r :=
  h.imp_right fun ⟨p, q, hp, hq, hmatch⟩ => ⟨p, q, hp, hq, hmatch.mono hsub⟩

theorem Linked.symm (h : Linked used l r) : Linked used r l := by
  rcases h with ⟨hl, hr, hlid, hrid⟩ | ⟨p, q, hp, hq, hmatch⟩
  · exact .inl ⟨hr, hl, hrid, hlid⟩
  · exact .inr ⟨q, p, hq, hp, hmatch.symm⟩

end Fold

structure MediaSession.Unused (s : MediaSession) : Prop where
  remoteProto : s.remoteProto = []
  remoteSetup : s.dtlsRemoteSetup = none
  onFinalize : s.onFinalize = none
  finalizeRun : s.finalizeRun = none
  finalizeErr : s.finalizeErr = none

theorem Exchange.offerer_ok {g : Globals} {x : Exchange} {s t : MediaSession} (hs : s.Endpoint)
    (h : x.offerer g s = some t) :
    t.Endpoint ∧ t.Unused ∧ t.dtlsConf = s.dtlsConf ∧ t.dtlsAssoc = s.dtlsAssoc ∧
      t.localTLSID = s.localTLSID := by
  unfold Exchange.offerer at h
  split at h
  · obtain rfl := Option.some.inj h
    exact ⟨hs.fork, ⟨rfl, rfl, rfl, rfl, rfl⟩, rfl, rfl, rfl⟩
  · split at h
    · rename_i hinit
      obtain rfl := Option.some.inj h
      obtain ⟨hend, hkeep⟩ := hs.fork.init _ hinit
      exact ⟨hend, ⟨hkeep (·.remoteProto) fun _ _ _ _ => rfl,
        hkeep (·.dtlsRemoteSetup) fun _ _ _ _ => rfl, hkeep (·.onFinalize) fun _ _ _ _ => rfl,
        hkeep (·.finalizeRun) fun _ _ _ _ => rfl, hkeep (·.finalizeErr) fun _ _ _ _ => rfl⟩,
        hkeep (·.dtlsConf) fun _ _ _ _ => rfl, hkeep (·.dtlsAssoc) fun _ _ _ _ => rfl,
        hkeep (·.localTLSID) fun _ _ _ _ => rfl⟩
    · cases h

theorem MediaSession.Unused.advertisedSetup {s : MediaSession} (hs : s.Unused)
    (hend : s.Endpoint) : s.advertisedSetup = .actpass := by
  have hanswering : s.answeringOffer = false := by
    simp [MediaSession.answeringOffer, hs.remoteProto]
  have hrole : s.dtlsConf.sdpSetupRole = none := hend.plain.setupRole
  have hdtlsRole : s.dtlsRole = .unknown := hend.plain.dtlsRole
  have hown : s.localDTLSSetup = .actpass := by
    simp [MediaSession.localDTLSSetup, MediaSession.dtlsEndpointRole, hrole, hdtlsRole, hanswering,
      hs.remoteSetup]
  unfold MediaSession.advertisedSetup
  split
  · simp [hanswering, hown]
  · exact hown

section Lib
variable [UnicodeCase] [SrtpLib] {g : Globals}

theorem accept_eq_some {env : RemoteEnv} {isAnswer : Bool} {body : Bytes} {s t : MediaSession} :
    accept g env isAnswer body s = some t ↔
      MediaSession.remoteSDP g env body { s with remoteSDPIsAnswer := isAnswer } = (.ok (), t) := by
  unfold accept
  rcases MediaSession.remoteSDP g env body { s with remoteSDPIsAnswer := isAnswer } with ⟨r, u⟩
  cases r <;> simp

omit [SrtpLib] in
/-- The tls-id of an offer: the one of the association when the fork is where it was, a new one
when it has moved or there is no association. -/
theorem Linked.offerTLSID {used : List Bytes} {o a s : MediaSession} (hlink : Linked used o a)
    (hconf : s.dtlsConf = o.dtlsConf) (hassoc : s.dtlsAssoc = o.dtlsAssoc)
    (htlsID : s.localTLSID = o.localTLSID) (hice : s.iceEnabled = false) (drawn : TLSID) :
    (∃ p q, o.dtlsAssoc = some p ∧ a.dtlsAssoc = some q ∧ Matched used p q o a ∧
      s.laddr = p.laddr ∧ s.offerTLSID drawn = p.localTLSID) ∨
    ((∀ p, o.dtlsAssoc = some p → s.laddr ≠ p.laddr) ∧ s.offerTLSID drawn = drawn.text) := by
  rcases hlink with ⟨hnone, -, hempty, -⟩ | ⟨p, q, hp, hq, hmatch⟩
  · right
    refine ⟨by simp [hnone], ?_⟩
    simp [MediaSession.offerTLSID, hassoc, hnone, htlsID, hempty]
  · have hfingerprints : fingerprintSet s.localDTLSFingerprints = p.localFingerprints := by
      rw [hmatch.left.localFingerprints, localDTLSFingerprints_congr hconf]
    have hchanged : p.localChangedBy s = true ↔ s.laddr ≠ p.laddr := by
      simp [DTLSAssociation.localChangedBy, hfingerprints, hice]
    by_cases hladdr : s.laddr = p.laddr
    · left
      refine ⟨p, q, hp, hq, hmatch, hladdr, ?_⟩
      have hsame : ¬ p.localChangedBy s = true := by simp [hchanged, hladdr]
      simp [MediaSession.offerTLSID, hassoc, hp, hsame]
    · right
      refine ⟨fun p' hp' => ?_, ?_⟩
      · obtain rfl := Option.some.inj (hp.symm.trans hp')
        exact hladdr
      · have hown : s.localTLSID = p.localTLSID := htlsID.trans hmatch.left.localTLSID.symm
        simp [MediaSession.offerTLSID, hassoc, hp, hchanged.mpr hladdr, hown]

omit [SrtpLib] in
theorem MediaSession.Unused.localSDPTLSID {s : MediaSession} (hs : s.Unused) (drawn : TLSID) :
    s.localSDPTLSID drawn =
      (s.offerTLSID drawn, { s with localTLSID := s.offerTLSID drawn }) := by
  simp [MediaSession.localSDPTLSID, MediaSession.answeringOffer, hs.remoteProto]

/-- What an exchange between `l` and `r` leaves on their forks. -/
structure Exchange.Settled (x : Exchange) (used : List Bytes) (l r l' r' : MediaSession) :
    Prop where
  left : l'.Endpoint
  right : r'.Endpoint
  leftIdle : l'.finalizeRun = none ∧ l'.finalizeErr = none
  rightIdle : r'.finalizeRun = none ∧ r'.finalizeErr = none
  outcome :
    (∃ p q, l.dtlsAssoc = some p ∧ r.dtlsAssoc = some q ∧ l'.dtlsAssoc = some p ∧
      r'.dtlsAssoc = some q ∧ l'.onFinalize = none ∧ r'.onFinalize = none ∧
      Matched used p q l' r') ∨
    ∃ p q, l'.onFinalize = some p ∧ r'.onFinalize = some q ∧
      Matched (x.draws ++ used) p.assoc q.assoc l' r'

omit [SrtpLib] in
theorem Exchange.Settled.symm {x : Exchange} {used : List Bytes} {l r l' r' : MediaSession}
    (h : x.Settled used l r l' r') : x.Settled used r l r' l' := by
  refine ⟨h.right, h.left, h.rightIdle, h.leftIdle, ?_⟩
  rcases h.outcome with ⟨p, q, hp, hq, hp', hq', hl, hr, hmatch⟩ | ⟨p, q, hp, hq, hmatch⟩
  · exact .inl ⟨q, p, hq, hp, hq', hp', hr, hl, hmatch.symm⟩
  · exact .inr ⟨q, p, hq, hp, hmatch.symm⟩

omit [SrtpLib] in
theorem Linked.offerTLSID_text {used : List Bytes} {o a s : MediaSession} {drawn : TLSID}
    (h : (∃ p q, o.dtlsAssoc = some p ∧ a.dtlsAssoc = some q ∧ Matched used p q o a ∧
      s.laddr = p.laddr ∧ s.offerTLSID drawn = p.localTLSID) ∨
    ((∀ p, o.dtlsAssoc = some p → s.laddr ≠ p.laddr) ∧ s.offerTLSID drawn = drawn.text)) :
    ∃ t : TLSID, s.offerTLSID drawn = t.text := by
  rcases h with ⟨p, q, -, -, hmatch, -, hid⟩ | ⟨-, hid⟩
  · obtain ⟨t, ht, -⟩ := hmatch.left.drawn
    exact ⟨t, hid.trans ht⟩
  · exact ⟨drawn, hid⟩

/-- The answerer of an offer, and the answer it writes. -/
structure Answered (x : Exchange) (offer : DTLSSetup) (raddr : UDPAddr) (a a₁ : MediaSession) :
    Prop where
  endpoint : a₁.Endpoint
  idle : a₁.finalizeRun = none ∧ a₁.finalizeErr = none
  dtlsConf : a₁.dtlsConf = a.dtlsConf
  answering : a₁.answeringOffer = true
  tlsID : (a₁.localSDPTLSID x.answer.tlsID).1 = a₁.localTLSID
  remoteSetup : a₁.dtlsRemoteSetup = some offer.setup
  case : MediaSession.Continues { a.fork with remoteSDPIsAnswer := false } a₁ offer raddr ∨
    MediaSession.Arms { a.fork with remoteSDPIsAnswer := false } a₁ x.applied offer raddr

theorem Exchange.answered {x : Exchange} {d : Description} {offer : DTLSSetup} {raddr : UDPAddr}
    {a a₁ : MediaSession} (ha : a.Endpoint) (hd : d.Carries offer raddr) (hraddr : raddr.Usable)
    (hne : offer.tlsID ≠ []) (h : accept g x.applied false (generateSDPForAudio d) a.fork = some a₁) :
    Answered x offer raddr a a₁ := by
  obtain ⟨hend, hconf, hanswer, hrun, herr, hproto, hsetup, htlsID, hcase⟩ :=
    (ha.fork.withAnswer false).remoteSDP hd hraddr (accept_eq_some.mp h)
  have hanswering : a₁.answeringOffer = true := by
    have hanswer' : a₁.remoteSDPIsAnswer = false := hanswer
    simp [MediaSession.answeringOffer, hproto, hd.legible.proto.1, hanswer']
  refine ⟨hend, ⟨hrun, herr⟩, hconf, hanswering, ?_, hsetup, hcase⟩
  simp [MediaSession.localSDPTLSID, hanswering, htlsID, hne]

theorem described_localTLSID {x : Exchange} {offer : DTLSSetup} {raddr : UDPAddr}
    {a a₁ : MediaSession} (h : Answered x offer raddr a a₁) :
    (a₁.described x.answer).localTLSID = a₁.localTLSID := by
  simp [MediaSession.described, MediaSession.localSDPTLSID, h.answering]

section Steps
variable {x : Exchange} {used : List Bytes} {o a s a₁ o' : MediaSession}
  (hs : s.Endpoint) (hfork : s.Unused) (hconf : s.dtlsConf = o.dtlsConf)
  (hassoc : s.dtlsAssoc = o.dtlsAssoc)
  (hans : Answered x ⟨.actpass, s.localDTLSFingerprints, s.offerTLSID x.offer.tlsID⟩ s.laddr a a₁)
  (hend : o'.Endpoint) (hidle : o'.finalizeRun = none ∧ o'.finalizeErr = none)
  (hconf' : o'.dtlsConf = s.dtlsConf)
include hs hfork hconf hassoc hans hend hidle hconf'

/-- The offer continues the association: so do the answer and the offerer. -/
theorem Exchange.settled_continues {p q : DTLSAssociation} (hp : o.dtlsAssoc = some p)
    (hq : a.dtlsAssoc = some q) (hmatch : Matched used p q o a) (hladdr : s.laddr = p.laddr)
    (htlsID : s.offerTLSID x.offer.tlsID = p.localTLSID)
    (hcase : MediaSession.Continues { s.described x.offer with remoteSDPIsAnswer := true } o'
        ⟨a₁.advertisedSetup, a₁.localDTLSFingerprints, a₁.localTLSID⟩ a₁.laddr ∨
      MediaSession.Arms { s.described x.offer with remoteSDPIsAnswer := true } o' x.settled
        ⟨a₁.advertisedSetup, a₁.localDTLSFingerprints, a₁.localTLSID⟩ a₁.laddr) :
    x.Settled used o a o' (a₁.described x.answer) := by
  obtain ⟨t, htext, -⟩ := hmatch.left.drawn
  obtain ⟨t', htext', -⟩ := hmatch.right.drawn
  have hleftFps : fingerprintSet s.localDTLSFingerprints = p.localFingerprints := by
    rw [hmatch.left.localFingerprints, localDTLSFingerprints_congr hconf]
  have hrightFps : fingerprintSet a.localDTLSFingerprints = q.localFingerprints :=
    hmatch.right.localFingerprints.symm
  have hcontA : MediaSession.Continues { a.fork with remoteSDPIsAnswer := false } a₁
      ⟨.actpass, s.localDTLSFingerprints, s.offerTLSID x.offer.tlsID⟩ s.laddr := by
    refine hans.case.resolve_right fun harms => harms.changed q hq ?_
    exact changedBy_eq_none (by simp [dtlsRoleAgainst])
      (hleftFps.trans hmatch.rightFingerprints.symm) hrightFps
      (htlsID.trans hmatch.mirrored.rightTLSID.symm) (by rw [htlsID, htext]; exact t.text_ne_nil)
      hmatch.right.laddr.symm
  obtain ⟨q', hq', hassocA, -⟩ := hcontA.same
  obtain rfl : q = q' := Option.some.inj (hq.symm.trans hq')
  have hsetup : a₁.advertisedSetup = q.setup := by
    simp [MediaSession.advertisedSetup, hassocA, hans.answering]
  have hidA : a₁.localTLSID = q.localTLSID :=
    hcontA.localTLSID.trans hmatch.right.localTLSID.symm
  have hfpsA : fingerprintSet a₁.localDTLSFingerprints = q.localFingerprints := by
    rw [localDTLSFingerprints_congr hans.dtlsConf, hrightFps]
  have hcontO : MediaSession.Continues { s.described x.offer with remoteSDPIsAnswer := true } o'
      ⟨a₁.advertisedSetup, a₁.localDTLSFingerprints, a₁.localTLSID⟩ a₁.laddr := by
    refine hcase.resolve_right fun harms => harms.changed p (hassoc.trans hp) ?_
    refine changedBy_eq_none (fun role hrole => ?_) (hfpsA.trans hmatch.leftFingerprints.symm)
      hleftFps (hidA.trans hmatch.mirrored.leftTLSID.symm)
      (by rw [hidA, htext']; exact t'.text_ne_nil) hladdr
    simp only [hsetup] at hrole
    rcases hmatch.roles with ⟨hactive, hpassive⟩ | ⟨hpassive, hactive⟩
    · rw [hpassive] at hrole
      exact (Option.some.inj hrole).symm.trans hactive.symm
    · rw [hactive] at hrole
      exact (Option.some.inj hrole).symm.trans hpassive.symm
  obtain ⟨p', hp', hassocO, -⟩ := hcontO.same
  obtain rfl : p = p' := Option.some.inj ((hassoc.trans hp).symm.trans hp')
  have hidO : o'.localTLSID = p.localTLSID := by
    rw [hcontO.localTLSID, ← htlsID]
    have hsecure : s.secureRTP = .dtls := hs.plain.secureRTP
    simp [MediaSession.described, hsecure, hfork.localSDPTLSID]
  refine ⟨hend, hans.endpoint.described x.answer, hidle, hans.idle, .inl ⟨p, q, hp, hq, hassocO,
    hassocA, hcontO.armed.trans hfork.onFinalize, hcontA.armed, ?_⟩⟩
  refine ⟨⟨?_, hidO.symm, ?_, hmatch.left.drawn⟩, ⟨?_, ?_, ?_, hmatch.right.drawn⟩, hmatch.roles,
    hmatch.mirrored, hmatch.leftFingerprints, hmatch.rightFingerprints⟩
  · exact hladdr.symm.trans hcontO.laddr.symm
  · rw [localDTLSFingerprints_congr hconf', hleftFps]
  · exact hmatch.right.laddr.trans hcontA.laddr.symm
  · rw [described_localTLSID hans, hidA]
  · exact hfpsA.symm

omit hconf in
/-- The offer asks for a new association: the answer does as well, and the offerer arms it. -/
theorem Exchange.settled_arms (hlink : Linked used o a)
    (hmoved : ∀ p, o.dtlsAssoc = some p → s.laddr ≠ p.laddr)
    (htlsID : s.offerTLSID x.offer.tlsID = x.offer.tlsID.text)
    (hfresh : x.offer.tlsID.text ∉ used)
    (hcase : MediaSession.Continues { s.described x.offer with remoteSDPIsAnswer := true } o'
        ⟨a₁.advertisedSetup, a₁.localDTLSFingerprints, a₁.localTLSID⟩ a₁.laddr ∨
      MediaSession.Arms { s.described x.offer with remoteSDPIsAnswer := true } o' x.settled
        ⟨a₁.advertisedSetup, a₁.localDTLSFingerprints, a₁.localTLSID⟩ a₁.laddr) :
    x.Settled used o a o' (a₁.described x.answer) := by
  have hne : s.offerTLSID x.offer.tlsID ≠ [] := by
    rw [htlsID]
    exact x.offer.tlsID.text_ne_nil
  have harmsA : MediaSession.Arms { a.fork with remoteSDPIsAnswer := false } a₁ x.applied
      ⟨.actpass, s.localDTLSFingerprints, s.offerTLSID x.offer.tlsID⟩ s.laddr := by
    refine hans.case.resolve_left fun hcont => ?_
    obtain ⟨q, hq, -, hsame⟩ := hcont.same
    have hq : a.dtlsAssoc = some q := hq
    rcases hlink with ⟨-, hnone, -⟩ | ⟨p, q', -, hq', hmatch⟩
    · cases hnone.symm.trans hq
    · obtain rfl := Option.some.inj (hq.symm.trans hq')
      refine changedBy_ne_none_of_tlsID hne ?_ hsame
      obtain ⟨t, htext, hmem⟩ := hmatch.left.drawn
      rw [hmatch.mirrored.rightTLSID, htlsID, htext]
      rintro heq
      exact hfresh (heq ▸ hmem)
  have harmsO : MediaSession.Arms { s.described x.offer with remoteSDPIsAnswer := true } o'
      x.settled ⟨a₁.advertisedSetup, a₁.localDTLSFingerprints, a₁.localTLSID⟩ a₁.laddr := by
    refine hcase.resolve_left fun hcont => ?_
    obtain ⟨p, hp, -, hsame⟩ := hcont.same
    refine changedBy_ne_none_of_laddr ?_ ?_ hsame
    · exact hs.iceEnabled
    · exact hmoved p (hassoc.symm.trans hp)
  have hsetup : a₁.advertisedSetup = .active := by
    have hrole : a₁.dtlsConf.sdpSetupRole = none := hans.endpoint.plain.setupRole
    simp [MediaSession.advertisedSetup, harmsA.dropped, MediaSession.localDTLSSetup, hrole,
      hans.remoteSetup]
  have hidA : a₁.localTLSID = x.applied.tlsID.text := by
    rw [harmsA.localTLSID]
    simp [hne]
  have hidO : o'.localTLSID = x.offer.tlsID.text := by
    rw [harmsO.localTLSID, ← htlsID]
    have hsecure : s.secureRTP = .dtls := hs.plain.secureRTP
    simp [MediaSession.described, hsecure, hfork.localSDPTLSID]
  have hladdrO : o'.laddr = s.laddr := harmsO.laddr rfl
  obtain ⟨p, hp, hrecO⟩ := harmsO.armed
  obtain ⟨q, hq, hrecA⟩ := harmsA.armed
  refine ⟨hend, hans.endpoint.described x.answer, hidle, hans.idle, .inr ⟨p, q, hp, hq, ?_⟩⟩
  have hsetupO : p.assoc.setup = .passive := by
    rw [hrecO.setup, hsetup]
    rfl
  have hsetupA : q.assoc.setup = .active := hrecA.setup
  refine ⟨⟨hrecO.laddr, hrecO.localTLSID, hrecO.localFingerprints, x.offer.tlsID, ?_, ?_⟩,
    ⟨hrecA.laddr, ?_, hrecA.localFingerprints, x.applied.tlsID, ?_, ?_⟩, .inr ⟨hsetupO, hsetupA⟩,
    ⟨?_, ?_, ?_, ?_, ?_⟩, ?_, ?_⟩
  · exact hrecO.localTLSID.trans hidO
  · simp [Exchange.draws]
  · rw [described_localTLSID hans]
    exact hrecA.localTLSID
  · exact hrecA.localTLSID.trans hidA
  · simp [Exchange.draws]
  · simp [hsetupO, hsetupA]
  · exact hrecO.remoteTLSID.trans hrecA.localTLSID.symm
  · rw [hrecA.remoteTLSID, hrecO.localTLSID, hidO]
    exact htlsID
  · exact hrecO.raddr.trans hrecA.laddr.symm
  · rw [hrecA.raddr, hrecO.laddr, hladdrO]
  · exact hrecO.remoteFingerprints.trans hrecA.localFingerprints.symm
  · rw [hrecA.remoteFingerprints, hrecO.localFingerprints, localDTLSFingerprints_congr hconf']

end Steps

theorem Exchange.negotiated_settled {x : Exchange} {used : List Bytes} {o a o' a' : MediaSession}
    (ho : o.Endpoint) (ha : a.Endpoint) (hlink : Linked used o a)
    (hfresh : x.offer.tlsID.text ∉ used) (h : x.negotiated g o a = some (o', a')) :
    x.Settled used o a o' a' := by
  simp only [Exchange.negotiated, Option.bind_eq_bind, Option.bind_eq_some_iff, Option.pure_def,
    Option.some.injEq, Prod.mk.injEq] at h
  obtain ⟨s, hoffer, a₁, happly, o₁, hsettle, rfl, rfl⟩ := h
  obtain ⟨hs, hfork, hconf, hassoc, htlsID⟩ := Exchange.offerer_ok ho hoffer
  have hid := hlink.offerTLSID hconf hassoc htlsID hs.iceEnabled x.offer.tlsID
  obtain ⟨t, htext⟩ := Linked.offerTLSID_text hid
  have hcarry := hs.carries g x.offer (by
    rw [hfork.localSDPTLSID, htext]
    exact t.graphic_text)
  rw [hfork.advertisedSetup hs, hfork.localSDPTLSID] at hcarry
  rw [hs.localSDP] at happly hsettle
  have hans : Answered x ⟨.actpass, s.localDTLSFingerprints, s.offerTLSID x.offer.tlsID⟩ s.laddr a
      a₁ := Exchange.answered ha hcarry hs.laddr (by rw [htext]; exact t.text_ne_nil) happly
  have hgraphic : ∀ b ∈ a₁.localTLSID, Graphic b := by
    rcases hans.case with hcont | harms
    · rw [hcont.localTLSID]
      obtain ⟨q, hq, -, -⟩ := hcont.same
      rcases hlink with ⟨-, hnone, -⟩ | ⟨p, q', -, hq', hmatch⟩
      · cases hnone.symm.trans hq
      · obtain ⟨t', htext', -⟩ := hmatch.right.drawn
        have hlocal : a.localTLSID = t'.text := hmatch.right.localTLSID.symm.trans htext'
        change ∀ b ∈ a.localTLSID, Graphic b
        rw [hlocal]
        exact t'.graphic_text
    · have hdrawn : a₁.localTLSID = x.applied.tlsID.text := by
        rw [harms.localTLSID, htext]
        simp [t.text_ne_nil]
      rw [hdrawn]
      exact x.applied.tlsID.graphic_text
  have hcarry₁ := hans.endpoint.carries g x.answer (by rw [hans.tlsID]; exact hgraphic)
  rw [hans.tlsID] at hcarry₁
  rw [hans.endpoint.localSDP] at hsettle ⊢
  obtain ⟨hend, hconf', -, hrun, herr, -, -, -, hcase⟩ :=
    ((hs.described x.offer).withAnswer true).remoteSDP hcarry₁ hans.endpoint.laddr
      (accept_eq_some.mp hsettle)
  have hidle : o₁.finalizeRun = none ∧ o₁.finalizeErr = none :=
    ⟨hrun.trans hfork.finalizeRun, herr.trans hfork.finalizeErr⟩
  rcases hid with ⟨p, q, hp, hq, hmatch, hladdr, hsame⟩ | ⟨hmoved, hnew⟩
  · exact Exchange.settled_continues hs hfork hconf hassoc hans hend hidle hconf' hp hq hmatch
      hladdr hsame hcase
  · exact Exchange.settled_arms hs hfork hassoc hans hend hidle hconf' hlink hmoved hnew
      hfresh hcase

theorem Exchange.forks_settled {x : Exchange} {used : List Bytes} {pair forks : Pair}
    (hl : pair.left.Endpoint) (hr : pair.right.Endpoint)
    (hlink : Linked used pair.left pair.right) (hfresh : x.offer.tlsID.text ∉ used)
    (h : x.forks g pair = some forks) :
    x.Settled used pair.left pair.right forks.left forks.right := by
  unfold Exchange.forks at h
  split at h
  · obtain ⟨⟨o, a⟩, hneg, rfl⟩ := Option.map_eq_some_iff.mp h
    exact Exchange.negotiated_settled hl hr hlink hfresh hneg
  · obtain ⟨⟨o, a⟩, hneg, rfl⟩ := Option.map_eq_some_iff.mp h
    exact (Exchange.negotiated_settled hr hl hlink.symm hfresh hneg).symm

end Lib
end Diago.Media
