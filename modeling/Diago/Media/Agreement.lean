import Diago.Media.Finalizing
import Diago.Media.Renegotiation

/-! # Agreement of two DTLS endpoints

Two sessions exchange offers and answers, in either direction and each on forks of the
installed sessions.
-/
namespace Diago.Media
open Lib SDP Op

section Lib
variable [UnicodeCase] [SrtpLib]

/-- The forks are installed once their handshakes are done, and discarded when the negotiation
failed. -/
def stepPair (g : Globals) (pair : Pair) (x : Exchange) : Pair :=
  match x.forks g pair with
  | some forks =>
    ⟨(MediaSession.finalizeContext x.leftKeys none forks.left).2,
      (MediaSession.finalizeContext x.rightKeys none forks.right).2⟩
  | none => pair

def HandshakesSucceed (g : Globals) (pair : Pair) (x : Exchange) : Prop :=
  ∀ forks ∈ x.forks g pair,
    (forks.left.onFinalize.isSome = true → x.leftKeys.Succeeds forks.left) ∧
      (forks.right.onFinalize.isSome = true → x.rightKeys.Succeeds forks.right)

def BothContinue (pair forks : Pair) : Prop :=
  (∃ p, pair.left.dtlsAssoc = some p ∧ forks.left.dtlsAssoc = some p ∧
    forks.left.onFinalize = none) ∧
  ∃ q, pair.right.dtlsAssoc = some q ∧ forks.right.dtlsAssoc = some q ∧
    forks.right.onFinalize = none

def BothArmed (forks : Pair) : Prop :=
  forks.left.onFinalize.isSome = true ∧ forks.right.onFinalize.isSome = true

def Agrees (g : Globals) (pair : Pair) (x : Exchange) : Prop :=
  ∀ forks ∈ x.forks g pair, (BothContinue pair forks ∨ BothArmed forks) ∧
    ∃ p q, (stepPair g pair x).left.dtlsAssoc = some p ∧
      (stepPair g pair x).right.dtlsAssoc = some q ∧ Mirrored p q

omit [UnicodeCase] in
theorem reachPeer_of_noICE {h : HandshakeEnv} {s : MediaSession} (hok : h.Succeeds s)
    (hice : s.iceEnabled = false) : reachPeer h s = (.ok (), s) := by
  unfold reachPeer
  rw [bind_of_ok (read_apply s), only_of_not _ (by simp [hice])]
  simp [bind_eq_ok, hok.completes, hok.retires, hok.hasState]

/-- A session with what the installed one takes from its handshake. -/
structure Installed (t u : MediaSession) : Prop where
  endpoint : u.Endpoint
  laddr : u.laddr = t.laddr
  localTLSID : u.localTLSID = t.localTLSID
  dtlsConf : u.dtlsConf = t.dtlsConf
  assoc : u.dtlsAssoc = (t.onFinalize.map Armed.assoc <|> t.dtlsAssoc)

omit [UnicodeCase] in
/-- Finalizing a fork whose handshake succeeds records the association it armed. -/
theorem installed_finalizeContext {h : HandshakeEnv} {t : MediaSession} (ht : t.Endpoint)
    (hidle : t.finalizeRun = none ∧ t.finalizeErr = none) (hok : t.onFinalize.isSome = true → h.Succeeds t) :
    Installed t (MediaSession.finalizeContext h none t).2 := by
  cases harmed : t.onFinalize with
  | none =>
    have hsame : (MediaSession.finalizeContext h none t).2 = t := by
      simp [MediaSession.finalizeContext, hidle.1, hidle.2, harmed]
    rw [hsame]
    exact ⟨ht, rfl, rfl, rfl, by simp [harmed]⟩
  | some armed =>
    have hok := hok (by simp [harmed])
    have hkeyed : ∃ lc rc, (negotiate armed h t).2 =
        MediaSession.recordKeyed armed { t with localCtxSRTP := lc, remoteCtxSRTP := rc } := by
      unfold negotiate
      rw [bind_of_ok (reachPeer_of_noICE hok ht.iceEnabled)]
      rcases keyFromHandshake_cases armed.role h t with ⟨hno, -⟩ | ⟨lc, rc, hkeys⟩
      · exact absurd hok.keys hno
      · rw [bind_of_ok hkeys]
        exact ⟨some lc, some rc, rfl⟩
    obtain ⟨lc, rc, hnext⟩ := hkeyed
    have hsame : (MediaSession.finalizeContext h none t).2 =
        { MediaSession.recordKeyed armed { t with localCtxSRTP := lc, remoteCtxSRTP := rc } with
          onFinalize := none } := by
      simp only [MediaSession.finalizeContext, hidle.1, hidle.2, harmed, hnext]
    have hpair : t.establishedICE = none := ht.plain.establishedICE
    rw [hsame]
    refine ⟨⟨{ ht.plain with establishedICE := ?_ }, ht.codecs, ht.names, ht.laddr,
      ht.remoteProto, ht.streams⟩, rfl, rfl, rfl, by simp [harmed, MediaSession.recordKeyed]⟩
    have hconf : t.iceConf = none := ht.plain.iceConf
    change (MediaSession.recordKeyed armed
      { t with localCtxSRTP := lc, remoteCtxSRTP := rc }).establishedICE = none
    simp [MediaSession.recordKeyed, MediaSession.iceEnabled, hconf, hpair]

omit [SrtpLib] in
theorem DTLSAssociation.Own.installed {used : List Bytes} {p : DTLSAssociation}
    {t u : MediaSession} (h : p.Own used t) (hu : Installed t u) : p.Own used u := by
  refine ⟨h.laddr.trans hu.laddr.symm, h.localTLSID.trans hu.localTLSID.symm, ?_, h.drawn⟩
  rw [h.localFingerprints, localDTLSFingerprints_congr hu.dtlsConf]

omit [SrtpLib] in
theorem Matched.installed {used : List Bytes} {p q : DTLSAssociation}
    {l r l' r' : MediaSession} (h : Matched used p q l r) (hl : Installed l l')
    (hr : Installed r r') : Matched used p q l' r' :=
  ⟨h.left.installed hl, h.right.installed hr, h.roles, h.mirrored, h.leftFingerprints,
    h.rightFingerprints⟩

/-- Two endpoints that agree on the association they have, with the tls-ids drawn so far. -/
structure Pair.Agreed (used : List Bytes) (pair : Pair) : Prop where
  left : pair.left.Endpoint
  right : pair.right.Endpoint
  linked : Linked used pair.left pair.right

section Step
variable {g : Globals} {used : List Bytes} {pair forks : Pair} {x : Exchange}

omit [SrtpLib] in
theorem Exchange.Settled.matched {l r : MediaSession}
    (h : x.Settled used pair.left pair.right forks.left forks.right)
    (hl : Installed forks.left l) (hr : Installed forks.right r) :
    (BothContinue pair forks ∨ BothArmed forks) ∧ ∃ p q, l.dtlsAssoc = some p ∧
      r.dtlsAssoc = some q ∧ Matched (x.draws ++ used) p q l r := by
  rcases h.outcome with ⟨p, q, hp, hq, hp', hq', hidle, hidle', hmatch⟩ | ⟨p, q, hp, hq, hmatch⟩
  · refine ⟨.inl ⟨⟨p, hp, hp', hidle⟩, q, hq, hq', hidle'⟩, p, q, ?_, ?_, ?_⟩
    · rw [hl.assoc, hidle, hp']
      rfl
    · rw [hr.assoc, hidle', hq']
      rfl
    · exact (hmatch.installed hl hr).mono (List.subset_append_right ..)
  · refine ⟨.inr ⟨by simp [hp], by simp [hq]⟩, p.assoc, q.assoc, ?_, ?_, hmatch.installed hl hr⟩
    · rw [hl.assoc, hp]
      rfl
    · rw [hr.assoc, hq]
      rfl

theorem stepPair_agreed (h : pair.Agreed used) (hfresh : x.offer.tlsID.text ∉ used)
    (hdone : HandshakesSucceed g pair x) :
    Agrees g pair x ∧ (stepPair g pair x).Agreed (x.draws ++ used) := by
  unfold Agrees stepPair
  cases hforks : x.forks g pair with
  | none =>
    refine ⟨by simp, h.left, h.right, ?_⟩
    exact h.linked.mono (List.subset_append_right ..)
  | some forks =>
    have hsettled := Exchange.forks_settled h.left h.right h.linked hfresh hforks
    obtain ⟨hkeysL, hkeysR⟩ := hdone forks hforks
    have hl := installed_finalizeContext hsettled.left hsettled.leftIdle hkeysL
    have hr := installed_finalizeContext hsettled.right hsettled.rightIdle hkeysR
    obtain ⟨hboth, p, q, hp, hq, hmatch⟩ := hsettled.matched hl hr
    refine ⟨?_, hl.endpoint, hr.endpoint, .inr ⟨p, q, hp, hq, hmatch⟩⟩
    intro forks' hforks'
    obtain rfl := Option.some.inj hforks'
    exact ⟨hboth, p, q, hp, hq, hmatch.mirrored⟩

/-- Along a run the drawn tls-ids pile up, and no new one is among them. -/
theorem Pair.Agreed.along (h : pair.Agreed used) {xs : List Exchange}
    (hfresh : (xs.flatMap Exchange.draws).Nodup)
    (hnew : ∀ id ∈ xs.flatMap Exchange.draws, id ∉ used)
    (hdone : Along (stepPair g) (HandshakesSucceed g) pair xs) :
    Along (stepPair g) (Agrees g) pair xs := by
  induction xs generalizing used pair with
  | nil => exact trivial
  | cons x xs ih =>
    rw [List.flatMap_cons, List.nodup_append] at hfresh
    obtain ⟨-, hrest, hdisj⟩ := hfresh
    obtain ⟨hagree, hnext⟩ := stepPair_agreed h (hnew _ (by simp [Exchange.draws])) hdone.1
    refine ⟨hagree, ih hnext hrest (fun id hid => ?_) hdone.2⟩
    rw [List.mem_append, not_or]
    exact ⟨fun hmem => hdisj id hmem id hid rfl, hnew id (by simp [hid])⟩

end Step

omit [UnicodeCase] [SrtpLib] in
theorem Settings.Configured.endpoint {settings : Settings} {g : Globals} {env : InitEnv} {n : ℤ}
    {s : MediaSession} (h : settings.Configured)
    (hinit : MediaSession.init g env { toSettings := settings } = (.ok n, s)) :
    s.Endpoint ∧ s.dtlsAssoc = none ∧ s.localTLSID = [] := by
  have hice : MediaSession.iceEnabled { toSettings := settings } = false := by
    simp [MediaSession.iceEnabled, h.iceConf]
  obtain ⟨hcodecs, -, husable, hoff⟩ := init_ok hice h.zone hinit
  have hsame : s.codecs ++ s.filterCodecs = settings.codecs ++ [] :=
    congrArg (fun u => u.codecs ++ u.filterCodecs) hoff
  have hstanding : s.offSockets.standing = _ := congrArg MediaSession.standing hoff
  change s.standing = _ at hstanding
  have hproto : s.remoteProto = [] := congrArg (·.remoteProto) hoff
  have hstreams : s.offeredStreams = {} := congrArg (·.offeredStreams) hoff
  refine ⟨⟨?_, ?_, ?_, husable, ?_, ?_⟩, congrArg (·.dtlsAssoc) hoff, congrArg (·.localTLSID) hoff⟩
  · rw [hstanding]
    exact ⟨rfl, h.secureRTP, h.iceConf, rfl, rfl, h.setupRole, h.dtlsRole, h.externalIP⟩
  · exact fun hnil => hcodecs ((congrArg (·.codecs) hoff).symm.trans hnil)
  · rw [hsame, List.append_nil]
    exact h.names
  · rw [hproto]
    exact NoSpace.nil
  · simp [hstreams]

/-- Two endpoints agree after every exchange that both accept. -/
theorem endpoints_agree (g : Globals) (envL envR : InitEnv) (nL nR : ℤ)
    (settingsL settingsR : Settings) (l r : MediaSession) (hL : settingsL.Configured)
    (hR : settingsR.Configured)
    (hinitL : MediaSession.init g envL { toSettings := settingsL } = (.ok nL, l))
    (hinitR : MediaSession.init g envR { toSettings := settingsR } = (.ok nR, r))
    (xs : List Exchange) (hfresh : (xs.flatMap Exchange.draws).Nodup)
    (hdone : Along (stepPair g) (HandshakesSucceed g) ⟨l, r⟩ xs) :
    Along (stepPair g) (Agrees g) ⟨l, r⟩ xs := by
  obtain ⟨hl, hassocL, hidL⟩ := hL.endpoint hinitL
  obtain ⟨hr, hassocR, hidR⟩ := hR.endpoint hinitR
  have hstart : Pair.Agreed [] ⟨l, r⟩ := ⟨hl, hr, .inl ⟨hassocL, hassocR, hidL, hidR⟩⟩
  exact hstart.along hfresh (by simp) hdone

end Lib

section Sample

attribute [local instance] asciiOnly documentedSrtp

def peerSettings : Settings :=
  { dtlsSettings with laddr := { ip := some (.v4 10 0 0 2), port := 4002 } }

def peerListen : ListenEnv := { attempts := fun _ => ⟨some ⟨.v4 10 0 0 2, 4002⟩, true⟩ }

def peerInit : InitEnv := { boundInit with listen := peerListen }

/-- An exchange whose offer draws the tls-id of all `offer` and whose answer that of all
`answer`. -/
def exchange (fromLeft : Bool) (rebind : Option (ℤ × InitEnv)) (offer answer : ℕ) :
    Exchange :=
  { fromLeft := fromLeft
    rebind := rebind
    offer := ⟨0x100000000, fun _ => 0, 4, sameLetter offer⟩
    applied := { plainRemote with tlsID := sameLetter answer }
    answer := ⟨0x100000000, fun _ => 0, 4, sameLetter answer⟩
    settled := plainRemote
    leftKeys := handshake true
    rightKeys := handshake true }

/-- A first exchange, one that changes nothing, and one after the peer moved to port 4010. -/
def exchangeRun : List Exchange :=
  [exchange true none 1 2, exchange false none 3 4, exchange false (some (4010, peerInit)) 5 6]

/-- The exchange is accepted on both sides, which run no ICE. -/
def Accepts (pair : Pair) (x : Exchange) : Prop :=
  ((x.forks {} pair).any fun f => !f.left.iceEnabled && !f.right.iceEnabled) = true

theorem Accepts.handshakesSucceed {pair : Pair} {x : Exchange} (h : Accepts pair x)
    (hl : x.leftKeys = handshake true) (hr : x.rightKeys = handshake true) :
    HandshakesSucceed {} pair x := by
  intro forks hforks
  rw [Accepts, Option.mem_def.mp hforks, Option.any_some, Bool.and_eq_true, Bool.not_eq_true',
    Bool.not_eq_true'] at h
  have hkeys (s : MediaSession) (hice : s.iceEnabled = false) : (handshake true).Succeeds s :=
    ⟨fun hon => absurd (hice.symm.trans hon) (by decide), rfl, rfl, rfl, rfl, rfl, by simp [handshake]⟩
  rw [hl, hr]
  exact ⟨fun _ => hkeys _ h.1, fun _ => hkeys _ h.2⟩

def sampleStart : Pair :=
  ⟨(MediaSession.init {} boundInit { toSettings := dtlsSettings }).2,
    (MediaSession.init {} peerInit { toSettings := peerSettings }).2⟩

theorem accepts_exchangeRun : Along (stepPair {}) Accepts sampleStart exchangeRun := by
  unfold exchangeRun Accepts
  simp only [along_cons, along_nil, and_true]
  decide +kernel

/-- The three exchanges are accepted, and the sides agree after each of them. -/
theorem endpoints_agree_after_move :
    Along (stepPair {}) Accepts sampleStart exchangeRun ∧
      Along (stepPair {}) (Agrees {}) sampleStart exchangeRun := by
  have hl : MediaSession.init {} boundInit { toSettings := dtlsSettings } =
      (.ok 0, sampleStart.left) := Prod.ext (by decide +kernel) rfl
  have hr : MediaSession.init {} peerInit { toSettings := peerSettings } =
      (.ok 0, sampleStart.right) := Prod.ext (by decide +kernel) rfl
  have haccept := accepts_exchangeRun
  refine ⟨haccept, ?_⟩
  refine endpoints_agree {} boundInit peerInit 0 0 dtlsSettings peerSettings _ _
    ⟨rfl, rfl, rfl, rfl, rfl, by decide, fun _ => rfl⟩
    ⟨rfl, rfl, rfl, rfl, rfl, by decide, fun _ => rfl⟩ hl hr
    exchangeRun (by decide +kernel) ?_
  exact ⟨haccept.1.handshakesSucceed rfl rfl, haccept.2.1.handshakesSucceed rfl rfl,
    haccept.2.2.1.handshakesSucceed rfl rfl, trivial⟩

end Sample
end Diago.Media
