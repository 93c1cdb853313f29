import Diago.Media.Applied
import Diago.Media.Attributes
import Diago.Media.Bound
import Diago.Media.Continuation

/-! # A description applied by the other side

What a DTLS session without ICE makes of a description another session wrote:
it continues the association it has, or arms a new one and records there what
both descriptions say.
-/
namespace Diago.Media
open Lib SDP Op
variable {x : DTLSSetup} {s t : MediaSession} {env : RemoteEnv} {g : Globals}

def MediaSession.bare (s : MediaSession) : MediaSession :=
  (s.withKeys ⟨none, none, 0, none, [], [], none, false, none⟩).offSockets

/-- The role an association has against the peer's a=setup value. -/
def roleAgainst (setup : SetupRole) : SetupRole := if setup = .active then .passive else .active

/-- The association says what the two descriptions it was armed by say: ours of `t`, the peer's
of `x` and `raddr`. -/
structure DTLSAssociation.Records [UnicodeCase] (p : DTLSAssociation) (t : MediaSession)
    (x : DTLSSetup) (raddr : UDPAddr) : Prop where
  setup : p.setup = roleAgainst x.setup
  localFingerprints : p.localFingerprints = fingerprintSet t.localDTLSFingerprints
  remoteFingerprints : p.remoteFingerprints = fingerprintSet x.fingerprints
  remoteTLSID : p.remoteTLSID = x.tlsID
  localTLSID : p.localTLSID = t.localTLSID
  laddr : p.laddr = t.laddr
  raddr : p.raddr = raddr

structure MediaSession.Continues [UnicodeCase] (s t : MediaSession) (x : DTLSSetup)
    (raddr : UDPAddr) : Prop where
  same : ∃ a, s.dtlsAssoc = some a ∧ t.dtlsAssoc = some a ∧
    a.changedBy (s.setRemoteAddr raddr) x.setup x.fingerprints x.tlsID = none
  armed : t.onFinalize = s.onFinalize
  localTLSID : t.localTLSID = s.localTLSID
  laddr : t.laddr = s.laddr

structure MediaSession.Arms [UnicodeCase] (s t : MediaSession) (env : RemoteEnv) (x : DTLSSetup)
    (raddr : UDPAddr) : Prop where
  changed : ∀ a, s.dtlsAssoc = some a →
    a.changedBy (s.setRemoteAddr raddr) x.setup x.fingerprints x.tlsID ≠ none
  dropped : t.dtlsAssoc = none
  armed : ∃ armed, t.onFinalize = some armed ∧ armed.assoc.Records t x raddr
  localTLSID : t.localTLSID =
    if s.remoteSDPIsAnswer then s.localTLSID else if x.tlsID ≠ [] then env.tlsID.text else []
  laddr : s.remoteSDPIsAnswer = true → t.laddr = s.laddr

section Fold
variable [UnicodeCase]

theorem fingerprintSet_filter (fingerprints : List SdpFingerprint) :
    fingerprintSet (fingerprints.filter fun fp => fp.fingerprint ≠ []) =
      fingerprintSet fingerprints := by
  simp [fingerprintSet, List.filter_filter]

theorem changedBy_filter (a : DTLSAssociation) (s : MediaSession) (setup : SetupRole)
    (fingerprints : List SdpFingerprint) (tlsID : Bytes) :
    a.changedBy s setup (fingerprints.filter fun fp => fp.fingerprint ≠ []) tlsID =
      a.changedBy s setup fingerprints tlsID := by
  simp only [DTLSAssociation.changedBy, fingerprintSet_filter]

/-- The association armed by a session that plays no role of its own choice. -/
theorem arm_records {s : MediaSession} (hrole : s.dtlsConf.sdpSetupRole = none)
    (hsetup : s.dtlsRemoteSetup = some x.setup) :
    ∃ armed,
      (s.arm (x.fingerprints.filter fun fp => fp.fingerprint ≠ []) x.tlsID).onFinalize =
        some armed ∧
      armed.assoc.Records (s.arm (x.fingerprints.filter fun fp => fp.fingerprint ≠ []) x.tlsID) x
        s.raddr := by
  refine ⟨_, rfl, ?_, rfl, fingerprintSet_filter x.fingerprints, rfl, rfl, rfl, rfl⟩
  simp only [MediaSession.armedFor, MediaSession.dtlsActsAsClient, MediaSession.localDTLSSetup,
    hrole, hsetup]
  cases x.setup <;> rfl

theorem MediaSession.Continues.withLocal {raddr : UDPAddr} (h : s.Continues t x raddr)
    (ctx : Option SrtpContext) :
    s.Continues { t with localCtxSRTP := ctx } x raddr :=
  ⟨h.same, h.armed, h.localTLSID, h.laddr⟩

theorem MediaSession.Arms.withLocal {raddr : UDPAddr} (h : s.Arms t env x raddr)
    (ctx : Option SrtpContext) :
    s.Arms { t with localCtxSRTP := ctx } env x raddr := by
  obtain ⟨armed, harmed, hrec⟩ := h.armed
  exact ⟨h.changed, h.dropped, ⟨armed, harmed, hrec.setup, hrec.localFingerprints,
    hrec.remoteFingerprints, hrec.remoteTLSID, hrec.localTLSID, hrec.laddr, hrec.raddr⟩,
    h.localTLSID, h.laddr⟩

end Fold

section Lib
variable [UnicodeCase] [SrtpLib]

/-- How the association is settled once the peer's attributes are read. -/
theorem negotiateDTLSAssociation_cases {u v : MediaSession} (hrole : u.dtlsConf.sdpSetupRole = none)
    (hsetup : u.dtlsRemoteSetup = some x.setup) (hladdr : u.laddr.Usable)
    (h : negotiateDTLSAssociation g env x.setup
      (x.fingerprints.filter fun fp => fp.fingerprint ≠ []) x.tlsID u = (.ok (), v))
     :
    v.bare = u.bare ∧ v.laddr.Usable ∧ v.dtlsRemoteSetup = some x.setup ∧
      v.dtlsRemoteTLSID = u.dtlsRemoteTLSID ∧
      (u.Continues v x u.raddr ∨ u.Arms v env x u.raddr) := by
  rcases negotiateDTLSAssociation_ok h with ⟨hnone, rfl⟩ | ⟨a, ha, hsame, rfl⟩ |
    ⟨a, reason, w, ha, hchanged, -, hmoves, rfl⟩
  · exact ⟨rfl, hladdr, hsetup, rfl, .inr ⟨by simp [hnone], hnone,
      arm_records (s := u.newAnswerTLSID env.tlsID x.tlsID) hrole hsetup, rfl, fun _ => rfl⟩⟩
  · refine ⟨rfl, hladdr, hsetup, rfl, .inl ⟨⟨a, ha, ha, ?_⟩, rfl, rfl, rfl⟩⟩
    rw [changedBy_filter] at hsame
    exact (changedBy_congr rfl a x.setup x.fingerprints x.tlsID).trans hsame
  · rw [changedBy_filter] at hchanged
    have hmove : w.laddr.Usable ∧ w.offSockets = u.offSockets ∧
        (u.remoteSDPIsAnswer = true → w.laddr = u.laddr) := by
      rcases hmoves with ⟨-, hanswer, hrebind⟩ | ⟨-, rfl⟩
      · obtain ⟨husable, hoff⟩ := rebindForAssociation_ok hrebind
        exact ⟨husable.elim id fun hsame => hsame ▸ hladdr, hoff, by simp [hanswer]⟩
      · exact ⟨hladdr, rfl, fun _ => rfl⟩
    obtain ⟨husable, hoff, hstay⟩ := hmove
    have hconf : w.dtlsConf = u.dtlsConf := congrArg (·.dtlsConf) hoff
    have hremote : w.dtlsRemoteSetup = u.dtlsRemoteSetup := congrArg (·.dtlsRemoteSetup) hoff
    have hremoteID : w.dtlsRemoteTLSID = u.dtlsRemoteTLSID := congrArg (·.dtlsRemoteTLSID) hoff
    have hraddr : w.raddr = u.raddr := congrArg (·.raddr) hoff
    have hanswer : w.remoteSDPIsAnswer = u.remoteSDPIsAnswer :=
      congrArg (·.remoteSDPIsAnswer) hoff
    have htlsID : w.localTLSID = u.localTLSID := congrArg (·.localTLSID) hoff
    have hbare : w.bare = u.bare := by
      have hkeys := congrArg
        (fun s => MediaSession.withKeys s ⟨none, none, 0, none, [], [], none, false, none⟩) hoff
      exact hkeys
    refine ⟨hbare, husable, hremote.trans hsetup, hremoteID, .inr ⟨?_, rfl, ?_, ?_, hstay⟩⟩
    · intro b hb hnone
      obtain rfl := Option.some.inj (ha.symm.trans hb)
      have hsame := (changedBy_congr rfl a x.setup x.fingerprints x.tlsID).symm.trans hnone
      exact Option.some_ne_none reason (hchanged.symm.trans hsame)
    · rw [← hraddr]
      exact arm_records (s := w.unkeyed.newAnswerTLSID env.tlsID x.tlsID)
        ((congrArg DTLSConfig.sdpSetupRole hconf).trans hrole) (hremote.trans hsetup)
    · change (if w.remoteSDPIsAnswer then w.localTLSID
        else if x.tlsID ≠ [] then env.tlsID.text else []) = _
      rw [hanswer, htlsID]

theorem negotiates_of_applyKeying {d : Description} {req : Bool} {proto : Bytes}
    (hdice : d.ice = none) (hddtls : d.dtls = some x) (hx : x.Legible) (hdtls : s.secureRTP = .dtls)
    (hice : s.iceConf = none) (h : applyKeying g env d.attributes req proto s = (.ok (), t)) :
    ∃ tag ctx localCtx u v,
      u = { s with
        srtpRemoteTag := tag, remoteCtxSRTP := ctx
        dtlsRemoteSetup := some x.setup, dtlsRemoteTLSID := x.tlsID } ∧
      negotiateDTLSAssociation g env x.setup
        (x.fingerprints.filter fun fp => fp.fingerprint ≠ []) x.tlsID u = (.ok (), v) ∧
      t = { v with localCtxSRTP := localCtx } := by
  obtain ⟨s₁, s₂, s₃, hcrypto, hICE, hDTLS, hsettle⟩ := applyKeying_eq_ok.mp h
  obtain ⟨-, rfl⟩ := settleContexts_eq_ok.mp hsettle
  have hs₁ : ∃ tag ctx, s₁ = { s with srtpRemoteTag := tag, remoteCtxSRTP := ctx } := by
    obtain ⟨tag, ⟨-, rfl⟩ | ⟨-, ctx, -, rfl⟩⟩ := applyCrypto_ok hcrypto
    · exact ⟨tag, s.remoteCtxSRTP, rfl⟩
    · exact ⟨tag, some ctx, rfl⟩
  obtain ⟨tag, ctx, hs₁⟩ := hs₁
  have hs₂ : s₂ = s₁ := by
    have hoff : s₁.iceEnabled = false := by
      simp [hs₁, MediaSession.iceEnabled, hice]
    unfold applyICE at hICE
    rw [bind_of_ok (read_apply s₁), only_of_not _ (by simp [hoff])] at hICE
    exact (Prod.mk.inj hICE).2.symm
  have hdtls₂ : s₂.dtlsSRTP = true := by
    simp [hs₂, hs₁, MediaSession.dtlsSRTP, hdtls]
  obtain ⟨setup, fingerprints, tlsID, hread, hneg⟩ := applyDTLS_ok hdtls₂ hDTLS
  obtain ⟨rfl, rfl, rfl⟩ : setup = x.setup ∧
      fingerprints = x.fingerprints.filter (fun fp => fp.fingerprint ≠ []) ∧ tlsID = x.tlsID := by
    simpa using dtlsAttributes_attributes hdice hddtls hx hread
  rw [hs₂, hs₁] at hneg
  exact ⟨tag, ctx, _, _, s₃, rfl, hneg, rfl⟩

theorem remoteSDP_written {d : Description} {ip : IP} (hd : d.Legible) (hdice : d.ice = none)
    (hddtls : d.dtls = some x) (hx : x.Legible) (hone : d.sections.media = [d.audioSection])
    (hip : d.connectionIP = some ip) (hdtls : s.secureRTP = .dtls) (hice : s.iceConf = none)
    (hrole : s.dtlsConf.sdpSetupRole = none) (hladdr : s.laddr.Usable)
    (h : MediaSession.remoteSDP g env (generateSDPForAudio d) s = (.ok (), t)) :
    ∃ r : StreamRead,
      t.bare = (s.onStream g r d.lines d.audioMedia ⟨[d.audioMedia], 0⟩).bare ∧
      t.laddr.Usable ∧ t.dtlsRemoteSetup = some x.setup ∧ t.dtlsRemoteTLSID = x.tlsID ∧
      (s.Continues t x { ip := some ip, port := d.rtpPort } ∨
        s.Arms t env x { ip := some ip, port := d.rtpPort }) := by
  obtain ⟨sections, audio, m, r, hbody, hr, hkey⟩ := remoteSDP_eq_ok.mp h
  obtain ⟨hsections, -, hm⟩ := chooseAudio_eq_ok.mp hbody
  obtain rfl := Except.ok.inj ((unmarshalSections_generateSDPForAudio hd).symm.trans hsections)
  have haudio : audio = 0 ∧ m = d.audioSection := by
    rw [hone] at hm
    obtain ⟨hlt, rfl⟩ := List.getElem?_eq_some_iff.mp hm
    simp only [List.length_singleton, Nat.lt_one_iff] at hlt
    subst hlt
    exact ⟨rfl, rfl⟩
  obtain ⟨rfl, rfl⟩ := haudio
  have hci : r.ci.ip = some ip := by
    obtain ⟨ci, hci, hciip⟩ := connectionInformation_lines d hip
    rw [Except.ok.inj (hr.connection.symm.trans hci)]
    exact hciip
  have hattrs : values (d.sections.description d.audioSection) (lit "a") = d.attributes :=
    values_lines_attributes d
  rw [hattrs, hone] at hkey
  obtain ⟨tag, ctx, localCtx, u, s₃, hu, hneg, rfl⟩ :=
    negotiates_of_applyKeying hdice hddtls hx (by exact hdtls) (by exact hice) hkey
  obtain ⟨hbare, husable, hremote, hremoteID, hcase⟩ := negotiateDTLSAssociation_cases
    (by rw [hu]; exact hrole) (by rw [hu]) (by rw [hu]; exact hladdr) hneg
  have hraddr : u.raddr = { ip := some ip, port := d.rtpPort } := by
    rw [hu, ← hci]
    rfl
  have hend : (u.setRemoteAddr u.raddr).endpoint =
      (s.setRemoteAddr { ip := some ip, port := d.rtpPort }).endpoint := by
    rw [hraddr, hu]
    rfl
  have hassoc : u.dtlsAssoc = s.dtlsAssoc := by
    rw [hu]
    rfl
  refine ⟨r, hbare.trans (by rw [hu]; rfl), husable, hremote, hremoteID.trans (by rw [hu]), ?_⟩
  rcases hcase with hcont | harms
  · left
    obtain ⟨a, ha, hta, hsame⟩ := hcont.same
    exact MediaSession.Continues.withLocal ⟨⟨a, hassoc ▸ ha, hta,
      (changedBy_congr hend a x.setup x.fingerprints x.tlsID).symm.trans hsame⟩,
      hcont.armed.trans (by rw [hu]; rfl), hcont.localTLSID.trans (by rw [hu]; rfl),
      hcont.laddr.trans (by rw [hu]; rfl)⟩ _
  · right
    have hanswer : u.remoteSDPIsAnswer = s.remoteSDPIsAnswer := by
      rw [hu]
      rfl
    have htlsID : u.localTLSID = s.localTLSID := by
      rw [hu]
      rfl
    refine MediaSession.Arms.withLocal ⟨fun a ha hnone => ?_, harms.dropped,
      hraddr ▸ harms.armed, ?_, fun h => ?_⟩ _
    · exact harms.changed a (hassoc.trans ha)
        ((changedBy_congr hend a x.setup x.fingerprints x.tlsID).trans hnone)
    · rw [harms.localTLSID, hanswer, htlsID]
    · exact (harms.laddr (hanswer.trans h)).trans (by rw [hu]; rfl)

end Lib
end Diago.Media
