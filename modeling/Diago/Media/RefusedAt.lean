import Diago.Media.Applied
import Diago.Media.Refusal

/-! # Where a description is refused

What has to be in a body, in the session it is applied to and around both for
RemoteSDP to fail in the address of a c= line, in the SRTP library, or in the
sockets and the connection of a DTLS association.
-/
namespace Diago.SDP
open Lib

/-- The value of a c= line that the error repeats as it is. -/
def Err.connectionValue : Err → Option Bytes
  | .connectionFields v | .notIP4 v | .notIP6 v => some v
  | _ => none

theorem parseUint64_error {s : Bytes} {e : Err} (h : parseUint64 s = .error e) :
    ∃ reason, e = .originNumber s reason := by
  unfold parseUint64 at h
  split at h
  · cases h
  · rename_i reason _
    cases h
    exact ⟨reason, rfl⟩

theorem sessionInformation_connectionValue {lines : List Line} {e : Err}
    (h : sessionInformation lines = .error e) : e.connectionValue = none := by
  unfold sessionInformation at h
  dsimp only at h
  split_ifs at h
  · cases h
    rfl
  · split at h
    · rename_i origin id version networkType addressType address rest _
      cases hid : parseUint64 id with
      | error e' =>
        rw [hid] at h
        cases h
        obtain ⟨reason, rfl⟩ := parseUint64_error hid
        rfl
      | ok sessionID =>
        cases hversion : parseUint64 version with
        | error e' =>
          rw [hid, hversion] at h
          cases h
          obtain ⟨reason, rfl⟩ := parseUint64_error hversion
          rfl
        | ok sessionVersion =>
          rw [hid, hversion] at h
          cases h
    · cases h
      rfl

theorem unmarshalSections_connectionValue {data : Bytes} {e : Err}
    (h : unmarshalSections data = .error e) : e.connectionValue = none := by
  obtain ⟨s, l, -, hread⟩ := foldlM_error h
  unfold readLine at hread
  cases hline : parseLine l with
  | error e' =>
    rw [hline] at hread
    cases hread
    unfold parseLine at hline
    dsimp only at hline
    split_ifs at hline
    split at hline <;> cases hline
    rfl
  | ok line =>
    rw [hline] at hread
    cases line with
    | none => cases hread
    | some line =>
      change addLine s line = .error e at hread
      unfold addLine at hread
      split_ifs at hread
      split at hread <;> cases hread
      rfl

/-- The value of a c= line has an address, and one of the family if it says IP4 or IP6. -/
def namesAddress (v : Bytes) : Bool :=
  match fields v with
  | _ :: addressType :: address :: _ =>
    let ip := parseIP ((address.splitOn slash).headD [])
    if addressType = lit "IP4" then (to4 ip).isSome
    else if addressType = lit "IP6" then ip.isSome
    else true
  | _ => false

/-- The last c= line of the one stream described is the one with this value. -/
structure RefusedConnection (lines : List Line) (v : Bytes) : Prop where
  media : (values lines (lit "m")).length ≤ 1
  last : (values lines (lit "c")).getLast? = some v
  unnamed : namesAddress v = false

theorem connectionInformation_of_last {lines : List Line} {v : Bytes}
    (hmedia : (values lines (lit "m")).length ≤ 1)
    (hlast : (values lines (lit "c")).getLast? = some v) :
    namesAddress v = true ∧ (∃ ci, connectionInformation lines = .ok ci) ∨
      namesAddress v = false ∧ ∃ e, connectionInformation lines = .error e ∧
        e.connectionValue = some v := by
  unfold connectionInformation namesAddress
  rw [if_neg (Nat.not_lt.mpr hmedia), hlast]
  dsimp only
  rcases fields v with _ | ⟨networkType, _ | ⟨addressType, _ | ⟨address, rest⟩⟩⟩
  · exact .inr ⟨rfl, _, rfl, rfl⟩
  · exact .inr ⟨rfl, _, rfl, rfl⟩
  · exact .inr ⟨rfl, _, rfl, rfl⟩
  · dsimp only
    by_cases hip4 : addressType = lit "IP4"
    · simp only [if_pos hip4]
      cases h4 : (to4 (parseIP ((address.splitOn slash).headD []))).isSome with
      | true => exact .inl ⟨rfl, _, rfl⟩
      | false => exact .inr ⟨rfl, _, rfl, rfl⟩
    simp only [if_neg hip4]
    by_cases hip6 : addressType = lit "IP6"
    · simp only [if_pos hip6]
      cases h6 : (parseIP ((address.splitOn slash).headD [])).isSome with
      | true => exact .inl ⟨rfl, _, rfl⟩
      | false => exact .inr ⟨rfl, _, rfl, rfl⟩
    · simp only [if_neg hip6]
      exact .inl ⟨trivial, _, rfl⟩

theorem connectionInformation_refused_iff {lines : List Line} {v : Bytes} :
    (∃ e, connectionInformation lines = .error e ∧ v ∈ e.connectionValue) ↔
      RefusedConnection lines v := by
  constructor
  · rintro ⟨e, he, hv⟩
    have hmedia : (values lines (lit "m")).length ≤ 1 := by
      by_contra hmany
      rw [connectionInformation, if_pos (Nat.lt_of_not_le hmany)] at he
      cases he
      cases hv
    cases hlast : (values lines (lit "c")).getLast? with
    | none =>
      rw [connectionInformation, if_neg (Nat.not_lt.mpr hmedia), hlast] at he
      cases he
      cases hv
    | some w =>
      obtain ⟨-, ci, hci⟩ | ⟨hunnamed, e', he', hw⟩ := connectionInformation_of_last hmedia hlast
      · cases hci.symm.trans he
      · obtain rfl := Except.error.inj (he'.symm.trans he)
        obtain rfl := Option.some.inj (hw.symm.trans hv)
        exact ⟨hmedia, hlast, hunnamed⟩
  · intro h
    obtain ⟨hnamed, -⟩ | ⟨-, e, he, hv⟩ := connectionInformation_of_last h.media h.last
    · exact absurd (hnamed.symm.trans h.unnamed) nofun
    · exact ⟨e, he, hv⟩

end Diago.SDP

namespace Diago.Media
open Lib SDP Op

def Err.connectionValue : Err → Option Bytes
  | .parse e | .sdp e => e.connectionValue
  | _ => none

theorem ChoiceErr.connectionValue {body : Bytes} {e : Err} (h : ChoiceErr body e) :
    e.connectionValue = none := by
  cases h with
  | parse he => exact unmarshalSections_connectionValue he
  | noAudio => rfl

theorem KeyingErr.connectionValue {proto : Bytes} {e : Err} (h : KeyingErr proto e) :
    e.connectionValue = none := by
  cases h with
  | crypto h => cases h <;> rfl
  | ice h => cases h <;> rfl
  | dtls h => cases h <;> rfl
  | _ => rfl

theorem StreamErr.refusedConnection {lines : List Line} {md : MediaDescription} {e : Err}
    {v : Bytes} (h : StreamErr lines md e) (hv : v ∈ e.connectionValue) :
    RefusedConnection lines v := by
  cases h with
  | connection he => exact connectionInformation_refused_iff.mp ⟨_, he, hv⟩
  | origin he =>
    have hnone := (sessionInformation_connectionValue he).symm.trans hv
    cases hnone
  | unsupportedProto => cases hv
  | unusablePort => cases hv
  | notAnIP => cases hv

section Stream
variable [UnicodeCase]

/-- Origin, profile and codecs of a stream can be taken, so that its connection is looked at. -/
structure ReachesConnection (g : Globals) (s : MediaSession) (lines : List Line)
    (md : MediaDescription) : Prop where
  origin : ∃ si, sessionInformation lines = .ok si
  profile : (parseRTPProfile md.proto).isSome = true
  codecs : ∃ remote,
    codecsFromSDPRead md.formats (values lines (lit "a")) md.formats.length = some remote ∧
      remote ≠ [] ∧ (s.codecs = [] ∨ s.negotiatedCodecs g remote ≠ [])

def ConnectionRefused (g : Globals) (body : Bytes) (s : MediaSession) (v : Bytes) : Prop :=
  ∃ sections audio m, chooseAudio body = .ok (sections, audio, m) ∧
    ReachesConnection g s (sections.description m) m.media ∧
    RefusedConnection (sections.description m) v

variable {g : Globals} {sections : Sections} {audio : ℕ} {m : MediaSection} {s : MediaSession}
  {v : Bytes}

theorem applyStream_reaches {e : Err} (h : (applyStream g sections audio m s).1 = .error e)
    (hv : v ∈ e.connectionValue) : ReachesConnection g s (sections.description m) m.media := by
  have hquiet {α : Type} {x : Op MediaSession Err α} {u : MediaSession}
      (hx : FailsWith (fun e => e.connectionValue = none) x) (h : (x u).1 = .error e) : False := by
    have hnone := hx u e h
    simp [hnone] at hv
  unfold applyStream at h
  rcases bind_eq_error.mp h with h | ⟨_, s₁, h₁, h⟩
  · exact (hquiet (applyOrigin_failsWith fun _ he => sessionInformation_connectionValue he) h).elim
  obtain ⟨si, hsi, rfl⟩ := applyOrigin_eq_ok.mp h₁
  rcases bind_eq_error.mp h with h | ⟨_, s₂, h₂, h⟩
  · exact (hquiet (applyProfile_failsWith (P := fun e => e.connectionValue = none) rfl _) h).elim
  obtain ⟨prof, hprof, -, rfl⟩ := applyProfile_eq_ok.mp h₂
  rcases bind_eq_error.mp h with h | ⟨_, s₃, h₃, h⟩
  · cases h
  obtain rfl := (Prod.mk.inj h₃).2
  rcases bind_eq_error.mp h with h | ⟨_, s₄, h₄, -⟩
  · refine (hquiet ((applyCodecs_failsWith g _ _).mono fun e he => ?_) h).elim
    cases he <;> rfl
  obtain ⟨remote, hread, hne, hcommon, -⟩ := applyCodecs_eq_ok.mp h₄
  exact ⟨⟨si, hsi⟩, by simp [hprof], remote, hread, hne, hcommon⟩

theorem remoteSDP_connectionValue_iff [SrtpLib] (env : RemoteEnv) {body : Bytes} :
    (∃ e, (MediaSession.remoteSDP g env body s).1 = .error e ∧ v ∈ e.connectionValue) ↔
      ConnectionRefused g body s v := by
  constructor
  · rintro ⟨e, h, hv⟩
    have hloud : e.connectionValue ≠ none := fun hnone => by simp [hnone] at hv
    rcases bind_eq_error.mp h with h | ⟨⟨sections, audio, m⟩, s₁, h₁, h⟩
    · exact absurd (chooseAudio_failsWith h).connectionValue hloud
    obtain ⟨hbody, rfl⟩ := Prod.mk.inj h₁
    rcases bind_eq_error.mp h with h | ⟨req, s₂, -, h⟩
    · refine ⟨sections, audio, m, hbody, applyStream_reaches h hv, ?_⟩
      have hstream : FailsWith (fun e => v ∈ e.connectionValue →
          RefusedConnection (sections.description m) v) (applyStream g sections audio m) :=
        applyStream_failsWith (fun e he hv => he.refusedConnection hv)
          ((applyCodecs_failsWith g _ _).mono fun e he hv => by cases he <;> cases hv)
      exact hstream s e h hv
    · exact absurd (applyKeying_failsWith g env _ _ _ s₂ e h).connectionValue hloud
  · rintro ⟨sections, audio, m, hbody, ⟨⟨si, hsi⟩, hprofile, remote, hread, hne, hcommon⟩, hrefused⟩
    obtain ⟨e, he, hv⟩ := connectionInformation_refused_iff.mpr hrefused
    obtain ⟨prof, hprof⟩ := Option.isSome_iff_exists.mp hprofile
    have hconnection (u : MediaSession) :
        applyConnection (sections.description m) m.media u = (.error (.sdp e), u) := by
      unfold applyConnection
      rw [he]
      rfl
    have hstream : ∃ t, applyStream g sections audio m s = (.error (.sdp e), t) := by
      unfold applyStream
      rw [bind_of_ok (applyOrigin_eq_ok (u := ()).mpr ⟨si, hsi, rfl⟩),
        bind_of_ok (applyProfile_eq_ok.mpr ⟨prof, hprof, rfl, rfl⟩), applyStreams,
        bind_of_ok (update_apply _ _),
        bind_of_ok (applyCodecs_eq_ok (u := ()).mpr ⟨remote, hread, hne, by exact hcommon, rfl⟩)]
      exact ⟨_, bind_of_error (hconnection _) _⟩
    obtain ⟨t, hstream⟩ := hstream
    refine ⟨.sdp e, ?_, hv⟩
    unfold MediaSession.remoteSDP
    rw [hbody, bind_of_ok (ofExcept_apply _ s)]
    dsimp only
    rw [bind_of_error hstream]

end Stream

/-- The error ends with the text of another: the SRTP library's, a socket's or the DTLS
library's. -/
def Err.FromOutside : Err → Prop
  | .sdesContext | .associationListen _ | .dtlsConn => True
  | _ => False

section Lib
variable [SrtpLib]

/-- The first attribute for the profile has a key of thirty bytes, and the library wants another
length. -/
inductive ContextRefused (alg : ProtectionProfile) : List Bytes → Prop
  | here {v : Bytes} {attrs : List Bytes} {c : CryptoAttr} {keyBytes : Bytes}
    (hv : readCrypto v = some (.ok c)) (htag : c.tag.2 = none)
    (htake : ¬(c.profile = 0 ∨ alg ≠ c.profile)) (hkey : base64Decode c.inline = some keyBytes)
    (hlen : keyBytes.length = 30)
    (hlib : ¬(SrtpLib.keyLen c.profile = some 16 ∧ SrtpLib.saltLen c.profile = some 14)) :
    ContextRefused alg (v :: attrs)
  | other {v : Bytes} {attrs : List Bytes} (hv : readCrypto v = none)
    (h : ContextRefused alg attrs) : ContextRefused alg (v :: attrs)
  | foreign {v : Bytes} {attrs : List Bytes} {c : CryptoAttr} (hv : readCrypto v = some (.ok c))
    (htag : c.tag.2 = none) (hskip : c.profile = 0 ∨ alg ≠ c.profile)
    (h : ContextRefused alg attrs) : ContextRefused alg (v :: attrs)

theorem sdesContext_refused_iff {handle : ℕ} {c : CryptoAttr} :
    sdesContext handle c = .error .sdesContext ↔
      ∃ keyBytes, base64Decode c.inline = some keyBytes ∧ keyBytes.length = 30 ∧
        ¬(SrtpLib.keyLen c.profile = some 16 ∧ SrtpLib.saltLen c.profile = some 14) := by
  unfold sdesContext
  cases base64Decode c.inline with
  | none => simp
  | some keyBytes =>
    by_cases hlen : keyBytes.length = 30
    · have hsome : (createContext handle (keyBytes.take 16) (keyBytes.drop 16) c.profile).isSome =
          true ↔ SrtpLib.keyLen c.profile = some 16 ∧ SrtpLib.saltLen c.profile = some 14 := by
        rw [createContext_isSome, List.length_take, List.length_drop, hlen]
        rfl
      simp only [hlen, Option.some.injEq, exists_eq_left', true_and]
      rw [← hsome]
      cases createContext handle (keyBytes.take 16) (keyBytes.drop 16) c.profile <;> simp
    · simp [hlen]

theorem applyCrypto_cons_ok {handle : ℕ} {v : Bytes} {attrs : List Bytes} {c : CryptoAttr}
    (hv : readCrypto v = some (.ok c)) (htag : c.tag.2 = none) (s : MediaSession) :
    applyCrypto handle (v :: attrs) s =
      (if c.profile = 0 ∨ s.srtpAlg ≠ c.profile then applyCrypto handle attrs
        else Op.ofExcept (sdesContext handle c) >>= fun ctx =>
          Op.update fun s => { s with remoteCtxSRTP := some ctx })
        { s with srtpRemoteTag := c.tag.1 } := by
  rw [applyCrypto, hv]
  dsimp only
  rw [bind_of_ok (update_apply _ s), bind_of_ok (require_of _ _ htag), bind_of_ok (read_apply _)]

theorem applyCrypto_cons_none {handle : ℕ} {v : Bytes} (hv : readCrypto v = none)
    (attrs : List Bytes) : applyCrypto handle (v :: attrs) = applyCrypto handle attrs := by
  rw [applyCrypto, hv]

theorem applyCrypto_contextRefused_iff {handle : ℕ} {attrs : List Bytes} {s : MediaSession} :
    (applyCrypto handle attrs s).1 = .error .sdesContext ↔ ContextRefused s.srtpAlg attrs := by
  constructor
  · intro h
    induction attrs generalizing s with
    | nil => cases h
    | cons v attrs ih =>
      cases hv : readCrypto v with
      | none =>
        rw [applyCrypto_cons_none hv] at h
        exact .other hv (ih h)
      | some r =>
        cases r with
        | error e =>
          rw [applyCrypto, hv] at h
          cases h
          unfold readCrypto at hv
          split at hv
          · cases hv
          · split at hv <;> cases hv
        | ok c =>
          by_cases htag : c.tag.2 = none
          · rw [applyCrypto_cons_ok hv htag] at h
            split at h
            · rename_i hskip
              exact .foreign hv htag hskip (ih (s := { s with srtpRemoteTag := c.tag.1 }) h)
            · rename_i htake
              rcases bind_eq_error.mp h with h | ⟨_, _, -, h⟩
              · obtain ⟨keyBytes, hkey, hlen, hlib⟩ := sdesContext_refused_iff.mp h
                exact .here hv htag htake hkey hlen hlib
              · cases h
          · rw [applyCrypto, hv] at h
            dsimp only at h
            rw [bind_of_ok (update_apply _ s)] at h
            rcases bind_eq_error.mp h with h | ⟨_, _, hok, -⟩
            · cases (require_eq_error.mp h).2
            · exact absurd (require_eq_ok.mp hok).1 htag
  · intro h
    generalize halg : s.srtpAlg = alg at h
    induction h generalizing s with
    | other hv _ ih => rw [applyCrypto_cons_none hv, ih halg]
    | foreign hv htag hskip _ ih =>
      rw [applyCrypto_cons_ok hv htag, halg, if_pos hskip]
      exact ih halg
    | @here v attrs c keyBytes hv htag htake hkey hlen hlib =>
      rw [applyCrypto_cons_ok hv htag, halg, if_neg htake]
      exact bind_eq_error.mpr (.inl (sdesContext_refused_iff.mpr ⟨keyBytes, hkey, hlen, hlib⟩))

theorem KeysRead.applyCrypto {handle : ℕ} {attrs : List Bytes} {s t : MediaSession}
    (h : KeysRead handle attrs s t) : Media.applyCrypto handle attrs s = (.ok (), t) := by
  induction h with
  | done s => rfl
  | other hv _ ih => rw [applyCrypto_cons_none hv, ih]
  | foreign hv htag hskip _ ih => rw [applyCrypto_cons_ok hv htag, if_pos hskip, ih]
  | @taken v attrs s c ctx hv htag htake hctx =>
    rw [applyCrypto_cons_ok hv htag, if_neg htake, hctx, bind_of_ok (ofExcept_apply _ _)]
    rfl

section Association
variable [UnicodeCase]

/-- A handshake cannot be armed without ICE: the sockets or the connection of the association are
not there. -/
inductive AssociationStops (g : Globals) (env : RemoteEnv) (setup : SetupRole)
    (fingerprints : List SdpFingerprint) (tlsID : Bytes) (s : MediaSession) : Err → Prop
  | dialFirst (hice : s.iceEnabled = false) (hnone : s.dtlsAssoc = none)
    (hdials : env.dials = false) : AssociationStops g env setup fingerprints tlsID s .dtlsConn
  | dialNext {a : DTLSAssociation} {reason : Change} {u : MediaSession}
    (hice : s.iceEnabled = false) (hassoc : s.dtlsAssoc = some a)
    (hchanged : a.changedBy s setup fingerprints tlsID = some reason) (hmoves : MovesTo g env a s u)
    (hdials : env.dials = false) : AssociationStops g env setup fingerprints tlsID s .dtlsConn
  | listen {a : DTLSAssociation} {reason : Change} {e : Err} {t : MediaSession}
    (hice : s.iceEnabled = false) (hassoc : s.dtlsAssoc = some a)
    (hchanged : a.changedBy s setup fingerprints tlsID = some reason) (hsame : s.laddr = a.laddr)
    (hoffer : s.remoteSDPIsAnswer = false)
    (hlisten : createListeners g env.listen false 0 { s with rtpConn := none, rtcpConn := none } =
      (.error e, t)) :
    AssociationStops g env setup fingerprints tlsID s (.associationListen e)

variable {g : Globals} {env : RemoteEnv} {setup : SetupRole} {fingerprints : List SdpFingerprint}
  {tlsID : Bytes} {s : MediaSession}

omit [SrtpLib] in
theorem armDTLSHandshake_stops_iff {e : Err} :
    (armDTLSHandshake env fingerprints tlsID s).1 = .error e ↔
      s.iceEnabled = false ∧ env.dials = false ∧ e = .dtlsConn := by
  unfold armDTLSHandshake
  rw [bind_of_ok (read_apply s)]
  unfold Op.require
  split_ifs with hdial
  · refine iff_of_false nofun fun h => ?_
    simp [h.1, h.2.1] at hdial
  · rw [not_or, Bool.not_eq_true, Bool.not_eq_true] at hdial
    refine ⟨fun h => ⟨hdial.1, hdial.2, ?_⟩, fun h => congrArg _ h.2.2.symm⟩
    cases h
    rfl

theorem armRebound_stops_iff {e : Err} (rebound : Bool) :
    (armRebound env rebound fingerprints tlsID s).1 = .error e ↔
      s.iceEnabled = false ∧ env.dials = false ∧ e = .dtlsConn := by
  rw [← armDTLSHandshake_stops_iff]
  unfold armRebound
  rcases armDTLSHandshake env fingerprints tlsID s with ⟨_ | _, t⟩ <;> rfl

omit [SrtpLib] [UnicodeCase] in
theorem rebindForAssociation_of_error {e : Err} {t : MediaSession}
    (h : createListeners g env.listen false 0 { s with rtpConn := none, rtcpConn := none } =
      (.error e, t)) : rebindForAssociation g env s = (.error (.associationListen e), t) := by
  refine (bind_of_ok (update_apply _ s) _).trans ?_
  rw [h]

omit [SrtpLib] [UnicodeCase] in
theorem rebindForAssociation_of_ok {p : ℤ} {t : MediaSession}
    (h : createListeners g env.listen false 0 { s with rtpConn := none, rtcpConn := none } =
      (.ok p, t)) : rebindForAssociation g env s = (.ok (), t) := by
  refine (bind_of_ok (update_apply _ s) _).trans ?_
  rw [h]

omit [SrtpLib] [UnicodeCase] in
theorem rebindForAssociation_cases (g : Globals) (env : RemoteEnv) (s : MediaSession) :
    (∃ t, rebindForAssociation g env s = (.ok (), t) ∧ t.iceEnabled = s.iceEnabled) ∨
      ∃ e t, createListeners g env.listen false 0 { s with rtpConn := none, rtcpConn := none } =
          (.error e, t) ∧ rebindForAssociation g env s = (.error (.associationListen e), t) := by
  have hkeeps := keeps_createListeners (f := MediaSession.iceEnabled) (fun _ _ => rfl) g env.listen
    false 0 { s with rtpConn := none, rtcpConn := none }
  rcases hlisten : createListeners g env.listen false 0
    { s with rtpConn := none, rtcpConn := none } with ⟨e | p, t⟩
  · exact .inr ⟨e, t, rfl, rebindForAssociation_of_error hlisten⟩
  · rw [hlisten] at hkeeps
    exact .inl ⟨t, rebindForAssociation_of_ok hlisten, hkeeps⟩

omit [SrtpLib] [UnicodeCase] in
theorem MovesTo.iceEnabled {a : DTLSAssociation} {u : MediaSession} (h : MovesTo g env a s u) :
    u.iceEnabled = s.iceEnabled := by
  obtain ⟨-, -, hbind⟩ | ⟨-, rfl⟩ := h
  · obtain ⟨t, ht, hice⟩ | ⟨e, t, -, ht⟩ := rebindForAssociation_cases g env s
    · rw [(Prod.mk.inj (hbind.symm.trans ht)).2, hice]
    · cases hbind.symm.trans ht
  · rfl

omit [SrtpLib] [UnicodeCase] in
theorem iceEnabled_newAnswerTLSID (s : MediaSession) (id : TLSID) (tlsID : Bytes) :
    (s.newAnswerTLSID id tlsID).iceEnabled = s.iceEnabled := by
  unfold MediaSession.newAnswerTLSID
  split <;> rfl

theorem armRebound_next_iff {a : DTLSAssociation} {u : MediaSession} {e : Err} (rebound : Bool)
    (hice : s.iceEnabled = false) (hmoves : MovesTo g env a s u) :
    (armRebound env rebound fingerprints tlsID (u.unkeyed.newAnswerTLSID env.tlsID tlsID)).1 =
      .error e ↔ env.dials = false ∧ e = .dtlsConn := by
  have hu : u.unkeyed.iceEnabled = false := hmoves.iceEnabled.trans hice
  rw [armRebound_stops_iff, iceEnabled_newAnswerTLSID, and_iff_right hu]

theorem negotiateDTLSAssociation_stops_iff {e : Err} (he : e.FromOutside) :
    (negotiateDTLSAssociation g env setup fingerprints tlsID s).1 = .error e ↔
      AssociationStops g env setup fingerprints tlsID s e := by
  unfold negotiateDTLSAssociation
  rw [bind_of_ok (read_apply s)]
  constructor
  · intro h
    cases hassoc : s.dtlsAssoc with
    | none =>
      rw [hassoc] at h
      dsimp only at h
      rw [bind_of_ok (update_apply _ s), armDTLSHandshake_stops_iff,
        iceEnabled_newAnswerTLSID] at h
      obtain ⟨hice, hdials, rfl⟩ := h
      exact .dialFirst hice hassoc hdials
    | some a =>
      rw [hassoc] at h
      dsimp only at h
      cases hchanged : a.changedBy s setup fingerprints tlsID with
      | none =>
        rw [hchanged] at h
        cases h
      | some reason =>
        rw [hchanged] at h
        rcases bind_eq_error.mp h with h | ⟨_, s₁, h₁, h⟩
        · obtain ⟨-, rfl⟩ := require_eq_error.mp h
          exact he.elim
        obtain ⟨hice, rfl⟩ := require_eq_ok.mp h₁
        rcases bind_eq_error.mp h with h | ⟨_, u, hmove, h⟩
        · by_cases hsame : s.laddr = a.laddr
          · rw [only_of _ hsame] at h
            rcases bind_eq_error.mp h with h | ⟨_, s₂, h₂, h⟩
            · obtain ⟨-, rfl⟩ := require_eq_error.mp h
              exact he.elim
            obtain ⟨hoffer, rfl⟩ := require_eq_ok.mp h₂
            obtain ⟨t, ht, -⟩ | ⟨e', t, hlisten, ht⟩ := rebindForAssociation_cases g env s
            · rw [ht] at h
              cases h
            · rw [ht] at h
              cases h
              exact .listen hice hassoc hchanged hsame hoffer hlisten
          · rw [only_of_not _ hsame] at h
            cases h
        · have hmoves := movesTo_iff.mp hmove
          rw [bind_of_ok (update_apply _ u), armRebound_next_iff _ hice hmoves] at h
          obtain ⟨hdials, rfl⟩ := h
          exact .dialNext hice hassoc hchanged hmoves hdials
  · intro h
    cases h with
    | dialFirst hice hnone hdials =>
      rw [hnone]
      dsimp only
      rw [bind_of_ok (update_apply _ s), armDTLSHandshake_stops_iff, iceEnabled_newAnswerTLSID]
      exact ⟨hice, hdials, rfl⟩
    | @dialNext a reason u hice hassoc hchanged hmoves hdials =>
      rw [hassoc]
      dsimp only
      rw [hchanged]
      dsimp only
      rw [bind_of_ok (require_of _ s hice), bind_of_ok (movesTo_iff.mpr hmoves),
        bind_of_ok (update_apply _ _), armRebound_next_iff _ hice hmoves]
      exact ⟨hdials, rfl⟩
    | listen hice hassoc hchanged hsame hoffer hlisten =>
      rw [hassoc]
      dsimp only
      rw [hchanged]
      dsimp only
      rw [bind_of_ok (require_of _ s hice)]
      refine bind_eq_error.mpr (.inl ?_)
      rw [only_of _ hsame, bind_of_ok (require_of _ s hoffer)]
      rw [rebindForAssociation_of_error hlisten]

/-- The keying of a session stops at the SRTP library, or at the sockets or the connection of an
association. -/
inductive KeyingStops (g : Globals) (env : RemoteEnv) (attrs : List Bytes) (s : MediaSession) :
    Err → Prop
  | context (h : ContextRefused s.srtpAlg attrs) : KeyingStops g env attrs s .sdesContext
  | association {t : MediaSession} {setup : SetupRole} {fingerprints : List SdpFingerprint}
    {tlsID : Bytes} {e : Err} (hkeys : KeysRead env.handle attrs s t) (hdtls : t.dtlsSRTP = true)
    (hread : dtlsAttributes attrs = .ok (setup, fingerprints, tlsID))
    (h : AssociationStops g env setup fingerprints tlsID
      { t with dtlsRemoteSetup := some setup, dtlsRemoteTLSID := tlsID } e) :
    KeyingStops g env attrs s e

omit [SrtpLib] in
theorem AssociationStops.noICE {e : Err} (h : AssociationStops g env setup fingerprints tlsID s e) :
    s.iceEnabled = false ∧ e.FromOutside ∧ e ≠ .sdesContext := by
  cases h with
  | dialFirst hice => exact ⟨hice, trivial, nofun⟩
  | dialNext hice => exact ⟨hice, trivial, nofun⟩
  | listen hice => exact ⟨hice, trivial, nofun⟩

theorem KeyingStops.fromOutside {attrs : List Bytes} {e : Err} (h : KeyingStops g env attrs s e) :
    e.FromOutside := by
  cases h with
  | context => trivial
  | association _ _ _ h => exact h.noICE.2.1

theorem applyKeying_stops_iff {attrs : List Bytes} {req : Bool} {proto : Bytes} {e : Err}
    (he : e.FromOutside) :
    (applyKeying g env attrs req proto s).1 = .error e ↔ KeyingStops g env attrs s e := by
  have hnoICE (t : MediaSession) (h : t.iceEnabled = false) : applyICE attrs t = (.ok (), t) := by
    unfold applyICE
    rw [bind_of_ok (read_apply t), only_of_not _ (by simp [h])]
    rfl
  constructor
  · intro h
    rcases bind_eq_error.mp h with h | ⟨_, t, hcrypto, h⟩
    · cases applyCrypto_failsWith _ _ s e h with
      | sdesContext => exact .context (applyCrypto_contextRefused_iff.mp h)
      | _ => exact he.elim
    rcases bind_eq_error.mp h with h | ⟨_, u, hice, h⟩
    · cases applyICE_failsWith attrs t e h <;> exact he.elim
    rcases bind_eq_error.mp h with h | ⟨_, t₃, -, h⟩
    · cases hdtls : u.dtlsSRTP with
      | false =>
        rw [applyDTLS_of_not hdtls] at h
        cases h
      | true =>
        unfold applyDTLS at h
        rw [bind_of_ok (read_apply u), only_of _ hdtls] at h
        rcases bind_eq_error.mp h with h | ⟨⟨setup, fingerprints, tlsID⟩, v, hv, h⟩
        · cases dtlsAttributes_failsWith attrs e h <;> exact he.elim
        obtain ⟨hread, rfl⟩ := Prod.mk.inj hv
        dsimp only at h
        rw [bind_of_ok (update_apply _ u), negotiateDTLSAssociation_stops_iff he] at h
        have hsame : u.iceEnabled = t.iceEnabled :=
          (keeps_applyICE (f := MediaSession.iceEnabled) (fun _ _ _ _ _ => rfl) attrs).ok hice
        rw [hnoICE t (hsame.symm.trans h.noICE.1)] at hice
        obtain rfl := (Prod.mk.inj hice).2
        exact .association (applyCrypto_keysRead hcrypto) hdtls hread h
    · rcases bind_eq_error.mp h with h | ⟨_, _, -, h⟩
      · cases h
      rcases bind_eq_error.mp h with h | ⟨_, _, -, h⟩
      · cases h
      · obtain ⟨-, rfl⟩ := require_eq_error.mp h
        exact he.elim
  · intro h
    unfold applyKeying
    cases h with
    | context h => exact bind_eq_error.mpr (.inl (applyCrypto_contextRefused_iff.mpr h))
    | association hkeys hdtls hread h =>
      rw [bind_of_ok hkeys.applyCrypto, bind_of_ok (hnoICE _ (by exact h.noICE.1))]
      refine bind_eq_error.mpr (.inl ?_)
      unfold applyDTLS
      rw [bind_of_ok (read_apply _), only_of _ hdtls]
      unfold applyDTLSAttributes
      rw [hread, bind_of_ok (ofExcept_apply _ _)]
      dsimp only
      rw [bind_of_ok (update_apply _ _)]
      exact (negotiateDTLSAssociation_stops_iff he).mpr h

/-- The stream of the body can be run, and its keying stops outside. -/
def OutsideRefused (g : Globals) (env : RemoteEnv) (body : Bytes) (s : MediaSession) (e : Err) :
    Prop :=
  ∃ sections audio m, ∃ r : StreamRead, chooseAudio body = .ok (sections, audio, m) ∧
    r.Accepted g s (sections.description m) m.media ∧
    KeyingStops g env (values (sections.description m) (lit "a"))
      (s.onStream g r (sections.description m) m.media ⟨sections.media.map (·.media), audio⟩) e

theorem OutsideRefused.fromOutside {body : Bytes} {e : Err} (h : OutsideRefused g env body s e) :
    e.FromOutside := by
  obtain ⟨sections, audio, m, r, -, -, hstops⟩ := h
  exact hstops.fromOutside

theorem remoteSDP_outside_iff {body : Bytes} {e : Err} (he : e.FromOutside) :
    (MediaSession.remoteSDP g env body s).1 = .error e ↔ OutsideRefused g env body s e := by
  constructor
  · intro h
    rcases bind_eq_error.mp h with h | ⟨⟨sections, audio, m⟩, s₁, h₁, h⟩
    · cases chooseAudio_failsWith h <;> exact he.elim
    obtain ⟨hbody, rfl⟩ := Prod.mk.inj h₁
    rcases bind_eq_error.mp h with h | ⟨req, s₂, hstream, h⟩
    · have hown : FailsWith (fun e => ¬e.FromOutside) (applyStream g sections audio m) :=
        applyStream_failsWith (fun e he => by cases he <;> exact id)
          ((applyCodecs_failsWith g _ _).mono fun e he => by cases he <;> exact id)
      exact absurd he (hown s e h)
    obtain ⟨r, hr, rfl, rfl⟩ := applyStream_eq_ok.mp hstream
    exact ⟨sections, audio, m, r, hbody, hr, (applyKeying_stops_iff he).mp h⟩
  · rintro ⟨sections, audio, m, r, hbody, hr, h⟩
    unfold MediaSession.remoteSDP
    rw [hbody, bind_of_ok (ofExcept_apply _ s)]
    dsimp only
    rw [bind_of_ok (applyStream_eq_ok.mpr ⟨r, hr, rfl, rfl⟩)]
    exact (applyKeying_stops_iff he).mpr h

end Association
end Lib
end Diago.Media
