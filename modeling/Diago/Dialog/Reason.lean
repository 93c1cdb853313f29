import Diago.Dialog.FailedUpdate
import Diago.Lib.Quote
import Diago.Media.Legible
import Diago.Media.RefusedAt

/-! # The reason phrase of a refusal

A re-INVITE that is refused is told the text of the error. Most of what an error
repeats of the offer is quoted, or is a word of a line; the value of a c= line is
repeated as it is.
-/
namespace Diago.SDP
open Lib
variable [UnicodePrint]

def numErrorText : NumError → Bytes
  | .malformed => lit "invalid syntax"
  | .range => lit "value out of range"

def Err.text : Err → Bytes
  | .notTypeValue line => lit "Not a type=value line found. line=" ++ quote line
  | .mediaFields index =>
    lit "media description " ++ itoa index ++ lit ": Not enough fields in media description"
  | .moreThanOneMedia => lit "more than 1 media line"
  | .noConnection => lit "Connection information does not exists"
  | .connectionFields v => lit "sdp - not enough fields in connection information c=" ++ v
  | .notIP4 v => lit "sdp - failed to convert to IP4 c=" ++ v
  | .notIP6 v => lit "sdp - failed to convert to IP6 c=" ++ v
  | .noOrigin => lit "Connection information does not exists"
  | .originFields => lit "Not enough session fields"
  | .originNumber text reason =>
    lit "strconv.ParseUint: parsing " ++ quote text ++ lit ": " ++ numErrorText reason

omit [UnicodePrint] in
theorem unbroken_numErrorText (e : NumError) : Unbroken (numErrorText e) := by
  cases e <;> exact unbroken_lit (by decide)

theorem Err.unbroken_text_iff (e : Err) :
    Unbroken e.text ↔ ∀ v ∈ e.connectionValue, Unbroken v := by
  have hvalue {cs : List Char} {v : Bytes}
      (h : cs.all (fun c => 0x20 ≤ c.toNat && c.toNat < 0x100)) :
      Unbroken (lit (String.ofList cs) ++ v) ↔ ∀ w ∈ some v, Unbroken w := by
    simp [unbroken_lit h]
  cases e with
  | connectionFields v => exact hvalue (by decide)
  | notIP4 v => exact hvalue (by decide)
  | notIP6 v => exact hvalue (by decide)
  | notTypeValue line =>
    exact iff_of_true (unbroken_append.mpr ⟨unbroken_lit (by decide), unbroken_quote line⟩) nofun
  | mediaFields index =>
    refine iff_of_true ?_ nofun
    rw [text, unbroken_append, unbroken_append]
    exact ⟨⟨unbroken_lit (by decide), unbroken_itoa index⟩, unbroken_lit (by decide)⟩
  | originNumber s reason =>
    refine iff_of_true ?_ nofun
    rw [text, unbroken_append, unbroken_append, unbroken_append]
    exact ⟨⟨⟨unbroken_lit (by decide), unbroken_quote s⟩, unbroken_lit (by decide)⟩,
      unbroken_numErrorText reason⟩
  | _ => exact iff_of_true (unbroken_lit (by decide)) nofun

omit [UnicodePrint] in
theorem connectionInformation_addressType {lines : List Line} {ci : ConnectionInformation}
    (h : connectionInformation lines = .ok ci) : NoSpace ci.addressType := by
  unfold connectionInformation at h
  dsimp only at h
  split_ifs at h
  split at h
  · cases h
  · split at h
    · rename_i networkType addressType address rest hfields
      have hspace : NoSpace addressType := (mem_fields (by rw [hfields]; simp)).2
      split_ifs at h <;> cases h <;> exact hspace
    · cases h

end Diago.SDP

namespace Diago.Media
open Lib SDP

def Change.text : Change → Bytes
  | .roles => lit "a change of DTLS roles"
  | .remoteFingerprints => lit "a change of the peer's fingerprints"
  | .localFingerprints => lit "a change of our fingerprints"
  | .tlsID => lit "a new tls-id"
  | .localTransport => lit "a change of our transport"
  | .remoteTransport => lit "a change of the peer's transport"

section Text
variable [UnicodePrint]

/-- The text of an error of RemoteSDP up to the text of an error from outside, if one follows.
`corruptInput` is where the decoder of an SDES key stopped. -/
def Err.text (corruptInput : ℕ) : Err → Option Bytes
  | .parse e => some (lit "fail to parse received SDP: " ++ e.text)
  | .sdp e => some e.text
  | .noAudio => some (lit "no common media: no audio media description")
  | .unsupportedProto proto =>
    some (lit "no common media: unsupported media description protocol proto=" ++ proto)
  | .noCodecsFound => some (lit "no common codec: no codecs found in SDP")
  | .noSupportedCodecs => some (lit "no common codec: no supported codecs found")
  | .unusablePort port =>
    some (lit "no common media: audio media port is not usable port=" ++ itoa port)
  | .notAnIP addressType =>
    some (lit "no common media: audio connection address is not an IP addrtype=" ++ addressType)
  | .badCrypto attr => some (lit "sdp: bad crypto attribute attr=" ++ quote attr)
  | .badCryptoTag attr => some (lit "bad crypto tag in " ++ quote attr)
  | .badSDESKey =>
    some (lit "failed to decode SDES key: illegal base64 data at input byte " ++ itoa corruptInput)
  | .sdesKeyLength n => some (lit "expected 30-byte key, got " ++ itoa n)
  | .sdesContext => some (lit "CreateContext failed: ")
  | .iceNoCredentials => some (lit "sdp: ICE enabled but remote sent no ice-ufrag/ice-pwd")
  | .iceNoRTCPMux => some (lit "sdp: ICE requires rtcp-mux, remote did not offer it")
  | .iceCredentialsChanged =>
    some (lit "sdp: remote ICE credentials changed on an established pair: " ++
      lit "ice restart unsupported")
  | .iceNoPair =>
    some (lit "sdp: ICE session has no agent and no established pair to renegotiate over")
  | .badFingerprint attr => some (lit "sdp: bad fingerprint attribute attr=" ++ quote attr)
  | .noFingerprint n =>
    some (lit "sdp: dtls media has no a=fingerprint with a supported hash function " ++
      lit "fingerprints=" ++ itoa n)
  | .emptySetup => some (lit "Empty a=setup value attribute for dtls")
  | .unknownSetup v => some (lit "unknown setup value " ++ quote v)
  | .associationNeedsICERestart reason =>
    some (lit "sdp: " ++ reason.text ++ lit " asks for a new DTLS association, " ++
      lit "which needs an ICE restart: ice restart unsupported")
  | .associationOverSameTransport reason =>
    some (lit "sdp: " ++ reason.text ++
      lit " asks for a new DTLS association over the transport of the current one")
  | .associationListen _ => some (lit "media session: new DTLS association: ")
  | .dtlsConn => some (lit "failed to setup dlts ")
  | .noCommonCrypto proto =>
    some (lit "no common crypto: remote requested secure RTP, but no context is created proto=" ++
      proto)
  | _ => none

/-- The error has a text, which only a carriage return in the value of a c= line breaks. -/
def Err.BrokenByConnection (corruptInput : ℕ) (e : Err) : Prop :=
  ∃ text, e.text corruptInput = some text ∧
    (Unbroken text ↔ ∀ v ∈ e.connectionValue, carriageReturn ∉ v)

omit [UnicodePrint] in
theorem Change.unbroken_text (c : Change) : Unbroken c.text := by
  cases c <;> exact unbroken_lit (by decide)

theorem brokenByConnection_of_unbroken {e : Err} {corruptInput : ℕ} {text : Bytes}
    (htext : e.text corruptInput = some text) (hvalue : e.connectionValue = none)
    (h : Unbroken text) : e.BrokenByConnection corruptInput :=
  ⟨text, htext, iff_of_true h (by simp [hvalue])⟩

theorem brokenByConnection_of_append {e : Err} {corruptInput : ℕ} {cs : List Char} {rest : Bytes}
    (htext : e.text corruptInput = some (lit (String.ofList cs) ++ rest))
    (hvalue : e.connectionValue = none)
    (hcs : cs.all (fun c => 0x20 ≤ c.toNat && c.toNat < 0x100)) (hrest : Unbroken rest) :
    e.BrokenByConnection corruptInput :=
  brokenByConnection_of_unbroken htext hvalue (unbroken_append.mpr ⟨unbroken_lit hcs, hrest⟩)

theorem KeyingErr.brokenByConnection {proto : Bytes} {e : Err} (h : KeyingErr proto e)
    (hproto : NoSpace proto) (corruptInput : ℕ) : e.BrokenByConnection corruptInput := by
  cases h with
  | crypto h =>
    cases h with
    | badCrypto v => exact brokenByConnection_of_append rfl rfl (by decide) (unbroken_quote v)
    | badCryptoTag v => exact brokenByConnection_of_append rfl rfl (by decide) (unbroken_quote v)
    | badSDESKey => exact brokenByConnection_of_append rfl rfl (by decide) (unbroken_itoa _)
    | sdesKeyLength n => exact brokenByConnection_of_append rfl rfl (by decide) (unbroken_itoa n)
    | sdesContext => exact brokenByConnection_of_unbroken rfl rfl (unbroken_lit (by decide))
  | ice h =>
    cases h with
    | credentialsChanged =>
      exact brokenByConnection_of_append rfl rfl (by decide) (unbroken_lit (by decide))
    | _ => exact brokenByConnection_of_unbroken rfl rfl (unbroken_lit (by decide))
  | dtls h =>
    cases h with
    | badFingerprint v => exact brokenByConnection_of_append rfl rfl (by decide) (unbroken_quote v)
    | unknownSetup v => exact brokenByConnection_of_append rfl rfl (by decide) (unbroken_quote v)
    | emptySetup => exact brokenByConnection_of_unbroken rfl rfl (unbroken_lit (by decide))
    | noFingerprint n =>
      refine brokenByConnection_of_unbroken rfl rfl ?_
      rw [unbroken_append, unbroken_append]
      exact ⟨⟨unbroken_lit (by decide), unbroken_lit (by decide)⟩, unbroken_itoa n⟩
  | noCommonCrypto => exact brokenByConnection_of_append rfl rfl (by decide) hproto.unbroken
  | needsICERestart c =>
    refine brokenByConnection_of_unbroken rfl rfl ?_
    rw [unbroken_append, unbroken_append, unbroken_append]
    exact ⟨⟨⟨unbroken_lit (by decide), c.unbroken_text⟩, unbroken_lit (by decide)⟩,
      unbroken_lit (by decide)⟩
  | overSameTransport c =>
    refine brokenByConnection_of_unbroken rfl rfl ?_
    rw [unbroken_append, unbroken_append]
    exact ⟨⟨unbroken_lit (by decide), c.unbroken_text⟩, unbroken_lit (by decide)⟩
  | _ => exact brokenByConnection_of_unbroken rfl rfl (unbroken_lit (by decide))

theorem brokenByConnection_sdp {e : SDP.Err} (h : ∀ v ∈ e.connectionValue, OneLine v)
    (corruptInput : ℕ) : (Err.sdp e).BrokenByConnection corruptInput := by
  refine ⟨e.text, rfl, e.unbroken_text_iff.trans ?_⟩
  exact forall₂_congr fun v hv => (h v hv).unbroken_iff

theorem StreamErr.brokenByConnection {lines : List Line} {md : MediaDescription} {e : Err}
    (h : StreamErr lines md e) (hproto : NoSpace md.proto)
    (hlines : ∀ v ∈ values lines (lit "c"), OneLine v) (corruptInput : ℕ) :
    e.BrokenByConnection corruptInput := by
  cases h with
  | origin he =>
    have hnone := sessionInformation_connectionValue he
    exact brokenByConnection_sdp (by simp [hnone]) corruptInput
  | connection he =>
    refine brokenByConnection_sdp (fun v hv => ?_) corruptInput
    have hrefused := connectionInformation_refused_iff.mp ⟨_, he, hv⟩
    exact hlines v (List.mem_of_getLast? hrefused.last)
  | unsupportedProto =>
    exact brokenByConnection_of_append rfl rfl (by decide) hproto.unbroken
  | unusablePort =>
    exact brokenByConnection_of_append rfl rfl (by decide) (unbroken_itoa _)
  | notAnIP hci =>
    have hword := (connectionInformation_addressType hci).unbroken
    exact brokenByConnection_of_append rfl rfl (by decide) hword

variable [UnicodeCase]

omit [UnicodeCase] in
theorem ChoiceErr.brokenByConnection {body : Bytes} {e : Err} (h : ChoiceErr body e)
    (corruptInput : ℕ) : e.BrokenByConnection corruptInput := by
  cases h with
  | @parse e he =>
    have hnone := unmarshalSections_connectionValue he
    have htext : Unbroken e.text := e.unbroken_text_iff.mpr (by simp [hnone])
    exact brokenByConnection_of_append rfl hnone (by decide) htext
  | noAudio => exact brokenByConnection_of_unbroken rfl rfl (unbroken_lit (by decide))

theorem RemoteErr.brokenByConnection {body : Bytes} {e : Err} (h : RemoteErr body e)
    (hrange : e ≠ .codecsOutOfRange) (corruptInput : ℕ) : e.BrokenByConnection corruptInput := by
  have hword {sections : Sections} {audio : ℕ} {m : MediaSection}
      (hbody : chooseAudio body = .ok (sections, audio, m)) :
      NoSpace m.media.proto ∧ ∀ v ∈ values (sections.description m) (lit "c"), OneLine v := by
    obtain ⟨hread, -, hm⟩ := chooseAudio_eq_ok.mp hbody
    have hmem := List.mem_of_getElem? hm
    exact ⟨(words_of_mem hread hmem).proto.2, oneLine_values hread hmem _⟩
  cases h with
  | choice he => exact (chooseAudio_failsWith he).brokenByConnection corruptInput
  | stream hbody he =>
    obtain ⟨hproto, hlines⟩ := hword hbody
    exact he.brokenByConnection hproto hlines corruptInput
  | codecs he =>
    cases he with
    | outOfRange => exact absurd rfl hrange
    | noneFound => exact brokenByConnection_of_unbroken rfl rfl (unbroken_lit (by decide))
    | noneSupported => exact brokenByConnection_of_unbroken rfl rfl (unbroken_lit (by decide))
  | keying hbody he => exact he.brokenByConnection (hword hbody).1 corruptInput

end Text

end Diago.Media

namespace Diago.Dialog.MediaUpdate
open Lib Media

/-- The texts of the errors from outside: the sockets', and those of the SRTP and the DTLS
library. -/
structure OuterTexts where
  corruptInput : ℕ
  createContext : Bytes
  /-- The role of the connection and why it failed. -/
  dtlsConn : Bytes
  listen : Bytes
  stopMonitor : Bytes
  startMonitor : Bytes
  /-- Closing the RTP session whose monitor did not start may fail too. -/
  closeRTPSession : Option Bytes
  carryDeadlines : List Bytes
  closeReplaced : List Bytes

/-- The text of errors.Join, one error a line. -/
def joinErrors (texts : List Bytes) : Bytes := [lineFeed].intercalate texts

/-- The errors from outside that an error ends with. -/
def UpdateErr.outer (texts : OuterTexts) : UpdateErr → List Bytes
  | .monitorClose => [texts.stopMonitor]
  | .noRemoteAddr =>
    lit "raddr of RTP is not present. Is RemoteSDP called. Monitor RTP Session failed" ::
      texts.closeRTPSession.toList
  | .startMonitor => texts.startMonitor :: texts.closeRTPSession.toList
  | .carryDeadlines => texts.carryDeadlines
  | .closeReplaced => texts.closeReplaced
  | .remoteSDP .sdesContext => [texts.createContext]
  | .remoteSDP (.associationListen _) => [texts.listen]
  | .remoteSDP .dtlsConn => [texts.dtlsConn]
  | _ => []

def UpdateErr.connectionValue : UpdateErr → Option Bytes
  | .remoteSDP e => e.connectionValue
  | _ => none

/-- Neither what the error repeats of the body nor an error from outside breaks the line. -/
def UpdateErr.Unbreaking (texts : OuterTexts) (e : UpdateErr) : Prop :=
  (∀ v ∈ e.connectionValue, carriageReturn ∉ v) ∧ Unbroken (joinErrors (e.outer texts))

/-- The text of an error before that of the errors from outside; none for an error that comes
after the answer. -/
def UpdateErr.head [UnicodePrint] (texts : OuterTexts) : UpdateErr → Option Bytes
  | .mediaClosed => some (lit "dialog media closed")
  | .noRTPSession => some (lit "RTP Session is nil while trying to update it")
  | .monitorClose | .noRemoteAddr | .startMonitor => some []
  | .carryDeadlines => some (lit "carrying RTP deadlines to the new media session: ")
  | .closeReplaced => some (lit "closing replaced media session: ")
  | .noMediaSession => some (lit "no media session present")
  | .remoteSDP e =>
    (e.text texts.corruptInput).map (lit "sdp update media remote SDP applying failed: " ++ ·)
  | .finalize _ | .closeFork => none

def UpdateErr.text [UnicodePrint] (texts : OuterTexts) (e : UpdateErr) : Option Bytes :=
  (e.head texts).map (· ++ joinErrors (e.outer texts))

/-- The error whose text the response carries. The other refusals have a fixed phrase. -/
def Answer.stated : Answer → Option UpdateErr
  | .refused status why => if status = 491 ∨ status = 488 then none else why
  | _ => none

theorem UpdateErr.unbreaking_of_none {texts : OuterTexts} {e : UpdateErr}
    (hvalue : e.connectionValue = none) (houter : e.outer texts = []) : e.Unbreaking texts := by
  rw [Unbreaking, hvalue, houter]
  exact ⟨nofun, unbroken_nil⟩

theorem Answer.unbreaking_of_none {answer : Answer} (h : answer.stated = none)
    (texts : OuterTexts) : ∀ e ∈ answer.stated, e.Unbreaking texts := by
  simp [h]

def Answer.reason [UnicodePrint] (texts : OuterTexts) : Answer → Option Bytes
  | .refused status why =>
    if status = 491 then some (lit "Request Pending")
    else if status = 488 then some (lit "Not Acceptable Here")
    else
      match why with
      | none => some (lit "Request Terminated")
      | some e => (e.text texts).map (lit "Request Terminated - " ++ ·)
  | .accepted _ => some (lit "OK")
  | .panicked => none

def UpdateErr.BeforeAnswer [UnicodeCase] (body : Bytes) : UpdateErr → Prop
  | .remoteSDP e => RemoteErr body e ∧ e ≠ .codecsOutOfRange
  | .finalize _ | .closeFork => False
  | _ => True

theorem replaceRTPSession_beforeAnswer [UnicodeCase] {env : SocketEnv}
    {msess : Object MediaSession} {d : DialogMedia} {e : UpdateErr}
    (h : (replaceRTPSession env msess d).1 = .failed e) (body : Bytes) : e.BeforeAnswer body := by
  obtain ⟨-, rfl⟩ | ⟨-, -, rfl⟩ | ⟨-, old, -, -, hswap⟩ := replaceRTPSession_failed_iff.mp h
  · trivial
  · trivial
  · cases e <;> trivial

section Lib
variable [UnicodeCase] [SrtpLib] {texts : OuterTexts} {env : Env} {body : Bytes}
  {d : DialogMedia} {cur : Object MediaSession} {t : MediaSession}

theorem sdpReInvite_beforeAnswer {e : UpdateErr}
    (h : (sdpReInvite env body d).1 = .failed e) : e.BeforeAnswer body := by
  unfold sdpReInvite at h
  split at h
  · cases h
    trivial
  · rename_i cur _
    cases happly : applyRemote env body cur.val.fork with
    | done t => rw [happly] at h; cases h
    | panicked => rw [happly] at h; cases h
    | failed e' =>
      rw [happly] at h
      cases h
      unfold applyRemote at happly
      split at happly
      · cases happly
      · cases happly
      · rename_i e' t hne herror
        cases happly
        refine ⟨remoteSDP_failsWith env.globals env.remote body _ e' (by rw [herror]), ?_⟩
        rintro rfl
        exact hne rfl

omit [UnicodeCase] [SrtpLib] in
theorem refusal_stated {e e' : UpdateErr} (h : (refusal e).stated = some e') : e' = e := by
  unfold refusal at h
  split at h
  · cases h
  · cases h
  · exact (Option.some.inj h).symm

theorem handleMediaUpdate_beforeAnswer {cseq : UInt32} {e : UpdateErr}
    (h : (handleMediaUpdate env cseq body d).1.stated = some e) :
    e.BeforeAnswer body := by
  unfold handleMediaUpdate at h
  split_ifs at h
  · cases h
  · cases h
  · unfold requestOffer at h
    split at h
    · cases h
      trivial
    · cases h
  · have hanswers := applyOffer_answers env body d
    generalize (applyOffer env body d).1 = answer at hanswers h
    cases hanswers with
    | rejected hfailed =>
      obtain rfl := refusal_stated h
      exact sdpReInvite_beforeAnswer hfailed
    | unreplaced hfailed =>
      obtain rfl := refusal_stated h
      exact replaceRTPSession_beforeAnswer hfailed body
    | accepted after => cases h
    | panicked => cases h

omit [SrtpLib] in
theorem UpdateErr.BeforeAnswer.text [UnicodePrint] {e : UpdateErr} (h : e.BeforeAnswer body)
    (texts : OuterTexts) : ∃ text, e.text texts = some text ∧
      (Unbroken text ↔ e.Unbreaking texts) := by
  obtain ⟨head, hhead, hbroken⟩ : ∃ head, e.head texts = some head ∧
      (Unbroken head ↔ ∀ v ∈ e.connectionValue, carriageReturn ∉ v) := by
    cases e with
    | remoteSDP e =>
      obtain ⟨text, htext, hbroken⟩ := h.1.brokenByConnection h.2 texts.corruptInput
      refine ⟨_, by rw [head, htext, Option.map_some], ?_⟩
      have hown : Unbroken (lit "sdp update media remote SDP applying failed: ") :=
        unbroken_lit (by decide)
      exact (unbroken_append.trans (and_iff_right hown)).trans hbroken
    | finalize e => cases h
    | closeFork => cases h
    | monitorClose => exact ⟨_, rfl, iff_of_true unbroken_nil nofun⟩
    | noRemoteAddr => exact ⟨_, rfl, iff_of_true unbroken_nil nofun⟩
    | startMonitor => exact ⟨_, rfl, iff_of_true unbroken_nil nofun⟩
    | _ => exact ⟨_, rfl, iff_of_true (unbroken_lit (by decide)) nofun⟩
  refine ⟨head ++ joinErrors (e.outer texts), by rw [UpdateErr.text, hhead, Option.map_some], ?_⟩
  rw [unbroken_append, hbroken]
  rfl

omit [SrtpLib] in
theorem Answer.reason_iff [UnicodePrint] {answer : Answer}
    (h : ∀ e ∈ answer.stated, e.BeforeAnswer body) (texts : OuterTexts) :
    (answer.reason texts = none → answer = .panicked) ∧
      ((∀ phrase ∈ answer.reason texts, Unbroken phrase) ↔
        ∀ e ∈ answer.stated, e.Unbreaking texts) := by
  cases answer with
  | accepted after => simp +decide [reason, stated]
  | panicked => simp [reason, stated]
  | refused status why =>
    by_cases hpending : status = 491
    · simp +decide [reason, stated, hpending]
    by_cases hrestart : status = 488
    · simp +decide [reason, stated, hrestart]
    cases why with
    | none => simp +decide [reason, stated, hpending, hrestart]
    | some e =>
      have hstated : (Answer.refused status (some e)).stated = some e := by
        simp [stated, hpending, hrestart]
      obtain ⟨text, htext, hbroken⟩ := (h e hstated).text texts
      have hreason : (Answer.refused status (some e)).reason texts =
          some (lit "Request Terminated - " ++ text) := by
        simp [reason, hpending, hrestart, htext]
      have hhead : Unbroken (lit "Request Terminated - ") := unbroken_lit (by decide)
      simp only [hreason, hstated, Option.mem_some_iff, forall_eq', unbroken_append, hbroken,
        hhead, true_and, and_true, reduceCtorEq, false_implies]

/-- A re-INVITE whose offer is looked at. -/
structure OfferTaken (body : Bytes) (d : DialogMedia) (cur : Object MediaSession) : Prop where
  session : d.mediaSession = some cur
  opened : d.closed = false
  idle : d.mediaUpdating = false
  body : body ≠ []

omit [UnicodeCase] [SrtpLib] in
theorem OfferTaken.unique {cur' : Object MediaSession} (h : OfferTaken body d cur)
    (h' : OfferTaken body d cur') : cur = cur' :=
  Option.some.inj (h.session.symm.trans h'.session)

/-- What breaks the reason phrase: a carriage return in the c= line the offer is refused for, or the
text of an error from outside, of the keying of the fork or of its installation. -/
inductive BreaksReason (texts : OuterTexts) (env : Env) (body : Bytes) (d : DialogMedia) : Prop
  | connection {cur : Object MediaSession} {v : Bytes} (hoffer : OfferTaken body d cur)
    (hrefused : ConnectionRefused env.globals body (offerFork cur) v)
    (hbreaks : carriageReturn ∈ v) : BreaksReason texts env body d
  | keying {cur : Object MediaSession} {e : Err} (hoffer : OfferTaken body d cur)
    (hrefused : OutsideRefused env.globals env.remote body (offerFork cur) e)
    (hbreaks : ¬Unbroken (joinErrors ((UpdateErr.remoteSDP e).outer texts))) :
    BreaksReason texts env body d
  | installation {cur : Object MediaSession} {t : MediaSession} {e : UpdateErr}
    (hoffer : OfferTaken body d cur)
    (happlied : MediaSession.remoteSDP env.globals env.remote body (offerFork cur) = (.ok (), t))
    (hpending : t.finalizePending = false)
    (hfails : ReplaceFailsWith env.toSocketEnv ⟨d.fresh, t⟩ d.expectOffer e)
    (hbreaks : ¬Unbroken (joinErrors (e.outer texts))) : BreaksReason texts env body d

omit [UnicodeCase] [SrtpLib] in
theorem refusal_unbreaking_iff (texts : OuterTexts) (e : UpdateErr) :
    (∀ e' ∈ (refusal e).stated, e'.Unbreaking texts) ↔ e.Unbreaking texts := by
  unfold refusal
  split
  · exact iff_of_true (Answer.unbreaking_of_none rfl texts) (UpdateErr.unbreaking_of_none rfl rfl)
  · exact iff_of_true (Answer.unbreaking_of_none rfl texts) (UpdateErr.unbreaking_of_none rfl rfl)
  · simp [Answer.stated]

theorem remoteSDP_unbreaking_iff {e : Err} (hoffer : OfferTaken body d cur)
    (herror : (MediaSession.remoteSDP env.globals env.remote body (offerFork cur)).1 = .error e) :
    (UpdateErr.remoteSDP e).Unbreaking texts ↔ ¬BreaksReason texts env body d := by
  constructor
  · rintro ⟨hvalue, houter⟩ hbreaks
    cases hbreaks with
    | connection hoffer' hrefused hbreaks =>
      obtain rfl := hoffer.unique hoffer'
      obtain ⟨e', herror', hv⟩ := (remoteSDP_connectionValue_iff env.remote).mpr hrefused
      obtain rfl := Except.error.inj (herror.symm.trans herror')
      exact hvalue _ hv hbreaks
    | keying hoffer' hrefused hbreaks =>
      obtain rfl := hoffer.unique hoffer'
      have herror' := (remoteSDP_outside_iff hrefused.fromOutside).mpr hrefused
      obtain rfl := Except.error.inj (herror.symm.trans herror')
      exact hbreaks houter
    | installation hoffer' happlied =>
      obtain rfl := hoffer.unique hoffer'
      rw [happlied] at herror
      cases herror
  · intro hkeeps
    refine ⟨fun v hv hbreaks => hkeeps ?_, ?_⟩
    · have hrefused := (remoteSDP_connectionValue_iff env.remote).mp ⟨e, herror, hv⟩
      exact .connection hoffer hrefused hbreaks
    · by_contra hbreaks
      have houtside : e.FromOutside := by
        cases e <;> first | trivial | exact absurd unbroken_nil hbreaks
      exact hkeeps (.keying hoffer ((remoteSDP_outside_iff houtside).mp herror) hbreaks)

theorem BreaksReason.of_applied (h : BreaksReason texts env body d)
    (hoffer : OfferTaken body d cur)
    (happlied : MediaSession.remoteSDP env.globals env.remote body (offerFork cur) = (.ok (), t)) :
    t.finalizePending = false ∧ ∃ e,
      (replaceRTPSession env.toSocketEnv ⟨d.fresh, t⟩ d.expectOffer).1 = .failed e ∧
        ¬Unbroken (joinErrors (e.outer texts)) := by
  have hno {e : Err}
      (h : (MediaSession.remoteSDP env.globals env.remote body (offerFork cur)).1 = .error e) :
      False := by
    rw [happlied] at h
    cases h
  cases h with
  | connection hoffer' hrefused =>
    obtain rfl := hoffer.unique hoffer'
    obtain ⟨e, herror, -⟩ := (remoteSDP_connectionValue_iff env.remote).mpr hrefused
    exact (hno herror).elim
  | keying hoffer' hrefused =>
    obtain rfl := hoffer.unique hoffer'
    exact (hno ((remoteSDP_outside_iff hrefused.fromOutside).mpr hrefused)).elim
  | installation hoffer' happlied' hpending hfails hbreaks =>
    obtain rfl := hoffer.unique hoffer'
    obtain rfl := (Prod.mk.inj (happlied.symm.trans happlied')).2
    exact ⟨hpending, _, replaceRTPSession_failed_iff.mpr (.inr (.inr hfails)), hbreaks⟩

theorem replaceRTPSession_unbreaking_iff {e : UpdateErr} (hoffer : OfferTaken body d cur)
    (happlied : MediaSession.remoteSDP env.globals env.remote body (offerFork cur) = (.ok (), t))
    (hpending : t.finalizePending = false)
    (hfailed : (replaceRTPSession env.toSocketEnv ⟨d.fresh, t⟩ d.expectOffer).1 = .failed e) :
    e.Unbreaking texts ↔ ¬BreaksReason texts env body d := by
  constructor
  · rintro ⟨-, houter⟩ h
    obtain ⟨-, e', hfailed', hbreaks⟩ := h.of_applied hoffer happlied
    obtain rfl := Result.failed.inj (hfailed.symm.trans hfailed')
    exact hbreaks houter
  · intro hkeeps
    obtain ⟨-, rfl⟩ | ⟨-, -, rfl⟩ | hfails := replaceRTPSession_failed_iff.mp hfailed
    · exact UpdateErr.unbreaking_of_none rfl rfl
    · exact UpdateErr.unbreaking_of_none rfl rfl
    · refine ⟨?_, ?_⟩
      · obtain ⟨-, old, -, -, hswap⟩ := hfails
        cases e with
        | remoteSDP e => exact hswap.elim
        | _ => exact nofun
      · by_contra hbreaks
        exact hkeeps (.installation hoffer happlied hpending hfails hbreaks)

theorem answerNewAssociation_stated (env : Env) (msess : Object MediaSession) (d : DialogMedia) :
    (answerNewAssociation env msess d).1.stated = none := by
  unfold answerNewAssociation
  dsimp only
  split_ifs
  · rfl
  · rfl
  · split <;> rfl

theorem BreaksReason.offerTaken (h : BreaksReason texts env body d) :
    ∃ cur, OfferTaken body d cur := by
  cases h with
  | connection hoffer => exact ⟨_, hoffer⟩
  | keying hoffer => exact ⟨_, hoffer⟩
  | installation hoffer => exact ⟨_, hoffer⟩

theorem applyOffer_unbreaking_iff (texts : OuterTexts) (hoffer : OfferTaken body d cur) :
    (∀ e ∈ (applyOffer env body d).1.stated, e.Unbreaking texts) ↔
      ¬BreaksReason texts env body d := by
  unfold applyOffer
  rw [sdpReInvite_some hoffer.session]
  rcases hrun : MediaSession.remoteSDP env.globals env.remote body (offerFork cur) with ⟨e | u, t⟩
  · have herror : (MediaSession.remoteSDP env.globals env.remote body (offerFork cur)).1 =
        .error e := by rw [hrun]
    rw [← remoteSDP_unbreaking_iff hoffer herror]
    by_cases hrange : e = .codecsOutOfRange
    · subst hrange
      rw [show applyRemote env body (offerFork cur) = .panicked by rw [applyRemote, hrun]]
      exact iff_of_true (Answer.unbreaking_of_none rfl texts)
        (UpdateErr.unbreaking_of_none rfl rfl)
    · have happly : applyRemote env body (offerFork cur) = .failed (.remoteSDP e) := by
        rw [applyRemote, hrun]
        split
        · rename_i hok
          cases hok
        · rename_i hrange'
          cases hrange'
          exact absurd rfl hrange
        · rename_i hsame
          cases hsame
          rfl
      rw [happly]
      exact refusal_unbreaking_iff texts _
  · rw [show applyRemote env body (offerFork cur) = .done t by rw [applyRemote, hrun]]
    dsimp only
    cases hpending : t.finalizePending with
    | true =>
      rw [if_pos rfl]
      have hstated := answerNewAssociation_stated env ⟨d.fresh, t⟩ d.expectOffer
      refine iff_of_true (Answer.unbreaking_of_none hstated texts) fun h => ?_
      exact absurd (hpending.symm.trans (h.of_applied hoffer hrun).1) nofun
    | false =>
      rw [if_neg (by simp)]
      rcases hreplace : replaceRTPSession env.toSocketEnv ⟨d.fresh, t⟩ d.expectOffer with
        ⟨_ | e | _, d'⟩
      · refine iff_of_true (Answer.unbreaking_of_none rfl texts) fun h => ?_
        obtain ⟨-, e, hfailed, -⟩ := h.of_applied hoffer hrun
        rw [hreplace] at hfailed
        cases hfailed
      · refine (refusal_unbreaking_iff texts e).trans ?_
        exact replaceRTPSession_unbreaking_iff hoffer hrun hpending (by rw [hreplace])
      · refine iff_of_true (Answer.unbreaking_of_none rfl texts) fun h => ?_
        obtain ⟨-, e, hfailed, -⟩ := h.of_applied hoffer hrun
        rw [hreplace] at hfailed
        cases hfailed

theorem handleMediaUpdate_unbreaking_iff (texts : OuterTexts) (env : Env) (cseq : UInt32)
    (body : Bytes) (d : DialogMedia) :
    (∀ e ∈ (handleMediaUpdate env cseq body d).1.stated, e.Unbreaking texts) ↔
      ¬BreaksReason texts env body d := by
  by_cases htaken : ∃ cur, OfferTaken body d cur
  · obtain ⟨cur, hoffer⟩ := htaken
    have happly : handleMediaUpdate env cseq body d = applyOffer env body d := by
      simp [handleMediaUpdate, hoffer.opened, hoffer.idle, hoffer.body]
    rw [happly]
    exact applyOffer_unbreaking_iff texts hoffer
  · refine iff_of_true ?_ fun h => htaken h.offerTaken
    unfold handleMediaUpdate
    split_ifs with hclosed hupdating hbody
    · exact Answer.unbreaking_of_none rfl texts
    · exact Answer.unbreaking_of_none rfl texts
    · unfold requestOffer
      split
      · intro e he
        obtain rfl := Option.some.inj he
        exact UpdateErr.unbreaking_of_none rfl rfl
      · exact Answer.unbreaking_of_none rfl texts
    · cases hcur : d.mediaSession with
      | none =>
        rw [applyOffer, sdpReInvite_none hcur]
        exact (refusal_unbreaking_iff texts .noMediaSession).mpr
          (UpdateErr.unbreaking_of_none rfl rfl)
      | some cur =>
        exact absurd ⟨cur, hcur, by simpa using hclosed, by simpa using hupdating, hbody⟩ htaken

/-- Every answer has a reason phrase, and it has no line break exactly when neither the c= line the
offer is refused for nor an error from outside has one. -/
theorem reason_unbroken_iff [UnicodePrint] (texts : OuterTexts) (env : Env) (cseq : UInt32)
    (body : Bytes) (d : DialogMedia) :
    ((handleMediaUpdate env cseq body d).1.reason texts = none →
        (handleMediaUpdate env cseq body d).1 = .panicked) ∧
      ((∀ phrase ∈ (handleMediaUpdate env cseq body d).1.reason texts, Unbroken phrase) ↔
        ¬BreaksReason texts env body d) := by
  obtain ⟨hphrase, hiff⟩ :=
    Answer.reason_iff (fun _ he => handleMediaUpdate_beforeAnswer he) texts
  exact ⟨hphrase, hiff.trans (handleMediaUpdate_unbreaking_iff texts env cseq body d)⟩

end Lib

section Sample

attribute [local instance] asciiOnly documentedSrtp
local instance reasonPrint : UnicodePrint := ⟨fun _ => false⟩

def plainTexts : OuterTexts :=
  { corruptInput := 0
    createContext := lit "context"
    dtlsConn := lit "client conn"
    listen := lit "bind"
    stopMonitor := lit "deadline"
    startMonitor := lit "deadline"
    closeRTPSession := none
    carryDeadlines := [lit "deadline"]
    closeReplaced := [lit "close"] }

def breakingOffer : Bytes :=
  SDP.marshalLines
    [⟨lit "v", lit "0"⟩, ⟨lit "o", lit "- 1 1 IN IP4 10.0.0.2"⟩, ⟨lit "s", lit "-"⟩,
      ⟨lit "c", lit "IN IP4 bad" ++ carriageReturn :: lit "X: y"⟩, ⟨lit "t", lit "0 0"⟩,
      ⟨lit "m", lit "audio 4002 RTP/AVP 0"⟩]

/-- The response to it carries the carriage return and what follows. -/
theorem connection_value_breaks_reason :
    (handleMediaUpdate workingEnv 2 breakingOffer placedCall).1.reason plainTexts =
        some (lit "Request Terminated - sdp update media remote SDP applying failed: " ++
          lit "sdp - failed to convert to IP4 c=IN IP4 bad" ++ carriageReturn :: lit "X: y") ∧
      ¬ ∀ phrase ∈ (handleMediaUpdate workingEnv 2 breakingOffer placedCall).1.reason plainTexts,
        Unbroken phrase := by
  have hreason : (handleMediaUpdate workingEnv 2 breakingOffer placedCall).1.reason plainTexts =
      some (lit "Request Terminated - sdp update media remote SDP applying failed: " ++
        lit "sdp - failed to convert to IP4 c=IN IP4 bad" ++ carriageReturn :: lit "X: y") := by
    decide +kernel
  refine ⟨hreason, fun h => ?_⟩
  exact (h _ hreason carriageReturn (by simp)).1 rfl

end Sample

end Diago.Dialog.MediaUpdate
