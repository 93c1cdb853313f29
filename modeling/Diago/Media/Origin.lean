import Diago.Media.Answer

/-! # The o= line along a chain of sessions

The id and the version of the o= line are drawn by the first description, and taken
over from the peer by every remote description whose id is another one.
-/
namespace Diago.Media
open Lib SDP Op

/-- The body begins with the o= line of this id and version. -/
def CarriesOrigin (body : Bytes) (id version : ℕ) : Prop :=
  ∃ rest, body = lit "v=0\r\no=- " ++ formatNat id ++ space :: (formatNat version ++ space :: rest)

/-- The calls along a chain. A fork that is installed takes the place of its session. -/
inductive ChainCall
  | localSDP (env : LocalEnv)
  | remoteSDP (isAnswer : Bool) (env : RemoteEnv) (body : Bytes)
  | fork

/-- The session at the end of the chain; `described` once a description was generated. -/
structure Chain where
  session : MediaSession
  described : Bool := false

section Lib
variable [UnicodeCase] [SrtpLib]

def stepChain (g : Globals) (c : Chain) : ChainCall → Chain
  | .localSDP env => ⟨(c.session.localSDP g env).2, c.described || c.session.sdp = []⟩
  | .remoteSDP isAnswer env body =>
    ⟨(MediaSession.remoteSDP g env body { c.session with remoteSDPIsAnswer := isAnswer }).2,
      c.described⟩
  | .fork => ⟨c.session.fork, c.described⟩

/-- The body the call generates; a static one is not generated. -/
def generated (g : Globals) (c : Chain) : ChainCall → Option Bytes
  | .localSDP env => if c.session.sdp = [] then some (c.session.localSDP g env).1 else none
  | _ => none

def bodies (g : Globals) (c : Chain) : List ChainCall → List Bytes
  | [] => []
  | call :: calls => (generated g c call).toList ++ bodies g (stepChain g c call) calls

/-- The first description draws an id that is not zero, no later one wraps the version, and once
there is a description every remote one has the id of the session. -/
def KeepsOrigin (c : Chain) : ChainCall → Prop
  | .localSDP env => c.session.sdp = [] →
    if c.described then c.session.sessionVersion.toNat + 1 < 2 ^ 64
    else c.session.sessionID = 0 → env.ntp >>> 32 ≠ 0
  | .remoteSDP _ _ body => c.described = true → ∀ sections audio m si,
    chooseAudio body = .ok (sections, audio, m) →
      sessionInformation (sections.description m) = .ok si → si.sessionID = c.session.sessionID
  | .fork => True

end Lib

def MediaSession.origin (s : MediaSession) : UInt64 × UInt64 := (s.sessionID, s.sessionVersion)

section Lib
variable [SrtpLib]

theorem keeps_origin_negotiate (armed : Armed) (h : HandshakeEnv) :
    Keeps MediaSession.origin (negotiate armed h) :=
  keeps_negotiate (fun _ _ _ _ _ _ => rfl) (fun _ _ _ => rfl) (fun _ => rfl) h

theorem origin_close (s : MediaSession) (h : HandshakeEnv) : (s.close h).origin = s.origin := by
  have hawait (run : FinalizeRun) : (s.awaitRun run h).2.origin = s.origin := by
    unfold MediaSession.awaitRun
    split
    · rfl
    · exact keeps_origin_negotiate run.armed h s
  unfold MediaSession.close
  cases s.finalizeRun with
  | none =>
    dsimp only
    split <;> rfl
  | some run =>
    dsimp only
    split
    all_goals exact hawait run

theorem keeps_origin_applyCrypto (handle : ℕ) (attrs : List Bytes) :
    Keeps MediaSession.origin (applyCrypto handle attrs) := by
  induction attrs with
  | nil => exact keeps_pure _ _
  | cons v attrs ih =>
    unfold applyCrypto
    split
    · exact ih
    · exact keeps_fail _ _
    · refine Keeps.bind (fun _ => rfl) fun _ => (keeps_require MediaSession.origin _ _).bind fun _ =>
        (keeps_read MediaSession.origin).bind fun s => ?_
      split
      · exact ih
      · exact (keeps_ofExcept MediaSession.origin _).bind fun _ => fun _ => rfl

variable [UnicodeCase]

theorem keeps_origin_applyDTLS (g : Globals) (env : RemoteEnv) (attrs : List Bytes) :
    Keeps MediaSession.origin (applyDTLS g env attrs) := by
  have harm (fingerprints : List SdpFingerprint) (tlsID : Bytes) :
      Keeps MediaSession.origin (armDTLSHandshake env fingerprints tlsID) :=
    keeps_armDTLSHandshake (fun _ _ => rfl) env fingerprints tlsID
  have hrebound (rebound : Bool) (fingerprints : List SdpFingerprint) (tlsID : Bytes) :
      Keeps MediaSession.origin (armRebound env rebound fingerprints tlsID) := by
    intro s
    have hs := harm fingerprints tlsID s
    unfold armRebound
    split
    · rename_i heq
      rw [heq] at hs
      exact hs
    · rename_i heq
      rw [heq] at hs
      dsimp only
      split
      · rw [origin_close]
        exact hs
      · exact hs
  have hnegotiate (setup : SetupRole) (fingerprints : List SdpFingerprint) (tlsID : Bytes) :
      Keeps MediaSession.origin (negotiateDTLSAssociation g env setup fingerprints tlsID) := by
    unfold negotiateDTLSAssociation
    refine (keeps_read MediaSession.origin).bind fun s => ?_
    split
    · exact Keeps.bind (fun _ => rfl) fun _ => harm _ _
    · split
      · exact keeps_pure _ _
      · refine (keeps_require MediaSession.origin _ _).bind fun _ =>
          (Keeps.only ?_ _).bind fun _ => Keeps.bind (fun _ => rfl) fun _ => hrebound _ _ _
        exact (keeps_require MediaSession.origin _ _).bind fun _ =>
          keeps_rebindForAssociation (fun _ _ => rfl) g env
  unfold applyDTLS applyDTLSAttributes
  refine (keeps_read MediaSession.origin).bind fun s => Keeps.only ?_ _
  exact (keeps_ofExcept MediaSession.origin _).bind fun ⟨setup, fingerprints, tlsID⟩ =>
    Keeps.bind (fun _ => rfl) fun _ => hnegotiate setup fingerprints tlsID

theorem origin_remoteSDP (g : Globals) (env : RemoteEnv) (body : Bytes) (s : MediaSession)
    (hsame : ∀ sections audio m si, chooseAudio body = .ok (sections, audio, m) →
      sessionInformation (sections.description m) = .ok si → si.sessionID = s.sessionID) :
    (MediaSession.remoteSDP g env body s).2.origin = s.origin := by
  cases hbody : chooseAudio body with
  | error e =>
    unfold MediaSession.remoteSDP
    rw [hbody]
    rfl
  | ok x =>
    obtain ⟨sections, audio, m⟩ := x
    have horigin : (applyOrigin (sections.description m) s).2.origin = s.origin := by
      unfold applyOrigin
      cases hsi : sessionInformation (sections.description m) with
      | error e => rfl
      | ok si =>
        have hid := hsame sections audio m si hbody hsi
        simp [MediaSession.adoptOrigin, MediaSession.origin, hid]
    -- past the o= line no stage touches the origin
    have hstream : (applyStream g sections audio m s).2.origin = s.origin :=
      Keeps.bind_at horigin fun _ =>
        (keeps_applyProfile (fun _ _ => rfl) _ _).bind fun _ =>
        (keeps_applyStreams (fun _ _ => rfl) _ _).bind fun _ =>
        (keeps_applyCodecs (fun _ _ _ => rfl) _ _ _).bind fun _ =>
        (keeps_applyConnection (fun _ _ _ => rfl) _ _).bind fun _ =>
        (keeps_applyDirection (fun _ _ => rfl) _).bind fun _ => keeps_pure _ _
    have hkeying (attrs : List Bytes) (req : Bool) (proto : Bytes) :
        Keeps MediaSession.origin (applyKeying g env attrs req proto) :=
      (keeps_origin_applyCrypto _ _).bind fun _ =>
        (keeps_applyICE (fun _ _ _ _ _ => rfl) _).bind fun _ =>
        (keeps_origin_applyDTLS g env _).bind fun _ =>
        Keeps.bind (fun _ => rfl) fun _ => (keeps_read _).bind fun _ => keeps_require _ _ _
    unfold MediaSession.remoteSDP
    rw [bind_of_ok (show Op.ofExcept (chooseAudio body) s = (.ok (sections, audio, m), s) by
      rw [hbody]; rfl)]
    exact Keeps.bind_at hstream fun req => hkeying _ req _

omit [SrtpLib] in
theorem carriesOrigin_generateSDPForAudio (d : Description) :
    CarriesOrigin (generateSDPForAudio d) d.sessionID.toNat d.sessionVersion.toNat := by
  obtain ⟨rest, hlines⟩ : ∃ rest, d.sections.lines =
      line (lit "v") (lit "0") :: line (lit "o") d.origin :: rest := ⟨_, rfl⟩
  have horigin : d.origin = lit "-" ++ space :: (formatNat d.sessionID.toNat ++ space ::
      (formatNat d.sessionVersion.toNat ++ space ::
        joinSpace [lit "IN", sdpIP d.originIP, ipText d.originIP])) := by
    simp [Description.origin, joinSpace, List.intercalate_cons_cons]
  have hhead : lit "v=0\r\no=- " = lit "v" ++ equals :: (lit "0" ++ [carriageReturn, lineFeed]) ++
      lit "o" ++ equals :: (lit "-" ++ [space]) := by decide
  refine ⟨joinSpace [lit "IN", sdpIP d.originIP, ipText d.originIP] ++
    [carriageReturn, lineFeed] ++ marshalLines rest, ?_⟩
  rw [generateSDPForAudio, hlines, hhead]
  simp [marshalLines, writeLines, Line.text, line, horigin]

theorem localSDP_origin (g : Globals) (env : LocalEnv) (s : MediaSession) (hsdp : s.sdp = []) :
    CarriesOrigin (s.localSDP g env).1 (s.localSDP g env).2.sessionID.toNat
        (s.localSDP g env).2.sessionVersion.toNat ∧
      (s.sessionID ≠ 0 → (s.localSDP g env).2.origin = (s.sessionID, s.sessionVersion + 1)) ∧
      (s.sessionID = 0 → (s.localSDP g env).2.sessionID = env.ntp >>> 32) := by
  simp only [MediaSession.localSDP, hsdp, ne_eq, not_true_eq_false, if_false]
  refine ⟨carriesOrigin_generateSDPForAudio _, fun hne => ?_, fun hzero => ?_⟩
  · simp [MediaSession.described, MediaSession.origin, hne]
  · simp [MediaSession.described, hzero]

/-- One call of a chain that has a description: it generates nothing and leaves the origin, or it
generates the next body. -/
theorem stepChain_described (g : Globals) {c : Chain} {call : ChainCall}
    (hdescribed : c.described = true) (hid : c.session.sessionID ≠ 0) (h : KeepsOrigin c call) :
    (stepChain g c call).described = true ∧
      ((generated g c call = none ∧ (stepChain g c call).session.origin = c.session.origin) ∨
        ∃ b, generated g c call = some b ∧
          (stepChain g c call).session.sessionID = c.session.sessionID ∧
          (stepChain g c call).session.sessionVersion.toNat =
            c.session.sessionVersion.toNat + 1 ∧
          CarriesOrigin b c.session.sessionID.toNat (c.session.sessionVersion.toNat + 1)) := by
  cases call with
  | fork => exact ⟨hdescribed, .inl ⟨rfl, rfl⟩⟩
  | remoteSDP isAnswer env body =>
    exact ⟨hdescribed, .inl ⟨rfl, origin_remoteSDP g env body
      { c.session with remoteSDPIsAnswer := isAnswer } (h hdescribed)⟩⟩
  | localSDP env =>
    refine ⟨by simp [stepChain, hdescribed], ?_⟩
    by_cases hsdp : c.session.sdp = []
    · right
      obtain ⟨hcarries, hnext, -⟩ := localSDP_origin g env c.session hsdp
      obtain ⟨hsame, hversion⟩ := Prod.mk.inj (hnext hid)
      have hlt := h hsdp
      rw [if_pos hdescribed] at hlt
      have hcount : (c.session.localSDP g env).2.sessionVersion.toNat =
          c.session.sessionVersion.toNat + 1 := by
        rw [hversion, UInt64.toNat_add]
        exact Nat.mod_eq_of_lt hlt
      rw [hsame, hcount] at hcarries
      exact ⟨_, if_pos hsdp, hsame, hcount, hcarries⟩
    · left
      exact ⟨if_neg hsdp, by simp [stepChain, MediaSession.localSDP, hsdp]⟩

theorem bodies_of_described (g : Globals) {c : Chain} {calls : List ChainCall}
    (hdescribed : c.described = true) (hid : c.session.sessionID ≠ 0)
    (hkeeps : Along (stepChain g) KeepsOrigin c calls) :
    ∀ i b, (bodies g c calls)[i]? = some b →
      CarriesOrigin b c.session.sessionID.toNat (c.session.sessionVersion.toNat + 1 + i) := by
  induction calls generalizing c with
  | nil => simp [bodies]
  | cons call calls ih =>
    intro i b hb
    rw [bodies] at hb
    obtain ⟨hdescribed', ⟨hnone, horigin⟩ | ⟨b', hsome, hsame, hcount, hcarries⟩⟩ :=
      stepChain_described g hdescribed hid hkeeps.1
    · obtain ⟨hsame, hversion⟩ := Prod.mk.inj horigin
      rw [hnone, Option.toList_none, List.nil_append] at hb
      have hrest := ih hdescribed' (by rwa [hsame]) hkeeps.2 i b hb
      rwa [hsame, hversion] at hrest
    · rw [hsome, Option.toList_some, List.singleton_append] at hb
      cases i with
      | zero =>
        obtain rfl := Option.some.inj hb
        exact hcarries
      | succ i =>
        have hrest := ih hdescribed' (by rwa [hsame]) hkeeps.2 i b hb
        rwa [hsame, hcount, show c.session.sessionVersion.toNat + 1 + 1 + i =
          c.session.sessionVersion.toNat + 1 + (i + 1) by omega] at hrest

/-- Along a chain whose calls meet the condition all bodies carry one id, and versions that count
up by one. -/
theorem origins_follow (g : Globals) (s : MediaSession) (calls : List ChainCall)
    (hkeeps : Along (stepChain g) KeepsOrigin ⟨s, false⟩ calls) :
    ∃ id version, ∀ i b, (bodies g ⟨s, false⟩ calls)[i]? = some b →
      CarriesOrigin b id (version + i) := by
  induction calls generalizing s with
  | nil => exact ⟨0, 0, by simp [bodies]⟩
  | cons call calls ih =>
    cases call with
    | fork => exact ih s.fork hkeeps.2
    | remoteSDP isAnswer env body => exact ih _ hkeeps.2
    | localSDP env =>
      by_cases hsdp : s.sdp = []
      · obtain ⟨hcarries, hnext, hfirst⟩ := localSDP_origin g env s hsdp
        have hid : (s.localSDP g env).2.sessionID ≠ 0 := by
          by_cases hzero : s.sessionID = 0
          · rw [hfirst hzero]
            exact hkeeps.1 hsdp hzero
          · rw [(Prod.mk.inj (hnext hzero)).1]
            exact hzero
        refine ⟨(s.localSDP g env).2.sessionID.toNat, (s.localSDP g env).2.sessionVersion.toNat,
          fun i b hb => ?_⟩
        rw [bodies, generated, if_pos hsdp, Option.toList_some, List.singleton_append] at hb
        cases i with
        | zero =>
          obtain rfl := Option.some.inj hb
          exact hcarries
        | succ i =>
          have hrest := bodies_of_described g
            (c := stepChain g ⟨s, false⟩ (.localSDP env)) (by simp [stepChain, hsdp]) hid
            hkeeps.2 i b hb
          rwa [Nat.add_right_comm, Nat.add_assoc] at hrest
      · have hsame : stepChain g ⟨s, false⟩ (.localSDP env) = ⟨s, false⟩ := by
          simp [stepChain, MediaSession.localSDP, hsdp]
        obtain ⟨id, version, hrest⟩ := ih s (hsame ▸ hkeeps.2)
        refine ⟨id, version, fun i b hb => hrest i b ?_⟩
        rwa [bodies, generated, if_neg hsdp, Option.toList_none, List.nil_append, hsame] at hb

end Lib

theorem CarriesOrigin.unique {body : Bytes} {id version id' version' : ℕ}
    (h : CarriesOrigin body id version) (h' : CarriesOrigin body id' version') :
    id = id' ∧ version = version' := by
  obtain ⟨rest, rfl⟩ := h
  obtain ⟨rest', heq⟩ := h'
  simp only [List.append_assoc, List.append_cancel_left_eq] at heq
  have hspace : ¬ Graphic space := by decide
  obtain ⟨hid, htail⟩ := (append_sep_inj (not_mem_formatNat hspace _) (not_mem_formatNat hspace _)).mp heq
  obtain ⟨hversion, -⟩ :=
    (append_sep_inj (not_mem_formatNat hspace _) (not_mem_formatNat hspace _)).mp htail
  exact ⟨formatNat_injective hid, formatNat_injective hversion⟩

section Sample

attribute [local instance] asciiOnly documentedSrtp

/-- An offer drawn at this time, its answer, and an offer of the fork. -/
def offerRun (ntp : UInt64) : List ChainCall :=
  [.localSDP ⟨ntp, fun _ => 0, 4, sameLetter 0⟩,
    .remoteSDP true plainRemote (audioBody (lit "RTP/AVP") []), .fork,
    .localSDP ⟨ntp, fun _ => 0, 5, sameLetter 0⟩]

theorem answer_id {sections : Sections} {audio : ℕ} {m : MediaSection} {si : SessionInformation}
    (hbody : chooseAudio (audioBody (lit "RTP/AVP") []) = .ok (sections, audio, m))
    (hsi : sessionInformation (sections.description m) = .ok si) : si.sessionID = 1 := by
  have hread : ((chooseAudio (audioBody (lit "RTP/AVP") [])).toOption.bind fun x =>
      (sessionInformation (x.1.description x.2.2)).toOption.map (·.sessionID)) = some 1 := by
    decide +kernel
  rw [hbody] at hread
  simpa [Except.toOption, hsi] using hread

/-- An answer under the id of the offer leaves the numbering alone. -/
theorem origins_follow_same_id : (bodies {} ⟨plainSession, false⟩ (offerRun 0x100000000)).length = 2 ∧
    ∃ id version, ∀ i b, (bodies {} ⟨plainSession, false⟩ (offerRun 0x100000000))[i]? = some b →
      CarriesOrigin b id (version + i) := by
  refine ⟨by decide +kernel, origins_follow {} plainSession (offerRun 0x100000000) ?_⟩
  refine ⟨?_, ?_, trivial, ?_, trivial⟩
  · intro _
    decide +kernel
  · intro _ sections audio m si hbody hsi
    rw [answer_id hbody hsi]
    decide +kernel
  · intro _
    decide +kernel

/-- An answer under its own id, as every peer writes it, becomes the id of our next offer. -/
theorem peer_id_adopted :
    ¬ ∃ id version, ∀ i b, (bodies {} ⟨plainSession, false⟩ (offerRun 0x200000000))[i]? = some b →
      CarriesOrigin b id (version + i) := by
  rintro ⟨id, version, h⟩
  obtain ⟨t, ht⟩ : ∃ t, t = ((offerRun 0x200000000).take 3).foldl (stepChain {}) ⟨plainSession, false⟩ :=
    ⟨_, rfl⟩
  have hsdp : t.session.sdp = [] := by
    rw [ht]
    decide +kernel
  obtain ⟨env, henv⟩ : ∃ env : LocalEnv, env = ⟨0x200000000, fun _ => 0, 5, sameLetter 0⟩ := ⟨_, rfl⟩
  have hbodies : bodies {} ⟨plainSession, false⟩ (offerRun 0x200000000) =
      [(plainSession.localSDP {} ⟨0x200000000, fun _ => 0, 4, sameLetter 0⟩).1,
        (t.session.localSDP {} env).1] := by
    rw [ht, henv]
    decide +kernel
  rw [hbodies] at h
  have hfirst := (h 0 _ rfl).unique (localSDP_origin {} _ plainSession rfl).1
  have hsecond := (h 1 _ rfl).unique (localSDP_origin {} env t.session hsdp).1
  have hid : (plainSession.localSDP {} ⟨0x200000000, fun _ => 0, 4, sameLetter 0⟩).2.sessionID.toNat = 2 := by
    decide +kernel
  have hid' : (t.session.localSDP {} env).2.sessionID.toNat = 1 := by
    rw [ht, henv]
    decide +kernel
  omega

end Sample
end Diago.Media
