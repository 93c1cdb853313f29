import Diago.Media.Applied

/-! # The keys of a session

A session that records an association is keyed, and a keyed session has a context for
each direction.
-/
namespace Diago.Media
open Lib SDP Op

structure Keying where
  localCtx : Option SrtpContext
  remoteCtx : Option SrtpContext
  assoc : Option DTLSAssociation
  keyed : Bool

def MediaSession.keying (s : MediaSession) : Keying :=
  ⟨s.localCtxSRTP, s.remoteCtxSRTP, s.dtlsAssoc, s.dtlsKeyed⟩

/-- An association is keyed, and keyed means a context for each direction. -/
structure Keying.Sound (k : Keying) : Prop where
  keyed : k.assoc.isSome = true → k.keyed = true
  contexts : k.keyed = true → k.localCtx.isSome = true ∧ k.remoteCtx.isSome = true

abbrev MediaSession.Sound (s : MediaSession) : Prop := s.keying.Sound

theorem sound_new (c : Settings) : MediaSession.Sound { toSettings := c } :=
  ⟨by simp [MediaSession.keying], by simp [MediaSession.keying]⟩

theorem sound_unkeyed (s : MediaSession) : s.unkeyed.Sound :=
  ⟨by simp [MediaSession.keying, MediaSession.unkeyed],
    by simp [MediaSession.keying, MediaSession.unkeyed]⟩

theorem MediaSession.Sound.fork {s : MediaSession} (h : s.Sound) : s.fork.Sound := by
  refine ⟨fun ha => ha, fun hk => ?_⟩
  have ha : s.dtlsAssoc.isSome = true := hk
  simpa [MediaSession.keying, MediaSession.fork, ha] using h.contexts (h.keyed ha)

theorem splitKeys_length (role : HandshakeRole) {keyLen saltLen : ℕ} {material : Bytes}
    (h : material.length = 2 * (keyLen + saltLen)) :
    (splitKeys role keyLen saltLen material).1.1.length = keyLen ∧
      (splitKeys role keyLen saltLen material).1.2.length = saltLen ∧
      (splitKeys role keyLen saltLen material).2.1.length = keyLen ∧
      (splitKeys role keyLen saltLen material).2.2.length = saltLen := by
  cases role
  all_goals
    simp only [splitKeys, List.length_take, List.length_drop]
    omega

theorem keeps_keying_init (g : Globals) (env : InitEnv) :
    Keeps MediaSession.keying (MediaSession.init g env) := by
  have halg : Keeps MediaSession.keying (Op.update MediaSession.defaultAlg : Op _ Err _) :=
    keeps_update fun _ => rfl
  have hip : Keeps MediaSession.keying (Op.update MediaSession.dropExternalIP : Op _ Err _) :=
    keeps_update fun _ => rfl
  unfold MediaSession.init
  exact keeps_checkSettings.bind fun _ => halg.bind fun _ => (keeps_read _).bind fun s =>
    ((keeps_ofExcept _ _).only _).bind fun _ => hip.bind fun _ =>
    (keeps_createListeners (fun _ _ => rfl) _ _ _ _).bind fun _ =>
    ((keeps_initICE (fun _ _ _ => rfl) _).only _).bind fun _ => keeps_pure _ _

theorem Keying.Sound.withRemote {k : Keying} (h : k.Sound) (c : SrtpContext) :
    Keying.Sound { k with remoteCtx := some c } :=
  ⟨h.keyed, fun hk => ⟨(h.contexts hk).1, rfl⟩⟩

theorem maintains_settleContexts (secureRequest : Bool) (proto : Bytes) :
    Maintains MediaSession.Sound (settleContexts secureRequest proto) := by
  unfold settleContexts
  refine Maintains.bind (fun s hs => ⟨hs.keyed, fun hk => ?_⟩) fun _ =>
    Maintains.bind (fun s hs => hs) fun s =>
      (keeps_require MediaSession.keying _ _).maintains Keying.Sound
  have hctx := hs.contexts hk
  have hremote : s.remoteCtxSRTP ≠ none := Option.isSome_iff_ne_none.mp hctx.2
  refine ⟨?_, hctx.2⟩
  change (if s.remoteCtxSRTP = none ∧ ¬ secureRequest then none else s.localCtxSRTP).isSome = true
  rw [if_neg (fun h => hremote h.1)]
  exact hctx.1

section Lib
variable [SrtpLib]

/-- The library knows the profile of the handshake, and the keying material is exported. -/
def HandshakeEnv.HasKeys (h : HandshakeEnv) : Prop :=
  (SrtpLib.keyLen h.profile).isSome = true ∧ (SrtpLib.saltLen h.profile).isSome = true ∧
    h.material.isSome = true

theorem keyFromHandshake_cases (role : HandshakeRole) (h : HandshakeEnv) (s : MediaSession) :
    (¬ h.HasKeys ∧ ∃ e, keyFromHandshake role h s = (.error e, s)) ∨
      ∃ lc rc, keyFromHandshake role h s =
        (.ok (), { s with localCtxSRTP := some lc, remoteCtxSRTP := some rc }) := by
  unfold keyFromHandshake HandshakeEnv.HasKeys
  cases hk : SrtpLib.keyLen h.profile with
  | none => exact .inl ⟨by simp, _, rfl⟩
  | some keyLen =>
    cases hs : SrtpLib.saltLen h.profile with
    | none => exact .inl ⟨by simp, _, rfl⟩
    | some saltLen =>
      cases hm : h.material with
      | none => exact .inl ⟨by simp, _, rfl⟩
      | some material =>
        right
        obtain ⟨hlk, hls, hrk, hrs⟩ := splitKeys_length role
          (length_draw material (2 * (keyLen + saltLen)))
        have hmake (handle : ℕ) {key salt : Bytes} (hkey : key.length = keyLen)
            (hsalt : salt.length = saltLen) :
            ∃ c, createContext handle key salt h.profile = some c := by
          rw [← Option.isSome_iff_exists, createContext_isSome, hk, hs, hkey, hsalt]
          exact ⟨rfl, rfl⟩
        obtain ⟨lc, hlc⟩ := hmake h.localHandle hlk hls
        obtain ⟨rc, hrc⟩ := hmake h.remoteHandle hrk hrs
        refine ⟨lc, rc, ?_⟩
        simp [bind_apply, Op.require, hlc, hrc]

/-- What neither the way to the peer nor the keys change, nor the record of them, a negotiation
leaves alone. -/
theorem keeps_negotiate {γ : Type} {f : MediaSession → γ}
    (hreach : ∀ s raddr rtcpRaddr mux rtpConn rtcpConn,
      f { s with raddr := raddr, rtcpRaddr := rtcpRaddr, iceMux := mux, rtpConn := rtpConn,
                 rtcpConn := rtcpConn } = f s)
    (hkeys : ∀ s lc rc, f { s with localCtxSRTP := some lc, remoteCtxSRTP := some rc } = f s)
    {armed : Armed} (hrecord : ∀ s, f (s.recordKeyed armed) = f s) (h : HandshakeEnv) :
    Keeps f (negotiate armed h) := by
  unfold negotiate
  refine (keeps_reachPeer hreach h).bind fun _ =>
    Keeps.bind (fun s => ?_) fun _ => keeps_update hrecord
  rcases keyFromHandshake_cases armed.role h s with ⟨-, e, he⟩ | ⟨lc, rc, hok⟩
  · rw [he]
  · rw [hok]
    exact hkeys s lc rc

/-- A negotiation keys the session and records the association, or fails and leaves the keys as
they were. -/
theorem negotiate_cases (armed : Armed) (h : HandshakeEnv) (s : MediaSession) :
    (∃ e t, negotiate armed h s = (.error e, t) ∧ t.keying = s.keying) ∨
      ∃ t, negotiate armed h s = (.ok (), t) ∧ t.dtlsAssoc = some armed.assoc ∧
        t.dtlsKeyed = true ∧ t.dtlsUnkeyed = false ∧ t.localCtxSRTP.isSome = true ∧
        t.remoteCtxSRTP.isSome = true := by
  have hreach := keeps_reachPeer (f := MediaSession.keying) (fun _ _ _ _ _ _ => rfl) h s
  unfold negotiate
  rcases hx : reachPeer h s with ⟨r, u⟩
  rw [hx] at hreach
  cases r with
  | error e =>
    rw [bind_of_error hx]
    exact .inl ⟨e, u, rfl, hreach⟩
  | ok _ =>
    rw [bind_of_ok hx]
    rcases keyFromHandshake_cases armed.role h u with ⟨-, e, he⟩ | ⟨lc, rc, hok⟩
    · rw [bind_of_error he]
      exact .inl ⟨e, u, rfl, hreach⟩
    · rw [bind_of_ok hok]
      exact .inr ⟨_, rfl, rfl, rfl, rfl, rfl, rfl⟩

theorem maintains_negotiate (armed : Armed) (h : HandshakeEnv) :
    Maintains MediaSession.Sound (negotiate armed h) := by
  intro s hs
  rcases negotiate_cases armed h s with ⟨e, t, heq, hk⟩ | ⟨t, heq, -, hkeyed, -, hl, hr⟩
  · rw [heq]
    change t.keying.Sound
    rw [hk]
    exact hs
  · rw [heq]
    exact ⟨fun _ => hkeyed, fun _ => ⟨hl, hr⟩⟩

theorem maintains_applyCrypto (handle : ℕ) (attrs : List Bytes) :
    Maintains MediaSession.Sound (applyCrypto handle attrs) := by
  have hpure : Maintains MediaSession.Sound (pure () : Op MediaSession Err Unit) := fun s hs => hs
  induction attrs with
  | nil => exact hpure
  | cons v attrs ih =>
    unfold applyCrypto
    split
    · exact ih
    · exact fun s hs => hs
    · rename_i c _
      refine Maintains.bind (fun s hs => hs) fun _ =>
        Maintains.bind ((keeps_require MediaSession.keying _ _).maintains Keying.Sound) fun _ =>
        Maintains.bind (fun s hs => hs) fun s => ?_
      split
      · exact ih
      · exact Maintains.bind (fun s hs => hs) fun ctx s hs => hs.withRemote ctx

namespace MediaSession
variable {s : MediaSession}

theorem Sound.awaitRun (hs : s.Sound) (run : FinalizeRun) (h : HandshakeEnv) :
    (s.awaitRun run h).2.Sound := by
  unfold MediaSession.awaitRun
  split
  · exact hs
  · exact maintains_negotiate run.armed h s hs

theorem Sound.completeRun (hs : s.Sound) (h : HandshakeEnv) : (s.completeRun h).Sound := by
  unfold MediaSession.completeRun
  split
  · exact hs.awaitRun _ h
  · exact hs

theorem Sound.close (hs : s.Sound) (h : HandshakeEnv) : (s.close h).Sound := by
  have hended (run : FinalizeRun) :
      ((s.awaitRun run h).2.endFinalizeRun (s.awaitRun run h).1).Sound := hs.awaitRun run h
  unfold MediaSession.close
  cases s.finalizeRun with
  | none =>
    dsimp only
    split
    all_goals exact hs
  | some run =>
    dsimp only
    split
    all_goals exact hended run

theorem maintains_finalizeContext (h : HandshakeEnv) (stop : Option Stop) :
    Maintains MediaSession.Sound (finalizeContext h stop) := by
  intro s hs
  unfold finalizeContext
  split
  · rename_i run _
    have hended := hs.awaitRun run h
    unfold awaitFinalizeRun
    dsimp only
    split
    all_goals exact hended
  · exact hs
  · exact maintains_negotiate _ h s hs
  · exact hs

theorem maintains_waitWithin (ends : Option HandshakeEnv) (seen : Bool) :
    Maintains MediaSession.Sound (waitWithin ends seen) := by
  have hrest : Maintains MediaSession.Sound (waitWithin none seen) := by
    intro t ht
    unfold waitWithin
    dsimp only
    split
    all_goals exact ht
  intro s hs
  cases ends with
  | none => exact hrest s hs
  | some h => exact hrest _ (hs.completeRun h)

theorem maintains_finalizeWithin (ends : Option HandshakeEnv) (seen : Bool) :
    Maintains MediaSession.Sound (finalizeWithin ends seen) := by
  intro s hs
  unfold finalizeWithin
  split
  · exact maintains_waitWithin ends seen s hs
  · exact hs
  · exact hs
  · exact maintains_waitWithin ends seen _ hs

theorem Sound.described [UnicodeCase] (hs : s.Sound) (env : LocalEnv) : (s.described env).Sound := by
  refine ⟨hs.keyed, fun hk => ⟨?_, (hs.contexts hk).2⟩⟩
  have hl : s.localCtxSRTP.isSome = true := (hs.contexts hk).1
  change ((s.localSDES env).2 <|> s.localCtxSRTP).isSome = true
  cases (s.localSDES env).2 with
  | none => exact hl
  | some c => rfl

theorem Sound.localSDP [UnicodeCase] (hs : s.Sound) (g : Globals) (env : LocalEnv) :
    (s.localSDP g env).2.Sound := by
  unfold MediaSession.localSDP
  split
  · exact hs
  · exact hs.described env

end MediaSession

section Fold
variable [UnicodeCase]

theorem maintains_armRebound (env : RemoteEnv) (rebound : Bool)
    (fingerprints : List SdpFingerprint) (tlsID : Bytes) :
    Maintains MediaSession.Sound (armRebound env rebound fingerprints tlsID) := by
  intro s hs
  have harm := ((keeps_armDTLSHandshake (f := MediaSession.keying) (fun _ _ => rfl) env
    fingerprints tlsID).maintains Keying.Sound) s hs
  unfold armRebound
  split
  · rename_i heq
    rw [heq] at harm
    exact harm
  · rename_i heq
    rw [heq] at harm
    dsimp only
    split
    · exact MediaSession.Sound.close harm env.ending
    · exact harm

theorem maintains_negotiateDTLSAssociation (g : Globals) (env : RemoteEnv) (setup : SetupRole)
    (fingerprints : List SdpFingerprint) (tlsID : Bytes) :
    Maintains MediaSession.Sound (negotiateDTLSAssociation g env setup fingerprints tlsID) := by
  have hrequire (c : Prop) [Decidable c] (e : Err) :
      Maintains MediaSession.Sound (Op.require c e : Op MediaSession Err Unit) :=
    (keeps_require MediaSession.keying c e).maintains Keying.Sound
  unfold negotiateDTLSAssociation
  refine Maintains.bind (fun s hs => hs) fun s => ?_
  split
  · exact Maintains.bind (fun s hs => hs) fun _ =>
      (keeps_armDTLSHandshake (f := MediaSession.keying) (fun _ _ => rfl) _ _ _).maintains _
  · split
    · exact fun s hs => hs
    · refine (hrequire _ _).bind fun _ => Maintains.bind (Maintains.only ?_ _) fun _ =>
        Maintains.bind (fun s _ => sound_unkeyed s) fun _ => maintains_armRebound _ _ _ _
      exact (hrequire _ _).bind fun _ =>
        (keeps_rebindForAssociation (f := MediaSession.keying) (fun _ _ => rfl) g env).maintains _

theorem maintains_applyDTLS (g : Globals) (env : RemoteEnv) (attrs : List Bytes) :
    Maintains MediaSession.Sound (applyDTLS g env attrs) := by
  unfold applyDTLS applyDTLSAttributes
  refine Maintains.bind (fun s hs => hs) fun s => Maintains.only ?_ _
  exact Maintains.bind (fun s hs => hs) fun ⟨setup, fingerprints, tlsID⟩ =>
    Maintains.bind (fun s hs => hs) fun _ =>
      maintains_negotiateDTLSAssociation g env setup fingerprints tlsID

theorem maintains_remoteSDP (g : Globals) (env : RemoteEnv) (body : Bytes) :
    Maintains MediaSession.Sound (MediaSession.remoteSDP g env body) := by
  unfold MediaSession.remoteSDP applyKeying
  refine Maintains.bind (fun s hs => hs) fun ⟨sections, audio, m⟩ => ?_
  exact Maintains.bind ((keeps_applyStream (f := MediaSession.keying) (fun _ _ => rfl) g sections
      audio m).maintains Keying.Sound) fun req =>
    (maintains_applyCrypto _ _).bind fun _ =>
    ((keeps_applyICE (f := MediaSession.keying) (fun _ _ _ _ _ => rfl) _).maintains
      Keying.Sound).bind fun _ =>
    (maintains_applyDTLS g env _).bind fun _ => maintains_settleContexts _ _

end Fold
end Lib
end Diago.Media
