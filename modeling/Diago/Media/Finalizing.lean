import Diago.Media.SecureProfile

/-! # Results of finalizing

The calls that finalize one armed negotiation, inline or left running, with any
outcome of the handshake and any end of a wait.
-/
namespace Diago.Media
open Lib SDP Op

inductive FinalizeCall
  | context (h : HandshakeEnv) (stop : Option Stop)
  | within (ends : Option HandshakeEnv) (seen : Bool)
  /-- The negotiation left running returns between two calls. -/
  | returns (h : HandshakeEnv)

/-- A session being finalized, and whether a call has reported that it failed. -/
structure Finalizing where
  session : MediaSession
  failed : Bool := false

def MediaSession.IsKeyed (s : MediaSession) : Prop :=
  s.dtlsKeyed = true ∧ s.localCtxSRTP.isSome = true ∧ s.remoteCtxSRTP.isSome = true

instance (s : MediaSession) : Decidable s.IsKeyed := inferInstanceAs (Decidable (_ ∧ _ ∧ _))

/-- The result is a failure, and not the report that the negotiation is still running. -/
def reportsFailure : Option (Except Err Unit) → Bool
  | some (.error e) => e ≠ .finalizeInProgress
  | _ => false

/-- Where finalizing stands: something is left to run or to report, or the session is keyed; a
run that returned without error has keyed it, and a failure reported is kept. -/
structure Finalizing.Inv (x : Finalizing) : Prop where
  alive : x.session.onFinalize.isSome = true ∨ x.session.finalizeRun.isSome = true ∨
    x.session.finalizeErr.isSome = true ∨ x.session.IsKeyed
  returned : ∀ run ∈ x.session.finalizeRun, run.result = some (.ok ()) → x.session.IsKeyed
  kept : x.failed = true → x.session.finalizeRun = none ∧ x.session.finalizeErr.isSome = true

/-- What a call has to leave: the invariant, and a keyed session when it succeeds. -/
def Settles (failed : Bool) (out : Except Err Unit × MediaSession) : Prop :=
  Finalizing.Inv ⟨out.2, failed || reportsFailure (some out.1)⟩ ∧
    (out.1 = .ok () → out.2.IsKeyed ∧ failed = false)

theorem settles_endFinalizeRun {t : MediaSession} {r out : Except Err Unit}
    (hkeyed : r = .ok () → t.IsKeyed) (hout : r = .ok () ↔ out = .ok ()) :
    Settles false (out, t.endFinalizeRun r) := by
  cases r with
  | ok _ =>
    obtain rfl := hout.mp rfl
    exact ⟨⟨.inr (.inr (.inr (hkeyed rfl))), by simp [MediaSession.endFinalizeRun],
      by simp [reportsFailure]⟩, fun _ => ⟨hkeyed rfl, rfl⟩⟩
  | error e =>
    exact ⟨⟨.inr (.inr (.inl rfl)), by simp [MediaSession.endFinalizeRun], fun _ => ⟨rfl, rfl⟩⟩,
      fun h => nomatch hout.mpr h⟩

theorem Finalizing.Inv.not_failed {x : Finalizing} (hx : x.Inv)
    (h : x.session.finalizeRun.isSome = true ∨ x.session.finalizeErr = none) : x.failed = false := by
  by_contra hf
  obtain ⟨hrun, herr⟩ := hx.kept (by simpa using hf)
  rcases h with h | h
  · simp [hrun] at h
  · simp [h] at herr

theorem settles_finalizeErr {x : Finalizing} (hx : x.Inv) {e : Err}
    (hrun : x.session.finalizeRun = none) (herr : x.session.finalizeErr = some e) :
    Settles x.failed (.error e, x.session) :=
  ⟨⟨hx.alive, hx.returned, fun _ => ⟨hrun, by simp [herr]⟩⟩, fun h => nomatch h⟩

/-- With nothing left to run or to report the session is keyed. -/
theorem settles_done {x : Finalizing} (hx : x.Inv) (hrun : x.session.finalizeRun = none)
    (herr : x.session.finalizeErr = none) (harmed : x.session.onFinalize = none) :
    Settles x.failed (.ok (), x.session) := by
  have hfailed := hx.not_failed (.inr herr)
  have hkeyed : x.session.IsKeyed := by simpa [hrun, herr, harmed] using hx.alive
  exact ⟨⟨hx.alive, hx.returned, by simp [hfailed, reportsFailure]⟩, fun _ => ⟨hkeyed, hfailed⟩⟩

section Lib
variable [SrtpLib]

/-- What the call returns, none for a step that is not a call, and the session after it. -/
def FinalizeCall.run (s : MediaSession) : FinalizeCall → Option (Except Err Unit) × MediaSession
  | .context h stop =>
    (some (MediaSession.finalizeContext h stop s).1, (MediaSession.finalizeContext h stop s).2)
  | .within ends seen =>
    (some (MediaSession.finalizeWithin ends seen s).1, (MediaSession.finalizeWithin ends seen s).2)
  | .returns h => (none, s.completeRun h)

def stepFinalizing (x : Finalizing) (call : FinalizeCall) : Finalizing :=
  ⟨(call.run x.session).2, x.failed || reportsFailure (call.run x.session).1⟩

/-- Success means keyed, and no call succeeds after one has failed. -/
def Faithful (x : Finalizing) (call : FinalizeCall) : Prop :=
  (call.run x.session).1 = some (.ok ()) →
    (call.run x.session).2.IsKeyed ∧ x.failed = false

structure HandshakeEnv.Succeeds (h : HandshakeEnv) (s : MediaSession) : Prop where
  checks : s.iceEnabled = true → (∃ agent ∈ s.iceAgent, agent.remoteUfrag ≠ [] ∧
    agent.remotePwd ≠ []) ∧ h.checks.isSome = true ∧ h.dials = true
  completes : h.completes = true
  retires : h.retires = true
  hasState : h.hasState = true
  keys : h.HasKeys

/-- A call that runs the armed handshake itself sees it succeed. -/
def InlineSucceeds (x : Finalizing) (call : FinalizeCall) : Prop :=
  ∀ h stop, call = .context h stop → x.session.finalizeRun = none →
    x.session.finalizeErr = none → x.session.onFinalize.isSome = true → h.Succeeds x.session

theorem reachPeer_ok {h : HandshakeEnv} {s : MediaSession} (hok : h.Succeeds s) :
    ∃ t, reachPeer h s = (.ok (), t) := by
  have hrest (t : MediaSession) : (do
      Op.require (h.completes = true) (Err.finalize .handshake)
      Op.require (h.retires = true) (.finalize .retire)
      Op.require (h.hasState = true) (.finalize .state) : Op MediaSession Err Unit) t =
      (.ok (), t) := by
    simp [bind_eq_ok, hok.completes, hok.retires, hok.hasState]
  unfold reachPeer
  rw [bind_of_ok (read_apply s)]
  by_cases hice : s.iceEnabled = true
  · obtain ⟨⟨agent, hagent, hcred⟩, hchecks, hdials⟩ := hok.checks hice
    obtain ⟨raddr, hraddr⟩ := Option.isSome_iff_exists.mp hchecks
    have hstart : ∃ t, startICE h s = (.ok (), t) := by
      unfold startICE
      rw [bind_of_ok (read_apply s)]
      simp only [Option.mem_def.mp hagent, hraddr]
      rw [bind_of_ok (require_of _ _ hcred)]
      exact ⟨_, rfl⟩
    obtain ⟨t, ht⟩ := hstart
    have hfirst : (do startICE h; Op.require (h.dials = true) (Err.finalize .dial)) s =
        (.ok (), t) := by
      rw [bind_of_ok ht, require_of _ _ hdials]
    rw [only_of _ hice, bind_of_ok hfirst]
    exact ⟨t, hrest t⟩
  · rw [only_of_not _ hice, bind_of_ok (pure_apply () s)]
    exact ⟨s, hrest s⟩

theorem negotiate_ok {h : HandshakeEnv} {s : MediaSession} (hok : h.Succeeds s) (armed : Armed) :
    (negotiate armed h s).1 = .ok () := by
  obtain ⟨t, ht⟩ := reachPeer_ok hok
  unfold negotiate
  rw [bind_of_ok ht]
  rcases keyFromHandshake_cases armed.role h t with ⟨hno, -⟩ | ⟨lc, rc, hkeys⟩
  · exact absurd hok.keys hno
  · rw [bind_of_ok hkeys]
    rfl

def MediaSession.progress (s : MediaSession) : Option Armed × Option FinalizeRun × Option Err :=
  (s.onFinalize, s.finalizeRun, s.finalizeErr)

theorem keeps_negotiate_progress (armed : Armed) (h : HandshakeEnv) :
    Keeps MediaSession.progress (negotiate armed h) :=
  keeps_negotiate (fun _ _ _ _ _ _ => rfl) (fun _ _ _ => rfl) (fun _ => rfl) h

theorem awaitRun_keyed {s : MediaSession} {run : FinalizeRun} (h : HandshakeEnv)
    (hreturned : run.result = some (.ok ()) → s.IsKeyed)
    (hok : (s.awaitRun run h).1 = .ok ()) : (s.awaitRun run h).2.IsKeyed := by
  unfold MediaSession.awaitRun at hok ⊢
  split at hok
  · rename_i r hr
    exact hreturned (hr.trans (congrArg some hok))
  · rename_i hr
    rcases negotiate_cases run.armed h s with ⟨e, t, heq, -⟩ | ⟨t, heq, -, hk, -, hl, hrc⟩
    · rw [heq] at hok
      cases hok
    · simp only [heq]
      exact ⟨hk, hl, hrc⟩

theorem inv_completeRun {x : Finalizing} (hx : x.Inv) (h : HandshakeEnv) :
    Finalizing.Inv ⟨x.session.completeRun h, x.failed⟩ := by
  unfold MediaSession.completeRun
  cases hrun : x.session.finalizeRun with
  | none => exact hx
  | some run =>
    have hfailed := hx.not_failed (.inl (by simp [hrun]))
    refine ⟨.inr (.inl rfl), ?_, by simp [hfailed]⟩
    intro run' hmem hresult
    obtain rfl := Option.some.inj hmem
    exact awaitRun_keyed h (hx.returned run hrun) (Option.some.inj hresult)

theorem settles_waitWithin {x : Finalizing} (hx : x.Inv) (hfailed : x.failed = false)
    (ends : Option HandshakeEnv) (seen : Bool) :
    Settles x.failed (MediaSession.waitWithin ends seen x.session) := by
  have hrest {t : MediaSession} (ht : Finalizing.Inv ⟨t, x.failed⟩) :
      Settles x.failed (MediaSession.waitWithin none seen t) := by
    rw [hfailed] at ht ⊢
    unfold MediaSession.waitWithin
    dsimp only
    split
    · rename_i r hresult
      obtain ⟨run, hrun, hr⟩ := Option.bind_eq_some_iff.mp hresult
      exact settles_endFinalizeRun (fun hok => ht.returned run hrun (hok ▸ hr)) Iff.rfl
    · exact ⟨⟨ht.alive, ht.returned, by simp [reportsFailure]⟩, fun h => nomatch h⟩
  cases ends with
  | none => exact hrest hx
  | some h => exact hrest (inv_completeRun hx h)

theorem settles_within {x : Finalizing} (hx : x.Inv) (ends : Option HandshakeEnv) (seen : Bool) :
    Settles x.failed (MediaSession.finalizeWithin ends seen x.session) := by
  unfold MediaSession.finalizeWithin
  split
  · rename_i hrun
    exact settles_waitWithin hx (hx.not_failed (.inl (by simp [hrun]))) ends seen
  · rename_i hrun herr
    exact settles_finalizeErr hx hrun herr
  · rename_i hrun herr harmed
    exact settles_done hx hrun herr harmed
  · rename_i armed hrun herr harmed
    have hfailed := hx.not_failed (.inr herr)
    have hstart : Finalizing.Inv ⟨x.session.startFinalizeRun armed, x.failed⟩ :=
      ⟨.inr (.inl rfl), fun run' hmem hresult => (by
        obtain rfl := Option.some.inj hmem
        cases hresult), by simp [hfailed]⟩
    exact settles_waitWithin hstart hfailed ends seen

theorem settles_context {x : Finalizing} (hx : x.Inv) (h : HandshakeEnv) (stop : Option Stop)
    (hC : InlineSucceeds x (.context h stop)) :
    Settles x.failed (MediaSession.finalizeContext h stop x.session) := by
  unfold MediaSession.finalizeContext
  split
  · rename_i run hrun
    rw [hx.not_failed (.inl (by simp [hrun]))]
    have hkeyed := awaitRun_keyed h (hx.returned run hrun)
    unfold MediaSession.awaitFinalizeRun
    dsimp only
    split
    · rename_i e why hr
      exact settles_endFinalizeRun hkeyed (by simp [hr])
    · exact settles_endFinalizeRun hkeyed Iff.rfl
  · rename_i hrun herr
    exact settles_finalizeErr hx hrun herr
  · rename_i armed hrun herr harmed
    have hok := negotiate_ok (hC h stop rfl hrun herr (by simp [harmed])) armed
    have hprogress := keeps_negotiate_progress armed h x.session
    have hfailed := hx.not_failed (.inr herr)
    rcases negotiate_cases armed h x.session with ⟨e, t, heq, -⟩ | ⟨t, heq, -, hk, -, hl, hrc⟩
    · rw [heq] at hok
      cases hok
    · rw [heq] at hprogress ⊢
      have hrun' : t.finalizeRun = none := (congrArg (·.2.1) hprogress).trans hrun
      refine ⟨⟨.inr (.inr (.inr ⟨hk, hl, hrc⟩)), ?_, by simp [hfailed, reportsFailure]⟩,
        fun _ => ⟨⟨hk, hl, hrc⟩, hfailed⟩⟩
      simp [hrun']
  · rename_i hrun herr harmed
    exact settles_done hx hrun herr harmed

theorem Finalizing.Inv.step {x : Finalizing} (hx : x.Inv) {call : FinalizeCall}
    (hC : InlineSucceeds x call) : (stepFinalizing x call).Inv ∧ Faithful x call := by
  have hcall {out : Except Err Unit × MediaSession} (h : Settles x.failed out) :
      Finalizing.Inv ⟨out.2, x.failed || reportsFailure (some out.1)⟩ ∧
        (some out.1 = some (.ok ()) → out.2.IsKeyed ∧ x.failed = false) :=
    ⟨h.1, fun hok => h.2 (Option.some.inj hok)⟩
  cases call with
  | context h stop => exact hcall (settles_context hx h stop hC)
  | within ends seen => exact hcall (settles_within hx ends seen)
  | returns h =>
    have hnext := inv_completeRun hx h
    refine ⟨?_, fun hok => nomatch hok⟩
    simpa [stepFinalizing, FinalizeCall.run, reportsFailure] using hnext

variable [UnicodeCase]

/-- After a body that armed a handshake, and with none still running from before, every call
that succeeds has keyed the session, and none succeeds after one has failed, in every run in
which a handshake that a call runs itself succeeds. -/
theorem finalize_faithful (g : Globals) (env : RemoteEnv) (body : Bytes) (s t : MediaSession)
    (calls : List FinalizeCall) (hidle : s.finalizeRun = none)
    (hok : MediaSession.remoteSDP g env body s = (.ok (), t)) (harmed : t.onFinalize.isSome = true)
    (hC : Along stepFinalizing InlineSucceeds ⟨t, false⟩ calls) :
    Along stepFinalizing Faithful ⟨t, false⟩ calls := by
  have hrun : t.finalizeRun = none := by
    obtain ⟨sections, audio, m, r, -, -, hkey⟩ := remoteSDP_eq_ok.mp hok
    rw [applyKeying_frame (f := MediaSession.finalizeRun) (fun _ _ => rfl) (fun _ _ => rfl)
      (fun _ _ _ _ _ => rfl) hkey]
    exact hidle
  apply Along.of_invariant Finalizing.Inv (fun x call hx hc => (hx.step hc).1)
    (fun x call hx hc => (hx.step hc).2) _ hC
  exact ⟨.inl harmed, by simp [hrun], by simp⟩

end Lib

section Sample

attribute [local instance] asciiOnly documentedSrtp

def inlineCall (completes : Bool) : FinalizeCall := .context (handshake completes) none

theorem dtlsOffer_arms : ∃ t,
    MediaSession.remoteSDP {} plainRemote dtlsOffer { toSettings := dtlsSettings } = (.ok (), t) ∧
      t.onFinalize.isSome = true ∧ t.iceEnabled = false ∧
      (stepFinalizing ⟨t, false⟩ (inlineCall false)).failed = true ∧
      ((inlineCall false).run (stepFinalizing ⟨t, false⟩ (inlineCall false)).session).1 =
        some (.ok ()) := by
  have h : (MediaSession.remoteSDP {} plainRemote dtlsOffer { toSettings := dtlsSettings }).1 =
      .ok () ∧ (fun t : MediaSession => t.onFinalize.isSome = true ∧ t.iceEnabled = false ∧
        (stepFinalizing ⟨t, false⟩ (inlineCall false)).failed = true ∧
        ((inlineCall false).run (stepFinalizing ⟨t, false⟩ (inlineCall false)).session).1 =
          some (.ok ()))
        (MediaSession.remoteSDP {} plainRemote dtlsOffer { toSettings := dtlsSettings }).2 := by
    decide +kernel
  exact exists_ok h

theorem completed_handshake_faithful : ∃ t,
    MediaSession.remoteSDP {} plainRemote dtlsOffer { toSettings := dtlsSettings } = (.ok (), t) ∧
      Along stepFinalizing Faithful ⟨t, false⟩ [inlineCall true, .within none false] := by
  obtain ⟨t, hok, harmed, hice, -, -⟩ := dtlsOffer_arms
  refine ⟨t, hok, finalize_faithful {} plainRemote dtlsOffer _ t _ rfl hok harmed
    ⟨?_, fun _ _ h => (nomatch h), trivial⟩⟩
  intro h stop hcall _ _ _
  cases hcall
  exact ⟨by simp [hice], rfl, rfl, rfl, ⟨rfl, rfl, rfl⟩⟩

/-- A handshake that fails in the call that runs it is forgotten: the next call succeeds. -/
theorem failed_handshake_forgotten : ∃ t,
    MediaSession.remoteSDP {} plainRemote dtlsOffer { toSettings := dtlsSettings } = (.ok (), t) ∧
      t.onFinalize.isSome = true ∧
      ¬ Along stepFinalizing Faithful ⟨t, false⟩ [inlineCall false, inlineCall false] := by
  obtain ⟨t, hok, harmed, -, hfailed, hnext⟩ := dtlsOffer_arms
  refine ⟨t, hok, harmed, fun h => ?_⟩
  have hnot := (h.2.1 hnext).2
  simp [hfailed] at hnot

end Sample
end Diago.Media
