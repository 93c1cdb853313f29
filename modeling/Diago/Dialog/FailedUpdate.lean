import Diago.Dialog.MediaUpdate
import Diago.Media.Direction

/-! # Media updates that fail

An update changes objects the dialog goes on with before it can still fail: the offer
of a re-INVITE changes a flag of the installed session, the old monitor is stopped
before the new one runs, and the swap comes before the deadlines are carried over and
the old sockets closed.
-/
namespace Diago.Dialog.MediaUpdate
open Lib Media Rtp
variable {body : Bytes} {ack : Ack} {cur : Object MediaSession} {cseq : UInt32}

/-- The media of a dialog, apart from its counters: which sessions are installed, with which fields,
whether the monitor runs, and what is bound to which session. -/
structure Snapshot where
  mediaSession : Option (Object MediaSession)
  rtpSession : Option (ℕ × ℕ × RTPSession)
  monitored : Bool
  rtpPacketReader : ℕ
  rtpPacketWriter : ℕ
  jitterBuffer : Option ℕ

def Object.uncounted (o : Object MediaSession) : Object MediaSession :=
  { o with val := { o.val with srtpAuthFailures := 0 } }

def RTPObject.uncounted (r : RTPObject) : ℕ × ℕ × RTPSession :=
  (r.id, r.sess, { r.session with sess := {}, readStats := {}, writeStats := {} })

def DialogMedia.snapshot (d : DialogMedia) : Snapshot where
  mediaSession := d.mediaSession.map Object.uncounted
  rtpSession := d.rtpSession.map RTPObject.uncounted
  monitored := d.rtpSession.any RTPObject.monitoring
  rtpPacketReader := d.rtpPacketReader
  rtpPacketWriter := d.rtpPacketWriter
  jitterBuffer := d.jitterBuffer

/-- How far an update got before it failed. -/
inductive Stage
  | kept
  | stopped
  | swapped
  deriving DecidableEq

def UpdateErr.stage : UpdateErr → Stage
  | .monitorClose | .noRemoteAddr | .startMonitor => .stopped
  | .carryDeadlines | .closeReplaced => .swapped
  | _ => .kept

def Result.stage {α : Type} : Result α → Option Stage
  | .failed e => some e.stage
  | _ => none

namespace Result

variable {α : Type}

@[simp] theorem stage_done (a : α) : (Result.done a).stage = none := rfl

@[simp] theorem stage_panicked : (Result.panicked : Result α).stage = none := rfl

@[simp] theorem stage_failed_iff {e : UpdateErr} {s : Stage} :
    (Result.failed e : Result α).stage = some s ↔ s = e.stage := by
  rw [stage, Option.some.injEq, eq_comm]

theorem stage_eq_some_iff {r : Result α} {s : Stage} :
    r.stage = some s ↔ ∃ e, r = .failed e ∧ e.stage = s := by
  cases r <;> simp [stage]

end Result

/-! ## Where a replacement fails -/

/-- Neither a codec nor the socket is missing for another RTP session on `msess`. -/
def Forks (msess : MediaSession) (old : RTPObject) : Prop :=
  (old.session.fork msess).isSome ∧ msess.rtcpConn ≠ none

/-- A monitor can run on `msess`: it has somewhere to send, and the deadline is taken off. -/
def Starts (env : SocketEnv) (msess : MediaSession) : Prop :=
  msess.raddr.ip ≠ none ∧ msess.rtcpRaddr.ip ≠ none ∧ env.startsMonitor = true

/-- The deadlines of the replaced session cannot be carried over, or its sockets not closed. -/
def Unretired (env : SocketEnv) (owner : Option ℕ) (old msess : Object MediaSession) : Prop :=
  (old.id ≠ msess.id ∧ old.val.rtpConn ≠ msess.val.rtpConn) ∧ msess.val.rtpConn ≠ none ∧
      env.carriesDeadlines = false ∨
    (old.id = msess.id ∨ old.val.rtpConn = msess.val.rtpConn ∨ msess.val.rtpConn ≠ none) ∧
      owner ≠ some old.id ∧ moved old.val msess.val ∧ env.closesReplaced = false

/-- From the stop of the old monitor on, a swap fails at this stage. -/
def SwapFails (env : SocketEnv) (msess : Object MediaSession) (old : RTPObject)
    (d : DialogMedia) : Stage → Prop
  | .kept => False
  | .stopped => old.session.sess.rtcpConn ≠ none ∧
      (env.stopsMonitor = false ∨ Forks msess.val old ∧ ¬Starts env msess.val)
  | .swapped => old.session.sess.rtcpConn ≠ none ∧ env.stopsMonitor = true ∧
      Forks msess.val old ∧ Starts env msess.val ∧
      ∃ cur ∈ d.mediaSession, Unretired env (d.ownerAfter msess) cur msess

def ReplaceFails (env : SocketEnv) (msess : Object MediaSession) (d : DialogMedia)
    (s : Stage) : Prop :=
  (d.closed = true ∨ d.rtpSession = none) ∧ s = .kept ∨
    d.closed = false ∧ ∃ old ∈ d.rtpSession, SwapFails env msess old d s

def SwapFailsWith (env : SocketEnv) (msess : Object MediaSession) (old : RTPObject)
    (d : DialogMedia) : UpdateErr → Prop
  | .monitorClose => env.stopsMonitor = false
  | .noRemoteAddr => env.stopsMonitor = true ∧ Forks msess.val old ∧
      (msess.val.raddr.ip = none ∨ msess.val.rtcpRaddr.ip = none)
  | .startMonitor => env.stopsMonitor = true ∧ Forks msess.val old ∧
      ¬(msess.val.raddr.ip = none ∨ msess.val.rtcpRaddr.ip = none) ∧ env.startsMonitor = false
  | .carryDeadlines => env.stopsMonitor = true ∧ Forks msess.val old ∧ Starts env msess.val ∧
      ∃ cur ∈ d.mediaSession, cur.id ≠ msess.id ∧ cur.val.rtpConn ≠ msess.val.rtpConn ∧
        msess.val.rtpConn ≠ none ∧ env.carriesDeadlines = false
  | .closeReplaced => env.stopsMonitor = true ∧ Forks msess.val old ∧ Starts env msess.val ∧
      ∃ cur ∈ d.mediaSession, (cur.id = msess.id ∨ cur.val.rtpConn = msess.val.rtpConn ∨
          msess.val.rtpConn ≠ none ∧ env.carriesDeadlines = true) ∧
        d.ownerAfter msess ≠ some cur.id ∧ moved cur.val msess.val ∧ env.closesReplaced = false
  | _ => False

def ReplaceFailsWith (env : SocketEnv) (msess : Object MediaSession) (d : DialogMedia)
    (e : UpdateErr) : Prop :=
  d.closed = false ∧ ∃ old ∈ d.rtpSession, old.session.sess.rtcpConn ≠ none ∧
    SwapFailsWith env msess old d e

section Replace
variable {env : SocketEnv} {msess : Object MediaSession} {old : RTPObject} {d : DialogMedia}
  {s : Stage} {e : UpdateErr}

inductive Monitors (env : SocketEnv) (sess : MediaSession) : Result Unit → Prop
  | done (hconn : sess.rtcpConn ≠ none) (hstarts : Starts env sess) : Monitors env sess (.done ())
  | unaddressed (hconn : sess.rtcpConn ≠ none)
    (haddr : sess.raddr.ip = none ∨ sess.rtcpRaddr.ip = none) :
    Monitors env sess (.failed .noRemoteAddr)
  | unstarted (hconn : sess.rtcpConn ≠ none)
    (haddr : ¬(sess.raddr.ip = none ∨ sess.rtcpRaddr.ip = none))
    (hstart : env.startsMonitor = false) : Monitors env sess (.failed .startMonitor)
  | panicked (hconn : sess.rtcpConn = none) : Monitors env sess .panicked

theorem monitorOrClose_monitors (env : SocketEnv) (sess : MediaSession) :
    Monitors env sess (monitorOrClose env sess) := by
  unfold monitorOrClose monitorBackground
  by_cases haddr : sess.raddr.ip = none ∨ sess.rtcpRaddr.ip = none
  · rw [if_pos haddr]
    dsimp only
    split_ifs with hconn
    · exact .panicked hconn
    · exact .unaddressed hconn haddr
  · rw [if_neg haddr]
    split_ifs with hconn hstart
    · exact .panicked hconn
    · exact .done hconn ⟨mt .inl haddr, mt .inr haddr, hstart⟩
    · exact .unstarted hconn haddr (eq_false_of_ne_true hstart)

theorem retire_failed_iff {owner : Option ℕ} :
    retire env owner cur msess = .failed e ↔
      (cur.id ≠ msess.id ∧ cur.val.rtpConn ≠ msess.val.rtpConn ∧ msess.val.rtpConn ≠ none ∧
          env.carriesDeadlines = false) ∧ .carryDeadlines = e ∨
        ((cur.id = msess.id ∨ cur.val.rtpConn = msess.val.rtpConn ∨
            msess.val.rtpConn ≠ none ∧ env.carriesDeadlines = true) ∧
          owner ≠ some cur.id ∧ moved cur.val msess.val ∧ env.closesReplaced = false) ∧
          .closeReplaced = e := by
  unfold retire carryRTPDeadlines
  by_cases hid : cur.id = msess.id
  · rw [if_pos hid, hid]
    split_ifs with hclose <;> simp [hclose]
  rw [if_neg hid]
  by_cases hconn : cur.val.rtpConn = msess.val.rtpConn
  · rw [if_pos hconn]
    split_ifs with hclose <;> simp [hid, hconn, hclose]
  rw [if_neg hconn]
  by_cases hnone : msess.val.rtpConn = none
  · rw [hnone] at hconn
    rw [if_pos hnone]
    simp [hid, hconn, hnone]
  rw [if_neg hnone]
  cases hcarry : env.carriesDeadlines with
  | false => simp [hid, hconn, hnone]
  | true =>
    rw [if_pos rfl]
    split_ifs with hclose <;> simp [hid, hconn, hnone, hclose]

theorem swapRTPSession_failed_iff :
    (swapRTPSession env msess old d).1 = .failed e ↔
      old.session.sess.rtcpConn ≠ none ∧ SwapFailsWith env msess old d e := by
  unfold swapRTPSession
  by_cases hconn : old.session.sess.rtcpConn = none
  · rw [if_pos hconn]
    simp [hconn]
  rw [if_neg hconn, and_iff_right hconn]
  cases hstop : env.stopsMonitor with
  | false =>
    rw [if_pos rfl]
    cases e <;> simp [SwapFailsWith, hstop]
  | true =>
    rw [if_neg (by simp)]
    cases hfork : old.session.fork msess.val with
    | none => cases e <;> simp [SwapFailsWith, Forks, hstop, hfork]
    | some fork =>
      have hmonitors := monitorOrClose_monitors env msess.val
      generalize monitorOrClose env msess.val = r at hmonitors
      dsimp only
      cases hmonitors with
      | panicked hrtcp => cases e <;> simp [SwapFailsWith, Forks, hstop, hrtcp]
      | unaddressed hrtcp haddr =>
        have hstarts : ¬Starts env msess.val := fun h => haddr.elim h.1 h.2.1
        cases e <;> simp [SwapFailsWith, Forks, hstop, hfork, hrtcp, haddr, hstarts]
      | unstarted hrtcp haddr hstart =>
        cases e <;> simp [SwapFailsWith, Forks, Starts, hstop, hfork, hrtcp, haddr, hstart]
      | done hrtcp hstarts =>
        have haddr := not_or.mpr ⟨hstarts.1, hstarts.2.1⟩
        have hstart := hstarts.2.2
        cases hmedia : d.mediaSession with
        | none => cases e <;> simp_all [SwapFailsWith]
        | some cur =>
          simp only [Option.map_some, Option.getD_some, retire_failed_iff]
          cases e <;> simp_all [SwapFailsWith, Forks]

theorem replaceRTPSession_failed_iff :
    (replaceRTPSession env msess d).1 = .failed e ↔
      d.closed = true ∧ .mediaClosed = e ∨
        d.closed = false ∧ d.rtpSession = none ∧ .noRTPSession = e ∨
        ReplaceFailsWith env msess d e := by
  unfold replaceRTPSession ReplaceFailsWith
  cases hclosed : d.closed with
  | true => simp
  | false =>
    cases hold : d.rtpSession with
    | none => simp
    | some old => simp [swapRTPSession_failed_iff]

theorem swapRTPSession_stage_iff :
    (swapRTPSession env msess old d).1.stage = some s ↔ SwapFails env msess old d s := by
  simp only [Result.stage_eq_some_iff, swapRTPSession_failed_iff, and_assoc]
  constructor
  · rintro ⟨e, hconn, hfails, rfl⟩
    cases e <;> grind [SwapFailsWith, SwapFails, UpdateErr.stage, Starts, Unretired]
  cases s with
  | kept => exact False.elim
  | stopped =>
    rintro ⟨hconn, hfails⟩
    by_cases hstop : env.stopsMonitor = false
    · exact ⟨.monitorClose, hconn, hstop, rfl⟩
    by_cases haddr : msess.val.raddr.ip = none ∨ msess.val.rtcpRaddr.ip = none
    · exact ⟨.noRemoteAddr, hconn, by grind [SwapFailsWith], rfl⟩
    · exact ⟨.startMonitor, hconn, by grind [SwapFailsWith, Starts], rfl⟩
  | swapped =>
    rintro ⟨hconn, hstop, hforks, hstarts, cur, hcur, hunretired⟩
    by_cases hcarry : env.carriesDeadlines = true ∨ cur.id = msess.id ∨
        cur.val.rtpConn = msess.val.rtpConn
    · exact ⟨.closeReplaced, hconn, by grind [SwapFailsWith, Unretired], rfl⟩
    · exact ⟨.carryDeadlines, hconn, by grind [SwapFailsWith, Unretired], rfl⟩

theorem replaceRTPSession_stage_iff :
    (replaceRTPSession env msess d).1.stage = some s ↔ ReplaceFails env msess d s := by
  unfold replaceRTPSession ReplaceFails
  by_cases hclosed : d.closed = true
  · rw [if_pos hclosed]
    simp [UpdateErr.stage, hclosed]
  rw [if_neg hclosed]
  cases hold : d.rtpSession with
  | none => simp [UpdateErr.stage, hclosed]
  | some old => simp [swapRTPSession_stage_iff, hclosed]

/-! ## What it leaves -/

inductive Leaves (d : DialogMedia) : Stage → DialogMedia → Prop
  | kept : Leaves d .kept d
  | stopped (old : RTPObject) (hold : d.rtpSession = some old) :
    Leaves d .stopped { d with rtpSession := some old.monitorClose }
  | swapped (old rtp : RTPObject) {d' : DialogMedia} (hold : d.rtpSession = some old)
    (hnew : d'.rtpSession = some rtp) (hid : rtp.id = d.fresh) : Leaves d .swapped d'

theorem swapRTPSession_leaves (hold : d.rtpSession = some old)
    (h : SwapFails env msess old d s) : Leaves d s (swapRTPSession env msess old d).2 := by
  unfold swapRTPSession
  have hmonitors := monitorOrClose_monitors env msess.val
  cases s with
  | kept => exact h.elim
  | stopped =>
    obtain ⟨hconn, hstop | ⟨⟨hfork, hrtcp⟩, hstarts⟩⟩ := h
    · rw [if_neg hconn, if_pos hstop]
      exact .stopped old hold
    · obtain ⟨fork, hfork⟩ := Option.isSome_iff_exists.mp hfork
      rw [if_neg hconn, hfork]
      split_ifs
      · exact .stopped old hold
      · generalize monitorOrClose env msess.val = r at hmonitors
        cases hmonitors with
        | done _ hstarts' => exact absurd hstarts' hstarts
        | unaddressed | unstarted => exact .stopped old hold
        | panicked hnone => exact absurd hnone hrtcp
  | swapped =>
    obtain ⟨hconn, hstop, ⟨hfork, hrtcp⟩, hstarts, -⟩ := h
    obtain ⟨fork, hfork⟩ := Option.isSome_iff_exists.mp hfork
    rw [if_neg hconn, if_neg (by simp [hstop]), hfork]
    generalize monitorOrClose env msess.val = r at hmonitors
    cases hmonitors with
    | done => exact .swapped old _ hold rfl rfl
    | unaddressed _ haddr => exact absurd haddr (not_or.mpr ⟨hstarts.1, hstarts.2.1⟩)
    | unstarted _ _ hstart => exact absurd hstarts.2.2 (by simp [hstart])
    | panicked hnone => exact absurd hnone hrtcp

theorem replaceRTPSession_leaves (h : ReplaceFails env msess d s) :
    Leaves d s (replaceRTPSession env msess d).2 := by
  unfold replaceRTPSession
  obtain ⟨hclosed | hnone, rfl⟩ | ⟨hopen, old, hold, hswap⟩ := h
  · rw [if_pos hclosed]
    exact .kept
  · rw [hnone]
    split_ifs <;> exact .kept
  · rw [Option.mem_def] at hold
    rw [if_neg (by simp [hopen]), hold]
    exact swapRTPSession_leaves hold hswap

end Replace

theorem DialogMedia.lt_fresh {d : DialogMedia} {i : ℕ} (h : i ∈ d.ids) : i < d.fresh :=
  Nat.lt_succ_of_le (Finset.le_sup (f := id) (List.mem_toFinset.mpr h))

/-- The installed RTP session has nothing left to stop. -/
def DialogMedia.Silent (d : DialogMedia) : Prop :=
  ∀ r ∈ d.rtpSession, r.session.closed = true ∧ r.monitoring = false

/-- The update failed before it stopped the monitor, or there was none to stop. -/
def Stage.Harmless (s : Stage) (d : DialogMedia) : Prop :=
  s = .kept ∨ s = .stopped ∧ d.Silent

theorem RTPObject.monitorClose_uncounted_iff (r : RTPObject) :
    (r.monitorClose.uncounted = r.uncounted ∧ r.monitorClose.monitoring = r.monitoring) ↔
      r.session.closed = true ∧ r.monitoring = false := by
  constructor
  · rintro ⟨hsame, hmonitoring⟩
    have hclosed := congrArg (fun u => u.2.2.closed) hsame
    exact ⟨hclosed.symm, hmonitoring.symm⟩
  · rintro ⟨hclosed, hmonitoring⟩
    simp [monitorClose, uncounted, hclosed, hmonitoring]

namespace Leaves

variable {d d' : DialogMedia} {s : Stage}

theorem rtpSession_ne (h : Leaves d .swapped d') :
    d'.snapshot.rtpSession ≠ d.snapshot.rtpSession := by
  cases h with
  | swapped old rtp hold hnew hid =>
    intro hsame
    have hlt : old.id < d.fresh := DialogMedia.lt_fresh (by simp [DialogMedia.ids, hold])
    simp only [DialogMedia.snapshot, hnew, hold, Option.map_some, Option.some.injEq] at hsame
    have hrtp : rtp.id = old.id := congrArg Prod.fst hsame
    omega

theorem snapshot_iff (h : Leaves d s d') : d'.snapshot = d.snapshot ↔ s.Harmless d := by
  have hleaves := h
  cases h with
  | kept => simp [Stage.Harmless]
  | stopped old hold =>
    have hsilent : d.Silent ↔ old.session.closed = true ∧ old.monitoring = false := by
      simp [DialogMedia.Silent, hold]
    have hsnapshot : ({ d with rtpSession := some old.monitorClose } : DialogMedia).snapshot =
        d.snapshot ↔ old.monitorClose.uncounted = old.uncounted ∧
          old.monitorClose.monitoring = old.monitoring := by
      simp [DialogMedia.snapshot, hold]
    rw [hsnapshot, old.monitorClose_uncounted_iff, ← hsilent]
    simp [Stage.Harmless]
  | swapped =>
    have hne : d'.snapshot ≠ d.snapshot := fun hsame =>
      hleaves.rtpSession_ne (congrArg Snapshot.rtpSession hsame)
    simp [Stage.Harmless, hne]

theorem mediaSession (h : Leaves d s d') (hs : s ≠ .swapped) :
    d'.mediaSession = d.mediaSession := by
  cases h with
  | kept => rfl
  | stopped => rfl
  | swapped => exact absurd rfl hs

end Leaves

/-! ## Offers -/

/-- No flag of the installed session is left to change. -/
def DialogMedia.ExpectsOffer (d : DialogMedia) : Prop :=
  ∀ cur ∈ d.mediaSession, cur.val.remoteSDPIsAnswer = false

namespace DialogMedia

variable {d d' : DialogMedia}

theorem expectOffer_mediaSession_iff :
    d.expectOffer.mediaSession.map Object.uncounted = d.mediaSession.map Object.uncounted ↔
      d.ExpectsOffer := by
  cases hmedia : d.mediaSession with
  | none => simp [expectOffer, changeSession, ExpectsOffer, hmedia]
  | some cur =>
    simp only [expectOffer, changeSession, ExpectsOffer, hmedia, Option.map_some,
      Option.some.injEq, Option.mem_def, forall_eq']
    constructor
    · intro hsame
      have hflag := congrArg (fun o => o.val.remoteSDPIsAnswer) hsame
      exact hflag.symm
    · intro hflag
      rw [← hflag]

theorem expectOffer_rtpSession (d : DialogMedia) :
    d.expectOffer.rtpSession.map RTPObject.uncounted = d.rtpSession.map RTPObject.uncounted ∧
      d.expectOffer.rtpSession.any RTPObject.monitoring =
        d.rtpSession.any RTPObject.monitoring := by
  cases hrtp : d.rtpSession with
  | none => simp [expectOffer, changeSession, hrtp]
  | some r =>
    simp only [expectOffer, changeSession, hrtp, Option.map_some, Option.some.injEq]
    split_ifs <;> exact ⟨rfl, rfl⟩

theorem expectOffer_snapshot_iff : d.expectOffer.snapshot = d.snapshot ↔ d.ExpectsOffer := by
  rw [← expectOffer_mediaSession_iff]
  obtain ⟨hrtp, hmonitored⟩ := d.expectOffer_rtpSession
  constructor
  · intro hsame
    exact congrArg Snapshot.mediaSession hsame
  · intro hmedia
    simp only [snapshot, hmedia, hrtp, hmonitored]
    rfl

theorem expectOffer_silent : d.expectOffer.Silent ↔ d.Silent := by
  cases hrtp : d.rtpSession with
  | none => simp [expectOffer, changeSession, Silent, hrtp]
  | some r =>
    simp only [expectOffer, changeSession, Silent, hrtp, Option.map_some, Option.mem_def,
      forall_eq', Option.some.injEq]
    split_ifs <;> exact Iff.rfl

end DialogMedia

theorem Leaves.offer_snapshot_iff {d d' : DialogMedia} {s : Stage} (h : Leaves d.expectOffer s d') :
    d'.snapshot = d.snapshot ↔ s.Harmless d ∧ d.ExpectsOffer := by
  have hharmless : s.Harmless d.expectOffer ↔ s.Harmless d := by
    simp only [Stage.Harmless, DialogMedia.expectOffer_silent]
  rw [← hharmless, ← h.snapshot_iff]
  constructor
  · intro hsame
    have hstage : s ≠ .swapped := by
      rintro rfl
      refine h.rtpSession_ne ((congrArg Snapshot.rtpSession hsame).trans ?_)
      exact d.expectOffer_rtpSession.1.symm
    have hmedia : d.ExpectsOffer := by
      rw [← DialogMedia.expectOffer_mediaSession_iff, ← h.mediaSession hstage]
      exact congrArg Snapshot.mediaSession hsame
    exact ⟨hsame.trans (DialogMedia.expectOffer_snapshot_iff.mpr hmedia).symm, hmedia⟩
  · rintro ⟨hsame, hmedia⟩
    exact hsame.trans (DialogMedia.expectOffer_snapshot_iff.mpr hmedia)

/-! ## Where an update fails -/

/-- A re-INVITE, the ACK to a 2xx, or a session put in place of the installed one. -/
inductive Update
  | reInvite (cseq : UInt32) (body : Bytes)
  | ack (ack : Ack)
  | replace (msess : Object MediaSession)

/-- How an update fails: a re-INVITE is turned away before its offer is looked at, or there is an
error. -/
inductive Failure
  | turnedAway
  | reached (s : Stage)

def Result.failure {α : Type} (r : Result α) : Option Failure := r.stage.map .reached

def Answer.failure : Answer → Option Failure
  | .refused _ none => some .turnedAway
  | .refused _ (some e) => some (.reached e.stage)
  | _ => none

@[simp] theorem Result.failure_eq_reached {α : Type} {r : Result α} {s : Stage} :
    r.failure = some (.reached s) ↔ r.stage = some s := by
  simp [Result.failure]

theorem refusal_failure (e : UpdateErr) : (refusal e).failure = some (.reached e.stage) := by
  unfold refusal
  split <;> rfl

@[simp] theorem refusal_failure_iff {e : UpdateErr} {s : Stage} :
    (refusal e).failure = some (.reached s) ↔ s = e.stage := by
  rw [refusal_failure, Option.some.injEq, Failure.reached.injEq, eq_comm]

section Lib
variable [UnicodeCase] [SrtpLib]

def Update.apply (env : Env) (d : DialogMedia) : Update → Option Failure × DialogMedia
  | .reInvite cseq body =>
    let r := handleMediaUpdate env cseq body d
    (r.1.failure, r.2)
  | .ack a =>
    let r := applyAckAnswer env a d
    (r.1.failure, r.2)
  | .replace msess =>
    let r := replaceRTPSession env.toSocketEnv msess d
    (r.1.failure, r.2)

def Rejects (env : Env) (body : Bytes) (s : MediaSession) : Prop :=
  ∃ e, applyRemote env body s = .failed e

def offerFork (cur : Object MediaSession) : MediaSession :=
  ({ cur.val with remoteSDPIsAnswer := false } : MediaSession).fork

/-- The offer of a re-INVITE cannot be applied, or the fork not be installed; a handshake comes only
after the 2xx. -/
def OfferFails (env : Env) (body : Bytes) (cur : Object MediaSession) (d : DialogMedia)
    (s : Stage) : Prop :=
  Rejects env body (offerFork cur) ∧ s = .kept ∨
    ∃ t, applyRemote env body (offerFork cur) = .done t ∧ t.finalizePending = false ∧
      ReplaceFails env.toSocketEnv ⟨d.fresh, t⟩ d.expectOffer s

/-- The fork is on sockets of its own, which cannot be closed. -/
def DiscardFails (env : SocketEnv) (msess : MediaSession) (d : DialogMedia) : Prop :=
  d.mediaSession.all (fun cur => moved cur.val msess) ∧ env.closesFork = false

/-- The handshake fails, the dialog has ended after it, or the fork cannot be installed. -/
def FinalizeFails (env : Env) (msess : Object MediaSession) (d : DialogMedia) (s : Stage) : Prop :=
  match msess.val.finalizeContext env.handshake env.stop with
  | (.error _, _) => s = .kept
  | (.ok _, t) => Ended env d ∧ s = .kept ∨
      ¬Ended env d ∧ ReplaceFails env.toSocketEnv { msess with val := t } d s

def InstallFails (env : Env) (msess : Object MediaSession) (d : DialogMedia) (s : Stage) : Prop :=
  if msess.val.finalizePending then FinalizeFails env msess d s
  else ReplaceFails env.toSocketEnv msess d s

/-- The fork cannot be discarded without an answer; or the answer cannot be applied to it, or it not
be installed. -/
def AnswerFails (env : Env) (ack : Ack) (fork : Object MediaSession) (d : DialogMedia)
    (s : Stage) : Prop :=
  ack.Unanswered d ∧ DiscardFails env.toSocketEnv fork.val d ∧ s = .kept ∨
    ¬ack.Unanswered d ∧
      (Rejects env ack.body (answered fork) ∧ s = .kept ∨
        ∃ t, applyRemote env ack.body (answered fork) = .done t ∧
          InstallFails env { fork with val := t } d s)

def Update.FailsAt (env : Env) (d : DialogMedia) (s : Stage) : Update → Prop
  | .reInvite _ body => d.closed = false ∧ d.mediaUpdating = false ∧
      (d.mediaSession = none ∧ s = .kept ∨
        body ≠ [] ∧ ∃ cur ∈ d.mediaSession, OfferFails env body cur d s)
  | .ack a => ∃ offer ∈ d.ackOffer, a.cseq = some offer.cseq ∧ AnswerFails env a offer.msess d s
  | .replace msess => ReplaceFails env.toSocketEnv msess d s

/-- What has changed by this stage of an update had that value before. -/
def Update.Spares (d : DialogMedia) (s : Stage) : Update → Prop
  | .reInvite _ _ => s.Harmless d ∧ d.ExpectsOffer
  | _ => s.Harmless d

variable {env : Env} {d : DialogMedia} {s : Stage}

theorem applyRemote_stage {sess : MediaSession} {e : UpdateErr}
    (h : applyRemote env body sess = .failed e) : e.stage = .kept := by
  unfold applyRemote at h
  split at h <;> cases h
  rfl

omit [UnicodeCase] [SrtpLib] in
theorem handshaken_of_not_ended (h : ¬Ended env d) : d.handshaken env = d := by
  rw [Ended, DialogMedia.handshaken, not_or, Bool.not_eq_true, Bool.or_eq_false_iff] at h
  obtain ⟨⟨hopen, hcloses⟩, -⟩ := h
  rw [DialogMedia.handshaken, hcloses, Bool.or_false]

omit [UnicodeCase] in
theorem finalizeAndReplace_stage_iff {msess : Object MediaSession} :
    (finalizeAndReplace env msess d).1.stage = some s ↔ FinalizeFails env msess d s := by
  unfold finalizeAndReplace FinalizeFails
  rcases msess.val.finalizeContext env.handshake env.stop with ⟨_ | _, t⟩
  · simp [UpdateErr.stage]
  · dsimp only
    by_cases hended : Ended env d
    · rw [if_pos hended]
      simp [UpdateErr.stage, hended]
    · rw [if_neg hended, handshaken_of_not_ended hended, replaceRTPSession_stage_iff]
      simp [hended]

omit [UnicodeCase] in
theorem finalizeAndReplace_snapshot_iff {msess : Object MediaSession}
    (h : FinalizeFails env msess d s) :
    (finalizeAndReplace env msess d).2.snapshot = d.snapshot ↔ s.Harmless d := by
  unfold finalizeAndReplace
  unfold FinalizeFails at h
  rcases hrun : msess.val.finalizeContext env.handshake env.stop with ⟨_ | _, t⟩
  · rw [hrun] at h
    obtain rfl := h
    exact Leaves.kept.snapshot_iff
  · rw [hrun] at h
    dsimp only
    obtain ⟨hended, rfl⟩ | ⟨hended, hfails⟩ := h
    · rw [if_pos hended]
      exact Leaves.kept.snapshot_iff
    · rw [if_neg hended, handshaken_of_not_ended hended]
      exact (replaceRTPSession_leaves hfails).snapshot_iff

omit [UnicodeCase] [SrtpLib] in
theorem discardFork_stage_iff {env : SocketEnv} {msess : MediaSession} :
    (discardFork env msess d).stage = some s ↔ DiscardFails env msess d ∧ s = .kept := by
  unfold discardFork DiscardFails
  split_ifs with hclose
  · simp [UpdateErr.stage, hclose]
  · simp [hclose]

theorem applyAnswer_stage_iff {fork : Object MediaSession} :
    (applyAnswer env ack fork d).1.stage = some s ↔ AnswerFails env ack fork d s := by
  unfold applyAnswer AnswerFails
  by_cases hdrop : ack.Unanswered d
  · rw [if_pos hdrop]
    simp [discardFork_stage_iff, hdrop]
  rw [if_neg hdrop]
  cases happly : applyRemote env ack.body (answered fork) with
  | failed e => simp [Rejects, happly, hdrop, applyRemote_stage happly]
  | panicked => simp [Rejects, happly, hdrop]
  | done t =>
    by_cases hpending : t.finalizePending = true
    · simp [Rejects, InstallFails, happly, hdrop, hpending, finalizeAndReplace_stage_iff]
    · simp [Rejects, InstallFails, happly, hdrop, hpending, replaceRTPSession_stage_iff]

theorem applyAnswer_snapshot_iff {fork : Object MediaSession} (h : AnswerFails env ack fork d s) :
    (applyAnswer env ack fork d).2.snapshot = d.snapshot ↔ s.Harmless d := by
  unfold applyAnswer
  obtain ⟨hdrop, -, rfl⟩ | ⟨hdrop, ⟨⟨e, happly⟩, rfl⟩ | ⟨t, happly, hfails⟩⟩ := h
  · rw [if_pos hdrop]
    exact Leaves.kept.snapshot_iff
  · rw [if_neg hdrop, happly]
    exact Leaves.kept.snapshot_iff
  · rw [if_neg hdrop, happly]
    unfold InstallFails at hfails
    dsimp only at hfails ⊢
    split_ifs at hfails ⊢
    · exact finalizeAndReplace_snapshot_iff hfails
    · exact (replaceRTPSession_leaves hfails).snapshot_iff

theorem applyAckAnswer_eq {offer : AckOffer} (hoffer : d.ackOffer = some offer)
    (hcseq : ack.cseq = some offer.cseq) :
    (applyAckAnswer env ack d).1.stage =
        (applyAnswer env ack offer.msess { d with ackOffer := none }).1.stage ∧
      (applyAckAnswer env ack d).2 =
        (applyAnswer env ack offer.msess { d with ackOffer := none }).2 := by
  unfold applyAckAnswer
  rw [hoffer]
  dsimp only
  rw [if_neg (not_not.mpr hcseq)]
  rcases applyAnswer env ack offer.msess { d with ackOffer := none } with ⟨_ | _ | _, d'⟩ <;>
    exact ⟨rfl, rfl⟩

theorem applyAckAnswer_stage_iff :
    (applyAckAnswer env ack d).1.stage = some s ↔ (Update.ack ack).FailsAt env d s := by
  have hnone : ∀ fork, AnswerFails env ack fork { d with ackOffer := none } s ↔
      AnswerFails env ack fork d s := fun _ => Iff.rfl
  cases hoffer : d.ackOffer with
  | none => simp [applyAckAnswer, Update.FailsAt, hoffer]
  | some offer =>
    by_cases hcseq : ack.cseq = some offer.cseq
    · rw [(applyAckAnswer_eq hoffer hcseq).1, applyAnswer_stage_iff, hnone]
      simp [Update.FailsAt, hoffer, hcseq]
    · simp [applyAckAnswer, Update.FailsAt, hoffer, hcseq]

theorem applyAckAnswer_snapshot_iff (h : (Update.ack ack).FailsAt env d s) :
    (applyAckAnswer env ack d).2.snapshot = d.snapshot ↔ s.Harmless d := by
  obtain ⟨offer, hoffer, hcseq, hfails⟩ := h
  rw [(applyAckAnswer_eq hoffer hcseq).2]
  exact applyAnswer_snapshot_iff (d := { d with ackOffer := none }) hfails

theorem sdpReInvite_none (h : d.mediaSession = none) :
    sdpReInvite env body d = (.failed .noMediaSession, d) := by
  simp [sdpReInvite, DialogMedia.expectOffer, DialogMedia.changeSession, h]

theorem sdpReInvite_some (h : d.mediaSession = some cur) :
    sdpReInvite env body d =
      match applyRemote env body (offerFork cur) with
      | .done t => (.done ⟨d.fresh, t⟩, d.expectOffer)
      | .failed e => (.failed e, d.expectOffer)
      | .panicked => (.panicked, d.expectOffer) := by
  simp [sdpReInvite, DialogMedia.expectOffer, DialogMedia.changeSession, h]
  rfl

theorem answerNewAssociation_failure (env : Env) (msess : Object MediaSession) (d : DialogMedia) :
    (answerNewAssociation env msess d).1.failure = none := by
  unfold answerNewAssociation
  dsimp only
  split_ifs
  · rfl
  · rfl
  · split <;> rfl

theorem applyOffer_failure_iff (hcur : d.mediaSession = some cur) :
    (applyOffer env body d).1.failure = some (.reached s) ↔ OfferFails env body cur d s := by
  unfold applyOffer OfferFails
  rw [sdpReInvite_some hcur]
  cases happly : applyRemote env body (offerFork cur) with
  | failed e => simp [Rejects, happly, applyRemote_stage happly]
  | panicked => simp [Answer.failure, Rejects, happly]
  | done t =>
    dsimp only
    by_cases hpending : t.finalizePending = true
    · simp [answerNewAssociation_failure, Rejects, happly, hpending]
    rw [if_neg hpending]
    simp only [Rejects, happly, reduceCtorEq, exists_false, false_and, false_or,
      Result.done.injEq, exists_eq_left', Bool.not_eq_true] at hpending ⊢
    rw [← replaceRTPSession_stage_iff]
    rcases replaceRTPSession env.toSocketEnv ⟨d.fresh, t⟩ d.expectOffer with ⟨_ | _ | _, d'⟩
    · simp [Answer.failure]
    · simp [hpending]
    · simp [Answer.failure]

theorem applyOffer_leaves (hcur : d.mediaSession = some cur) (h : OfferFails env body cur d s) :
    Leaves d.expectOffer s (applyOffer env body d).2 := by
  unfold applyOffer
  rw [sdpReInvite_some hcur]
  obtain ⟨⟨e, happly⟩, rfl⟩ | ⟨t, happly, hpending, hfails⟩ := h
  · rw [happly]
    exact .kept
  · have hleaves := replaceRTPSession_leaves hfails
    have hstage := replaceRTPSession_stage_iff.mpr hfails
    rw [happly]
    dsimp only
    rw [if_neg (by simp [hpending])]
    rcases hreplace : replaceRTPSession env.toSocketEnv ⟨d.fresh, t⟩ d.expectOffer with
      ⟨_ | _ | _, d'⟩
    · simp [hreplace] at hstage
    · simpa only [hreplace] using hleaves
    · simp [hreplace] at hstage

theorem handleMediaUpdate_failure_iff :
    (handleMediaUpdate env cseq body d).1.failure = some (.reached s) ↔
      (Update.reInvite cseq body).FailsAt env d s := by
  unfold handleMediaUpdate Update.FailsAt
  by_cases hclosed : d.closed = true
  · simp [Answer.failure, hclosed]
  by_cases hupdating : d.mediaUpdating = true
  · simp [Answer.failure, hclosed, hupdating]
  rw [if_neg hclosed, if_neg hupdating]
  rw [Bool.not_eq_true] at hclosed hupdating
  cases hcur : d.mediaSession with
  | none =>
    by_cases hbody : body = []
    · simp [requestOffer, Answer.failure, UpdateErr.stage, hclosed, hupdating, hbody, hcur, eq_comm]
    · simp [applyOffer, sdpReInvite_none hcur, UpdateErr.stage, hclosed, hupdating, hbody]
  | some cur =>
    by_cases hbody : body = []
    · simp [requestOffer, Answer.failure, hbody, hcur]
    · simp [applyOffer_failure_iff hcur, hclosed, hupdating, hbody]

theorem handleMediaUpdate_snapshot_iff (h : (Update.reInvite cseq body).FailsAt env d s) :
    (handleMediaUpdate env cseq body d).2.snapshot = d.snapshot ↔
      s.Harmless d ∧ d.ExpectsOffer := by
  obtain ⟨hclosed, hupdating, ⟨hnone, rfl⟩ | ⟨hbody, cur, hcur, hfails⟩⟩ := h
  · have hkeeps : (handleMediaUpdate env cseq body d).2 = d := by
      simp only [handleMediaUpdate, hclosed, hupdating, requestOffer, applyOffer,
        sdpReInvite_none hnone, hnone]
      split_ifs <;> rfl
    have hexpects : d.ExpectsOffer := by simp [DialogMedia.ExpectsOffer, hnone]
    rw [hkeeps]
    exact iff_of_true rfl ⟨.inl rfl, hexpects⟩
  · have happly : handleMediaUpdate env cseq body d = applyOffer env body d := by
      simp [handleMediaUpdate, hclosed, hupdating, hbody]
    rw [happly]
    exact (applyOffer_leaves hcur hfails).offer_snapshot_iff

/-- How an offer is answered: by the refusal of an error of its description or of the replacement,
or by a 2xx. -/
inductive AnswersOffer (env : Env) (body : Bytes) (d : DialogMedia) : Answer → Prop
  | rejected {e : UpdateErr} (h : (sdpReInvite env body d).1 = .failed e) :
      AnswersOffer env body d (refusal e)
  | unreplaced {msess : Object MediaSession} {d' : DialogMedia} {e : UpdateErr}
      (h : (replaceRTPSession env.toSocketEnv msess d').1 = .failed e) :
      AnswersOffer env body d (refusal e)
  | accepted (after : Option UpdateErr) : AnswersOffer env body d (.accepted after)
  | panicked : AnswersOffer env body d .panicked

theorem answerNewAssociation_answers (env : Env) (body : Bytes) (msess : Object MediaSession)
    (d d' : DialogMedia) : AnswersOffer env body d (answerNewAssociation env msess d').1 := by
  unfold answerNewAssociation
  dsimp only
  split_ifs
  · exact .accepted _
  · exact .accepted _
  · split
    · exact .accepted _
    · exact .accepted _
    · exact .panicked

theorem applyOffer_answers (env : Env) (body : Bytes) (d : DialogMedia) :
    AnswersOffer env body d (applyOffer env body d).1 := by
  unfold applyOffer
  rcases hre : sdpReInvite env body d with ⟨msess | e | _, d'⟩
  · dsimp only
    split_ifs
    · exact answerNewAssociation_answers env body msess d d'
    · rcases hreplace : replaceRTPSession env.toSocketEnv msess d' with ⟨_ | e | _, d''⟩
      · exact .accepted none
      · have hfailed : (replaceRTPSession env.toSocketEnv msess d').1 = .failed e := by
          rw [hreplace]
        exact .unreplaced hfailed
      · exact .panicked
  · exact .rejected (by rw [hre])
  · exact .panicked

theorem applyOffer_not_turnedAway :
    (applyOffer env body d).1.failure ≠ some .turnedAway := by
  have hanswers := applyOffer_answers env body d
  generalize (applyOffer env body d).1 = answer at hanswers ⊢
  cases hanswers with
  | rejected h => simp [refusal_failure]
  | unreplaced h => simp [refusal_failure]
  | accepted after => simp [Answer.failure]
  | panicked => simp [Answer.failure]

theorem handleMediaUpdate_turnedAway
    (h : (handleMediaUpdate env cseq body d).1.failure = some .turnedAway) :
    (handleMediaUpdate env cseq body d).2 = d := by
  unfold handleMediaUpdate at h ⊢
  split_ifs at h ⊢ with hclosed hupdating hbody
  · rfl
  · rfl
  · cases hcur : d.mediaSession <;> simp [requestOffer, Answer.failure, hcur] at h
  · exact absurd h applyOffer_not_turnedAway

namespace Update

variable {u : Update}

theorem apply_reached_iff : (u.apply env d).1 = some (.reached s) ↔ u.FailsAt env d s := by
  cases u with
  | reInvite cseq body => exact handleMediaUpdate_failure_iff
  | ack a => exact Result.failure_eq_reached.trans applyAckAnswer_stage_iff
  | replace msess => exact Result.failure_eq_reached.trans replaceRTPSession_stage_iff

theorem apply_snapshot_iff (h : u.FailsAt env d s) :
    (u.apply env d).2.snapshot = d.snapshot ↔ u.Spares d s := by
  cases u with
  | reInvite cseq body => exact handleMediaUpdate_snapshot_iff h
  | ack a => exact applyAckAnswer_snapshot_iff h
  | replace msess => exact (replaceRTPSession_leaves h).snapshot_iff

theorem apply_turnedAway (h : (u.apply env d).1 = some .turnedAway) : (u.apply env d).2 = d := by
  cases u with
  | reInvite cseq body => exact handleMediaUpdate_turnedAway h
  | ack a => simp [Update.apply, Result.failure] at h
  | replace msess => simp [Update.apply, Result.failure] at h

end Update

/-- A media update that fails leaves the media as it was exactly if, wherever it fails with an
error, it fails before it stops the monitor, or before the swap with the installed RTP session
closed and its monitor stopped already; and, for a re-INVITE, the installed session expected an
offer. -/
theorem failed_update_leaves_media_iff (env : Env) (d : DialogMedia) (u : Update) :
    ((u.apply env d).1 ≠ none → (u.apply env d).2.snapshot = d.snapshot) ↔
      ∀ s, u.FailsAt env d s → u.Spares d s := by
  constructor
  · intro hkeeps s hs
    have hfailure := Update.apply_reached_iff.mpr hs
    exact (Update.apply_snapshot_iff hs).mp (hkeeps (by simp [hfailure]))
  · intro hspares hfails
    obtain ⟨_ | s, hf⟩ := Option.ne_none_iff_exists'.mp hfails
    · rw [Update.apply_turnedAway hf]
    · have hs := Update.apply_reached_iff.mp hf
      exact (Update.apply_snapshot_iff hs).mpr (hspares s hs)

end Lib

section Sample

attribute [local instance] asciiOnly documentedSrtp

def answeredSession : MediaSession :=
  (MediaSession.remoteSDP {} plainRemote (audioBody (lit "RTP/AVP") [])
    { plainSession with remoteSDPIsAnswer := true }).2

def placedCall : DialogMedia :=
  { mediaSession := some ⟨0, answeredSession⟩
    rtpSession := some ⟨1, 0, { sess := answeredSession, monitorRun := true }, true⟩
    rtpPacketReader := 1
    rtpPacketWriter := 1 }

def workingEnv : Env :=
  { remote := plainRemote
    offer := ⟨0x100000000, fun _ => 0, 4, sameLetter 0⟩
    handshake := handshake true }

/-- A re-INVITE with a body that is no description is refused, and the installed session now
expects an offer. -/
theorem refused_offer_changes_session :
    ((Update.reInvite 2 (lit "x")).apply workingEnv placedCall).1 ≠ none ∧
      ((Update.reInvite 2 (lit "x")).apply workingEnv placedCall).2.snapshot ≠
        placedCall.snapshot := by
  have hrefused : ((Update.reInvite 2 (lit "x")).apply workingEnv placedCall).1.isSome = true := by
    decide +kernel
  have hbefore : placedCall.snapshot.mediaSession.map (·.val.remoteSDPIsAnswer) = some true := by
    decide +kernel
  have hafter : ((Update.reInvite 2 (lit "x")).apply workingEnv
      placedCall).2.snapshot.mediaSession.map (·.val.remoteSDPIsAnswer) = some false := by
    decide +kernel
  refine ⟨Option.isSome_iff_ne_none.mp hrefused, ?_⟩
  intro hsame
  rw [hsame, hbefore] at hafter
  cases hafter

end Sample

end Diago.Dialog.MediaUpdate
