import Diago.Media.Codec
import Diago.Lib.Run

/-! # Joining and leaving a mix

Joins, leaves and media updates stop the mix, change the bridge and start the mix
again. The stop gives the lock up while the mix drains, so that any number of them
run at once; every event here is one critical section, or a goroutine of the mix
going on. Only the caller that stopped the mix takes the bridge out of the stop,
and starts the next mix in the same critical section.
-/
namespace Diago.Bridge
open Lib Media

inductive MixState
  | idle
  | running
  | stopping
  deriving DecidableEq, Repr

inductive RTPControl
  | done
  | closed
  | failed
  deriving DecidableEq, Repr

/-- A closed connection has no read to start or stop. -/
def bridgeRTPControlErr : RTPControl → Bool
  | .failed => true
  | _ => false

def bridgeSameAudio (a b : Codec) : Bool := a.sampleRate = b.sampleRate && a.sampleDur = b.sampleDur

def noCodec : Codec := ⟨[], 0, 0, 0, 0⟩

/-- What the dialogs answer in one critical section. -/
structure Env (Dialog : Type) where
  answered : Dialog → Bool
  hasMedia : Dialog → Bool
  audioReaderProps : Dialog → Codec
  audioReaderWriterProps : Dialog → Option Codec
  initCoders : Dialog → Bool
  stopRTP : Dialog → RTPControl
  startRTP : Dialog → RTPControl

inductive StreamError
  | noReaderWriter
  | codecMismatch
  | noCoder
  deriving DecidableEq, Repr

def addDialogStream {Dialog : Type} (env : Env Dialog) (mixCodec : Codec) (d : Dialog) :
    Except StreamError Codec :=
  match env.audioReaderWriterProps d with
  | none => .error .noReaderWriter
  | some codec =>
    if bridgeSameAudio codec mixCodec then
      if env.initCoders d then .ok codec else .error .noCoder
    else .error .codecMismatch

structure BridgeMix (Dialog ID : Type) where
  dialogs : List Dialog := []
  mixState : MixState := .idle
  /-- The channel of the last stop, as the number of stops so far. -/
  mixStopped : ℕ := 0
  mixCodec : Codec := noCodec
  streamCodecs : ID → Option Codec := fun _ => none
  /-- The dialogs whose media update hooks are set. -/
  unhooks : ID → Option Dialog := fun _ => none
  waitDialogsNum : ℤ := 0
  poll : Bool := true

/-- What mixStart returns and the goroutines it starts. -/
structure Started (ID : Type) where
  notMixed : List (ID × StreamError) := []
  readers : ℕ := 0
  loops : ℕ := 0

section Bridge

variable {Dialog ID : Type} [DecidableEq ID] (dialogID : Dialog → ID)

namespace BridgeMix

variable (b : BridgeMix Dialog ID)

def ids : List ID := b.dialogs.map dialogID

def unhookUnsafe (i : ID) : BridgeMix Dialog ID :=
  { b with unhooks := Function.update b.unhooks i none }

/-- The audio of the last mix while a dialog still has it, or that of the first dialog. -/
def nextCodec (env : Env Dialog) : Codec :=
  let codecs := b.dialogs.map env.audioReaderProps
  if codecs.any (bridgeSameAudio · b.mixCodec) then b.mixCodec else codecs.headD noCodec

/-- Why each dialog that can not be mixed can not. -/
def unmixable (env : Env Dialog) (mixCodec : Codec) : List (ID × StreamError) :=
  b.dialogs.filterMap fun d =>
    match addDialogStream env mixCodec d with
    | .error err => some (dialogID d, err)
    | .ok _ => none

def streams (env : Env Dialog) (mixCodec : Codec) : List (ID × Codec) :=
  b.dialogs.filterMap fun d =>
    match addDialogStream env mixCodec d with
    | .error _ => none
    | .ok codec => some (dialogID d, codec)

def takeOut (out : List ID) : BridgeMix Dialog ID :=
  { out.foldl unhookUnsafe b with dialogs := b.dialogs.filter fun d => dialogID d ∉ out }

def mixStart (env : Env Dialog) : BridgeMix Dialog ID × Started ID :=
  if b.mixState = .stopping then (b, {}) else
  let b := { b with streamCodecs := fun _ => none }
  if b.dialogs = [] then ({ b with mixCodec := noCodec }, {}) else
  if (b.dialogs.length : ℤ) < b.waitDialogsNum then (b, {}) else
  let mixCodec := b.nextCodec env
  let notMixed := b.unmixable dialogID env mixCodec
  let streams := b.streams dialogID env mixCodec
  let b := b.takeOut dialogID (notMixed.map Prod.fst)
  if b.dialogs = [] then ({ b with mixCodec := noCodec }, { notMixed := notMixed }) else
  if (b.dialogs.length : ℤ) < b.waitDialogsNum then (b, { notMixed := notMixed }) else
  ({ b with
      mixCodec := mixCodec
      streamCodecs := streams.foldl (fun m s => Function.update m s.1 (some s.2)) fun _ => none
      mixState := .running },
    { notMixed := notMixed, readers := if b.poll then streams.length else 0, loops := 1 })

/-- Stops the reads of every dialog; whether one of them reported an error. -/
def mixStop (env : Env Dialog) : BridgeMix Dialog ID × Bool :=
  ({ b with mixState := .stopping, mixStopped := b.mixStopped + 1 },
    b.dialogs.any fun d => bridgeRTPControlErr (env.stopRTP d))

def holds (d : Dialog) : Bool := b.dialogs.any fun e => dialogID e = dialogID d

def join (d : Dialog) : BridgeMix Dialog ID :=
  { b with
    dialogs := b.dialogs ++ [d]
    unhooks := Function.update b.unhooks (dialogID d) (some d) }

def leave (d : Dialog) : BridgeMix Dialog ID :=
  if b.holds dialogID d then
    { b.unhookUnsafe (dialogID d) with
      dialogs := b.dialogs.eraseP fun e => dialogID e = dialogID d }
  else b

end BridgeMix

/-- AddDialogSession, RemoveDialogSession and mediaUpdated of a dialog. -/
inductive Call (Dialog : Type)
  | add (d : Dialog)
  | remove (d : Dialog)
  | mediaUpdated (d : Dialog)

inductive Outcome
  | ok
  | notAnswered
  | noMedia
  | stopFailed
  | alreadyIn
  | notMixed (err : StreamError)
  deriving DecidableEq, Repr

namespace Call

def early (env : Env Dialog) (b : BridgeMix Dialog ID) : Call Dialog → Option Outcome
  | .add d =>
    if env.answered d = false then some .notAnswered
    else if env.hasMedia d = false then some .noMedia
    else none
  | .remove d => if b.holds dialogID d then none else some .ok
  | .mediaUpdated d =>
    match b.streamCodecs (dialogID d) with
    | none => some .ok
    | some mixedWith => if env.audioReaderProps d = mixedWith then some .ok else none

def amend (failed : Bool) (b : BridgeMix Dialog ID) : Call Dialog → BridgeMix Dialog ID
  | .add d => if failed ∨ b.holds dialogID d then b else b.join dialogID d
  | .remove d => b.leave dialogID d
  | .mediaUpdated _ => b

def outcome (failed : Bool) (b : BridgeMix Dialog ID) (s : Started ID) : Call Dialog → Outcome
  | .add d =>
    if failed then .stopFailed
    else if b.holds dialogID d then .alreadyIn
    else
      match s.notMixed.lookup (dialogID d) with
      | some err => .notMixed err
      | none => .ok
  | .remove _ => if failed then .stopFailed else .ok
  | .mediaUpdated _ => .ok

end Call

/-- Where a caller stands when it does not hold the lock. Inside the stop, `stopped` are the dialogs
whose reads it stopped. -/
inductive Phase (Dialog : Type)
  | idle
  /-- It waits for the end of another caller's stop. -/
  | awaiting (call : Call Dialog) (stop : ℕ)
  /-- It is inside mixWG.Wait. -/
  | waiting (call : Call Dialog) (stopped : List Dialog) (failed : Bool)
  /-- mixWG.Wait has returned. -/
  | drained (call : Call Dialog) (stopped : List Dialog) (failed : Bool)
  | returned (outcome : Outcome)

/-- The dialogs whose reads a caller stopped and has not started again, inside a stop. -/
def Phase.stopped : Phase Dialog → Option (List Dialog)
  | .waiting _ stopped _ | .drained _ stopped _ => some stopped
  | _ => none

structure System (Dialog ID : Type) where
  bridge : BridgeMix Dialog ID
  /-- The stops whose channels are closed. -/
  closed : ℕ → Bool := fun _ => false
  mixWG : ℕ := 0
  /-- The mix loops that have not come to mixEnded. -/
  loops : ℕ := 0
  /-- The mix loops between mixEnded and mixWG.Done. -/
  ending : ℕ := 0
  readers : ℕ := 0
  callers : ℕ → Phase Dialog := fun _ => .idle
  /-- The caller that set the stopping state last. -/
  stopper : Option ℕ := none

/-- The critical sections of caller `c`, its return from mixWG.Wait, and the goroutines. -/
inductive Event (Dialog : Type)
  | call (c : ℕ) (call : Call Dialog) (env : Env Dialog)
  | wake (c : ℕ) (env : Env Dialog)
  | drain (c : ℕ)
  | finish (c : ℕ) (env : Env Dialog)
  | mixEnded
  | loopDone
  | readerDone

inductive Effect (Dialog : Type)
  | stopRTP (c : ℕ) (d : Dialog)
  | startRTP (c : ℕ) (d : Dialog)
  | add

namespace System

variable (x : System Dialog ID)

def setPhase (c : ℕ) (p : Phase Dialog) : System Dialog ID :=
  { x with callers := Function.update x.callers c p }

def mixStop (env : Env Dialog) (c : ℕ) (call : Call Dialog) : System Dialog ID :=
  { x.setPhase c (.waiting call x.bridge.dialogs (x.bridge.mixStop env).2) with
    bridge := (x.bridge.mixStop env).1
    stopper := some c }

/-- mixStopWait up to mixWG.Wait, or up to the wait for another caller's stop. -/
def stopWait (env : Env Dialog) (c : ℕ) (call : Call Dialog) :
    System Dialog ID × List (Effect Dialog) :=
  if x.bridge.mixState = .stopping then
    (x.setPhase c (.awaiting call x.bridge.mixStopped), [])
  else (x.mixStop env c call, x.bridge.dialogs.map (.stopRTP c))

/-- The bridge as mixStopWait leaves it. -/
def unstopped : BridgeMix Dialog ID := { x.bridge with mixState := .idle }

def launch (s : Started ID) : System Dialog ID :=
  { x with
    mixWG := x.mixWG + s.readers + s.loops
    loops := x.loops + s.loops
    readers := x.readers + s.readers }

/-- mixStopWait from mixWG.Wait on, and the rest of the call. -/
def finish (env : Env Dialog) (c : ℕ) (call : Call Dialog) (failed : Bool) :
    System Dialog ID × List (Effect Dialog) :=
  let failed := failed || x.bridge.dialogs.any fun d => bridgeRTPControlErr (env.startRTP d)
  let r := (call.amend dialogID failed x.unstopped).mixStart dialogID env
  ({ (x.launch r.2).setPhase c (.returned (call.outcome dialogID failed x.unstopped r.2)) with
      bridge := r.1
      closed := Function.update x.closed x.bridge.mixStopped true },
    x.bridge.dialogs.map (.startRTP c) ++ List.replicate (r.2.readers + r.2.loops) .add)

def mixEnded : System Dialog ID :=
  { x with
    bridge := { x.bridge with
      mixState := if x.bridge.mixState = .running then .idle else x.bridge.mixState }
    loops := x.loops - 1
    ending := x.ending + 1 }

/-- One event. What cannot happen in the state changes nothing. -/
def act : Event Dialog → System Dialog ID × List (Effect Dialog)
  | .call c call env =>
    match x.callers c with
    | .idle | .returned _ =>
      match call.early dialogID env x.bridge with
      | some outcome => (x.setPhase c (.returned outcome), [])
      | none => x.stopWait env c call
    | _ => (x, [])
  | .wake c env =>
    match x.callers c with
    | .awaiting call stop => if x.closed stop then x.stopWait env c call else (x, [])
    | _ => (x, [])
  | .drain c =>
    match x.callers c with
    | .waiting call stopped failed =>
      if x.mixWG = 0 then (x.setPhase c (.drained call stopped failed), []) else (x, [])
    | _ => (x, [])
  | .finish c env =>
    match x.callers c with
    | .drained call _ failed => x.finish dialogID env c call failed
    | _ => (x, [])
  | .mixEnded => (if 0 < x.loops then x.mixEnded else x, [])
  | .loopDone =>
    (if 0 < x.ending then { x with ending := x.ending - 1, mixWG := x.mixWG - 1 } else x, [])
  | .readerDone =>
    (if 0 < x.readers then { x with readers := x.readers - 1, mixWG := x.mixWG - 1 } else x, [])

def step (e : Event Dialog) : System Dialog ID := (x.act dialogID e).1

def effects (e : Event Dialog) : List (Effect Dialog) := (x.act dialogID e).2

end System

/-! ## The dialogs and their hooks -/

/-- Every dialog is in the bridge once, and the hooks are those of the dialogs. -/
structure BridgeMix.Registered (b : BridgeMix Dialog ID) : Prop where
  unique : (b.ids dialogID).Nodup
  hooks : ∀ i, b.unhooks i ≠ none ↔ i ∈ b.ids dialogID

namespace BridgeMix

variable {dialogID} {b : BridgeMix Dialog ID}

theorem holds_eq_true {d : Dialog} : b.holds dialogID d = true ↔ dialogID d ∈ b.ids dialogID := by
  simp [holds, ids]

theorem foldl_unhookUnsafe (out : List ID) (b : BridgeMix Dialog ID) :
    out.foldl unhookUnsafe b =
      { b with unhooks := fun i => if i ∈ out then none else b.unhooks i } := by
  induction out generalizing b with
  | nil => simp
  | cons o out ih =>
    rw [List.foldl_cons, ih]
    have hhooks : (fun i => if i ∈ out then none else (b.unhookUnsafe o).unhooks i) =
        fun i => if i ∈ o :: out then none else b.unhooks i := by
      funext i
      by_cases ho : i = o
      · simp [unhookUnsafe, ho]
      · simp [unhookUnsafe, ho]
    rw [hhooks]
    rfl

theorem Registered.takeOut (h : b.Registered dialogID) (out : List ID) :
    (b.takeOut dialogID out).Registered dialogID := by
  have hids : (b.takeOut dialogID out).ids dialogID =
      (b.ids dialogID).filter fun i => i ∉ out := by
    simp [BridgeMix.takeOut, ids, List.filter_map, Function.comp_def]
  refine ⟨?_, fun i => ?_⟩
  · rw [hids]
    exact h.unique.filter _
  · rw [hids, List.mem_filter, BridgeMix.takeOut, foldl_unhookUnsafe]
    by_cases hi : i ∈ out
    · simp [hi]
    · simp [hi, ← h.hooks i]

theorem Registered.join (h : b.Registered dialogID) {d : Dialog}
    (hnew : b.holds dialogID d = false) : (b.join dialogID d).Registered dialogID := by
  have hd : dialogID d ∉ b.ids dialogID := fun hd => by simp [holds_eq_true.mpr hd] at hnew
  have hids : (b.join dialogID d).ids dialogID = b.ids dialogID ++ [dialogID d] := by
    simp [BridgeMix.join, ids]
  refine ⟨?_, fun i => ?_⟩
  · rw [hids]
    exact h.unique.append (List.nodup_singleton _) (by simpa using hd)
  · rw [hids, BridgeMix.join]
    by_cases hi : i = dialogID d
    · simp [hi]
    · simp [hi, h.hooks i]

theorem Registered.leave (h : b.Registered dialogID) (d : Dialog) :
    (b.leave dialogID d).Registered dialogID := by
  unfold BridgeMix.leave
  split_ifs
  · have hids : (b.dialogs.eraseP fun e => dialogID e = dialogID d).map dialogID =
        (b.ids dialogID).erase (dialogID d) := by
      rw [List.erase_eq_eraseP', ids, List.eraseP_map]
      rfl
    refine ⟨?_, fun i => ?_⟩
    · rw [ids, hids]
      exact h.unique.erase _
    · rw [ids, hids, h.unique.mem_erase_iff, ← h.hooks i]
      by_cases hi : i = dialogID d
      · simp [unhookUnsafe, hi]
      · simp [unhookUnsafe, hi]
  · exact h

theorem Registered.amend (h : b.Registered dialogID) (failed : Bool) (call : Call Dialog) :
    (call.amend dialogID failed b).Registered dialogID := by
  cases call with
  | add d =>
    simp only [Call.amend]
    split_ifs with hkept
    · exact h
    · exact h.join (by simpa using (not_or.mp hkept).2)
  | remove d => exact h.leave d
  | mediaUpdated d => exact h

theorem Registered.mixStart (h : b.Registered dialogID) (env : Env Dialog) :
    (b.mixStart dialogID env).1.Registered dialogID := by
  have hout : ∀ out, (BridgeMix.takeOut dialogID
      { b with streamCodecs := fun _ => none } out).Registered dialogID :=
    Registered.takeOut { h with }
  unfold BridgeMix.mixStart
  dsimp only
  split_ifs
  · exact h
  · exact { h with }
  · exact { h with }
  · exact { hout _ with }
  · exact hout _
  all_goals exact { hout _ with }

theorem mixStart_loops (dialogID : Dialog → ID) (env : Env Dialog) (b : BridgeMix Dialog ID) :
    (b.mixStart dialogID env).2.loops ≤ 1 := by
  unfold BridgeMix.mixStart
  dsimp only
  split_ifs <;> simp

end BridgeMix

/-! ## Stops -/

namespace System

variable {dialogID} {x y : System Dialog ID} {e : Event Dialog}

inductive Acts (dialogID : Dialog → ID) (x : System Dialog ID) :
    Event Dialog → System Dialog ID × List (Effect Dialog) → Prop
  | rests (e : Event Dialog) : Acts dialogID x e (x, [])
  | moves {c : ℕ} {p : Phase Dialog} (e : Event Dialog) (hwas : (x.callers c).stopped = none)
    (hout : p.stopped = none) : Acts dialogID x e (x.setPhase c p, [])
  | stops {c : ℕ} {call : Call Dialog} {env : Env Dialog} (e : Event Dialog)
    (hwas : (x.callers c).stopped = none) (hfree : x.bridge.mixState ≠ .stopping) :
    Acts dialogID x e (x.mixStop env c call, x.bridge.dialogs.map (.stopRTP c))
  | drains {c : ℕ} {call : Call Dialog} {stopped : List Dialog} {failed : Bool}
    (hwaits : x.callers c = .waiting call stopped failed) (hwg : x.mixWG = 0) :
    Acts dialogID x (.drain c) (x.setPhase c (.drained call stopped failed), [])
  | finishes {c : ℕ} {call : Call Dialog} {stopped : List Dialog} {failed : Bool}
    (env : Env Dialog) (hdrained : x.callers c = .drained call stopped failed) :
    Acts dialogID x (.finish c env) (x.finish dialogID env c call failed)
  | ends (hloops : 0 < x.loops) : Acts dialogID x .mixEnded (x.mixEnded, [])
  | loopDone (hending : 0 < x.ending) :
    Acts dialogID x .loopDone ({ x with ending := x.ending - 1, mixWG := x.mixWG - 1 }, [])
  | readerDone (hreaders : 0 < x.readers) :
    Acts dialogID x .readerDone ({ x with readers := x.readers - 1, mixWG := x.mixWG - 1 }, [])

theorem stopWait_acts {c : ℕ} (e : Event Dialog) (env : Env Dialog) (call : Call Dialog)
    (hwas : (x.callers c).stopped = none) : Acts dialogID x e (x.stopWait env c call) := by
  unfold stopWait
  split_ifs with hstopping
  · exact .moves e hwas rfl
  · exact .stops e hwas hstopping

theorem act_acts (dialogID : Dialog → ID) (x : System Dialog ID) (e : Event Dialog) :
    Acts dialogID x e (x.act dialogID e) := by
  cases e with
  | call c call env =>
    unfold act
    dsimp only
    cases hphase : x.callers c with
    | idle | returned _ =>
      have hwas : (x.callers c).stopped = none := by simp [hphase, Phase.stopped]
      cases hearly : call.early dialogID env x.bridge with
      | none => exact stopWait_acts _ env call hwas
      | some outcome => exact .moves _ hwas rfl
    | _ => exact .rests _
  | wake c env =>
    unfold act
    dsimp only
    cases hphase : x.callers c with
    | awaiting call stop =>
      have hwas : (x.callers c).stopped = none := by simp [hphase, Phase.stopped]
      dsimp only
      split_ifs
      · exact stopWait_acts _ env call hwas
      · exact .rests _
    | _ => exact .rests _
  | drain c =>
    unfold act
    dsimp only
    cases hphase : x.callers c with
    | waiting call stopped failed =>
      dsimp only
      split_ifs with hwg
      · exact .drains hphase hwg
      · exact .rests _
    | _ => exact .rests _
  | finish c env =>
    unfold act
    dsimp only
    cases hphase : x.callers c with
    | drained call stopped failed => exact .finishes env hphase
    | _ => exact .rests _
  | mixEnded =>
    unfold act
    dsimp only
    split_ifs with hloops
    · exact .ends hloops
    · exact .rests _
  | loopDone =>
    unfold act
    dsimp only
    split_ifs with hending
    · exact .loopDone hending
    · exact .rests _
  | readerDone =>
    unfold act
    dsimp only
    split_ifs with hreaders
    · exact .readerDone hreaders
    · exact .rests _

/-- The invariant. Inside a stop stands only the caller that set the stopping state, and the dialogs
are those whose reads it stopped. -/
structure Sound (dialogID : Dialog → ID) (x : System Dialog ID) : Prop where
  registered : x.bridge.Registered dialogID
  stop : ∀ c stopped, (x.callers c).stopped = some stopped →
    x.bridge.mixState = .stopping ∧ x.stopper = some c ∧ stopped = x.bridge.dialogs
  drained : ∀ c call stopped failed, x.callers c = .drained call stopped failed → x.mixWG = 0
  wg : x.mixWG = x.loops + x.ending + x.readers
  one : x.loops + x.ending ≤ 1

omit [DecidableEq ID] in
theorem Sound.outside (h : x.Sound dialogID) (hfree : x.bridge.mixState ≠ .stopping) (c : ℕ) :
    (x.callers c).stopped = none := by
  cases hs : (x.callers c).stopped with
  | none => rfl
  | some stopped => exact absurd (h.stop c stopped hs).1 hfree

omit [DecidableEq ID] in
theorem Sound.alone (h : x.Sound dialogID) {c c' : ℕ} {stopped : List Dialog}
    (hs : (x.callers c).stopped = some stopped) (hc : c' ≠ c) : (x.callers c').stopped = none := by
  cases hs' : (x.callers c').stopped with
  | none => rfl
  | some stopped' =>
    have hboth := (h.stop c' stopped' hs').2.1.symm.trans (h.stop c stopped hs).2.1
    exact absurd (Option.some_inj.mp hboth) hc

omit [DecidableEq ID] in
theorem not_drained {p : Phase Dialog} (h : p.stopped = none) (call : Call Dialog)
    (stopped : List Dialog) (failed : Bool) : p ≠ .drained call stopped failed := by
  rintro rfl
  simp [Phase.stopped] at h

omit [DecidableEq ID] in
@[simp] theorem setPhase_self (x : System Dialog ID) (c : ℕ) (p : Phase Dialog) :
    (x.setPhase c p).callers c = p := Function.update_self ..

omit [DecidableEq ID] in
theorem setPhase_of_ne (x : System Dialog ID) {c c' : ℕ} (p : Phase Dialog) (hc : c' ≠ c) :
    (x.setPhase c p).callers c' = x.callers c' := Function.update_of_ne hc ..

omit [DecidableEq ID] in
theorem Sound.setPhase (h : x.Sound dialogID) (c : ℕ) {p : Phase Dialog} (hout : p.stopped = none) :
    (x.setPhase c p).Sound dialogID := by
  refine { h with stop := fun c' stopped hs => ?_, drained := fun c' call stopped failed hd => ?_ }
  · by_cases hc : c' = c
    · rw [hc, setPhase_self, hout] at hs
      simp at hs
    · rw [setPhase_of_ne x p hc] at hs
      exact h.stop c' stopped hs
  · by_cases hc : c' = c
    · rw [hc, setPhase_self] at hd
      exact absurd hd (not_drained hout call stopped failed)
    · rw [setPhase_of_ne x p hc] at hd
      exact h.drained c' call stopped failed hd

omit [DecidableEq ID] in
theorem Sound.mixStop (h : x.Sound dialogID) (env : Env Dialog) (c : ℕ) (call : Call Dialog)
    (hfree : x.bridge.mixState ≠ .stopping) : (x.mixStop env c call).Sound dialogID := by
  have hself : (x.mixStop env c call).callers c =
      .waiting call x.bridge.dialogs (x.bridge.mixStop env).2 := setPhase_self ..
  have hother : ∀ c', c' ≠ c → ((x.mixStop env c call).callers c').stopped = none := by
    intro c' hc
    have hsame : (x.mixStop env c call).callers c' = x.callers c' := setPhase_of_ne x _ hc
    rw [hsame]
    exact h.outside hfree c'
  refine ⟨{ h.registered with }, fun c' stopped hs => ?_, fun c' call' stopped failed hd => ?_, h.wg,
    h.one⟩
  · by_cases hc : c' = c
    · rw [hc, hself] at hs
      exact ⟨rfl, by rw [hc]; rfl, (Option.some_inj.mp hs).symm⟩
    · simp [hother c' hc] at hs
  · by_cases hc : c' = c
    · rw [hc, hself] at hd
      simp at hd
    · exact absurd hd (not_drained (hother c' hc) call' stopped failed)

omit [DecidableEq ID] in
theorem Sound.drain (h : x.Sound dialogID) {c : ℕ} {call : Call Dialog} {stopped : List Dialog}
    {failed : Bool} (hwaits : x.callers c = .waiting call stopped failed) (hwg : x.mixWG = 0) :
    (x.setPhase c (.drained call stopped failed)).Sound dialogID := by
  refine { h with stop := fun c' stopped' hs => ?_, drained := fun _ _ _ _ _ => hwg }
  by_cases hc : c' = c
  · rw [hc, setPhase_self] at hs
    rw [hc]
    exact h.stop c stopped' (by rw [hwaits]; exact hs)
  · rw [setPhase_of_ne x _ hc] at hs
    exact h.stop c' stopped' hs

/-- The caller that leaves the stop finds no goroutine of a mix, and nobody else is inside one. -/
theorem Sound.finish (h : x.Sound dialogID) {c : ℕ} {call : Call Dialog} {stopped : List Dialog}
    {failed : Bool} (env : Env Dialog) (hdrained : x.callers c = .drained call stopped failed) :
    (x.finish dialogID env c call failed).1.Sound dialogID := by
  have hempty := h.drained c call stopped failed hdrained
  have hwg := h.wg
  have hstops : (x.callers c).stopped = some stopped := by rw [hdrained]; rfl
  unfold System.finish
  dsimp only
  set failed' := failed || x.bridge.dialogs.any fun d => bridgeRTPControlErr (env.startRTP d)
  have hregistered : ((call.amend dialogID failed' x.unstopped).mixStart dialogID env).1.Registered
      dialogID := by
    have hidle : x.unstopped.Registered dialogID := { h.registered with }
    exact (hidle.amend failed' call).mixStart env
  have hloops := BridgeMix.mixStart_loops dialogID env (call.amend dialogID failed' x.unstopped)
  generalize (call.amend dialogID failed' x.unstopped).mixStart dialogID env = r at *
  have hout : ∀ c', (((x.launch r.2).setPhase c
      (.returned (call.outcome dialogID failed' x.unstopped r.2))).callers c').stopped = none := by
    intro c'
    by_cases hc : c' = c
    · rw [hc, setPhase_self]
      rfl
    · rw [setPhase_of_ne _ _ hc]
      exact h.alone hstops hc
  refine ⟨hregistered, fun c' stopped' hs => ?_, fun c' call' stopped' failed'' hd => ?_, ?_, ?_⟩
  · simp [hout c'] at hs
  · exact absurd hd (not_drained (hout c') call' stopped' failed'')
  · simp only [System.setPhase, launch]
    omega
  · simp only [System.setPhase, launch]
    omega

theorem Sound.step (h : x.Sound dialogID) (e : Event Dialog) :
    (x.step dialogID e).Sound dialogID := by
  have hacts := act_acts dialogID x e
  unfold System.step
  generalize x.act dialogID e = r at hacts ⊢
  have hwg := h.wg
  have hone := h.one
  cases hacts with
  | rests => exact h
  | @moves c _ _ _ hout => exact h.setPhase c hout
  | @stops c call env _ _ hfree => exact h.mixStop env c call hfree
  | drains hwaits hempty => exact h.drain hwaits hempty
  | finishes env hdrained => exact h.finish env hdrained
  | ends hloops =>
    refine ⟨{ h.registered with }, fun c stopped hs => ?_, h.drained, ?_, ?_⟩
    · obtain ⟨hstopping, hstopper, hdialogs⟩ := h.stop c stopped hs
      exact ⟨by simp [mixEnded, hstopping], hstopper, hdialogs⟩
    · simp only [mixEnded]
      omega
    · simp only [mixEnded]
      omega
  | loopDone hending =>
    refine { h with drained := fun c call stopped failed hd => ?_, wg := ?_, one := ?_ }
    · have hempty := h.drained c call stopped failed hd
      simp [hempty]
    · simp only
      omega
    · simp only
      omega
  | readerDone hreaders =>
    refine { h with drained := fun c call stopped failed hd => ?_, wg := ?_ }
    · have hempty := h.drained c call stopped failed hd
      simp [hempty]
    · simp only
      omega

/-! ## Whole runs -/

/-- What holds of a bridge and of the next event, whatever it is. -/
structure Kept (dialogID : Dialog → ID) (x : System Dialog ID) (e : Event Dialog) : Prop where
  unique : (x.bridge.ids dialogID).Nodup
  oneLoop : x.loops + x.ending ≤ 1
  /-- The stopping state is cleared by the caller that set it. -/
  cleared : x.bridge.mixState = .stopping → (x.step dialogID e).bridge.mixState ≠ .stopping →
    ∃ c env, e = .finish c env ∧ x.stopper = some c
  /-- Nothing is added to mixWG while a caller waits for it. -/
  noAdd : .add ∈ x.effects dialogID e → ∀ c call stopped failed,
    x.callers c ≠ .waiting call stopped failed
  hooks : x.bridge.mixState ≠ .stopping → ∀ i, x.bridge.unhooks i ≠ none ↔ i ∈ x.bridge.ids dialogID
  /-- A caller that stops the reads of a dialog is inside its stop with it. -/
  stopped : ∀ c d, .stopRTP c d ∈ x.effects dialogID e →
    ∃ ds, ((x.step dialogID e).callers c).stopped = some ds ∧ d ∈ ds
  /-- It does not come out of the stop without starting them again. -/
  restarted : ∀ c ds, (x.callers c).stopped = some ds →
    ((x.step dialogID e).callers c).stopped = some ds ∨ ∀ d ∈ ds, .startRTP c d ∈ x.effects dialogID e
  /-- It does come out once mixWG is empty. -/
  left : x.mixWG = 0 → ∀ c ds env, (x.callers c).stopped = some ds →
    (∃ outcome, ((x.step dialogID (.drain c)).step dialogID (.finish c env)).callers c =
      .returned outcome) ∧
    ∀ d ∈ ds, .startRTP c d ∈ (x.step dialogID (.drain c)).effects dialogID (.finish c env)

variable {r : System Dialog ID × List (Effect Dialog)}

theorem Acts.cleared (h : Acts dialogID x e r) (hx : x.Sound dialogID)
    (hstopping : x.bridge.mixState = .stopping) (hclear : r.1.bridge.mixState ≠ .stopping) :
    ∃ c env, e = .finish c env ∧ x.stopper = some c := by
  cases h with
  | stops _ _ hfree => exact absurd hstopping hfree
  | @finishes c call stopped failed env hdrained =>
    have hstops : (x.callers c).stopped = some stopped := by rw [hdrained]; rfl
    exact ⟨c, env, rfl, (hx.stop c stopped hstops).2.1⟩
  | ends => exact absurd (by simp [mixEnded, hstopping]) hclear
  | _ => exact absurd hstopping hclear

theorem Acts.noAdd (h : Acts dialogID x e r) (hx : x.Sound dialogID) (hadd : .add ∈ r.2) (c : ℕ)
    (call : Call Dialog) (stopped : List Dialog) (failed : Bool) :
    x.callers c ≠ .waiting call stopped failed := by
  cases h with
  | stops => simp at hadd
  | @finishes c' call' stopped' failed' env hdrained =>
    intro hwaits
    have hstops : (x.callers c').stopped = some stopped' := by rw [hdrained]; rfl
    by_cases hc : c = c'
    · rw [hc, hdrained] at hwaits
      simp at hwaits
    · have hout := hx.alone hstops hc
      simp [hwaits, Phase.stopped] at hout
  | _ => simp at hadd

theorem Acts.stopped (h : Acts dialogID x e r) {c : ℕ} {d : Dialog} (hstop : .stopRTP c d ∈ r.2) :
    ∃ ds, (r.1.callers c).stopped = some ds ∧ d ∈ ds := by
  cases h with
  | @stops c' call env =>
    obtain ⟨hd, rfl⟩ : d ∈ x.bridge.dialogs ∧ c' = c := by simpa using hstop
    have hself : (x.mixStop env c' call).callers c' =
        .waiting call x.bridge.dialogs (x.bridge.mixStop env).2 := setPhase_self ..
    exact ⟨x.bridge.dialogs, by rw [hself]; rfl, hd⟩
  | finishes => simp [System.finish] at hstop
  | _ => simp at hstop

theorem Acts.restarted (h : Acts dialogID x e r) (hx : x.Sound dialogID) {c : ℕ} {ds : List Dialog}
    (hin : (x.callers c).stopped = some ds) :
    (r.1.callers c).stopped = some ds ∨ ∀ d ∈ ds, .startRTP c d ∈ r.2 := by
  cases h with
  | @moves c' p _ hwas =>
    have hc : c ≠ c' := by
      rintro rfl
      simp [hwas] at hin
    rw [setPhase_of_ne x p hc]
    exact .inl hin
  | stops _ _ hfree => exact absurd (hx.stop c ds hin).1 hfree
  | @drains c' call stopped failed hwaits =>
    by_cases hc : c = c'
    · rw [hc, hwaits] at hin
      rw [hc, setPhase_self]
      exact .inl hin
    · rw [setPhase_of_ne x _ hc]
      exact .inl hin
  | @finishes c' call stopped failed env hdrained =>
    have hstops : (x.callers c').stopped = some stopped := by rw [hdrained]; rfl
    obtain rfl : c = c' := by
      by_contra hc
      simp [hx.alone hstops hc] at hin
    obtain rfl := (hx.stop c ds hin).2.2
    exact .inr fun d hd => by simp [System.finish, hd]
  | _ => exact .inl hin

theorem drain_drained (dialogID : Dialog → ID) (hwg : x.mixWG = 0) {c : ℕ} {ds : List Dialog}
    (hin : (x.callers c).stopped = some ds) :
    ∃ call failed, (x.step dialogID (.drain c)).callers c = .drained call ds failed := by
  cases hc : x.callers c with
  | waiting call stopped failed =>
    obtain rfl : stopped = ds := by simpa [hc, Phase.stopped] using hin
    exact ⟨call, failed, by simp [step, act, hc, hwg]⟩
  | drained call stopped failed =>
    obtain rfl : stopped = ds := by simpa [hc, Phase.stopped] using hin
    exact ⟨call, failed, by simp [step, act, hc]⟩
  | _ => simp [hc, Phase.stopped] at hin

theorem Sound.left (h : x.Sound dialogID) (hwg : x.mixWG = 0) (c : ℕ) (ds : List Dialog)
    (env : Env Dialog) (hin : (x.callers c).stopped = some ds) :
    (∃ outcome, ((x.step dialogID (.drain c)).step dialogID (.finish c env)).callers c =
      .returned outcome) ∧
    ∀ d ∈ ds, .startRTP c d ∈ (x.step dialogID (.drain c)).effects dialogID (.finish c env) := by
  obtain ⟨call, failed, hdrained⟩ := drain_drained dialogID hwg hin
  have hsound := h.step (.drain c)
  generalize x.step dialogID (.drain c) = y at hdrained hsound
  obtain rfl := (hsound.stop c ds (by rw [hdrained]; rfl)).2.2
  have hact : y.act dialogID (.finish c env) = y.finish dialogID env c call failed := by
    simp [act, hdrained]
  rw [System.step, effects, hact]
  exact ⟨⟨_, setPhase_self ..⟩, fun d hd => by simp [System.finish, hd]⟩

theorem Sound.kept (h : x.Sound dialogID) (e : Event Dialog) : x.Kept dialogID e where
  unique := h.registered.unique
  oneLoop := h.one
  cleared := (act_acts dialogID x e).cleared h
  noAdd := (act_acts dialogID x e).noAdd h
  hooks _ := h.registered.hooks
  stopped _ _ := (act_acts dialogID x e).stopped
  restarted _ _ := (act_acts dialogID x e).restarted h
  left := h.left

end System

def newBridgeMix (waitDialogsNum : ℤ) (poll : Bool) : System Dialog ID :=
  { bridge := { waitDialogsNum := waitDialogsNum, poll := poll } }

/-- In every run of any callers and goroutines of a bridge, from its start on: no ID twice, one mix
loop at most, the stopping state cleared only by the caller that set it, no addition to mixWG while
a caller waits for it, hooks exactly for the dialogs, and reads stopped by a caller started again by
it before it comes out of its stop. -/
theorem bridge_books_kept (dialogID : Dialog → ID) (waitDialogsNum : ℤ) (poll : Bool)
    (events : List (Event Dialog)) (e : Event Dialog) :
    (runFrom (System.step dialogID) (newBridgeMix waitDialogsNum poll) events).Kept dialogID e := by
  have hinit : (newBridgeMix waitDialogsNum poll : System Dialog ID).Sound dialogID :=
    ⟨⟨by simp [newBridgeMix, BridgeMix.ids], by simp [newBridgeMix, BridgeMix.ids]⟩,
      by simp [newBridgeMix, Phase.stopped], by simp [newBridgeMix], rfl, by simp [newBridgeMix]⟩
  have hsound := runFrom_invariant (System.Sound dialogID) (fun _ e hx => hx.step e) hinit events
  exact hsound.kept e

end Bridge

/-- Two callers join at once. The second waits for the stop of the first, stops the mix that one
started and starts its dialog again once its loop and its reader are gone. -/
theorem joined_dialog_restarted :
    let env : Env ℕ := ⟨fun _ => true, fun _ => true, fun _ => codecAudioUlaw,
      fun _ => some codecAudioUlaw, fun _ => true, fun _ => .done, fun _ => .failed⟩
    let x := runFrom (System.step id) (newBridgeMix 0 true)
      [.call 0 (.add 7) { env with startRTP := fun _ => .done }, .call 1 (.add 8) env, .drain 0,
        .finish 0 { env with startRTP := fun _ => .done }, .wake 1 env, .mixEnded, .loopDone,
        .readerDone]
    let y := x.step id (.drain 1)
    (x.callers 1).stopped = some [7] ∧ .startRTP 1 7 ∈ y.effects id (.finish 1 env) ∧
      (y.step id (.finish 1 { env with startRTP := fun _ => .closed })).bridge.dialogs = [7, 8] := by
  intro env x y
  have hstopped : (x.callers 1).stopped = some [7] := by decide
  have hempty : x.mixWG = 0 := by decide
  have hkept : x.Kept id .mixEnded := bridge_books_kept id 0 true _ .mixEnded
  exact ⟨hstopped, (hkept.left hempty 1 [7] env hstopped).2 7 List.mem_cons_self, by decide⟩

end Diago.Bridge
