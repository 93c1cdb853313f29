import Diago.Lib.Bytes
import Diago.Lib.Run

/-! # Answering the re-INVITEs of the peer

A handler takes the re-INVITEs one at a time, records each, answers it and waits
until its 2xx is no longer retransmitted. A goroutine retransmits the 2xx, ACKs
are read, and a BYE may end the dialog at any time. Each of them acts under one
lock, in any order; the select of the goroutine is a step of its own, before it
takes the lock.
-/
namespace Diago.Dialog.ReInvite
open Lib

structure Response where
  status : ℕ
  headers : List (Bytes × Bytes) := []
  deriving DecidableEq

def Response.isSuccess (r : Response) : Bool := 200 ≤ r.status && r.status < 300

def callTransactionDoesNotExist : Response := ⟨481, []⟩
def requestTerminated : Response := ⟨487, []⟩

/-- The goroutine that retransmits a 2xx. -/
inductive Loop
  | notStarted
  /-- In its select. -/
  | waiting (res : Response)
  /-- Its timer's case was chosen, and the lock is not taken yet. -/
  | ticking (res : Response)
  | over
  deriving DecidableEq

def Loop.response : Loop → Option Response
  | .waiting res | .ticking res => some res
  | .notStarted | .over => none

/-- A re-INVITE of the peer's and what is recorded for it. -/
structure Pending where
  cseq : UInt32 := 0
  contact : Bytes := []
  answered : Bool := false
  on2xx : Bool := false
  /-- Whether the channel acked is closed, once it is made. -/
  acked : Option Bool := none
  loop : Loop := .notStarted
  deriving DecidableEq

/-- Where the handler of re-INVITEs stands. -/
inductive Handler
  | idle
  | handling (n : ℕ)
  /-- In endPeerReInvite, waiting for the end of a retransmission or not. -/
  | ending (n : ℕ) (waits : Bool)
  deriving DecidableEq

structure State where
  ended : Bool := false
  /-- How many re-INVITEs have arrived; they are named by their order. -/
  arrived : ℕ := 0
  reInvite : ℕ → Pending := fun _ => {}
  peerReInvite : Option ℕ := none
  handler : Handler := .idle
  remoteContactTarget : Bytes := []
  /-- The responses passed to the transaction of every re-INVITE, in order. -/
  passed : ℕ → List Response := fun _ => []
  /-- Whether an ACK with the CSeq of the re-INVITE was read after its 2xx. -/
  ackRead : ℕ → Bool := fun _ => false

namespace State

def modify (x : State) (n : ℕ) (f : Pending → Pending) : State :=
  { x with reInvite := Function.update x.reInvite n (f (x.reInvite n)) }

def pass (x : State) (n : ℕ) (res : Response) : State :=
  { x with passed := Function.update x.passed n (x.passed n ++ [res]) }

/-- Answers a re-INVITE 481 once the dialog has ended, and records it otherwise. -/
def beginPeerReInvite (x : State) (cseq : UInt32) (contact : Bytes) : State :=
  let n := x.arrived
  let x := { x with
    arrived := n + 1
    reInvite := Function.update x.reInvite n { cseq := cseq, contact := contact } }
  if x.ended then x.pass n callTransactionDoesNotExist
  else { x with peerReInvite := some n, handler := .handling n }

def onPeerReInvite2xx (x : State) (n : ℕ) : State :=
  if x.peerReInvite = some n then x.modify n fun p => { p with on2xx := true } else x

/-- What is sent for `res`: the hook of the 2xx adds headers to it. -/
def withHeaders (p : Pending) (res : Response) (extra : List (Bytes × Bytes)) : Response :=
  if p.on2xx then { res with headers := res.headers ++ extra } else res

/-- Sends a 2xx and starts its retransmission if the transaction took it. -/
def respond2xx (x : State) (n : ℕ) (res : Response) (ok : Bool) : State :=
  { (x.modify n fun p =>
      { p with acked := some false, loop := if ok then .waiting res else p.loop }).pass n res with
    remoteContactTarget := (x.reInvite n).contact }

/-- Sends the final response to the re-INVITE recorded as `n`. `ok` is whether the transaction
takes it, `extra` what the hook of a 2xx adds. -/
def respondPeerReInvite (x : State) (n : ℕ) (res : Response) (extra : List (Bytes × Bytes))
    (ok : Bool) : State :=
  let p := x.reInvite n
  if p.answered then x else
  let x := x.modify n fun p => { p with answered := true }
  if x.ended then x.pass n requestTerminated
  else if res.isSuccess then x.respond2xx n (withHeaders p res extra) ok
  else x.pass n res

def retransmitTick (x : State) (n : ℕ) (ok : Bool) : State :=
  match (x.reInvite n).loop with
  | .ticking res =>
    if x.ended then x.modify n fun p => { p with loop := .over }
    else (x.modify n fun p => { p with loop := if ok then .waiting res else .over }).pass n res
  | _ => x

/-- The ACK to a 2xx has been read. -/
def ackPeerReInvite (x : State) (cseq : UInt32) : State :=
  match x.peerReInvite with
  | some n =>
    if (x.reInvite n).acked ≠ none ∧ (x.reInvite n).cseq = cseq then
      x.modify n fun p => { p with acked := some true }
    else x
  | none => x

/-- Answers a re-INVITE that is still pending 487. -/
def terminatePeerReInvite (x : State) : State :=
  match x.peerReInvite with
  | some n =>
    if (x.reInvite n).answered then x
    else (x.modify n fun p => { p with answered := true }).pass n requestTerminated
  | none => x

end State

/-- What became of a BYE: refused, taken, or taken without its 200 sent. -/
inductive Bye
  | refused
  | taken
  | unanswered
  deriving DecidableEq

inductive Event
  | begin (cseq : UInt32) (contact : Bytes)
  | on2xx
  | respond (res : Response) (extra : List (Bytes × Bytes)) (ok : Bool)
  | endBegin
  | endFinish
  | ack (cseq : UInt32)
  | bye (outcome : Bye)
  /-- What the select of the retransmission of a re-INVITE chooses. -/
  | chooseTimer (n : ℕ)
  | chooseAcked (n : ℕ)
  | chooseEnded (n : ℕ)
  | chooseDeadline (n : ℕ)
  | tick (n : ℕ) (ok : Bool)
  deriving DecidableEq

namespace State

def leaveSelect (x : State) (n : ℕ) (next : Response → Loop) : State :=
  match (x.reInvite n).loop with
  | .waiting res => x.modify n fun p => { p with loop := next res }
  | _ => x

def noteAck (x : State) (cseq : UInt32) : State :=
  { x with
    ackRead := fun n => x.ackRead n ||
      ((x.reInvite n).cseq == cseq && (x.passed n).any Response.isSuccess) }

/-- One step. What the handler or the goroutine cannot do where it stands changes nothing. -/
def step (x : State) : Event → State
  | .begin cseq contact => if x.handler = .idle then x.beginPeerReInvite cseq contact else x
  | .on2xx =>
    match x.handler with
    | .handling n => x.onPeerReInvite2xx n
    | _ => x
  | .respond res extra ok =>
    match x.handler with
    | .handling n => x.respondPeerReInvite n res extra ok
    | _ => x
  | .endBegin =>
    match x.handler with
    | .handling n => { x with handler := .ending n ((x.reInvite n).loop ≠ .notStarted) }
    | _ => x
  | .endFinish =>
    match x.handler with
    | .ending n waits =>
      if waits → (x.reInvite n).loop = .over then { x with peerReInvite := none, handler := .idle }
      else x
    | _ => x
  | .ack cseq => (x.noteAck cseq).ackPeerReInvite cseq
  | .bye .refused => x
  | .bye .taken => { x with ended := true }.terminatePeerReInvite
  | .bye .unanswered => { x with ended := true }
  | .chooseTimer n => x.leaveSelect n .ticking
  | .chooseAcked n => if (x.reInvite n).acked = some true then x.leaveSelect n fun _ => .over else x
  | .chooseEnded n => if x.ended then x.leaveSelect n fun _ => .over else x
  | .chooseDeadline n => x.leaveSelect n fun _ => .over
  | .tick n ok => x.retransmitTick n ok

end State

variable {x : State} {n : ℕ}

@[simp] theorem modify_self (f : Pending → Pending) :
    (x.modify n f).reInvite n = f (x.reInvite n) := Function.update_self ..

@[simp] theorem modify_of_ne {m : ℕ} (f : Pending → Pending) (h : m ≠ n) :
    (x.modify n f).reInvite m = x.reInvite m := Function.update_of_ne h _ _

@[simp] theorem pass_self (res : Response) : (x.pass n res).passed n = x.passed n ++ [res] :=
  Function.update_self ..

@[simp] theorem pass_of_ne {m : ℕ} (res : Response) (h : m ≠ n) :
    (x.pass n res).passed m = x.passed m := Function.update_of_ne h _ _

/-! ### What a step does to one re-INVITE -/

structure View where
  arrived : Prop
  recorded : Prop
  pending : Pending
  passed : List Response
  ackRead : Bool

def State.view (x : State) (n : ℕ) : View :=
  ⟨n < x.arrived, x.peerReInvite = some n, x.reInvite n, x.passed n, x.ackRead n⟩

/-- What one step can do to a re-INVITE, the dialog having ended or not before it. -/
inductive Move (ended : Bool) : View → View → Prop
  | refuse {v : View} (cseq : UInt32) (contact : Bytes) (h : ¬ v.arrived) :
      Move ended v
        { v with
          arrived := True
          pending := { cseq := cseq, contact := contact }
          passed := v.passed ++ [callTransactionDoesNotExist] }
  | record {v : View} (cseq : UInt32) (contact : Bytes) (h : ¬ v.arrived) :
      Move ended v
        { v with arrived := True, recorded := True, pending := { cseq := cseq, contact := contact } }
  | hook {v : View} : Move ended v { v with pending := { v.pending with on2xx := true } }
  | answer {v : View} {res : Response} (h : v.recorded) (hp : v.pending.answered = false)
      (hres : res.isSuccess = false) :
      Move ended v
        { v with pending := { v.pending with answered := true }, passed := v.passed ++ [res] }
  | answer2xx {v : View} {res : Response} (ok : Bool) (h : v.recorded)
      (hp : v.pending.answered = false) (hlive : ended = false) (hres : res.isSuccess = true) :
      Move ended v
        { v with
          pending := { v.pending with
            answered := true
            acked := some false
            loop := if ok then .waiting res else v.pending.loop }
          passed := v.passed ++ [res] }
  | retransmit {v : View} {res : Response} (ok : Bool) (h : v.pending.loop = .ticking res)
      (hlive : ended = false) :
      Move ended v
        { v with
          pending := { v.pending with loop := if ok then .waiting res else .over }
          passed := v.passed ++ [res] }
  | loop {v : View} {next : Loop}
      (h : next.response = none ∨ next.response = v.pending.loop.response) :
      Move ended v { v with pending := { v.pending with loop := next } }
  | ack {v : View} {p : Pending} (cseq : UInt32)
      (h : v.recorded ∧ v.pending.acked ≠ none ∧ v.pending.cseq = cseq ∧
          p = { v.pending with acked := some true } ∨
        ¬ (v.recorded ∧ v.pending.acked ≠ none ∧ v.pending.cseq = cseq) ∧ p = v.pending) :
      Move ended v
        { v with
          ackRead := v.ackRead || (v.pending.cseq == cseq && v.passed.any Response.isSuccess)
          pending := p }
  | forget {v : View} (h : v.pending.loop.response = none) :
      Move ended v { v with recorded := False }

/-- The handler and the record agree. -/
structure Handled (x : State) : Prop where
  idle : x.handler = .idle → x.peerReInvite = none
  handling : ∀ n, x.handler = .handling n → x.peerReInvite = some n
  ending : ∀ n waits, x.handler = .ending n waits → x.peerReInvite = some n ∧
    (waits = false → (x.reInvite n).loop = .notStarted)
  recorded : ∀ n, x.peerReInvite = some n → n < x.arrived

def Sees (x y : State) (n : ℕ) : Prop :=
  y.view n = x.view n ∨ Move x.ended (x.view n) (y.view n)

theorem sees_refl (x : State) (n : ℕ) : Sees x x n := .inl rfl

theorem sees_modify {m : ℕ} {f : Pending → Pending}
    (hmove : Move x.ended (x.view m) { x.view m with pending := f (x.reInvite m) }) (n : ℕ) :
    Sees x (x.modify m f) n := by
  by_cases hnm : n = m
  · subst hnm
    refine .inr ?_
    simpa [State.view, State.modify] using hmove
  · refine .inl ?_
    simp [State.view, State.modify, hnm]

theorem sees_modify_pass {m : ℕ} {f : Pending → Pending} {res : Response}
    (hmove : Move x.ended (x.view m) { x.view m with
      pending := f (x.reInvite m), passed := x.passed m ++ [res] }) (n : ℕ) :
    Sees x ((x.modify m f).pass m res) n := by
  by_cases hnm : n = m
  · subst hnm
    refine .inr ?_
    simpa [State.view, State.modify, State.pass] using hmove
  · refine .inl ?_
    simp [State.view, State.modify, State.pass, hnm]

theorem sees_leaveSelect (m : ℕ) {next : Response → Loop}
    (hnext : ∀ res, (next res).response = none ∨ (next res).response = some res) (n : ℕ) :
    Sees x (x.leaveSelect m next) n := by
  unfold State.leaveSelect
  split
  case h_1 res hloop =>
    refine sees_modify (.loop (v := x.view m) ?_) n
    simpa [State.view, hloop, Loop.response] using hnext res
  · exact sees_refl x n

theorem sees_begin (hidle : x.peerReInvite = none) (cseq : UInt32) (contact : Bytes) (n : ℕ) :
    Sees x (x.beginPeerReInvite cseq contact) n := by
  by_cases hn : n = x.arrived
  · subst hn
    refine .inr ?_
    have hnew : ¬ (x.view x.arrived).arrived := by simp [State.view]
    unfold State.beginPeerReInvite
    simp only
    split_ifs
    · have hmove : Move x.ended (x.view x.arrived) _ := .refuse cseq contact hnew
      simpa [State.view, State.pass, hidle] using hmove
    · have hmove : Move x.ended (x.view x.arrived) _ := .record cseq contact hnew
      simpa [State.view] using hmove
  · refine .inl ?_
    have harrived : n ≤ x.arrived ↔ n < x.arrived := by omega
    have hother : ¬ x.arrived = n := Ne.symm hn
    unfold State.beginPeerReInvite
    simp only
    split_ifs
    · simp [State.view, State.pass, hidle, hn, harrived]
    · simp [State.view, hidle, hn, harrived, hother]

theorem modify_modify (f g : Pending → Pending) :
    (x.modify n f).modify n g = x.modify n fun p => g (f p) := by
  simp [State.modify]

theorem sees_respond {m : ℕ} (hm : x.peerReInvite = some m) (res : Response)
    (extra : List (Bytes × Bytes)) (ok : Bool) (n : ℕ) :
    Sees x (x.respondPeerReInvite m res extra ok) n := by
  have hrec : (x.view m).recorded := hm
  unfold State.respondPeerReInvite
  simp only
  split_ifs with hanswered hended hres
  · exact sees_refl x n
  · exact sees_modify_pass (.answer (v := x.view m) hrec (by simpa [State.view] using hanswered) rfl) n
  · have hsuccess : (State.withHeaders (x.reInvite m) res extra).isSuccess = true := by
      unfold State.withHeaders
      split_ifs <;> exact hres
    have hlive : x.ended = false := Bool.eq_false_iff.mpr hended
    have hopen : (x.view m).pending.answered = false := Bool.eq_false_iff.mpr hanswered
    rw [State.respond2xx, modify_modify]
    have hsees := sees_modify_pass (x := x) (m := m)
      (f := fun p => { p with
        answered := true
        acked := some false
        loop := if ok then .waiting (State.withHeaders (x.reInvite m) res extra) else p.loop })
      (.answer2xx ok hrec hopen hlive hsuccess) n
    exact hsees
  · exact sees_modify_pass
      (.answer (v := x.view m) hrec (by simpa [State.view] using hanswered) (by simpa using hres)) n

theorem sees_tick (m : ℕ) (ok : Bool) (n : ℕ) : Sees x (x.retransmitTick m ok) n := by
  unfold State.retransmitTick
  split
  case h_1 res hloop =>
    by_cases hended : x.ended = true
    · rw [if_pos hended]
      exact sees_modify (.loop (v := x.view m) (.inl rfl)) n
    · rw [if_neg hended]
      exact sees_modify_pass (.retransmit (v := x.view m) ok hloop (by simpa using hended)) n
  · exact sees_refl x n

theorem sees_terminate (x : State) (n : ℕ) :
    Sees x { x with ended := true }.terminatePeerReInvite n := by
  unfold State.terminatePeerReInvite
  simp only
  split
  case h_1 m hm =>
    split_ifs with hanswered
    · exact .inl rfl
    · have hopen : (x.view m).pending.answered = false := Bool.eq_false_iff.mpr hanswered
      have hsees := sees_modify_pass (x := x) (m := m) (f := fun p => { p with answered := true })
        (.answer hm hopen (rfl : requestTerminated.isSuccess = false)) n
      exact hsees
  · exact .inl rfl

theorem sees_ack (x : State) (cseq : UInt32) (n : ℕ) :
    Sees x ((x.noteAck cseq).ackPeerReInvite cseq) n := by
  refine .inr ?_
  by_cases hack : x.peerReInvite = some n ∧ (x.reInvite n).acked ≠ none ∧ (x.reInvite n).cseq = cseq
  · have hmove : Move x.ended (x.view n) _ := .ack cseq (.inl ⟨hack.1, hack.2.1, hack.2.2, rfl⟩)
    have hstep : (x.noteAck cseq).ackPeerReInvite cseq =
        (x.noteAck cseq).modify n fun p => { p with acked := some true } := by
      simp only [State.ackPeerReInvite, State.noteAck, hack.1]
      exact if_pos hack.2
    rw [hstep]
    simpa [State.view, State.modify, State.noteAck] using hmove
  · have hmove : Move x.ended (x.view n) _ := .ack cseq (.inr ⟨hack, rfl⟩)
    -- another re-INVITE may have taken the ACK
    have hstep : ((x.noteAck cseq).ackPeerReInvite cseq).view n = (x.noteAck cseq).view n := by
      unfold State.ackPeerReInvite
      split
      case h_1 m hm =>
        split_ifs with hm'
        · have hnm : n ≠ m := by
            rintro rfl
            exact hack ⟨hm, hm'⟩
          simp [State.view, State.modify, hnm]
        · rfl
      · rfl
    rw [hstep]
    exact hmove

theorem Handled.idle_loop (hx : Handled x) {m : ℕ} {waits : Bool}
    (hm : x.handler = .ending m waits) (hdone : waits = true → (x.reInvite m).loop = .over) :
    (x.reInvite m).loop.response = none := by
  cases waits with
  | false => rw [(hx.ending m false hm).2 rfl, Loop.response]
  | true => rw [hdone rfl, Loop.response]

theorem sees_forget {m : ℕ} (hm : x.peerReInvite = some m)
    (hloop : (x.reInvite m).loop.response = none) (n : ℕ) :
    Sees x { x with peerReInvite := none, handler := .idle } n := by
  by_cases hnm : n = m
  · subst hnm
    have hmove : Move x.ended (x.view n) _ := .forget hloop
    refine .inr ?_
    simpa [State.view] using hmove
  · refine .inl ?_
    have hother : ¬ m = n := Ne.symm hnm
    simp [State.view, hm, hother]

theorem step_sees (hx : Handled x) (e : Event) (n : ℕ) : Sees x (x.step e) n := by
  cases e with
  | begin cseq contact =>
    simp only [State.step]
    split_ifs with hidle
    · exact sees_begin (hx.idle hidle) cseq contact n
    · exact sees_refl x n
  | on2xx =>
    simp only [State.step]
    split
    case h_1 m hm =>
      unfold State.onPeerReInvite2xx
      split_ifs
      · exact sees_modify .hook n
      · exact sees_refl x n
    · exact sees_refl x n
  | respond res extra ok =>
    simp only [State.step]
    split
    case h_1 m hm => exact sees_respond (hx.handling m hm) res extra ok n
    · exact sees_refl x n
  | endBegin =>
    simp only [State.step]
    split <;> exact .inl rfl
  | endFinish =>
    simp only [State.step]
    split
    case h_1 m waits hm =>
      split_ifs with hdone
      · exact sees_forget (hx.ending m waits hm).1 (hx.idle_loop hm hdone) n
      · exact sees_refl x n
    · exact sees_refl x n
  | ack cseq => exact sees_ack x cseq n
  | bye outcome =>
    cases outcome with
    | refused => exact sees_refl x n
    | taken => exact sees_terminate x n
    | unanswered => exact .inl rfl
  | chooseTimer m => exact sees_leaveSelect m (fun _ => .inr rfl) n
  | chooseAcked m =>
    simp only [State.step]
    split_ifs
    · exact sees_leaveSelect m (fun _ => .inl rfl) n
    · exact sees_refl x n
  | chooseEnded m =>
    simp only [State.step]
    split_ifs
    · exact sees_leaveSelect m (fun _ => .inl rfl) n
    · exact sees_refl x n
  | chooseDeadline m => exact sees_leaveSelect m (fun _ => .inl rfl) n
  | tick m ok => exact sees_tick m ok n

/-! ### The handler along a run -/

theorem Handled.modify (hx : Handled x) {m : ℕ} {f : Pending → Pending}
    (hf : x.handler = .handling m ∨
      ((x.reInvite m).loop = .notStarted → (f (x.reInvite m)).loop = .notStarted)) :
    Handled (x.modify m f) where
  idle := hx.idle
  handling := hx.handling
  recorded := hx.recorded
  ending k waits hk := by
    refine ⟨(hx.ending k waits hk).1, fun hwaits => ?_⟩
    have hloop := (hx.ending k waits hk).2 hwaits
    by_cases hkm : k = m
    · subst hkm
      have hk' : x.handler = .ending k waits := hk
      rw [modify_self]
      obtain hhandling | hkeep := hf
      · rw [hhandling] at hk'
        cases hk'
      · exact hkeep hloop
    · rw [modify_of_ne f hkm]
      exact hloop

theorem Handled.pass (hx : Handled x) (m : ℕ) (res : Response) : Handled (x.pass m res) :=
  { hx with }

theorem Handled.leaveSelect (hx : Handled x) (m : ℕ) (next : Response → Loop) :
    Handled (x.leaveSelect m next) := by
  unfold State.leaveSelect
  split
  case h_1 res hloop =>
    refine hx.modify (.inr fun hidle => ?_)
    rw [hloop] at hidle
    cases hidle
  · exact hx

theorem Handled.tick (hx : Handled x) (m : ℕ) (ok : Bool) : Handled (x.retransmitTick m ok) := by
  unfold State.retransmitTick
  split
  case h_1 res hloop =>
    have hrunning : ∀ (f : Pending → Pending), Handled (x.modify m f) := by
      intro f
      refine hx.modify (.inr fun hidle => ?_)
      rw [hloop] at hidle
      cases hidle
    by_cases hended : x.ended = true
    · rw [if_pos hended]
      exact hrunning _
    · rw [if_neg hended]
      exact (hrunning _).pass m res
  · exact hx

theorem Handled.begin (hx : Handled x) (hidle : x.handler = .idle) (cseq : UInt32)
    (contact : Bytes) : Handled (x.beginPeerReInvite cseq contact) := by
  have hnone := hx.idle hidle
  unfold State.beginPeerReInvite
  simp only
  split_ifs
  · exact {
      idle := fun _ => hnone
      handling := fun k hk => absurd (hidle.symm.trans hk) (by simp)
      ending := fun k waits hk => absurd (hidle.symm.trans hk) (by simp)
      recorded := fun k hk => absurd (hnone.symm.trans hk) (by simp) }
  · exact {
      idle := fun h => by cases h
      handling := fun k hk => by cases hk; rfl
      ending := fun k waits hk => by cases hk
      recorded := fun k hk => by cases hk; exact Nat.lt_succ_self _ }

theorem Handled.respond2xx (hx : Handled x) {m : ℕ} (hm : x.handler = .handling m)
    (res : Response) (ok : Bool) : Handled (x.respond2xx m res ok) := by
  have hpassed := (hx.modify (f := fun p =>
    { p with acked := some false, loop := if ok then .waiting res else p.loop }) (.inl hm)).pass m res
  exact { hpassed with }

theorem Handled.respond (hx : Handled x) {m : ℕ} (hm : x.handler = .handling m) (res : Response)
    (extra : List (Bytes × Bytes)) (ok : Bool) :
    Handled (x.respondPeerReInvite m res extra ok) := by
  have hanswered : Handled (x.modify m fun p => { p with answered := true }) := hx.modify (.inl hm)
  unfold State.respondPeerReInvite
  simp only
  split_ifs
  · exact hx
  · exact hanswered.pass m _
  · exact hanswered.respond2xx hm _ ok
  · exact hanswered.pass m _

theorem Handled.ack (hx : Handled x) (cseq : UInt32) : Handled (x.ackPeerReInvite cseq) := by
  unfold State.ackPeerReInvite
  split
  · split_ifs
    · exact hx.modify (.inr id)
    · exact hx
  · exact hx

theorem Handled.terminate (hx : Handled x) : Handled x.terminatePeerReInvite := by
  unfold State.terminatePeerReInvite
  split
  · split_ifs
    · exact hx
    · exact (hx.modify (.inr id)).pass _ _
  · exact hx

theorem Handled.step (hx : Handled x) (e : Event) : Handled (x.step e) := by
  cases e with
  | begin cseq contact =>
    simp only [State.step]
    split_ifs with hidle
    · exact hx.begin hidle cseq contact
    · exact hx
  | on2xx =>
    simp only [State.step]
    split
    · unfold State.onPeerReInvite2xx
      split_ifs
      · exact hx.modify (.inr id)
      · exact hx
    · exact hx
  | respond res extra ok =>
    simp only [State.step]
    split
    case h_1 m hm => exact hx.respond hm res extra ok
    · exact hx
  | endBegin =>
    simp only [State.step]
    split
    case h_1 m hm =>
      exact {
        idle := fun h => by cases h
        handling := fun k hk => by cases hk
        ending := fun k waits hk => by
          cases hk
          exact ⟨hx.handling m hm, by simp⟩
        recorded := hx.recorded }
    · exact hx
  | endFinish =>
    simp only [State.step]
    split
    · split_ifs
      · exact {
          idle := fun _ => rfl
          handling := fun k hk => by cases hk
          ending := fun k waits hk => by cases hk
          recorded := fun k hk => by cases hk }
      · exact hx
    · exact hx
  | ack cseq =>
    have hnoted : Handled (x.noteAck cseq) := { hx with }
    exact hnoted.ack cseq
  | bye outcome =>
    have hended : Handled { x with ended := true } := { hx with }
    cases outcome with
    | refused => exact hx
    | taken => exact hended.terminate
    | unanswered => exact hended
  | chooseTimer m => exact hx.leaveSelect m .ticking
  | chooseAcked m =>
    simp only [State.step]
    split_ifs
    · exact hx.leaveSelect m _
    · exact hx
  | chooseEnded m =>
    simp only [State.step]
    split_ifs
    · exact hx.leaveSelect m _
    · exact hx
  | chooseDeadline m => exact hx.leaveSelect m _
  | tick m ok => exact hx.tick m ok

/-! ### What was passed to a re-INVITE -/

/-- What is always so of a re-INVITE. Nothing is passed to it before it is answered, and what its
goroutine retransmits is the 2xx that was passed to it. -/
structure View.Sound (v : View) : Prop where
  new : ¬ v.arrived → v.passed = [] ∧ ¬ v.recorded
  unanswered : v.recorded → v.pending.answered = false → v.passed = []
  retransmitted : ∀ res, v.pending.loop.response = some res → v.arrived ∧ res.isSuccess = true ∧
    v.pending.answered = true ∧ v.passed ≠ [] ∧ ∀ r ∈ v.passed, r = res
  acknowledged : v.ackRead = true → v.passed ≠ []

namespace View.Sound

variable {v : View}

theorem idle (h : v.Sound) (hp : v.pending.answered = false) :
    v.pending.loop.response = none := by
  by_contra hloop
  obtain ⟨res, hres⟩ := Option.ne_none_iff_exists'.mp hloop
  have hanswered := (h.retransmitted res hres).2.2.1
  rw [hp] at hanswered
  cases hanswered

theorem arrived (h : v.Sound) (hrec : v.recorded) : v.arrived := by
  by_contra hn
  exact (h.new hn).2 hrec

/-- The first response to a re-INVITE; `loop` retransmits it or nothing. -/
theorem answer (h : v.Sound) (hrec : v.recorded) (hp : v.pending.answered = false) {p : Pending}
    {res : Response} (hanswered : p.answered = true)
    (hloop : ∀ r, p.loop.response = some r → r = res ∧ res.isSuccess = true) :
    View.Sound { v with pending := p, passed := v.passed ++ [res] } where
  new hn := absurd (h.arrived hrec) hn
  unanswered _ hopen := by
    have hopen' : p.answered = false := hopen
    rw [hanswered] at hopen'
    cases hopen'
  retransmitted r hr := by
    obtain ⟨rfl, hres⟩ := hloop r hr
    refine ⟨h.arrived hrec, hres, hanswered, by simp, ?_⟩
    simp [h.unanswered hrec hp]
  acknowledged _ := by simp

end View.Sound

theorem Move.sound {ended : Bool} {v w : View} (hmove : Move ended v w) (h : v.Sound) :
    w.Sound := by
  cases hmove with
  | refuse cseq contact hnew =>
    exact {
      new := fun hn => absurd trivial hn
      unanswered := fun hrec => absurd hrec (h.new hnew).2
      retransmitted := fun res hres => by cases hres
      acknowledged := fun _ => by simp }
  | record cseq contact hnew =>
    exact {
      new := fun hn => absurd trivial hn
      unanswered := fun _ _ => (h.new hnew).1
      retransmitted := fun res hres => by cases hres
      acknowledged := h.acknowledged }
  | hook => exact { h with }
  | answer hrec hp hres =>
    refine h.answer hrec hp rfl fun r hr => ?_
    exact absurd ((h.idle hp).symm.trans hr) (by simp)
  | answer2xx ok hrec hp hlive hres =>
    refine h.answer hrec hp rfl fun r hr => ?_
    cases ok with
    | false => exact absurd ((h.idle hp).symm.trans hr) (by simp)
    | true =>
      cases hr
      exact ⟨rfl, hres⟩
  | @retransmit res ok hloop hlive =>
    have hrun := h.retransmitted res (by rw [hloop, Loop.response])
    exact {
      new := fun hn => absurd hrun.1 hn
      unanswered := fun _ hopen => absurd (hopen.symm.trans hrun.2.2.1) (by simp)
      retransmitted := fun r hr => by
        obtain ⟨-, rfl⟩ : ok = true ∧ res = r := by
          cases ok <;> simp_all [Loop.response]
        refine ⟨hrun.1, hrun.2.1, hrun.2.2.1, by simp, fun r' hr' => ?_⟩
        obtain hold | hlast := List.mem_append.mp hr'
        · exact hrun.2.2.2.2 r' hold
        · exact List.mem_singleton.mp hlast
      acknowledged := fun _ => by simp }
  | loop hnext =>
    refine { h with retransmitted := fun res hres => ?_ }
    obtain hnone | hsame := hnext
    · exact absurd (hnone.symm.trans hres) (by simp)
    · exact h.retransmitted res (hsame.symm.trans hres)
  | ack cseq hack =>
    have hkept : ∀ p : Pending, p.answered = v.pending.answered → p.loop = v.pending.loop →
        View.Sound { v with
          ackRead := v.ackRead || (v.pending.cseq == cseq && v.passed.any Response.isSuccess)
          pending := p } := by
      intro p hanswered hloop
      exact {
        new := h.new
        unanswered := fun hrec hopen => h.unanswered hrec (hanswered.symm.trans hopen)
        retransmitted := fun res hres => by
          simp only [hloop] at hres
          simpa only [hanswered] using h.retransmitted res hres
        acknowledged := fun hread hempty => by
          have hempty' : v.passed = [] := hempty
          have hnot : v.ackRead ≠ true := fun hr => h.acknowledged hr hempty'
          simp [hempty', hnot] at hread }
    obtain ⟨-, -, -, rfl⟩ | ⟨-, rfl⟩ := hack
    · exact hkept _ rfl rfl
    · exact hkept _ rfl rfl
  | forget hloop =>
    exact { h with new := fun hn => ⟨(h.new hn).1, id⟩, unanswered := fun hrec => hrec.elim }

/-! ### Along a run -/

structure Sound (x : State) : Prop where
  handled : Handled x
  view : ∀ n, (x.view n).Sound

theorem Sound.step (hx : Sound x) (e : Event) : Sound (x.step e) where
  handled := hx.handled.step e
  view n := by
    obtain hsame | hmove := step_sees hx.handled e n
    · rw [hsame]
      exact hx.view n
    · exact hmove.sound (hx.view n)

def reached (events : List Event) : State := runFrom State.step {} events

theorem reached_sound (events : List Event) : Sound (reached events) := by
  refine runFrom_invariant Sound (fun _ e h => h.step e) ⟨?_, fun n => ?_⟩ events
  · exact ⟨fun _ => rfl, nofun, nofun, nofun⟩
  · exact ⟨fun _ => ⟨rfl, nofun⟩, fun _ _ => rfl, nofun, nofun⟩

/-- What a step may pass to a re-INVITE: its first response, or its 2xx again; no 2xx once the
dialog has ended, and nothing once the ACK to the 2xx has been read. -/
def PassesSafely (x y : State) (n : ℕ) : Prop :=
  y.passed n = x.passed n ∨
    ∃ r, y.passed n = x.passed n ++ [r] ∧
      (x.passed n = [] ∨ r.isSuccess = true ∧ ∀ r' ∈ x.passed n, r' = r) ∧
      (x.ended = true → r.isSuccess = false) ∧ x.ackRead n = false

/-- The remote target moves only as a 2xx is passed, to the contact of its re-INVITE. -/
def TargetFollows (x y : State) : Prop :=
  y.remoteContactTarget = x.remoteContactTarget ∨
    ∃ n r, y.passed n = x.passed n ++ [r] ∧ r.isSuccess = true ∧
      y.remoteContactTarget = (x.reInvite n).contact

/-- No retransmission is past its select once the ACK has been read, or the dialog has ended. -/
def NoTickAfterAck (x : State) : Prop :=
  ∀ n, x.ackRead n = true → ∀ res, (x.reInvite n).loop = .ticking res → x.ended = true

theorem Move.passes {y : State} (hx : (x.view n).Sound) (hack : NoTickAfterAck x)
    (hmove : Move x.ended (x.view n) (y.view n)) : PassesSafely x y n := by
  have hunread : x.passed n = [] → x.ackRead n = false := fun hempty =>
    Bool.eq_false_iff.mpr fun hread => hx.acknowledged hread hempty
  generalize hv : x.view n = v at hmove hx
  generalize hw : y.view n = w at hmove
  have hxp : x.passed n = v.passed := by rw [← hv]; rfl
  have hyp : y.passed n = w.passed := by rw [← hw]; rfl
  unfold PassesSafely
  rw [hxp, hyp]
  cases hmove with
  | refuse cseq contact hnew =>
    have hempty := (hx.new hnew).1
    exact .inr ⟨_, rfl, .inl hempty, fun _ => rfl, hunread (hxp.trans hempty)⟩
  | record cseq contact hnew => exact .inl rfl
  | hook => exact .inl rfl
  | answer hrec hp hres =>
    have hempty := hx.unanswered hrec hp
    exact .inr ⟨_, rfl, .inl hempty, fun _ => hres, hunread (hxp.trans hempty)⟩
  | answer2xx ok hrec hp hlive hres =>
    have hempty := hx.unanswered hrec hp
    exact .inr ⟨_, rfl, .inl hempty, fun hended => absurd (hlive.symm.trans hended) (by simp),
      hunread (hxp.trans hempty)⟩
  | @retransmit res ok hloop hlive =>
    have hrun := hx.retransmitted res (by rw [hloop, Loop.response])
    refine .inr ⟨res, rfl, .inr ⟨hrun.2.1, hrun.2.2.2.2⟩,
      fun hended => absurd (hlive.symm.trans hended) (by simp), ?_⟩
    have hticking : (x.reInvite n).loop = .ticking res := by rw [← hloop, ← hv]; rfl
    refine Bool.eq_false_iff.mpr fun hread => ?_
    exact absurd (hlive.symm.trans (hack n hread res hticking)) (by simp)
  | loop hnext => exact .inl rfl
  | ack cseq hack => exact .inl rfl
  | forget hloop => exact .inl rfl

theorem respond_target {m : ℕ} (res : Response) (extra : List (Bytes × Bytes)) (ok : Bool) :
    TargetFollows x (x.respondPeerReInvite m res extra ok) := by
  unfold State.respondPeerReInvite
  simp only
  split_ifs with hanswered hended hres
  · exact .inl rfl
  · exact .inl rfl
  · refine .inr ⟨m, State.withHeaders (x.reInvite m) res extra, ?_, ?_, ?_⟩
    · simp [State.respond2xx, State.modify, State.pass]
    · unfold State.withHeaders
      split_ifs <;> exact hres
    · simp [State.respond2xx, State.modify]
  · exact .inl rfl

theorem leaveSelect_target (m : ℕ) (next : Response → Loop) :
    (x.leaveSelect m next).remoteContactTarget = x.remoteContactTarget := by
  unfold State.leaveSelect
  split <;> rfl

theorem tick_target (m : ℕ) (ok : Bool) :
    (x.retransmitTick m ok).remoteContactTarget = x.remoteContactTarget := by
  unfold State.retransmitTick
  split
  · split_ifs <;> rfl
  · rfl

theorem ack_target (cseq : UInt32) :
    (x.ackPeerReInvite cseq).remoteContactTarget = x.remoteContactTarget := by
  unfold State.ackPeerReInvite
  split
  · split_ifs <;> rfl
  · rfl

theorem terminate_target : x.terminatePeerReInvite.remoteContactTarget = x.remoteContactTarget := by
  unfold State.terminatePeerReInvite
  split
  · split_ifs <;> rfl
  · rfl

theorem step_target (e : Event) : TargetFollows x (x.step e) := by
  cases e with
  | begin cseq contact =>
    refine .inl ?_
    simp only [State.step, State.beginPeerReInvite]
    split_ifs <;> rfl
  | on2xx =>
    refine .inl ?_
    simp only [State.step, State.onPeerReInvite2xx]
    split
    · split_ifs <;> rfl
    · rfl
  | respond res extra ok =>
    simp only [State.step]
    split
    · exact respond_target res extra ok
    · exact .inl rfl
  | endBegin =>
    refine .inl ?_
    simp only [State.step]
    split <;> rfl
  | endFinish =>
    refine .inl ?_
    simp only [State.step]
    split
    · split_ifs <;> rfl
    · rfl
  | ack cseq => exact .inl (ack_target cseq)
  | bye outcome =>
    cases outcome with
    | refused => exact .inl rfl
    | taken => exact .inl terminate_target
    | unanswered => exact .inl rfl
  | chooseTimer m => exact .inl (leaveSelect_target m _)
  | chooseAcked m =>
    refine .inl ?_
    simp only [State.step]
    split_ifs
    · exact leaveSelect_target m _
    · rfl
  | chooseEnded m =>
    refine .inl ?_
    simp only [State.step]
    split_ifs
    · exact leaveSelect_target m _
    · rfl
  | chooseDeadline m => exact .inl (leaveSelect_target m _)
  | tick m ok => exact .inl (tick_target m ok)

/-- A re-INVITE of the peer's is answered once and never after a BYE. In every state a run of the
critical sections reaches, the next one passes to each re-INVITE its first response or its 2xx
again, no 2xx once the dialog has ended and nothing once the ACK has been read, and the remote
target follows the 2xx; exactly when no retransmission whose ACK was read is past its select in a
dialog that goes on. -/
theorem answered_once_iff (events : List Event) :
    (∀ e, (∀ n, PassesSafely (reached events) ((reached events).step e) n) ∧
        TargetFollows (reached events) ((reached events).step e)) ↔
      NoTickAfterAck (reached events) := by
  have hx := reached_sound events
  generalize reached events = x at hx
  constructor
  · intro hsafe n hread res hloop
    by_contra hlive
    have htick : (x.step (.tick n true)).passed n = x.passed n ++ [res] := by
      simp only [State.step, State.retransmitTick, hloop, if_neg hlive]
      simp [State.modify]
    obtain hsame | ⟨r, -, -, -, hunread⟩ := (hsafe (.tick n true)).1 n
    · rw [htick] at hsame
      simp at hsame
    · rw [hread] at hunread
      cases hunread
  · intro hack e
    refine ⟨fun n => ?_, step_target e⟩
    obtain hsame | hmove := step_sees hx.handled e n
    · exact .inl (congrArg View.passed hsame)
    · exact hmove.passes (hx.view n) hack

section Sample

def crossedAck : List Event :=
  [.begin 2 [], .respond ⟨200, []⟩ [] true, .chooseTimer 0, .ack 2]

/-- A 2xx is retransmitted although its ACK has been read. -/
theorem retransmitted_after_ack :
    (reached crossedAck).ackRead 0 = true ∧
      (reached crossedAck).passed 0 = [⟨200, []⟩] ∧
      ((reached crossedAck).step (.tick 0 true)).passed 0 = [⟨200, []⟩, ⟨200, []⟩] := by
  decide +kernel

end Sample

end Diago.Dialog.ReInvite
