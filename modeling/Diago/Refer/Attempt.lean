import Diago.Lib.Numeral
import Diago.Lib.Runes

/-! # REFER attempts

An observed REFER is an attempt: it is registered before the REFER is sent,
takes the NOTIFYs of the subscription the REFER creates, and is retired when it
ends. All of it is guarded by one lock, so the state of the dialog is a value
and every critical section a function on it. Attempts are named by the order
they began in.
-/
namespace Diago.Refer
open Lib

inductive ReferEnd
  | finalNotify
  | refused
  | cancelled
  | subscriptionEnded
  | subscriptionExpired
  | noNotify
  deriving DecidableEq, Repr

structure ReferNotify where
  status : ℤ
  reason : Bytes := []
  subscriptionState : Bytes := []
  hasSubscriptionState : Bool := false
  eventID : UInt32 := 0
  hasEventID : Bool := false
  deriving DecidableEq, Repr

def maxReferNotifies : ℕ := 32

/-- One hour, in nanoseconds. -/
def referSubscriptionMaxBound : ℤ := 3600000000000

section Notify

variable [UnicodeCase]

def ReferNotify.isFinal (n : ReferNotify) : Bool := 200 ≤ n.status

def referSubscriptionTerminated (value : Bytes) : Bool :=
  equalFold (trimSpace (cutByte semicolon value).1) (lit "terminated")

def ReferNotify.endsSubscription (n : ReferNotify) : Bool :=
  n.isFinal || (n.hasSubscriptionState && referSubscriptionTerminated n.subscriptionState)

/-- The first expires parameter, if it is a number of seconds. -/
def referSubscriptionExpires (value : Bytes) : Option ℕ :=
  ((((cutByte semicolon value).2.getD []).splitOn semicolon).findSome? fun param =>
    match cutByte equals param with
    | (name, some v) =>
      if equalFold (trimSpace name) (lit "expires") then some (parseUint 32 (trimSpace v)).toOption
      else none
    | (_, none) => none).join

/-- How long a NOTIFY that did not end the subscription lets it run, `t1` being the timer T1. -/
def referSubscriptionBound (t1 : ℤ) (n : ReferNotify) : ℤ :=
  if n.hasSubscriptionState then
    match referSubscriptionExpires n.subscriptionState with
    | some seconds => min (seconds * 1000000000) referSubscriptionMaxBound
    | none => 64 * t1
  else 64 * t1

end Notify

structure ReferAttempt where
  cseq : UInt32 := 0
  cseqKnown : Bool := false
  registered : Bool := true
  ended : Option ReferEnd := none
  notifies : List ReferNotify := []
  dropped : ℕ := 0
  notified : Bool := false
  deadline : Option ℤ := none
  /-- How often the timer of the deadline was armed, zero before the subscription begins. -/
  boundArmed : ℕ := 0
  /-- How often the channel done was closed. Closing it a second time panics. -/
  doneClosed : ℕ := 0
  deriving DecidableEq, Repr

/-- What an attempt observed, apart from the response the caller adds. -/
structure ReferObservation where
  ended : Option ReferEnd
  cseq : UInt32 := 0
  cseqKnown : Bool := false
  notifies : List ReferNotify := []
  dropped : ℕ := 0
  deriving DecidableEq, Repr

namespace ReferAttempt

def setCSeq (cseq : UInt32) (a : ReferAttempt) : ReferAttempt :=
  { a with cseq := cseq, cseqKnown := true }

def arm (deadline : ℤ) (a : ReferAttempt) : ReferAttempt :=
  { a with boundArmed := a.boundArmed + 1, deadline := some deadline }

def retire (a : ReferAttempt) : ReferAttempt :=
  if a.registered then { a with registered := false, doneClosed := a.doneClosed + 1 } else a

def endOnBound (a : ReferAttempt) : ReferAttempt :=
  { a with ended := some (if a.notified then .subscriptionExpired else .noNotify) }.retire

section

variable [UnicodeCase]

/-- The NOTIFYs kept once `n` is recorded: past the limit only one that ends the subscription is,
in the last place. -/
def keep (n : ReferNotify) (kept : List ReferNotify) : List ReferNotify :=
  if kept.length < maxReferNotifies then kept ++ [n]
  else if n.endsSubscription then kept.dropLast ++ [n]
  else kept

def record (n : ReferNotify) (a : ReferAttempt) : ReferAttempt :=
  { a with
    notifies := keep n a.notifies
    dropped := if a.notifies.length < maxReferNotifies then a.dropped else a.dropped + 1
    notified := true
    ended :=
      if n.isFinal then some .finalNotify
      else if n.endsSubscription then some .subscriptionEnded
      else a.ended }

/-- The deadline after a NOTIFY that left the attempt open: a later one only brings it forward. -/
def rearm (t1 now : ℤ) (n : ReferNotify) (first : Bool) (a : ReferAttempt) : ReferAttempt :=
  let deadline := now + referSubscriptionBound t1 n
  a.arm (if first then deadline else (a.deadline.map (min deadline)).getD deadline)

/-- What a NOTIFY does to the open attempt it belongs to. -/
def take (t1 now : ℤ) (n : ReferNotify) (a : ReferAttempt) : ReferAttempt :=
  if (a.record n).ended = none then (a.record n).rearm t1 now n (!a.notified) else a.record n

end

/-- Ends the attempt unless it has ended, and in any case if the REFER was refused. -/
def finish (how : Option ReferEnd) (a : ReferAttempt) : ReferAttempt :=
  { a with ended := if a.ended = none ∨ how = some ReferEnd.refused then how else a.ended }.retire

def observation (a : ReferAttempt) : ReferObservation :=
  ⟨a.ended, a.cseq, a.cseqKnown, a.notifies, a.dropped⟩

end ReferAttempt

structure Dialog where
  begun : ℕ := 0
  attempt : ℕ → ReferAttempt := fun _ => {}
  referAttempts : List ℕ := []
  referHighestCSeq : UInt32 := 0
  referLatest : Option ℕ := none

namespace Dialog

def modify (d : Dialog) (a : ℕ) (f : ReferAttempt → ReferAttempt) : Dialog :=
  { d with attempt := Function.update d.attempt a (f (d.attempt a)) }

def beginReferAttempt (d : Dialog) : Dialog :=
  { d with
    begun := d.begun + 1
    attempt := Function.update d.attempt d.begun {}
    referAttempts := d.referAttempts ++ [d.begun]
    referLatest := some d.begun }

def setReferAttemptCSeq (d : Dialog) (a : ℕ) (cseq : UInt32) : Dialog :=
  { d.modify a (.setCSeq cseq) with
    referHighestCSeq := if d.referHighestCSeq < cseq then cseq else d.referHighestCSeq }

def unregister (d : Dialog) (a : ℕ) : Dialog :=
  { d with referAttempts := d.referAttempts.filter (· ≠ a) }

/-- Changes the attempt by `f`, which retires it, and takes it off the registered ones. -/
def retireBy (d : Dialog) (a : ℕ) (f : ReferAttempt → ReferAttempt) : Dialog :=
  (d.modify a f).unregister a

def startReferSubscription (d : Dialog) (t1 now : ℤ) (a : ℕ) : Dialog :=
  if (d.attempt a).ended ≠ none ∨ (d.attempt a).boundArmed ≠ 0 then d
  else d.modify a (.arm (now + 64 * t1))

def endReferAttemptOnItsBound (d : Dialog) (a armed : ℕ) : Dialog :=
  if (d.attempt a).ended ≠ none ∨ (d.attempt a).boundArmed ≠ armed then d
  else d.retireBy a .endOnBound

/-- The registered attempts whose CSeq is not known yet. -/
def awaitingCSeq (d : Dialog) : List ℕ := d.referAttempts.filter fun a => !(d.attempt a).cseqKnown

/-- The registered attempt a NOTIFY belongs to. With an Event id above every CSeq recorded, the
latest attempt is taken for the one whose REFER's response the NOTIFY raced ahead of. -/
def referNotifyTarget (d : Dialog) (n : ReferNotify) : Option ℕ :=
  let latest := d.referLatest.filter fun a => (d.attempt a).registered
  if n.hasEventID then
    match d.referAttempts.find? fun a => (d.attempt a).cseqKnown && (d.attempt a).cseq == n.eventID with
    | some a => some a
    | none => latest.filter fun a =>
        !(d.attempt a).cseqKnown && d.awaitingCSeq.length == 1 && d.referHighestCSeq < n.eventID
  else latest

section

variable [UnicodeCase]

/-- Records a NOTIFY on the open attempt it belongs to, and gives that attempt. -/
def recordReferNotify (d : Dialog) (t1 now : ℤ) (n : ReferNotify) : Option ℕ × Dialog :=
  match d.referNotifyTarget n with
  | none => (none, d)
  | some a =>
    if (d.attempt a).ended ≠ none then (none, d)
    else if (d.attempt a).deadline.any (· ≤ now) then (none, d.retireBy a .endOnBound)
    else (some a, d.modify a (.take t1 now n))

end

def retireEndedReferAttempt (d : Dialog) (a : ℕ) : Dialog :=
  if (d.attempt a).ended ≠ none then d.retireBy a .retire else d

def finishReferAttempt (d : Dialog) (a : ℕ) (how : Option ReferEnd) : ReferObservation × Dialog :=
  ((d.attempt a).finish how |>.observation, d.retireBy a (.finish how))

def dropReferAttempt (d : Dialog) (a : ℕ) : Dialog := d.retireBy a .retire

end Dialog

/-- Where the caller of an observed REFER stands in dialogReferObserve. -/
inductive Caller
  | idle
  | sending
  | assigned (cseq : UInt32)
  /-- The REFER's final response has come, and its CSeq is recorded. -/
  | responded
  /-- Sending failed, and a CSeq the REFER had is recorded. -/
  | failed
  | waiting
  /-- The attempt is done, or the caller's context has ended. -/
  | finishing (how : Option ReferEnd)
  | returned (obs : Option ReferObservation)
  deriving DecidableEq

/-- The dialog with the callers of its attempts and the REFERs sent on it. -/
structure System where
  dialog : Dialog := {}
  caller : ℕ → Caller := fun _ => .idle
  /-- The REFERs sent, the last one first, each with the attempt that observes it. -/
  sent : List (UInt32 × Option ℕ) := []
  /-- The CSeqs of the REFERs that have reached the peer. -/
  received : List UInt32 := []
  /-- The NOTIFYs recorded on every attempt, in the order of their arrival. -/
  recorded : ℕ → List ReferNotify := fun _ => []

/-- What the callers, the peer and the timers do, in any order. -/
inductive Event
  | begin
  | assign (a : ℕ) (cseq : UInt32)
  | forget (cseq : UInt32)
  | reach (cseq : UInt32)
  | respond (a : ℕ)
  | fail (a : ℕ)
  | notBuilt (a : ℕ)
  | carryFailed (a : ℕ)
  | cancel (a : ℕ)
  | refuse (a : ℕ)
  | accept (now : ℤ) (a : ℕ)
  | seeDone (a : ℕ)
  | seeContext (a : ℕ)
  | finish (a : ℕ)
  | notify (now : ℤ) (n : ReferNotify)
  | retireEnded (a : ℕ)
  | timer (a armed : ℕ)
  deriving DecidableEq

namespace System

def grows (x : System) (cseq : UInt32) : Bool := x.sent.all (·.1 < cseq)

/-- The caller of an attempt goes on to `c`, having changed the dialog. -/
def advance (x : System) (a : ℕ) (c : Caller) (d : Dialog) : System :=
  { x with caller := Function.update x.caller a c, dialog := d }

/-- The caller finishes the attempt and returns what it observed. -/
def finishBy (x : System) (a : ℕ) (how : Option ReferEnd) : System :=
  x.advance a (.returned (some (x.dialog.finishReferAttempt a how).1))
    (x.dialog.finishReferAttempt a how).2

variable [UnicodeCase]

/-- A NOTIFY arrives, and what it is recorded on has recorded it. -/
def notified (x : System) (t1 now : ℤ) (n : ReferNotify) : System :=
  let r := x.dialog.recordReferNotify t1 now n
  { x with
    dialog := r.2
    recorded := r.1.elim x.recorded fun a =>
      Function.update x.recorded a (x.recorded a ++ [n]) }

/-- One critical section. What a caller cannot do where it stands changes nothing. -/
def step (t1 : ℤ) (x : System) : Event → System
  | .begin =>
    { x.advance x.dialog.begun .sending x.dialog.beginReferAttempt with
      recorded := Function.update x.recorded x.dialog.begun [] }
  | .assign a cseq =>
    if x.caller a = .sending ∧ x.grows cseq then
      { x.advance a (.assigned cseq) x.dialog with sent := (cseq, some a) :: x.sent }
    else x
  | .forget cseq => if x.grows cseq then { x with sent := (cseq, none) :: x.sent } else x
  | .reach cseq =>
    if cseq ∈ x.sent.map Prod.fst then { x with received := cseq :: x.received } else x
  | .respond a =>
    match x.caller a with
    | .assigned cseq => x.advance a .responded (x.dialog.setReferAttemptCSeq a cseq)
    | _ => x
  | .fail a =>
    match x.caller a with
    | .assigned cseq => x.advance a .failed (x.dialog.setReferAttemptCSeq a cseq)
    | .sending => x.advance a .failed x.dialog
    | _ => x
  | .notBuilt a =>
    if x.caller a = .sending then x.advance a (.returned none) (x.dialog.dropReferAttempt a) else x
  | .carryFailed a =>
    if x.caller a = .failed then x.advance a (.returned none) (x.dialog.dropReferAttempt a) else x
  | .cancel a => if x.caller a = .failed then x.finishBy a (some .cancelled) else x
  | .refuse a => if x.caller a = .responded then x.finishBy a (some .refused) else x
  | .accept now a =>
    if x.caller a = .responded then
      x.advance a .waiting (x.dialog.startReferSubscription t1 now a)
    else x
  | .seeDone a =>
    if x.caller a = .waiting ∧ 0 < (x.dialog.attempt a).doneClosed then
      x.advance a (.finishing none) x.dialog
    else x
  | .seeContext a =>
    if x.caller a = .waiting then x.advance a (.finishing (some .cancelled)) x.dialog else x
  | .finish a =>
    match x.caller a with
    | .finishing how => x.finishBy a how
    | _ => x
  | .notify now n => x.notified t1 now n
  | .retireEnded a => { x with dialog := x.dialog.retireEndedReferAttempt a }
  | .timer a armed =>
    if 0 < armed then { x with dialog := x.dialog.endReferAttemptOnItsBound a armed } else x

end System

end Diago.Refer
