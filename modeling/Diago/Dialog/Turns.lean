import Diago.Lib.Ledger
import Diago.Lib.Run

/-! # One re-INVITE at a time

A re-INVITE is in progress from the call that begins it until the function that
call returned is called. The dialog's lock guards a channel that is set in
between; its identity is what the end of an update is recognised by, and what
those that have to wait wait for, outside the lock. Each event here is one
critical section, or one step of a call between its critical sections.
-/
namespace Diago.Dialog.Turns
open Lib

inductive Refusal
  | mediaClosed
  | ctxErr
  /-- beginPeerMediaUpdate reported false. -/
  | inProgress
  deriving DecidableEq

/-- Where a call is. Channels are named by their number. -/
inductive Phase
  | idle
  /-- In beginOwnMediaUpdate, before it takes the lock. -/
  | locking
  /-- In the select of beginOwnMediaUpdate. -/
  | waiting (done : ℕ)
  /-- Its update is in progress: the function it returned is not called yet. -/
  | holding (done : ℕ)
  /-- In that function, past the lock. -/
  | ending (done : ℕ)
  | ended
  | refused (why : Refusal)
  deriving DecidableEq

/-- The channel the call is still to close. -/
def Phase.owes : Phase → Option ℕ
  | .holding done | .ending done => some done
  | _ => none

variable {Call : Type} [DecidableEq Call]

structure System (Call : Type) where
  closed : Bool := false
  mediaUpdateDone : Option ℕ := none
  /-- How many channels were made. -/
  made : ℕ := 0
  closedChans : List ℕ := []
  /-- A channel was closed twice. -/
  panicked : Bool := false
  phase : Call → Phase := fun _ => .idle

namespace System

def setPhase (x : System Call) (c : Call) (p : Phase) : System Call :=
  { x with phase := Function.update x.phase c p }

def mark (x : System Call) (c : Call) : System Call :=
  { x with
    mediaUpdateDone := some x.made
    made := x.made + 1
    phase := Function.update x.phase c (.holding x.made) }

/-- The critical section of the loop of beginOwnMediaUpdate. -/
def beginOwnMediaUpdate (x : System Call) (c : Call) : System Call :=
  if x.closed then x.setPhase c (.refused .mediaClosed)
  else
    match x.mediaUpdateDone with
    | none => x.mark c
    | some done => x.setPhase c (.waiting done)

def beginPeerMediaUpdate (x : System Call) (c : Call) : System Call :=
  if x.mediaUpdateDone ≠ none then x.setPhase c (.refused .inProgress) else x.mark c

/-- The critical section of endMediaUpdate. -/
def endMediaUpdate (x : System Call) (c : Call) (done : ℕ) : System Call :=
  { x.setPhase c (.ending done) with
    mediaUpdateDone := if x.mediaUpdateDone = some done then none else x.mediaUpdateDone }

/-- The close of a closed channel panics. -/
def closeDone (x : System Call) (c : Call) (done : ℕ) : System Call :=
  { x.setPhase c .ended with
    closedChans := done :: x.closedChans
    panicked := x.panicked || done ∈ x.closedChans }

end System

inductive Event (Call : Type)
  | callOwn (c : Call)
  | lockOwn (c : Call)
  | wake (c : Call)
  | cancel (c : Call)
  | beginPeer (c : Call)
  | endUpdate (c : Call)
  | closeDone (c : Call)
  | closeMedia

/-- What a call can not do where it is changes nothing. -/
def System.step (x : System Call) : Event Call → System Call
  | .callOwn c => if x.phase c = .idle then x.setPhase c .locking else x
  | .lockOwn c => if x.phase c = .locking then x.beginOwnMediaUpdate c else x
  | .wake c =>
    match x.phase c with
    | .waiting done => if done ∈ x.closedChans then x.setPhase c .locking else x
    | _ => x
  | .cancel c =>
    match x.phase c with
    | .waiting _ => x.setPhase c (.refused .ctxErr)
    | _ => x
  | .beginPeer c => if x.phase c = .idle then x.beginPeerMediaUpdate c else x
  | .endUpdate c =>
    match x.phase c with
    | .holding done => x.endMediaUpdate c done
    | _ => x
  | .closeDone c =>
    match x.phase c with
    | .ending done => x.closeDone c done
    | _ => x
  | .closeMedia => { x with closed := true }

def reached (events : List (Event Call)) : System Call := runFrom System.step {} events

/-! ## The channels as tokens -/

namespace System

variable {x : System Call} {c : Call} {p : Phase} {done : ℕ}

/-- A channel is issued to the call that made it, and settled by its close. -/
def ledger (x : System Call) : Ledger Call := ⟨x.made, x.closedChans, fun c => (x.phase c).owes⟩

theorem owes_update (x : System Call) (c : Call) (p : Phase) :
    (fun c' => (Function.update x.phase c p c').owes) =
      Function.update (fun c' => (x.phase c').owes) c p.owes :=
  Function.comp_update Phase.owes x.phase c p

theorem ledger_setPhase (h : p.owes = (x.phase c).owes) : (x.setPhase c p).ledger = x.ledger := by
  unfold ledger setPhase
  rw [owes_update, h, Function.update_eq_self]

theorem ledger_mark (x : System Call) (c : Call) : (x.mark c).ledger = x.ledger.issue c := by
  unfold ledger mark Ledger.issue
  rw [owes_update]
  rfl

theorem ledger_endMediaUpdate (h : x.phase c = .holding done) :
    (x.endMediaUpdate c done).ledger = x.ledger := by
  have howes : (Phase.ending done).owes = (x.phase c).owes := by
    rw [h]
    rfl
  exact ledger_setPhase howes

theorem ledger_closeDone (x : System Call) (c : Call) (done : ℕ) :
    (x.closeDone c done).ledger = x.ledger.settle c done := by
  unfold ledger closeDone setPhase Ledger.settle
  rw [owes_update]
  rfl

/-! ## The invariant -/

structure Kept (x : System Call) : Prop where
  sound : x.ledger.Sound
  /-- The channel set is that of the update in progress. -/
  marked : ∀ done, x.mediaUpdateDone = some done ↔ ∃ c, x.phase c = .holding done
  /-- A channel waited for is closed or still to be closed. -/
  awaited : ∀ c done, x.phase c = .waiting done →
    done ∈ x.closedChans ∨ ∃ c', x.ledger.owes c' = some done
  running : x.panicked = false

theorem phase_setPhase (x : System Call) (c c' : Call) (p : Phase) :
    (x.setPhase c p).phase c' = if c' = c then p else x.phase c' :=
  Function.update_apply ..

theorem exists_holding_setPhase (hfrom : x.phase c ≠ .holding done) (hto : p ≠ .holding done) :
    (∃ c', (x.setPhase c p).phase c' = .holding done) ↔ ∃ c', x.phase c' = .holding done := by
  apply exists_congr
  intro c'
  rw [phase_setPhase]
  split_ifs with hc
  · rw [hc]
    exact iff_of_false hto hfrom
  · rfl

theorem Kept.setPhase (h : x.Kept) (hfrom : (x.phase c).owes = none) (hto : p.owes = none)
    (hwaits : ∀ done, p = .waiting done →
      done ∈ x.closedChans ∨ ∃ c', x.ledger.owes c' = some done) :
    (x.setPhase c p).Kept where
  sound := by
    rw [ledger_setPhase (hto.trans hfrom.symm)]
    exact h.sound
  marked done := by
    refine (h.marked done).trans (exists_holding_setPhase ?_ ?_).symm
    · intro hholding
      rw [hholding] at hfrom
      cases hfrom
    · rintro rfl
      cases hto
  awaited c' done hc' := by
    rw [ledger_setPhase (hto.trans hfrom.symm)]
    rw [phase_setPhase] at hc'
    split_ifs at hc' with hc
    · exact hwaits done hc'
    · exact h.awaited c' done hc'
  running := h.running

theorem phase_mark (x : System Call) (c c' : Call) :
    (x.mark c).phase c' = if c' = c then .holding x.made else x.phase c' :=
  Function.update_apply ..

theorem Kept.mark (h : x.Kept) (hfree : x.mediaUpdateDone = none)
    (hfrom : (x.phase c).owes = none) : (x.mark c).Kept where
  sound := by
    rw [ledger_mark]
    exact h.sound.issue c
  marked done := by
    constructor
    · intro hmade
      obtain rfl := Option.some.inj hmade
      exact ⟨c, by rw [phase_mark, if_pos rfl]⟩
    · rintro ⟨c', hc'⟩
      rw [phase_mark] at hc'
      split_ifs at hc' with hc
      · exact congrArg some (Phase.holding.inj hc')
      · rw [(h.marked done).mpr ⟨c', hc'⟩] at hfree
        cases hfree
  awaited c' done hc' := by
    rw [phase_mark] at hc'
    split_ifs at hc' with hc
    rw [ledger_mark]
    obtain hclosed | ⟨owner, howner⟩ := h.awaited c' done hc'
    · exact .inl hclosed
    · have hne : owner ≠ c := by
        rintro rfl
        exact absurd (howner.symm.trans hfrom) (by simp)
      exact .inr ⟨owner, by rw [Ledger.owes_issue_of_ne hne, howner]⟩
  running := h.running

theorem Kept.endMediaUpdate (h : x.Kept) (hc : x.phase c = .holding done) :
    (x.endMediaUpdate c done).Kept where
  sound := by
    rw [ledger_endMediaUpdate hc]
    exact h.sound
  marked done' := by
    have hset : x.mediaUpdateDone = some done := (h.marked done).mpr ⟨c, hc⟩
    have hcleared : (x.endMediaUpdate c done).mediaUpdateDone = none := if_pos hset
    rw [hcleared]
    refine iff_of_false (by simp) ?_
    rintro ⟨c', hc'⟩
    change (x.setPhase c (.ending done)).phase c' = .holding done' at hc'
    rw [phase_setPhase] at hc'
    split_ifs at hc' with hcc
    have hsame := ((h.marked done').mpr ⟨c', hc'⟩).symm.trans hset
    obtain rfl := Option.some.inj hsame
    exact hcc (h.sound.apart c' c done' (congrArg Phase.owes hc') (congrArg Phase.owes hc))
  awaited c' done' hc' := by
    rw [ledger_endMediaUpdate hc]
    change (x.setPhase c (.ending done)).phase c' = .waiting done' at hc'
    rw [phase_setPhase] at hc'
    split_ifs at hc'
    exact h.awaited c' done' hc'
  running := h.running

theorem Kept.closeDone (h : x.Kept) (hc : x.phase c = .ending done) :
    (x.closeDone c done).Kept where
  sound := by
    rw [ledger_closeDone]
    exact h.sound.settle (congrArg Phase.owes hc)
  marked done' := by
    have hfrom : x.phase c ≠ .holding done' := by
      rw [hc]
      exact nofun
    exact (h.marked done').trans (exists_holding_setPhase (p := .ended) hfrom nofun).symm
  awaited c' done' hc' := by
    change (x.setPhase c .ended).phase c' = .waiting done' at hc'
    rw [phase_setPhase] at hc'
    split_ifs at hc' with hcc
    rw [ledger_closeDone]
    obtain hclosed | ⟨owner, howner⟩ := h.awaited c' done' hc'
    · exact .inl (List.mem_cons_of_mem done hclosed)
    · by_cases howns : owner = c
      · rw [howns] at howner
        obtain rfl := Option.some.inj (howner.symm.trans (congrArg Phase.owes hc))
        exact .inl List.mem_cons_self
      · exact .inr ⟨owner, by rw [Ledger.owes_settle_of_ne howns, howner]⟩
  running := by
    have hopen : done ∉ x.closedChans := h.sound.unsettled c done (congrArg Phase.owes hc)
    change (x.panicked || decide (done ∈ x.closedChans)) = false
    rw [h.running, decide_eq_false hopen]
    rfl

theorem Kept.beginOwn (h : x.Kept) (hc : x.phase c = .locking) :
    (x.beginOwnMediaUpdate c).Kept := by
  have hfrom : (x.phase c).owes = none := congrArg Phase.owes hc
  unfold beginOwnMediaUpdate
  split_ifs
  · exact h.setPhase hfrom rfl (by simp)
  · split
    · exact h.mark ‹_› hfrom
    · rename_i done hset
      obtain ⟨owner, howner⟩ := (h.marked done).mp hset
      refine h.setPhase hfrom rfl fun done' heq => .inr ⟨owner, ?_⟩
      rw [← Phase.waiting.inj heq]
      exact congrArg Phase.owes howner

theorem Kept.beginPeer (h : x.Kept) (hc : x.phase c = .idle) : (x.beginPeerMediaUpdate c).Kept := by
  have hfrom : (x.phase c).owes = none := congrArg Phase.owes hc
  unfold beginPeerMediaUpdate
  split_ifs with hset
  · exact h.setPhase hfrom rfl (by simp)
  · exact h.mark (not_not.mp hset) hfrom

theorem Kept.step (h : x.Kept) (e : Event Call) : (x.step e).Kept := by
  cases e with
  | callOwn c =>
    rw [System.step]
    split_ifs with hc
    · exact h.setPhase (congrArg Phase.owes hc) rfl (by simp)
    · exact h
  | lockOwn c =>
    rw [System.step]
    split_ifs with hc
    · exact h.beginOwn hc
    · exact h
  | wake c =>
    rw [System.step]
    split
    · rename_i done hc
      split_ifs
      · exact h.setPhase (congrArg Phase.owes hc) rfl (by simp)
      · exact h
    · exact h
  | cancel c =>
    rw [System.step]
    split
    · rename_i done hc
      exact h.setPhase (congrArg Phase.owes hc) rfl (by simp)
    · exact h
  | beginPeer c =>
    rw [System.step]
    split_ifs with hc
    · exact h.beginPeer hc
    · exact h
  | endUpdate c =>
    rw [System.step]
    split
    · exact h.endMediaUpdate ‹_›
    · exact h
  | closeDone c =>
    rw [System.step]
    split
    · exact h.closeDone ‹_›
    · exact h
  | closeMedia => exact { h with }

omit [DecidableEq Call] in
theorem Kept.unmarked (h : x.Kept) (hall : ∀ c, (x.phase c).owes = none) :
    x.mediaUpdateDone = none ∧ ∀ c done, x.phase c = .waiting done → done ∈ x.closedChans := by
  constructor
  · rw [Option.eq_none_iff_forall_ne_some]
    intro done hdone
    obtain ⟨c, hc⟩ := (h.marked done).mp hdone
    exact absurd ((congrArg Phase.owes hc).symm.trans (hall c)) (by simp [Phase.owes])
  · intro c done hc
    obtain hclosed | ⟨owner, howner⟩ := h.awaited c done hc
    · exact hclosed
    · exact absurd (howner.symm.trans (hall owner)) (by simp)

end System

theorem kept_reached (events : List (Event Call)) : (reached events).Kept := by
  apply runFrom_invariant System.Kept fun x e h => h.step e
  exact ⟨Ledger.sound_empty, by simp, by simp, rfl⟩

/-! ## The functions returned -/

/-- The functions that these calls returned run, one after the other. -/
def ends (cs : List Call) : List (Event Call) := cs.flatMap fun c => [.endUpdate c, .closeDone c]

theorem phase_end (x : System Call) (c c' : Call) :
    ((x.step (.endUpdate c)).step (.closeDone c)).phase c' =
      if c' = c ∧ (x.phase c).owes ≠ none then .ended else x.phase c' := by
  by_cases hsame : c' = c <;> cases hc : x.phase c <;>
    simp [System.step, hc, System.endMediaUpdate, System.closeDone, System.phase_setPhase,
      Phase.owes, hsame]

theorem phase_ends (cs : List Call) (x : System Call) (c' : Call) :
    (runFrom System.step x (ends cs)).phase c' =
      if c' ∈ cs ∧ (x.phase c').owes ≠ none then .ended else x.phase c' := by
  induction cs generalizing x with
  | nil => simp [ends, runFrom]
  | cons c cs ih =>
    change (runFrom System.step ((x.step (.endUpdate c)).step (.closeDone c)) (ends cs)).phase c' = _
    rw [ih, phase_end]
    grind [Phase.owes]

/-- In every interleaving at most one update is in progress, the peer is refused exactly while one
is, no channel is closed twice, and once every function returned has run nothing is marked and
nobody waits for a channel that is open. Running those that are left gets there, and each call that
waits then wakes. -/
theorem updates_take_turns (events : List (Event Call)) :
    let x := reached events
    (∀ c c' done done', x.phase c = .holding done → x.phase c' = .holding done' → c = c') ∧
      (∀ c, x.phase c = .idle → ((x.step (.beginPeer c)).phase c = .refused .inProgress ↔
        ∃ c' done, x.phase c' = .holding done)) ∧
      (x.closedChans.Nodup ∧ x.panicked = false) ∧
      ((∀ c, (x.phase c).owes = none) → x.mediaUpdateDone = none ∧
        ∀ c done, x.phase c = .waiting done → done ∈ x.closedChans) ∧
      ∀ cs, (∀ c, (x.phase c).owes ≠ none → c ∈ cs) →
        let y := runFrom System.step x (ends cs)
        y.mediaUpdateDone = none ∧
          ∀ c done, x.phase c = .waiting done → (y.step (.wake c)).phase c = .locking := by
  intro x
  have hkept : x.Kept := kept_reached events
  refine ⟨fun c c' done done' hc hc' => ?_, fun c hc => ?_, ⟨hkept.sound.nodup, hkept.running⟩,
    hkept.unmarked, fun cs hcs => ?_⟩
  · have hset := (hkept.marked done).mpr ⟨c, hc⟩
    obtain rfl := Option.some.inj (hset.symm.trans ((hkept.marked done').mpr ⟨c', hc'⟩))
    exact hkept.sound.apart c c' done (congrArg Phase.owes hc) (congrArg Phase.owes hc')
  · rw [System.step, if_pos hc, System.beginPeerMediaUpdate]
    split_ifs with hset
    · refine iff_of_true (by rw [System.phase_setPhase, if_pos rfl]) ?_
      obtain ⟨done, hdone⟩ := Option.ne_none_iff_exists'.mp hset
      obtain ⟨c', hc'⟩ := (hkept.marked done).mp hdone
      exact ⟨c', done, hc'⟩
    · refine iff_of_false (by rw [System.phase_mark, if_pos rfl]; simp) ?_
      rintro ⟨c', done, hc'⟩
      exact hset (by rw [(hkept.marked done).mpr ⟨c', hc'⟩]; simp)
  · intro y
    have hy : y.Kept := runFrom_invariant System.Kept (fun _ e h => h.step e) hkept (ends cs)
    have hall (c : Call) : (y.phase c).owes = none := by
      rw [phase_ends]
      split_ifs with hc
      · rfl
      · exact not_not.mp fun howes => hc ⟨hcs c howes, howes⟩
    refine ⟨(hy.unmarked hall).1, fun c done hc => ?_⟩
    have hwaits : y.phase c = .waiting done := by
      rw [phase_ends, if_neg (by simp [hc, Phase.owes]), hc]
    simp [System.step, hwaits, (hy.unmarked hall).2 c done hwaits, System.phase_setPhase]

/-- A call that waits for another one's update wakes after the end of that. -/
theorem waiting_call_woken :
    let x : System (Fin 3) :=
      reached [.callOwn 0, .lockOwn 0, .callOwn 1, .lockOwn 1, .beginPeer 2]
    [0, 1, 2].map x.phase = [.holding 0, .waiting 0, .refused .inProgress] ∧
      ((runFrom System.step x (ends [0])).step (.wake 1)).phase 1 = .locking := by
  refine ⟨by decide, ?_⟩
  exact ((updates_take_turns _).2.2.2.2 [0] (by decide)).2 1 0 (by decide)

end Diago.Dialog.Turns
