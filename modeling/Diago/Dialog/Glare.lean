import Diago.Dialog.Turns
import Diago.Lib.Schedule

/-! # Re-INVITEs of both ends

Either end of a dialog may re-INVITE at any time. Each end marks a re-INVITE in
progress as `Turns` has it, its own from before it is sent until its final
response is handled, and the peer's until the ACK to its 2xx is read. A
re-INVITE that arrives while one is in progress is answered 491, and is tried
again later as another exchange. A handler of the peer's re-INVITEs takes one at
a time.

Exchanges are numbered, and `origin` says which end starts each. Messages take
any time, and may overtake those of other exchanges. A re-INVITE that was sent is
awaited: a context that ends meanwhile is not modelled.
-/
namespace Diago.Dialog.Glare
open Lib Turns

/-- How far an exchange is. -/
inductive Stage
  | unsent
  /-- The re-INVITE is on its way. -/
  | invited
  /-- The peer has begun its update, and has not answered. -/
  | handling
  /-- The 2xx is on its way. -/
  | accepted
  /-- The 491 is on its way. -/
  | refused
  /-- Another final response is on its way. -/
  | rejected
  /-- The 2xx was handled, and the ACK is on its way. -/
  | acking
  | finished
  deriving DecidableEq

structure Pair where
  ends : Bool → System ℕ := fun _ => {}
  stage : ℕ → Stage := fun _ => .unsent
  /-- The exchange whose handler holds requestMu. -/
  serving : Bool → Option ℕ := fun _ => none
  /-- The exchanges an end has seen accepted, in order: the peer's as it answered them, its own as
  it handled the answers. -/
  log : Bool → List ℕ := fun _ => []

/-- The steps of beginOwnMediaUpdate. -/
inductive Begin
  | call
  | lock
  | wake
  | cancel
  deriving DecidableEq

def Begin.event (n : ℕ) : Begin → Turns.Event ℕ
  | .call => .callOwn n
  | .lock => .lockOwn n
  | .wake => .wake n
  | .cancel => .cancel n

inductive Step
  | begins (n : ℕ) (b : Begin)
  | invite (n : ℕ)
  | receive (n : ℕ)
  | accept (n : ℕ)
  | reject (n : ℕ)
  | respond (n : ℕ)
  | endOwn (n : ℕ)
  | closeOwn (n : ℕ)
  | ack (n : ℕ)
  | endPeer (n : ℕ)
  | closePeer (n : ℕ)
  deriving DecidableEq

def holds : Phase → Bool
  | .holding _ => true
  | _ => false

namespace Pair

def turn (x : Pair) (i : Bool) (e : Turns.Event ℕ) : Pair :=
  { x with ends := Function.update x.ends i ((x.ends i).step e) }

def setStage (x : Pair) (n : ℕ) (s : Stage) : Pair :=
  { x with stage := Function.update x.stage n s }

def record (x : Pair) (i : Bool) (n : ℕ) : Pair :=
  { x with log := Function.update x.log i (x.log i ++ [n]) }

def serve (x : Pair) (i : Bool) (n : Option ℕ) : Pair :=
  { x with serving := Function.update x.serving i n }

variable (origin : ℕ → Bool)

def step (x : Pair) : Step → Option Pair
  | .begins n b => some (x.turn (origin n) (b.event n))
  | .invite n =>
    if x.stage n = .unsent ∧ holds ((x.ends (origin n)).phase n) then some (x.setStage n .invited)
    else none
  | .receive n =>
    if x.stage n = .invited ∧ x.serving (!origin n) = none then
      let y := x.turn (!origin n) (.beginPeer n)
      if holds ((y.ends (!origin n)).phase n) then
        some ((y.setStage n .handling).serve (!origin n) (some n))
      else some (y.setStage n .refused)
    else none
  | .accept n =>
    if x.stage n = .handling then some ((x.setStage n .accepted).record (!origin n) n) else none
  | .reject n => if x.stage n = .handling then some (x.setStage n .rejected) else none
  | .respond n =>
    if x.stage n = .accepted then some ((x.setStage n .acking).record (origin n) n)
    else if x.stage n = .refused ∨ x.stage n = .rejected then some (x.setStage n .finished)
    else none
  | .endOwn n =>
    if x.stage n = .acking ∨ x.stage n = .finished then some (x.turn (origin n) (.endUpdate n))
    else none
  | .closeOwn n => some (x.turn (origin n) (.closeDone n))
  | .ack n => if x.stage n = .acking then some (x.setStage n .finished) else none
  | .endPeer n =>
    if x.serving (!origin n) = some n ∧ (x.stage n = .rejected ∨ x.stage n = .finished) then
      some (x.turn (!origin n) (.endUpdate n))
    else none
  | .closePeer n =>
    if x.serving (!origin n) = some n ∧ ((x.ends (!origin n)).phase n).owes ≠ none ∧
        holds ((x.ends (!origin n)).phase n) = false then
      some ((x.turn (!origin n) (.closeDone n)).serve (!origin n) none)
    else none

end Pair

/-! ## The calls at one end -/

section End

variable {x : System ℕ} {c c' : ℕ} {done done' : ℕ} {e : Turns.Event ℕ}

theorem holding_step (hc : x.phase c = .holding done) (he : e ≠ .endUpdate c) :
    (x.step e).phase c = .holding done := by
  have hupdate : ∀ {c' p}, x.phase c' ≠ .holding done →
      Function.update x.phase c' p c = .holding done := by
    intro c' p hne
    rw [Function.update_of_ne]
    · exact hc
    · rintro rfl
      exact hne hc
  cases e with
  | callOwn c' =>
    rw [System.step]
    split_ifs with hidle
    · exact hupdate (by simp [hidle])
    · exact hc
  | lockOwn c' =>
    rw [System.step]
    split_ifs with hlock
    · unfold System.beginOwnMediaUpdate
      split_ifs
      · exact hupdate (by simp [hlock])
      · split <;> exact hupdate (by simp [hlock])
    · exact hc
  | wake c' =>
    rw [System.step]
    split
    next hwait =>
      split_ifs
      · exact hupdate (by simp [hwait])
      · exact hc
    · exact hc
  | cancel c' =>
    rw [System.step]
    split
    next hwait => exact hupdate (by simp [hwait])
    · exact hc
  | beginPeer c' =>
    rw [System.step]
    split_ifs with hidle
    · unfold System.beginPeerMediaUpdate
      split_ifs <;> exact hupdate (by simp [hidle])
    · exact hc
  | endUpdate c' =>
    have hne : c ≠ c' := by
      rintro rfl
      exact he rfl
    rw [System.step]
    split
    · exact (Function.update_of_ne hne _ _).trans hc
    · exact hc
  | closeDone c' =>
    rw [System.step]
    split
    next hending => exact hupdate (by simp [hending])
    · exact hc
  | closeMedia => exact hc

theorem holds_step (hc : holds (x.phase c) = true) (he : e ≠ .endUpdate c) :
    holds ((x.step e).phase c) = true := by
  cases hp : x.phase c with
  | holding done =>
    rw [holding_step hp he]
    rfl
  | _ => simp [hp, holds] at hc

theorem holds_unique (h : x.Kept) (hc : holds (x.phase c) = true)
    (hc' : holds (x.phase c') = true) : c = c' := by
  cases hp : x.phase c with
  | holding done =>
    cases hp' : x.phase c' with
    | holding done' =>
      have hset := (h.marked done).mpr ⟨c, hp⟩
      obtain rfl := Option.some.inj (hset.symm.trans ((h.marked done').mpr ⟨c', hp'⟩))
      exact h.sound.apart c c' done (congrArg Phase.owes hp) (congrArg Phase.owes hp')
    | _ => simp [hp', holds] at hc'
  | _ => simp [hp, holds] at hc

end End

/-! ## Both ends -/

/-- Whether the end that started an exchange has its update in progress for it. -/
def Stage.ownHeld : Stage → Bool
  | .invited | .handling | .accepted | .refused | .rejected => true
  | _ => false

def Stage.peerHeld : Stage → Bool
  | .handling | .accepted | .acking => true
  | _ => false

/-- The exchange may have been accepted. -/
def Stage.mayLog : Stage → Bool
  | .accepted | .acking | .finished => true
  | _ => false

namespace Pair

variable {origin : ℕ → Bool} {x y : Pair} {n m : ℕ} {i : Bool} {s : Stage}

structure Kept (origin : ℕ → Bool) (x : Pair) : Prop where
  ends : ∀ i, (x.ends i).Kept
  own : ∀ n, (x.stage n).ownHeld = true → holds ((x.ends (origin n)).phase n) = true
  peer : ∀ n, (x.stage n).peerHeld = true → holds ((x.ends (!origin n)).phase n) = true
  /-- The ends differ by the answer on its way. -/
  behind : ∀ n, x.stage n = .accepted → x.log (!origin n) = x.log (origin n) ++ [n]
  even : (∀ n, x.stage n ≠ .accepted) → x.log false = x.log true
  logged : ∀ i, ∀ n ∈ x.log i, (x.stage n).mayLog = true
  once : ∀ i, (x.log i).Nodup

theorem kept_init : Kept origin {} where
  ends _ := kept_reached []
  own _ h := by cases h
  peer _ h := by cases h
  behind _ h := by cases h
  even _ := rfl
  logged _ _ h := by cases h
  once _ := .nil

/-- Both ends have the update of an exchange in progress from when it is begun at the second one
until its answer is handled at the first, so there is one at the most. -/
theorem Kept.exclusive (h : Kept origin x) (hn : (x.stage n).ownHeld && (x.stage n).peerHeld)
    (hm : (x.stage m).peerHeld = true) : n = m := by
  rw [Bool.and_eq_true] at hn
  have hmpeer := h.peer m hm
  by_cases hend : (!origin m) = origin n
  · have hown := h.own n hn.1
    rw [hend] at hmpeer
    exact holds_unique (h.ends _) hown hmpeer
  · have hsame : (!origin m) = !origin n := by
      cases hom : origin m <;> cases hon : origin n <;> simp_all
    have hpeer := h.peer n hn.2
    rw [hsame] at hmpeer
    exact holds_unique (h.ends _) hpeer hmpeer

theorem Kept.turn (h : Kept origin x) (i : Bool) (e : Turns.Event ℕ)
    (hown : ∀ n, e = .endUpdate n → i = origin n → (x.stage n).ownHeld = false)
    (hpeer : ∀ n, e = .endUpdate n → i = (!origin n) → (x.stage n).peerHeld = false) :
    Kept origin (x.turn i e) := by
  have hkeep : ∀ j n, holds ((x.ends j).phase n) = true → (i = j → e ≠ .endUpdate n) →
      holds (((x.turn i e).ends j).phase n) = true := by
    intro j n hj hne
    simp only [Pair.turn, Function.update_apply]
    split_ifs with hij
    · exact hij ▸ holds_step (hij ▸ hj) (hne hij.symm)
    · exact hj
  refine ⟨fun j => ?_, fun n hn => ?_, fun n hn => ?_, h.behind, h.even, h.logged, h.once⟩
  · simp only [Pair.turn, Function.update_apply]
    split_ifs
    · exact (h.ends i).step e
    · exact h.ends j
  · refine hkeep _ n (h.own n hn) fun hi he => ?_
    have hn : (x.stage n).ownHeld = true := hn
    simp [hown n he hi] at hn
  · refine hkeep _ n (h.peer n hn) fun hi he => ?_
    have hn : (x.stage n).peerHeld = true := hn
    simp [hpeer n he hi] at hn

theorem stage_setStage_self (x : Pair) (n : ℕ) (s : Stage) : (x.setStage n s).stage n = s :=
  Function.update_self ..

theorem stage_setStage_of_ne (x : Pair) (s : Stage) (h : m ≠ n) :
    (x.setStage n s).stage m = x.stage m :=
  Function.update_of_ne h ..

theorem forall_setStage {P : ℕ → Stage → Prop} (hnew : P n s) (hold : ∀ m, P m (x.stage m))
    (m : ℕ) : P m ((x.setStage n s).stage m) := by
  by_cases hmn : m = n
  · rw [hmn, stage_setStage_self]
    exact hnew
  · rw [stage_setStage_of_ne x s hmn]
    exact hold m

theorem Kept.own_setStage (h : Kept origin x)
    (hown : s.ownHeld = true → holds ((x.ends (origin n)).phase n) = true) (m : ℕ) :
    ((x.setStage n s).stage m).ownHeld = true → holds ((x.ends (origin m)).phase m) = true :=
  forall_setStage (P := fun m s => s.ownHeld = true → holds ((x.ends (origin m)).phase m) = true)
    hown h.own m

theorem Kept.peer_setStage (h : Kept origin x)
    (hpeer : s.peerHeld = true → holds ((x.ends (!origin n)).phase n) = true) (m : ℕ) :
    ((x.setStage n s).stage m).peerHeld = true → holds ((x.ends (!origin m)).phase m) = true :=
  forall_setStage (P := fun m s => s.peerHeld = true → holds ((x.ends (!origin m)).phase m) = true)
    hpeer h.peer m

theorem Kept.setStage (h : Kept origin x)
    (hown : s.ownHeld = true → holds ((x.ends (origin n)).phase n) = true)
    (hpeer : s.peerHeld = true → holds ((x.ends (!origin n)).phase n) = true)
    (hfrom : x.stage n ≠ .accepted) (hto : s ≠ .accepted)
    (hlog : (x.stage n).mayLog = true → s.mayLog = true) : Kept origin (x.setStage n s) := by
  refine ⟨h.ends, h.own_setStage hown, h.peer_setStage hpeer, ?_, fun hno => h.even fun m hm => ?_,
    fun i => ?_, h.once⟩
  · apply forall_setStage
      (P := fun m s => s = .accepted → x.log (!origin m) = x.log (origin m) ++ [m])
    · exact fun hs => absurd hs hto
    · exact h.behind
  · have hmn : m ≠ n := fun hmn => hfrom (hmn ▸ hm)
    have hm' := hno m
    rw [stage_setStage_of_ne x s hmn] at hm'
    exact hm' hm
  · apply forall_setStage (P := fun m s => m ∈ x.log i → s.mayLog = true)
    · exact fun hm => hlog (h.logged i n hm)
    · exact h.logged i

theorem Kept.serve (h : Kept origin x) (i : Bool) (m : Option ℕ) : Kept origin (x.serve i m) :=
  ⟨h.ends, h.own, h.peer, h.behind, h.even, h.logged, h.once⟩

theorem log_record (x : Pair) (i : Bool) (n : ℕ) :
    (x.record i n).log i = x.log i ++ [n] ∧ (x.record i n).log (!i) = x.log (!i) := by
  cases i <;> simp [record]

theorem Kept.logged_record (h : Kept origin x) (hs : s.mayLog = true) (i j : Bool) (m : ℕ)
    (hm : m ∈ ((x.setStage n s).record j n).log i) :
    ((x.setStage n s).stage m).mayLog = true := by
  by_cases hmn : m = n
  · rw [hmn, stage_setStage_self]
    exact hs
  · have hmem : m ∈ x.log i := by
      simp only [record, Pair.setStage, Function.update_apply] at hm
      split_ifs at hm with hij
      · exact hij ▸ (List.mem_append.mp hm).resolve_right (by simpa using hmn)
      · exact hm
    rw [stage_setStage_of_ne x s hmn]
    exact h.logged i m hmem

theorem Kept.once_record (h : Kept origin x) {j : Bool} (hnew : n ∉ x.log j) (i : Bool) :
    (((x.setStage n s).record j n).log i).Nodup := by
  simp only [record, Pair.setStage, Function.update_apply]
  split_ifs
  · apply List.nodup_append.mpr
    refine ⟨h.once j, List.nodup_singleton n, fun a ha b hb hab => ?_⟩
    rw [hab, List.mem_singleton.mp hb] at ha
    exact hnew ha
  · exact h.once i

/-- The peer answers 2xx: nothing else was being answered, so the ends agreed until now. -/
theorem Kept.accept (h : Kept origin x) (hn : x.stage n = .handling) :
    Kept origin ((x.setStage n .accepted).record (!origin n) n) := by
  have hnone : ∀ m, x.stage m ≠ .accepted := by
    intro m hm
    have hnm : m = n := h.exclusive (by rw [hm]; rfl) (by rw [hn]; rfl)
    rw [hnm, hn] at hm
    cases hm
  have heven : x.log (!origin n) = x.log (origin n) := by
    have hsame := h.even hnone
    cases origin n
    · exact hsame.symm
    · exact hsame
  have hnew : n ∉ x.log (!origin n) := by
    intro hi
    have hmay := h.logged _ n hi
    rw [hn] at hmay
    cases hmay
  obtain ⟨hlog, hother⟩ := log_record (x.setStage n .accepted) (!origin n) n
  rw [Bool.not_not] at hother
  refine ⟨h.ends, h.own_setStage fun _ => h.own n (by rw [hn]; rfl),
    h.peer_setStage fun _ => h.peer n (by rw [hn]; rfl), fun m hm => ?_, fun hno => ?_,
    fun i => h.logged_record rfl i _, h.once_record hnew⟩
  · have hmn : m = n := by
      by_contra hmn
      exact hnone m ((stage_setStage_of_ne x .accepted hmn).symm.trans hm)
    rw [hmn, hlog, hother]
    exact congrArg (· ++ [n]) heven
  · exact absurd (stage_setStage_self x n .accepted) (hno n)

/-- The 2xx is handled: the ends agree again. -/
theorem Kept.respond (h : Kept origin x) (hn : x.stage n = .accepted) :
    Kept origin ((x.setStage n .acking).record (origin n) n) := by
  have hbehind := h.behind n hn
  have hnew : n ∉ x.log (origin n) := by
    have honce := h.once (!origin n)
    rw [hbehind] at honce
    exact fun hmem => (List.nodup_append.mp honce).2.2 n hmem n (List.mem_singleton.mpr rfl) rfl
  obtain ⟨hlog, hother⟩ := log_record (x.setStage n .acking) (origin n) n
  refine ⟨h.ends, h.own_setStage nofun, h.peer_setStage fun _ => h.peer n (by rw [hn]; rfl),
    fun m hm => ?_, fun hno => ?_, fun i => h.logged_record rfl i _, h.once_record hnew⟩
  · by_cases hmn : m = n
    · rw [hmn] at hm
      cases (stage_setStage_self x n .acking).symm.trans hm
    · have hm' := (stage_setStage_of_ne x .acking hmn).symm.trans hm
      exact absurd (h.exclusive (by rw [hm']; rfl) (by rw [hn]; rfl)) hmn
  · have hsame : ((x.setStage n .acking).record (origin n) n).log (origin n) =
        ((x.setStage n .acking).record (origin n) n).log (!origin n) := by
      rw [hlog, hother]
      exact hbehind.symm
    cases ho : origin n <;> rw [ho] at hsame
    · exact hsame
    · exact hsame.symm

theorem Kept.step (h : Kept origin x) {e : Step} (he : x.step origin e = some y) :
    Kept origin y := by
  cases e with
  | begins n b =>
    cases he
    exact h.turn _ _ (by cases b <;> exact nofun) (by cases b <;> exact nofun)
  | invite n =>
    obtain ⟨⟨hn, hholds⟩, he⟩ := Option.ite_none_right_eq_some.mp he
    cases he
    exact h.setStage (fun _ => hholds) nofun (by simp [hn]) nofun (by simp [hn, Stage.mayLog])
  | receive n =>
    obtain ⟨⟨hn, _⟩, he⟩ := Option.ite_none_right_eq_some.mp he
    have hturn := h.turn (!origin n) (.beginPeer n) nofun nofun
    have hstage : (x.turn (!origin n) (.beginPeer n)).stage n = .invited := hn
    have hown := hturn.own n (by rw [hstage]; rfl)
    split_ifs at he with hholds
    · cases he
      refine Kept.serve ?_ _ _
      refine hturn.setStage (s := .handling) (fun _ => hown) (fun _ => hholds) ?_ nofun ?_
      · simp [hstage]
      · simp [hstage, Stage.mayLog]
    · cases he
      refine hturn.setStage (fun _ => hown) nofun ?_ nofun ?_
      · simp [hstage]
      · simp [hstage, Stage.mayLog]
  | accept n =>
    obtain ⟨hn, he⟩ := Option.ite_none_right_eq_some.mp he
    cases he
    exact h.accept hn
  | reject n =>
    obtain ⟨hn, he⟩ := Option.ite_none_right_eq_some.mp he
    cases he
    exact h.setStage (fun _ => h.own n (by rw [hn]; rfl)) nofun (by simp [hn]) nofun
      (by simp [hn, Stage.mayLog])
  | respond n =>
    simp only [Pair.step] at he
    split_ifs at he with hn hn'
    · cases he
      exact h.respond hn
    · cases he
      exact h.setStage nofun nofun hn nofun fun _ => rfl
  | endOwn n =>
    obtain ⟨hn, he⟩ := Option.ite_none_right_eq_some.mp he
    cases he
    refine h.turn _ _ ?_ ?_
    · rintro m ⟨⟩ _
      rcases hn with hn | hn <;> rw [hn] <;> rfl
    · rintro m ⟨⟩ hm
      exact absurd hm (by cases origin n <;> decide)
  | closeOwn n =>
    cases he
    exact h.turn _ _ nofun nofun
  | ack n =>
    obtain ⟨hn, he⟩ := Option.ite_none_right_eq_some.mp he
    cases he
    exact h.setStage nofun nofun (by simp [hn]) nofun fun _ => rfl
  | endPeer n =>
    obtain ⟨⟨_, hn⟩, he⟩ := Option.ite_none_right_eq_some.mp he
    cases he
    refine h.turn _ _ ?_ ?_
    · rintro m ⟨⟩ hm
      exact absurd hm (by cases origin n <;> decide)
    · rintro m ⟨⟩ _
      rcases hn with hn | hn <;> rw [hn] <;> rfl
  | closePeer n =>
    obtain ⟨_, he⟩ := Option.ite_none_right_eq_some.mp he
    cases he
    exact (h.turn (!origin n) (.closeDone n) nofun nofun).serve _ _

/-- In every interleaving of the re-INVITEs of both ends, however long their messages take: no two
exchanges are being answered at once, both ends have seen the same exchanges accepted, in the same
order and each once, but for one whose 2xx is on its way, which is then the last at the end that
answered it; and an exchange that was refused is in neither record. -/
theorem exchanges_agree (origin : ℕ → Bool) (events : List Step)
    (hx : schedule (step origin) {} events = some x) :
    (∀ n m, ((x.stage n).ownHeld && (x.stage n).peerHeld) = true →
      ((x.stage m).ownHeld && (x.stage m).peerHeld) = true → n = m) ∧
    ((x.log false = x.log true ∧ ∀ n, x.stage n ≠ .accepted) ∨
      ∃ n, x.stage n = .accepted ∧ x.log (!origin n) = x.log (origin n) ++ [n]) ∧
    (∀ i, (x.log i).Nodup) ∧
    (∀ i n, x.stage n = .refused ∨ x.stage n = .rejected → n ∉ x.log i) := by
  have h := schedule_invariant (Kept origin) (fun _ _ _ hs he => hs.step he) kept_init hx
  refine ⟨fun n m hn hm => ?_, ?_, h.once, fun i n hn hmem => ?_⟩
  · exact h.exclusive hn (by rw [Bool.and_eq_true] at hm; exact hm.2)
  · by_cases hacc : ∃ n, x.stage n = .accepted
    · obtain ⟨n, hn⟩ := hacc
      exact .inr ⟨n, hn, h.behind n hn⟩
    · have hnone : ∀ n, x.stage n ≠ .accepted := fun n hn => hacc ⟨n, hn⟩
      exact .inl ⟨h.even hnone, hnone⟩
  · have hmay := h.logged i n hmem
    rcases hn with hn | hn <;> rw [hn] at hmay <;> cases hmay

/-- Both ends re-INVITE at once and refuse each other, and the retry of one of them is accepted. -/
theorem exchanges_agree_glare : ∃ x : Pair,
    schedule (step fun n => n = 1) {}
      [.begins 0 .call, .begins 0 .lock, .begins 1 .call, .begins 1 .lock, .invite 0, .invite 1,
        .receive 0, .receive 1, .respond 1, .endOwn 1, .closeOwn 1, .respond 0, .endOwn 0,
        .closeOwn 0, .begins 2 .call, .begins 2 .lock, .invite 2, .receive 2, .accept 2] = some x ∧
    x.stage 0 = .finished ∧ x.stage 2 = .accepted ∧
    ((x.log false = x.log true ∧ ∀ n, x.stage n ≠ .accepted) ∨
      ∃ n, x.stage n = .accepted ∧ x.log (!(n = 1)) = x.log (n = 1) ++ [n]) :=
  ⟨_, rfl, by decide, by decide, (exchanges_agree (fun n => n = 1)
    [.begins 0 .call, .begins 0 .lock, .begins 1 .call, .begins 1 .lock, .invite 0, .invite 1,
      .receive 0, .receive 1, .respond 1, .endOwn 1, .closeOwn 1, .respond 0, .endOwn 0,
      .closeOwn 0, .begins 2 .call, .begins 2 .lock, .invite 2, .receive 2, .accept 2] rfl).2.1⟩

end Pair

end Diago.Dialog.Glare
