import Diago.Lib.Run
import Diago.Refer.Attempt

/-! # The life of a REFER attempt

Whatever the callers, the peer and the timers of a dialog do, one attempt sees only a
few moves: its caller goes on, its CSeq is recorded, it takes a NOTIFY, it ends, it is
retired.
-/
namespace Diago.Refer
open Lib

section Life

variable [UnicodeCase] {t1 : ℤ}

/-- One attempt with its caller and the NOTIFYs recorded on it. -/
structure View where
  attempt : ReferAttempt := {}
  caller : Caller := .sending
  recorded : List ReferNotify := []

def System.view (x : System) (a : ℕ) : View := ⟨x.dialog.attempt a, x.caller a, x.recorded a⟩

/-- The steps of a caller that leave its attempt alone. -/
inductive GoesOn (a : ReferAttempt) : Caller → Caller → Prop
  | assigned (cseq : UInt32) : GoesOn a .sending (.assigned cseq)
  | failed : GoesOn a .sending .failed
  | subscribed : GoesOn a .responded .waiting
  | seeDone : 0 < a.doneClosed → GoesOn a .waiting (.finishing none)
  | seeContext : GoesOn a .waiting (.finishing (some .cancelled))

/-- How a caller may finish its attempt from where it stands. -/
inductive Finishes : Caller → Option ReferEnd → Prop
  | cancelled : Finishes .failed (some .cancelled)
  | refused : Finishes .responded (some .refused)
  | chosen (how : Option ReferEnd) : Finishes (.finishing how) how

inductive Move (t1 : ℤ) : View → View → Prop
  | goesOn {v : View} {c : Caller} (h : GoesOn v.attempt v.caller c) :
      Move t1 v { v with caller := c }
  | setCSeq {v : View} {cseq : UInt32} {c : Caller} (h : v.caller = .assigned cseq)
      (hc : c = .responded ∨ c = .failed) :
      Move t1 v ⟨v.attempt.setCSeq cseq, c, v.recorded⟩
  | drop {v : View} (h : v.caller = .sending ∨ v.caller = .failed) :
      Move t1 v ⟨v.attempt.retire, .returned none, v.recorded⟩
  | finish {v : View} {how : Option ReferEnd} (h : Finishes v.caller how) :
      Move t1 v
        ⟨v.attempt.finish how, .returned (some (v.attempt.finish how).observation), v.recorded⟩
  | start {v : View} (deadline : ℤ) (h : v.caller = .responded) :
      Move t1 v ⟨v.attempt.arm deadline, .waiting, v.recorded⟩
  | take {v : View} (now : ℤ) (n : ReferNotify) (h : v.attempt.ended = none) :
      Move t1 v ⟨v.attempt.take t1 now n, v.caller, v.recorded ++ [n]⟩
  | expire {v : View} (h : v.attempt.ended = none) :
      Move t1 v { v with attempt := v.attempt.endOnBound }
  | retire {v : View} (h : v.attempt.ended ≠ none) :
      Move t1 v { v with attempt := v.attempt.retire }

def Sees (t1 : ℤ) (x y : System) (a : ℕ) : Prop := y.view a = x.view a ∨ Move t1 (x.view a) (y.view a)

def Dialog.AgreeBut (b : ℕ) (d d' : Dialog) : Prop := ∀ c ≠ b, d'.attempt c = d.attempt c

namespace Dialog

omit [UnicodeCase]

theorem agreeBut_refl (b : ℕ) (d : Dialog) : AgreeBut b d d := fun _ _ => rfl

theorem agreeBut_modify (b : ℕ) (d : Dialog) (f : ReferAttempt → ReferAttempt) :
    AgreeBut b d (d.modify b f) := fun _ hne => Function.update_of_ne hne _ _

theorem agreeBut_retireBy (b : ℕ) (d : Dialog) (f : ReferAttempt → ReferAttempt) :
    AgreeBut b d (d.retireBy b f) := agreeBut_modify b d f

theorem agreeBut_setReferAttemptCSeq (b : ℕ) (d : Dialog) (cseq : UInt32) :
    AgreeBut b d (d.setReferAttemptCSeq b cseq) := agreeBut_modify b d _

@[simp] theorem modify_attempt (d : Dialog) (b : ℕ) (f : ReferAttempt → ReferAttempt) :
    (d.modify b f).attempt b = f (d.attempt b) := Function.update_self ..

@[simp] theorem retireBy_attempt (d : Dialog) (b : ℕ) (f : ReferAttempt → ReferAttempt) :
    (d.retireBy b f).attempt b = f (d.attempt b) := Function.update_self ..

@[simp] theorem setReferAttemptCSeq_attempt (d : Dialog) (b : ℕ) (cseq : UInt32) :
    (d.setReferAttemptCSeq b cseq).attempt b = (d.attempt b).setCSeq cseq := Function.update_self ..

end Dialog

theorem sees_advance {x : System} {b : ℕ} {c : Caller} {d : Dialog}
    (hd : x.dialog.AgreeBut b d) (hmove : Move t1 (x.view b) ⟨d.attempt b, c, x.recorded b⟩)
    (a : ℕ) : Sees t1 x (x.advance b c d) a := by
  by_cases hab : a = b
  · subst hab
    refine .inr ?_
    simpa [System.view, System.advance] using hmove
  · refine .inl ?_
    simp [System.view, System.advance, hd a hab, hab]

theorem sees_dialog {x : System} {b : ℕ} {d : Dialog} (hd : x.dialog.AgreeBut b d)
    (hmove : d.attempt b = x.dialog.attempt b ∨
      Move t1 (x.view b) { x.view b with attempt := d.attempt b }) (a : ℕ) :
    Sees t1 x { x with dialog := d } a := by
  by_cases hab : a = b
  · subst hab
    refine hmove.imp (fun hsame => ?_) id
    simp [System.view, hsame]
  · exact .inl (by simp [System.view, hd a hab])

theorem sees_refl (x : System) (a : ℕ) : Sees t1 x x a := .inl rfl

theorem sees_goesOn {x : System} {b : ℕ} {c c' : Caller} (h : x.caller b = c)
    (hgo : GoesOn (x.dialog.attempt b) c c') (a : ℕ) : Sees t1 x (x.advance b c' x.dialog) a := by
  subst h
  exact sees_advance (Dialog.agreeBut_refl _ _) (.goesOn (v := x.view b) hgo) a

theorem sees_finishBy {x : System} {b : ℕ} {c : Caller} {how : Option ReferEnd}
    (h : x.caller b = c) (hc : Finishes c how) (a : ℕ) : Sees t1 x (x.finishBy b how) a := by
  subst h
  refine sees_advance (Dialog.agreeBut_retireBy _ _ _) ?_ a
  rw [Dialog.retireBy_attempt]
  exact .finish (v := x.view b) hc

theorem sees_drop {x : System} {b : ℕ} (h : x.caller b = .sending ∨ x.caller b = .failed) (a : ℕ) :
    Sees t1 x (x.advance b (.returned none) (x.dialog.dropReferAttempt b)) a := by
  refine sees_advance (Dialog.agreeBut_retireBy _ _ _) ?_ a
  rw [Dialog.retireBy_attempt]
  exact .drop (v := x.view b) h

theorem sees_setCSeq {x : System} {b : ℕ} {cseq : UInt32} {c : Caller}
    (h : x.caller b = .assigned cseq) (hc : c = .responded ∨ c = .failed) (a : ℕ) :
    Sees t1 x (x.advance b c (x.dialog.setReferAttemptCSeq b cseq)) a := by
  refine sees_advance (Dialog.agreeBut_setReferAttemptCSeq _ _ _) ?_ a
  rw [Dialog.setReferAttemptCSeq_attempt]
  exact .setCSeq (v := x.view b) h hc

theorem sees_accept {x : System} {b : ℕ} (now : ℤ) (h : x.caller b = .responded) (a : ℕ) :
    Sees t1 x (x.advance b .waiting (x.dialog.startReferSubscription t1 now b)) a := by
  unfold Dialog.startReferSubscription
  split_ifs
  · exact sees_goesOn h .subscribed a
  · refine sees_advance (Dialog.agreeBut_modify _ _ _) ?_ a
    rw [Dialog.modify_attempt]
    exact .start (v := x.view b) _ h

/-- A NOTIFY is recorded on an open attempt, or finds its deadline passed, or changes nothing. -/
theorem recordReferNotify_cases (d : Dialog) (t1 now : ℤ) (n : ReferNotify) :
    d.recordReferNotify t1 now n = (none, d) ∨
      ∃ b, d.referNotifyTarget n = some b ∧ (d.attempt b).ended = none ∧
        ((d.attempt b).deadline.any (· ≤ now) = true ∧
            d.recordReferNotify t1 now n = (none, d.retireBy b .endOnBound) ∨
          (d.attempt b).deadline.any (· ≤ now) = false ∧
            d.recordReferNotify t1 now n = (some b, d.modify b (.take t1 now n))) := by
  unfold Dialog.recordReferNotify
  split
  · exact .inl rfl
  case h_2 b hb =>
    split_ifs with hended hlate
    · exact .inl rfl
    · exact .inr ⟨b, hb, not_not.mp hended, .inl ⟨hlate, rfl⟩⟩
    · exact .inr ⟨b, hb, not_not.mp hended, .inr ⟨Bool.eq_false_iff.mpr hlate, rfl⟩⟩

theorem sees_notified (x : System) (now : ℤ) (n : ReferNotify) (a : ℕ) :
    Sees t1 x (x.notified t1 now n) a := by
  unfold System.notified
  obtain h | ⟨b, -, hended, ⟨-, h⟩ | ⟨-, h⟩⟩ := recordReferNotify_cases x.dialog t1 now n
  · rw [h]
    exact sees_refl x a
  · rw [h]
    refine sees_dialog (Dialog.agreeBut_retireBy _ _ _) (.inr ?_) a
    rw [Dialog.retireBy_attempt]
    exact .expire (v := x.view b) hended
  · rw [h]
    by_cases hab : a = b
    · subst hab
      refine .inr ?_
      have hmove : Move t1 (x.view a) _ := .take now n hended
      simpa [System.view] using hmove
    · refine .inl ?_
      simp [System.view, Dialog.agreeBut_modify b x.dialog _ a hab, hab]

theorem sees_retireEnded (x : System) (b a : ℕ) :
    Sees t1 x { x with dialog := x.dialog.retireEndedReferAttempt b } a := by
  unfold Dialog.retireEndedReferAttempt
  split_ifs with hended
  · refine sees_dialog (Dialog.agreeBut_retireBy _ _ _) (.inr ?_) a
    rw [Dialog.retireBy_attempt]
    exact .retire (v := x.view b) hended
  · exact sees_refl x a

theorem sees_timer (x : System) (b armed a : ℕ) :
    Sees t1 x { x with dialog := x.dialog.endReferAttemptOnItsBound b armed } a := by
  unfold Dialog.endReferAttemptOnItsBound
  split_ifs with hstop
  · exact sees_refl x a
  · refine sees_dialog (Dialog.agreeBut_retireBy _ _ _) (.inr ?_) a
    rw [Dialog.retireBy_attempt]
    exact .expire (v := x.view b) (not_not.mp (not_or.mp hstop).1)

/-- What an attempt sees of a critical section other than its beginning. -/
theorem step_sees (t1 : ℤ) (x : System) (e : Event) (a : ℕ) (hbegun : e = .begin → a ≠ x.dialog.begun) :
    Sees t1 x (x.step t1 e) a := by
  cases e with
  | begin =>
    refine .inl ?_
    simp [System.step, System.view, System.advance, Dialog.beginReferAttempt, hbegun rfl]
  | assign b cseq =>
    simp only [System.step]
    split_ifs with h
    · exact sees_goesOn h.1 (.assigned cseq) a
    · exact sees_refl x a
  | forget cseq =>
    simp only [System.step]
    split_ifs <;> exact .inl rfl
  | reach cseq =>
    simp only [System.step]
    split_ifs <;> exact .inl rfl
  | respond b =>
    simp only [System.step]
    split
    case h_1 cseq h => exact sees_setCSeq h (.inl rfl) a
    · exact sees_refl x a
  | fail b =>
    unfold System.step
    dsimp only
    cases hcaller : x.caller b with
    | assigned cseq => exact sees_setCSeq hcaller (.inr rfl) a
    | sending => exact sees_goesOn hcaller .failed a
    | _ => exact sees_refl x a
  | notBuilt b =>
    simp only [System.step]
    split_ifs with h
    · exact sees_drop (.inl h) a
    · exact sees_refl x a
  | carryFailed b =>
    simp only [System.step]
    split_ifs with h
    · exact sees_drop (.inr h) a
    · exact sees_refl x a
  | cancel b =>
    simp only [System.step]
    split_ifs with h
    · exact sees_finishBy h .cancelled a
    · exact sees_refl x a
  | refuse b =>
    simp only [System.step]
    split_ifs with h
    · exact sees_finishBy h .refused a
    · exact sees_refl x a
  | accept now b =>
    simp only [System.step]
    split_ifs with h
    · exact sees_accept now h a
    · exact sees_refl x a
  | seeDone b =>
    simp only [System.step]
    split_ifs with h
    · exact sees_goesOn h.1 (.seeDone h.2) a
    · exact sees_refl x a
  | seeContext b =>
    simp only [System.step]
    split_ifs with h
    · exact sees_goesOn h .seeContext a
    · exact sees_refl x a
  | finish b =>
    simp only [System.step]
    split
    case h_1 how h => exact sees_finishBy h (.chosen how) a
    · exact sees_refl x a
  | notify now n => exact sees_notified x now n a
  | retireEnded b => exact sees_retireEnded x b a
  | timer b armed =>
    simp only [System.step]
    split_ifs
    · exact sees_timer x b armed a
    · exact sees_refl x a

structure View.Sound (v : View) : Prop where
  done : v.attempt.doneClosed = if v.attempt.registered then 0 else 1
  retired : v.attempt.registered = false → v.attempt.ended ≠ none ∨ v.caller = .returned none
  finishing : v.caller = .finishing none → v.attempt.ended ≠ none
  returned : ∀ obs, v.caller = .returned obs → v.attempt.registered = false
  observed : ∀ obs, v.caller = .returned (some obs) → obs.ended ≠ none
  kept : v.attempt.notifies.length ≤ maxReferNotifies
  counted : v.attempt.notifies.length + v.attempt.dropped = v.recorded.length
  ordered : v.attempt.notifies.Sublist v.recorded
  open_ : v.attempt.ended = none → ∀ n ∈ v.recorded, n.endsSubscription = false
  last : ∀ n ∈ v.recorded, n.endsSubscription = true → v.attempt.notifies.getLast? = some n

theorem View.sound_new : View.Sound {} where
  done := rfl
  retired := by simp
  finishing := by simp
  returned := by simp
  observed := by simp
  kept := by simp
  counted := rfl
  ordered := .refl _
  open_ := by simp
  last := by simp

section Retire

omit [UnicodeCase]

variable (a : ReferAttempt)

@[simp] theorem retire_registered : a.retire.registered = false := by
  unfold ReferAttempt.retire
  split_ifs with h
  · rfl
  · simpa using h

@[simp] theorem retire_ended : a.retire.ended = a.ended := by
  unfold ReferAttempt.retire
  split_ifs <;> rfl

@[simp] theorem retire_notifies : a.retire.notifies = a.notifies := by
  unfold ReferAttempt.retire
  split_ifs <;> rfl

@[simp] theorem retire_dropped : a.retire.dropped = a.dropped := by
  unfold ReferAttempt.retire
  split_ifs <;> rfl

theorem retire_doneClosed {a : ReferAttempt} (h : a.doneClosed = if a.registered then 0 else 1) :
    a.retire.doneClosed = 1 := by
  unfold ReferAttempt.retire
  split_ifs with hreg
  · simp [h, hreg]
  · simp [h, hreg]

end Retire

theorem View.Sound.retire {v : View} (h : v.Sound) {how : Option ReferEnd} {c : Caller}
    (hhow : v.attempt.ended ≠ none → how ≠ none)
    (hc : how ≠ none ∨ c = .returned none) (hfin : c = .finishing none → how ≠ none)
    (hobs : ∀ obs, c = .returned (some obs) → obs.ended ≠ none) :
    View.Sound ⟨{ v.attempt with ended := how }.retire, c, v.recorded⟩ where
  done := by
    rw [retire_registered]
    exact retire_doneClosed h.done
  retired _ := by simpa using hc
  finishing hf := by simpa using hfin hf
  returned _ _ := retire_registered _
  observed := hobs
  kept := by simpa using h.kept
  counted := by simpa using h.counted
  ordered := by simpa using h.ordered
  open_ hopen := by
    refine h.open_ ?_
    by_contra hended
    exact hhow hended (by simpa using hopen)
  last := by simpa using h.last

section Keep

variable (n : ReferNotify) (kept : List ReferNotify)

theorem keep_getLast (h : n.endsSubscription = true) :
    (ReferAttempt.keep n kept).getLast? = some n := by
  unfold ReferAttempt.keep
  split_ifs <;> simp

theorem keep_sublist {all : List ReferNotify} (h : kept.Sublist all) :
    (ReferAttempt.keep n kept).Sublist (all ++ [n]) := by
  unfold ReferAttempt.keep
  split_ifs
  · exact h.append (.refl _)
  · exact ((List.dropLast_sublist kept).trans h).append (.refl _)
  · exact h.trans (List.sublist_append_left _ _)

theorem keep_length (h : kept.length ≤ maxReferNotifies) :
    (ReferAttempt.keep n kept).length =
      if kept.length < maxReferNotifies then kept.length + 1 else kept.length := by
  have hpos : 0 < maxReferNotifies := by decide
  unfold ReferAttempt.keep
  split_ifs
  · simp
  · simp only [List.length_append, List.length_dropLast, List.length_singleton]
    omega
  · rfl

end Keep

theorem take_eq (a : ReferAttempt) (t1 now : ℤ) (n : ReferNotify) :
    ∃ deadline armed, a.take t1 now n =
      { a.record n with deadline := deadline, boundArmed := armed } := by
  unfold ReferAttempt.take
  split_ifs
  · exact ⟨_, _, rfl⟩
  · exact ⟨_, _, rfl⟩

theorem record_ended {a : ReferAttempt} {n : ReferNotify} (h : a.ended = none) :
    (a.record n).ended = none ↔ n.endsSubscription = false := by
  simp only [ReferAttempt.record, h, ReferNotify.endsSubscription]
  split_ifs <;> simp_all

theorem View.Sound.take {v : View} (h : v.Sound) (hopen : v.attempt.ended = none) (now : ℤ)
    (n : ReferNotify) :
    View.Sound ⟨v.attempt.take t1 now n, v.caller, v.recorded ++ [n]⟩ := by
  obtain ⟨deadline, armed, heq⟩ := take_eq v.attempt t1 now n
  rw [heq]
  have hlen := keep_length n v.attempt.notifies h.kept
  have hcount := h.counted
  have hkept := h.kept
  refine ⟨h.done, fun hreg => ?_, fun hf => absurd hopen (h.finishing hf), h.returned, h.observed,
    ?_, ?_, keep_sublist n _ h.ordered, fun hrec m hm => ?_, fun m hm hend => ?_⟩
  · exact .inr ((h.retired hreg).resolve_left (not_not.mpr hopen))
  · simp only [ReferAttempt.record, hlen]
    split_ifs <;> omega
  · simp only [ReferAttempt.record, hlen, List.length_append, List.length_singleton]
    split_ifs <;> omega
  · rcases List.mem_append.mp hm with hold | hnew
    · exact h.open_ hopen m hold
    · rw [List.mem_singleton.mp hnew]
      exact (record_ended hopen).mp hrec
  · rcases List.mem_append.mp hm with hold | hnew
    · rw [h.open_ hopen m hold] at hend
      simp at hend
    · rw [List.mem_singleton.mp hnew] at hend ⊢
      exact keep_getLast n _ hend

theorem View.Sound.goesOn {v : View} (h : v.Sound) {c : Caller} (hv : v.caller ≠ .returned none)
    (hc : ∀ obs, c ≠ .returned obs) (hfin : c = .finishing none → v.attempt.ended ≠ none) :
    View.Sound { v with caller := c } :=
  { h with
    retired := fun hreg => .inl ((h.retired hreg).resolve_right hv)
    finishing := hfin
    returned := fun obs hobs => absurd hobs (hc obs)
    observed := fun obs hobs => absurd hobs (hc (some obs)) }

theorem Finishes.sound {v : View} {how : Option ReferEnd} (h : v.Sound)
    (hfin : Finishes v.caller how) :
    View.Sound
      ⟨v.attempt.finish how, .returned (some (v.attempt.finish how).observation), v.recorded⟩ := by
  have hended : (if v.attempt.ended = none ∨ how = some ReferEnd.refused then how
      else v.attempt.ended) ≠ none := by
    cases hcaller : v.caller with
    | finishing how' =>
      rw [hcaller] at hfin
      cases hfin
      cases how with
      | none => simp [h.finishing hcaller]
      | some e => split_ifs <;> simp_all
    | failed =>
      rw [hcaller] at hfin
      cases hfin
      split_ifs <;> simp_all
    | responded =>
      rw [hcaller] at hfin
      cases hfin
      simp
    | _ =>
      rw [hcaller] at hfin
      cases hfin
  refine h.retire (fun _ => hended) (.inl hended) (by simp) fun obs hobs => ?_
  obtain rfl : (v.attempt.finish how).observation = obs := by simpa using hobs
  simpa [ReferAttempt.observation, ReferAttempt.finish] using hended

theorem Move.sound {v w : View} (hmove : Move t1 v w) (h : v.Sound) : w.Sound := by
  cases hmove with
  | goesOn hgo =>
    have hv : v.caller ≠ .returned none := by
      rintro hv
      rw [hv] at hgo
      cases hgo
    cases hcaller : v.caller <;> rw [hcaller] at hgo <;> cases hgo
    case seeDone hdone =>
      refine h.goesOn hv (by simp) fun _ => (h.retired ?_).resolve_right hv
      rw [h.done] at hdone
      split_ifs at hdone with hreg
      · simp at hdone
      · simpa using hreg
    all_goals exact h.goesOn hv (by simp) (by simp)
  | @setCSeq cseq c hcaller hc =>
    have hgo : View.Sound { v with caller := c } :=
      h.goesOn (by simp [hcaller]) (by rcases hc with rfl | rfl <;> simp)
        (by rcases hc with rfl | rfl <;> simp)
    exact { hgo with }
  | drop hcaller => exact h.retire id (.inr rfl) (by simp) (by simp)
  | finish hfin => exact hfin.sound h
  | start deadline hcaller =>
    have hgo : View.Sound { v with caller := .waiting } :=
      h.goesOn (by simp [hcaller]) (by simp) (by simp)
    exact { hgo with }
  | take now n hopen => exact h.take hopen now n
  | expire hopen => exact h.retire (by simp) (.inl (by simp)) (by simp) h.observed
  | retire hended => exact h.retire id (.inl hended) (fun _ => hended) h.observed

theorem step_begun (x : System) {e : Event} (he : e ≠ .begin) :
    (x.step t1 e).dialog.begun = x.dialog.begun := by
  have hnotify (now : ℤ) (n : ReferNotify) :
      (x.dialog.recordReferNotify t1 now n).2.begun = x.dialog.begun := by
    obtain h | ⟨b, -, -, ⟨-, h⟩ | ⟨-, h⟩⟩ := recordReferNotify_cases x.dialog t1 now n <;>
      rw [h] <;> rfl
  cases e with
  | notify now n => exact hnotify now n
  | respond b | fail b | finish b =>
    unfold System.step
    dsimp only
    cases x.caller b <;> rfl
  | accept now b =>
    simp only [System.step, Dialog.startReferSubscription]
    split_ifs <;> rfl
  | retireEnded b =>
    simp only [System.step, Dialog.retireEndedReferAttempt]
    split_ifs <;> rfl
  | timer b armed =>
    simp only [System.step, Dialog.endReferAttemptOnItsBound]
    split_ifs <;> rfl
  | begin => exact absurd rfl he
  | _ =>
    simp only [System.step]
    split_ifs <;> rfl

def System.Sound (x : System) : Prop := ∀ a < x.dialog.begun, (x.view a).Sound

theorem step_sound (x : System) (e : Event) (h : x.Sound) : (x.step t1 e).Sound := by
  intro a ha
  by_cases hnew : e = .begin ∧ a = x.dialog.begun
  · obtain ⟨rfl, rfl⟩ := hnew
    have hview : (x.step t1 .begin).view x.dialog.begun = {} := by
      simp [System.step, System.view, System.advance, Dialog.beginReferAttempt]
    rw [hview]
    exact View.sound_new
  · have hold : a < x.dialog.begun := by
      by_cases he : e = .begin
      · subst he
        exact Nat.lt_of_le_of_ne (Nat.lt_succ_iff.mp ha) fun heq => hnew ⟨rfl, heq⟩
      · rwa [step_begun x he] at ha
    obtain hsame | hmove := step_sees t1 x e a fun he heq => hnew ⟨he, heq⟩
    · rw [hsame]
      exact h a hold
    · exact hmove.sound (h a hold)

/-- An attempt that has ended stays ended as it did, unless its REFER turns out to be refused, and
takes no further NOTIFY. -/
theorem Move.ended {v w : View} (hmove : Move t1 v w) (hended : v.attempt.ended ≠ none) :
    (w.attempt.ended = v.attempt.ended ∨ w.attempt.ended = some .refused) ∧
      w.recorded = v.recorded ∧ w.attempt.notifies = v.attempt.notifies ∧
      w.attempt.dropped = v.attempt.dropped := by
  cases hmove with
  | goesOn _ | setCSeq _ _ | start _ _ => exact ⟨.inl rfl, rfl, rfl, rfl⟩
  | drop _ | retire _ => simp
  | take _ _ hopen | expire hopen => exact absurd hopen hended
  | finish hfin =>
    refine ⟨?_, rfl, by simp [ReferAttempt.finish], by simp [ReferAttempt.finish]⟩
    simp only [ReferAttempt.finish, retire_ended, hended, false_or]
    split_ifs with hrefused
    · exact .inr hrefused
    · exact .inl rfl

/-- The state of a dialog after the critical sections of `events`. -/
def reached (t1 : ℤ) (events : List Event) : System := runFrom (System.step t1) {} events

theorem reached_sound (t1 : ℤ) (events : List Event) : (reached t1 events).Sound :=
  runFrom_invariant System.Sound (fun x e h => step_sound x e h)
    (fun a ha => absurd ha (Nat.not_lt_zero a)) events

/-- A REFER attempt ends once and reports what it took: whatever the next critical section is, an
end once set stays, but for a refusal, with no NOTIFY recorded any more; done is closed at most
once, not before the end of an attempt that was not dropped, and by the time the caller returns;
the NOTIFYs kept are at most 32 of those recorded, in their order, the rest counted, and the one
that ended the subscription last; and a caller that returns no error returns an end. -/
theorem attempt_ends_once (t1 : ℤ) (events : List Event) (e : Event) (a : ℕ)
    (hbegun : a < (reached t1 events).dialog.begun) :
    let v := (reached t1 events).view a
    let w := ((reached t1 events).step t1 e).view a
    (v.attempt.ended ≠ none →
        (w.attempt.ended = v.attempt.ended ∨ w.attempt.ended = some .refused) ∧
        w.recorded = v.recorded ∧ w.attempt.notifies = v.attempt.notifies ∧
        w.attempt.dropped = v.attempt.dropped) ∧
      v.attempt.doneClosed ≤ 1 ∧
      (0 < v.attempt.doneClosed → v.attempt.ended ≠ none ∨ v.caller = .returned none) ∧
      (∀ obs, v.caller = .returned obs → v.attempt.doneClosed = 1) ∧
      v.attempt.notifies.length ≤ 32 ∧
      v.attempt.notifies.length + v.attempt.dropped = v.recorded.length ∧
      v.attempt.notifies.Sublist v.recorded ∧
      (∀ n ∈ v.recorded, n.endsSubscription = true → v.attempt.notifies.getLast? = some n) ∧
      (∀ obs, v.caller = .returned (some obs) → obs.ended ≠ none) := by
  intro v w
  have h : v.Sound := reached_sound t1 events a hbegun
  have hdone := h.done
  refine ⟨fun hended => ?_, ?_, fun hpos => h.retired ?_, fun obs hobs => ?_, h.kept, h.counted,
    h.ordered, h.last, h.observed⟩
  · obtain hsame | hmove := step_sees t1 (reached t1 events) e a fun _ heq => by omega
    · have hw : w = v := hsame
      rw [hw]
      exact ⟨.inl rfl, rfl, rfl, rfl⟩
    · exact hmove.ended hended
  · split_ifs at hdone <;> omega
  · by_contra hreg
    rw [if_pos (by simpa using hreg)] at hdone
    omega
  · rw [if_neg (by simp [h.returned obs hobs])] at hdone
    exact hdone

end Life

section Sample

attribute [local instance] asciiOnly

/-- A transfer reported as done to an attempt that its REFER's acceptance left waiting. -/
def transferred : List Event :=
  [.begin, .assign 0 5, .reach 5, .respond 0, .accept 0 0,
    .notify 1 { status := 100, eventID := 5, hasEventID := true },
    .notify 2 { status := 200, eventID := 5, hasEventID := true }, .retireEnded 0, .seeDone 0,
    .finish 0]

theorem transferred_ends_once :
    let v := (reached 500000000 transferred).view 0
    v.attempt.ended = some .finalNotify ∧ v.attempt.doneClosed ≤ 1 ∧
      v.attempt.notifies.length + v.attempt.dropped = v.recorded.length :=
  have h := attempt_ends_once 500000000 transferred (.timer 0 2) 0 (by decide +kernel)
  ⟨by decide +kernel, h.2.1, h.2.2.2.2.2.1⟩

end Sample

end Diago.Refer
