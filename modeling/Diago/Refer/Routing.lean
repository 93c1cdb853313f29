import Diago.Refer.Lifecycle

/-! # The attempt a NOTIFY is recorded on

A NOTIFY names its REFER by the CSeq. A registered attempt with that CSeq takes
it; while the CSeq of the latest attempt is unknown, that attempt takes any id
above the CSeqs recorded so far. The guess is right exactly as long as no other
REFER above them has reached the peer.
-/
namespace Diago.Refer
open Lib

/-- The CSeqs recorded are those of the REFERs the attempts sent. -/
structure Routed (x : System) : Prop where
  known : ∀ a, (x.dialog.attempt a).cseqKnown = true →
    ((x.dialog.attempt a).cseq, some a) ∈ x.sent ∧
      (x.dialog.attempt a).cseq ≤ x.dialog.referHighestCSeq
  assigned : ∀ a cseq, x.caller a = .assigned cseq → (cseq, some a) ∈ x.sent

structure Dialog.SameCSeqs (d d' : Dialog) : Prop where
  attempt : ∀ a, (d'.attempt a).cseqKnown = (d.attempt a).cseqKnown ∧
    (d'.attempt a).cseq = (d.attempt a).cseq
  highest : d'.referHighestCSeq = d.referHighestCSeq

def KeepsCSeq (f : ReferAttempt → ReferAttempt) : Prop :=
  ∀ a, (f a).cseqKnown = a.cseqKnown ∧ (f a).cseq = a.cseq

theorem Dialog.sameCSeqs_refl (d : Dialog) : d.SameCSeqs d := ⟨fun _ => ⟨rfl, rfl⟩, rfl⟩

theorem Dialog.sameCSeqs_modify (d : Dialog) (b : ℕ) {f : ReferAttempt → ReferAttempt}
    (hf : KeepsCSeq f) : d.SameCSeqs (d.modify b f) := by
  refine ⟨fun a => ?_, rfl⟩
  by_cases hab : a = b
  · subst hab
    rw [Dialog.modify_attempt]
    exact hf _
  · rw [Dialog.agreeBut_modify b d f a hab]
    exact ⟨rfl, rfl⟩

theorem Dialog.sameCSeqs_retireBy (d : Dialog) (b : ℕ) {f : ReferAttempt → ReferAttempt}
    (hf : KeepsCSeq f) : d.SameCSeqs (d.retireBy b f) :=
  { d.sameCSeqs_modify b hf with }

theorem keepsCSeq_retire : KeepsCSeq .retire := by
  intro a
  unfold ReferAttempt.retire
  split_ifs <;> exact ⟨rfl, rfl⟩

theorem keepsCSeq_endOnBound : KeepsCSeq .endOnBound := fun _ => keepsCSeq_retire _

theorem keepsCSeq_finish (how : Option ReferEnd) : KeepsCSeq (.finish how) :=
  fun _ => keepsCSeq_retire _

theorem keepsCSeq_take [UnicodeCase] (t1 now : ℤ) (n : ReferNotify) :
    KeepsCSeq (.take t1 now n) := by
  intro a
  obtain ⟨deadline, armed, heq⟩ := take_eq a t1 now n
  rw [heq]
  exact ⟨rfl, rfl⟩

/-- A change that records no CSeq and sends no REFER for an attempt that would not be listed. -/
theorem Routed.mono {x y : System} (h : Routed x) (hsame : x.dialog.SameCSeqs y.dialog)
    (hsent : ∀ s ∈ x.sent, s ∈ y.sent)
    (hcaller : ∀ a cseq, y.caller a = .assigned cseq →
      x.caller a = .assigned cseq ∨ (cseq, some a) ∈ y.sent) : Routed y where
  known a hknown := by
    obtain ⟨hk, hc⟩ := hsame.attempt a
    rw [hk] at hknown
    rw [hc, hsame.highest]
    exact ⟨hsent _ (h.known a hknown).1, (h.known a hknown).2⟩
  assigned a cseq hc := (hcaller a cseq hc).elim (fun hx => hsent _ (h.assigned a cseq hx)) id

theorem Routed.advance {x : System} (h : Routed x) {b : ℕ} {c : Caller} {d : Dialog}
    (hsame : x.dialog.SameCSeqs d) (hc : ∀ cseq, c ≠ .assigned cseq) :
    Routed (x.advance b c d) := by
  refine h.mono hsame (fun _ hs => hs) fun a cseq hcaller => .inl ?_
  by_cases hab : a = b
  · subst hab
    exact absurd (by simpa [System.advance] using hcaller) (hc cseq)
  · simpa [System.advance, hab] using hcaller

theorem Routed.setCSeq {x : System} (h : Routed x) {b : ℕ} {cseq : UInt32} {c : Caller}
    (hb : x.caller b = .assigned cseq) (hc : ∀ cseq, c ≠ .assigned cseq) :
    Routed (x.advance b c (x.dialog.setReferAttemptCSeq b cseq)) := by
  have hmax : x.dialog.referHighestCSeq ≤ (x.dialog.setReferAttemptCSeq b cseq).referHighestCSeq ∧
      cseq ≤ (x.dialog.setReferAttemptCSeq b cseq).referHighestCSeq := by
    simp only [Dialog.setReferAttemptCSeq]
    split_ifs with hlt
    · exact ⟨UInt32.le_of_lt hlt, UInt32.le_refl _⟩
    · exact ⟨UInt32.le_refl _, UInt32.not_lt.mp hlt⟩
  refine ⟨fun a hknown => ?_, fun a k ha => ?_⟩
  · by_cases hab : a = b
    · subst hab
      simp only [System.advance, Dialog.setReferAttemptCSeq_attempt, ReferAttempt.setCSeq]
      exact ⟨h.assigned a cseq hb, hmax.2⟩
    · simp only [System.advance, Dialog.agreeBut_setReferAttemptCSeq b x.dialog cseq a hab]
        at hknown ⊢
      exact ⟨(h.known a hknown).1, UInt32.le_trans (h.known a hknown).2 hmax.1⟩
  · by_cases hab : a = b
    · subst hab
      exact absurd (by simpa [System.advance] using ha) (hc k)
    · exact h.assigned a k (by simpa [System.advance, hab] using ha)

theorem Routed.finishBy {x : System} (h : Routed x) (b : ℕ) (how : Option ReferEnd) :
    Routed (x.finishBy b how) :=
  h.advance (x.dialog.sameCSeqs_retireBy b (keepsCSeq_finish how)) (by simp)

theorem Routed.drop {x : System} (h : Routed x) (b : ℕ) :
    Routed (x.advance b (.returned none) (x.dialog.dropReferAttempt b)) :=
  h.advance (x.dialog.sameCSeqs_retireBy b keepsCSeq_retire) (by simp)

theorem Routed.assign {x : System} (h : Routed x) (b : ℕ) (cseq : UInt32) :
    Routed { x.advance b (.assigned cseq) x.dialog with sent := (cseq, some b) :: x.sent } := by
  refine h.mono x.dialog.sameCSeqs_refl (fun _ hs => List.mem_cons_of_mem _ hs) fun a k ha => ?_
  by_cases hab : a = b
  · subst hab
    obtain rfl : cseq = k := by simpa [System.advance] using ha
    exact .inr (List.mem_cons_self ..)
  · exact .inl (by simpa [System.advance, hab] using ha)

theorem Routed.dialog {x : System} (h : Routed x) {d : Dialog} (hsame : x.dialog.SameCSeqs d) :
    Routed { x with dialog := d } :=
  h.mono hsame (fun _ hs => hs) fun _ _ ha => .inl ha

section Routing

variable [UnicodeCase] {t1 : ℤ}

theorem Routed.begin {x : System} (h : Routed x) : Routed (x.step t1 .begin) := by
  refine ⟨fun a hknown => ?_, fun a cseq ha => ?_⟩
  · by_cases hab : a = x.dialog.begun
    · simp [System.step, System.advance, Dialog.beginReferAttempt, hab] at hknown
    · simp only [System.step, System.advance, Dialog.beginReferAttempt,
        Function.update_of_ne hab] at hknown ⊢
      exact h.known a hknown
  · by_cases hab : a = x.dialog.begun
    · simp [System.step, System.advance, hab] at ha
    · exact h.assigned a cseq (by simpa [System.step, System.advance, hab] using ha)

theorem Routed.notified {x : System} (h : Routed x) (now : ℤ) (n : ReferNotify) :
    Routed (x.notified t1 now n) := by
  refine h.mono ?_ (fun _ hs => hs) fun _ _ ha => .inl ha
  simp only [System.notified]
  obtain heq | ⟨b, -, -, ⟨-, heq⟩ | ⟨-, heq⟩⟩ := recordReferNotify_cases x.dialog t1 now n <;>
    rw [heq]
  · exact x.dialog.sameCSeqs_refl
  · exact x.dialog.sameCSeqs_retireBy b keepsCSeq_endOnBound
  · exact x.dialog.sameCSeqs_modify b (keepsCSeq_take t1 now n)

theorem step_routed (x : System) (e : Event) (h : Routed x) : Routed (x.step t1 e) := by
  cases e with
  | begin => exact h.begin
  | assign b cseq =>
    simp only [System.step]
    split_ifs
    · exact h.assign b cseq
    · exact h
  | forget cseq =>
    simp only [System.step]
    split_ifs
    · exact h.mono x.dialog.sameCSeqs_refl (fun _ hs => List.mem_cons_of_mem _ hs)
        fun _ _ ha => .inl ha
    · exact h
  | reach cseq =>
    simp only [System.step]
    split_ifs
    · exact { h with }
    · exact h
  | respond b =>
    simp only [System.step]
    split
    case h_1 cseq hb => exact h.setCSeq hb (by simp)
    · exact h
  | fail b =>
    unfold System.step
    dsimp only
    cases hb : x.caller b with
    | assigned cseq => exact h.setCSeq hb (by simp)
    | sending => exact h.advance x.dialog.sameCSeqs_refl (by simp)
    | _ => exact h
  | notBuilt b | carryFailed b =>
    simp only [System.step]
    split_ifs
    · exact h.drop b
    · exact h
  | cancel b | refuse b =>
    simp only [System.step]
    split_ifs
    · exact h.finishBy b _
    · exact h
  | accept now b =>
    simp only [System.step, Dialog.startReferSubscription]
    split_ifs
    · exact h.advance x.dialog.sameCSeqs_refl (by simp)
    · exact h.advance (x.dialog.sameCSeqs_modify b fun _ => ⟨rfl, rfl⟩) (by simp)
    · exact h
  | seeDone b | seeContext b =>
    simp only [System.step]
    split_ifs
    · exact h.advance x.dialog.sameCSeqs_refl (by simp)
    · exact h
  | finish b =>
    simp only [System.step]
    split
    · exact h.finishBy b _
    · exact h
  | notify now n => exact h.notified now n
  | retireEnded b =>
    simp only [System.step, Dialog.retireEndedReferAttempt]
    split_ifs
    · exact h.dialog (x.dialog.sameCSeqs_retireBy b keepsCSeq_retire)
    · exact h
  | timer b armed =>
    simp only [System.step, Dialog.endReferAttemptOnItsBound]
    split_ifs
    · exact h
    · exact h.dialog (x.dialog.sameCSeqs_retireBy b keepsCSeq_endOnBound)
    · exact h

theorem reached_routed (t1 : ℤ) (events : List Event) : Routed (reached t1 events) :=
  runFrom_invariant Routed (fun x e h => step_routed x e h) ⟨by simp, by simp⟩ events

end Routing

/-- A NOTIFY above the CSeqs recorded is taken for one of attempt `l`. -/
def Dialog.Guesses (d : Dialog) (l : ℕ) : Prop :=
  d.referLatest = some l ∧ (d.attempt l).registered = true ∧ (d.attempt l).cseqKnown = false ∧
    d.awaitingCSeq.length = 1 ∧ (d.attempt l).ended = none

/-- The attempt a NOTIFY with an id goes to has its CSeq, or is guessed. -/
theorem referNotifyTarget_cases {d : Dialog} {n : ReferNotify} {a : ℕ} (hid : n.hasEventID = true)
    (htarget : d.referNotifyTarget n = some a) :
    ((d.attempt a).cseqKnown = true ∧ (d.attempt a).cseq = n.eventID) ∨
      ((d.attempt a).ended = none → d.Guesses a) ∧ d.referHighestCSeq < n.eventID := by
  simp only [Dialog.referNotifyTarget, hid, if_true] at htarget
  split at htarget
  case h_1 b hb =>
    obtain rfl : b = a := by simpa using htarget
    have hfound := List.find?_some hb
    exact .inl (by simpa using hfound)
  case h_2 =>
    simp only [Option.filter_eq_some_iff, Bool.and_eq_true, Bool.not_eq_true', beq_iff_eq,
      decide_eq_true_eq] at htarget
    obtain ⟨⟨hlatest, hreg⟩, ⟨hunknown, hone⟩, habove⟩ := htarget
    exact .inr ⟨fun hopen => ⟨hlatest, hreg, hunknown, hone, hopen⟩, habove⟩

/-- With no CSeq recorded above it, an id above them goes to the attempt guessed. -/
theorem Dialog.Guesses.target {d : Dialog} {l : ℕ} (h : d.Guesses l) {n : ReferNotify}
    (hid : n.hasEventID = true) (habove : d.referHighestCSeq < n.eventID)
    (hknown : ∀ a, (d.attempt a).cseqKnown = true → (d.attempt a).cseq ≤ d.referHighestCSeq) :
    d.referNotifyTarget n = some l := by
  obtain ⟨hlatest, hreg, hunknown, hone, -⟩ := h
  have hnone : d.referAttempts.find? (fun a =>
      (d.attempt a).cseqKnown && (d.attempt a).cseq == n.eventID) = none := by
    simp only [List.find?_eq_none, Bool.and_eq_true, beq_iff_eq, not_and]
    intro a _ hk heq
    exact absurd (heq ▸ hknown a hk) (UInt32.not_le.mpr habove)
  simp [Dialog.referNotifyTarget, hid, hnone, hlatest, hreg, hunknown, hone, habove]

/-- Every NOTIFY that names a REFER the peer has received is recorded only on the attempt that
sent it, exactly if every such REFER above the CSeqs recorded is that of the attempt guessed. -/
theorem notify_recorded_on_own_iff [UnicodeCase] (t1 : ℤ) (events : List Event) :
    let x := reached t1 events
    (∀ now n a, n.hasEventID = true → n.eventID ∈ x.received →
        (x.dialog.recordReferNotify t1 now n).1 = some a → (n.eventID, some a) ∈ x.sent) ↔
      ∀ l, x.dialog.Guesses l → ∀ cseq ∈ x.received, x.dialog.referHighestCSeq < cseq →
        (cseq, some l) ∈ x.sent := by
  intro x
  have h : Routed x := reached_routed t1 events
  constructor
  · intro hown l hl cseq hreceived habove
    let n : ReferNotify := { status := 100, eventID := cseq, hasEventID := true }
    obtain ⟨now, hnow⟩ : ∃ now, ((x.dialog.attempt l).deadline.any (· ≤ now)) = false := by
      cases hd : (x.dialog.attempt l).deadline with
      | none => exact ⟨0, rfl⟩
      | some deadline => exact ⟨deadline - 1, by simp⟩
    refine hown now n l rfl hreceived ?_
    have htarget : x.dialog.referNotifyTarget n = some l :=
      hl.target rfl habove fun a hk => (h.known a hk).2
    simp [Dialog.recordReferNotify, htarget, hl.2.2.2.2, hnow]
  · intro hguess now n a hid hreceived hrecorded
    obtain heq | ⟨b, htarget, hopen, ⟨-, heq⟩ | ⟨-, heq⟩⟩ :=
      recordReferNotify_cases x.dialog t1 now n
    · simp [heq] at hrecorded
    · simp [heq] at hrecorded
    · obtain rfl : b = a := by simpa [heq] using hrecorded
      obtain ⟨hknown, hcseq⟩ | ⟨hguessed, habove⟩ := referNotifyTarget_cases hid htarget
      · exact hcseq ▸ (h.known b hknown).1
      · exact hguess b (hguessed hopen) _ hreceived habove

section Sample

attribute [local instance] asciiOnly

/-- A REFER with CSeq 5 that nobody observes reaches the peer while the observed REFER, which is
sent next with CSeq 6, has no response yet: the NOTIFY for 5 is recorded on the attempt of 6. -/
theorem forgotten_refer_recorded :
    let x := reached 500000000 [.begin, .forget 5, .reach 5, .assign 0 6]
    5 ∈ x.received ∧
      (x.dialog.recordReferNotify 500000000 0
        { status := 200, eventID := 5, hasEventID := true }).1 = some 0 ∧
      (5, some 0) ∉ x.sent ∧ (6, some 0) ∈ x.sent := by
  decide +kernel

end Sample

end Diago.Refer
