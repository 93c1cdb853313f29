import Diago.Jitter.System

/-! # Waiting

A reader that finds nothing due waits for a timer or for the next packet. While a
packet is queued there is a timer: playout runs, or the time it starts at is set.
-/
namespace Diago.Jitter
open Lib

variable {S : Slot → Prop} {j k : JitterBuffer} {held : List ℕ} {i : ℕ} {seq : UInt16} {now : ℤ}
  {unmarshal : Bytes → Option Packet} {x : System}

namespace JitterBuffer

/-- How long the reader waits for its timer; there is none unless it is positive. -/
def wait (now : ℤ) (j : JitterBuffer) : ℤ :=
  if j.playout then j.releaseAt - now
  else
    match j.startAt with
    | some t => t - now
    | none => 0

/-- Unless playout runs, the time it starts at is set from the first packet of a stream on, and
after a stop as long as a packet is queued. -/
structure Armed (j : JitterBuffer) : Prop where
  buffering : j.ssrcSet = true → j.playout = false → j.resync = false → j.startAt ≠ none
  holding : j.playout = false → 0 < j.queued → j.startAt ≠ none

theorem Armed.of_playout (h : j.playout = true) : j.Armed where
  buffering _ hplay := by simp [h] at hplay
  holding hplay := by simp [h] at hplay

theorem Armed.of_startAt (h : j.startAt ≠ none) : j.Armed := ⟨fun _ _ _ => h, fun _ _ => h⟩

/-! ### Filing -/

theorem Armed.settle (h : j.Armed) (now : ℤ) (pkt : Packet) :
    (((j.followSource now pkt).restartOutside now pkt).learnPacketDuration pkt).Armed := by
  have hfollow : (j.followSource now pkt).Armed := by
    unfold JitterBuffer.followSource
    split_ifs
    · exact .of_startAt (by simp [resetStream])
    · exact .of_startAt (by simp [resetStream])
    · exact h
  have hrestart : ((j.followSource now pkt).restartOutside now pkt).Armed := by
    unfold JitterBuffer.restartOutside
    split_ifs
    · exact .of_startAt (by simp [resetStream])
    · exact hfollow
  obtain ⟨d, s, p, heq⟩ := learnPacketDuration_eq ((j.followSource now pkt).restartOutside now pkt)
    pkt
  rw [heq]
  exact { hrestart with }

theorem makeRoom_startAt (j : JitterBuffer) (seq : UInt16) :
    (j.makeRoom seq).startAt = j.startAt ∧ (j.makeRoom seq).queued ≤ j.queued := by
  refine makeRoom_keeps (P := fun k => k.startAt = j.startAt ∧ k.queued ≤ j.queued) ?_ ?_
    ⟨rfl, le_rfl⟩
  · rintro k seq i - ⟨hstart, hqueued⟩
    refine ⟨hstart, ?_⟩
    simp only [JitterBuffer.freeSlot, JitterBuffer.vacate, JitterBuffer.count]
    omega
  · exact fun k next hk => hk

theorem Armed.enqueue (h : j.Armed) (hqueued : 0 ≤ j.queued) (hset : j.ssrcSet = true) :
    (j.enqueue now i).Armed := by
  unfold JitterBuffer.enqueue
  split
  case h_1 existing _ => split_ifs <;> exact { h with }
  case h_2 hv =>
    unfold JitterBuffer.resume
    split_ifs with hfirst
    · exact .of_startAt (by simp)
    · refine ⟨h.buffering, fun hplay _ => ?_⟩
      by_cases hresync : j.resync = true
      · have hmore : j.queued + 1 ≠ 1 := fun hone => hfirst ⟨hresync, hone⟩
        exact h.holding hplay (by omega)
      · exact h.buffering hset hplay (by simpa using hresync)

theorem Armed.place (h : j.Armed) (hwf : j.WellFormed S held) (hset : j.ssrcSet = true)
    (hd : 0 ≤ j.distance seq) : ((j.makeRoom seq).enqueue now i).Armed := by
  have hroom := hwf.makeRoom hd
  obtain ⟨hstart, hqueued⟩ := makeRoom_startAt j seq
  have harmed : (j.makeRoom seq).Armed := by
    refine ⟨fun hset' hplay hresync => ?_, fun hplay hpos => ?_⟩
    · rw [hroom.same.playout] at hplay
      rw [hroom.same.resync] at hresync
      rw [hstart]
      exact h.buffering hset hplay hresync
    · rw [hroom.same.playout] at hplay
      rw [hstart]
      exact h.holding hplay (by omega)
  have hlen := hroom.wellFormed.queued
  exact harmed.enqueue (by omega) (hroom.same.ssrcSet.trans hset)

theorem Armed.fileSlot (h : j.Armed) (hwf : j.WellFormed S (i :: held)) (hset : j.ssrcSet = true) :
    (j.fileSlot now i).Armed := by
  unfold JitterBuffer.fileSlot
  split_ifs with hd hstarted hback
  · exact { h with }
  · have hd' : 0 ≤ (j.moveBackTo (j.slots i).seq).distance (j.slots i).seq := by
      simp [distance, moveBackTo]
    have harmed : (j.moveBackTo (j.slots i).seq).Armed := { h with }
    exact harmed.place (hwf.moveBack hback) hset hd'
  · exact { h with }
  · exact h.place hwf hset (by omega)

theorem Armed.handleSlot (h : j.Armed) (hwf : j.WellFormed S (i :: held)) (now : ℤ) :
    (j.handleSlot now i).Armed := by
  have hread : (j.count .read).Armed := { h with }
  have hsettled := (hwf.settle (j.slots i).packet now).learn
  exact (hread.settle now (j.slots i).packet).fileSlot hsettled.wellFormed hsettled.ssrcSet

/-! ### Reading -/

theorem Armed.playDue (hplay : j.playout = true) (bufLen : ℕ) :
    (j.playDue unmarshal bufLen).2.Armed := by
  have hplays := playDue_plays unmarshal bufLen j
  generalize j.playDue unmarshal bufLen = r at hplays ⊢
  cases hplays with
  | stopped hempty =>
    refine ⟨fun _ _ hresync => ?_, fun _ hpos => ?_⟩
    · simp [stopPlayout] at hresync
    · simp [stopPlayout, JitterBuffer.count, hempty] at hpos
  | _ => exact .of_playout hplay

theorem Armed.begun (h : j.Armed) (now : ℤ) : (j.begun now).Armed := by
  unfold JitterBuffer.begun
  split_ifs
  · exact .of_playout rfl
  · exact h

theorem Armed.readRTP (h : j.Armed) (unmarshal : Bytes → Option Packet) (now : ℤ) (bufLen : ℕ) :
    (j.readRTP unmarshal now bufLen).2.Armed := by
  rw [readRTP_eq]
  split_ifs with hdue
  · exact Armed.playDue hdue.1 bufLen
  · exact h.begun now

/-- Nothing due and no timer: playout does not run and the time it starts at is not set. -/
theorem wait_pos_of_idle (hidle : ¬ ((j.begun now).playout ∧ (j.begun now).releaseAt ≤ now))
    (hset : (j.begun now).playout = true ∨ (j.begun now).startAt ≠ none) :
    0 < (j.begun now).wait now := by
  by_cases hplay : (j.begun now).playout = true
  · have hlater : ¬ (j.begun now).releaseAt ≤ now := fun hle => hidle ⟨hplay, hle⟩
    simp only [wait, hplay, if_true]
    omega
  · have hsame : j.startsPlayout now = false ∧ j.begun now = j := by
      unfold JitterBuffer.begun at hplay ⊢
      split_ifs at hplay ⊢ with hstarts
      · exact absurd rfl hplay
      · exact ⟨by simpa using hstarts, rfl⟩
    rw [hsame.2] at hplay hset ⊢
    obtain ⟨t, ht⟩ := Option.ne_none_iff_exists'.mp (hset.resolve_left hplay)
    have hlater : ¬ t ≤ now := by
      intro hle
      have hstarts : j.startsPlayout now = true := by simp [startsPlayout, hplay, ht, hle]
      simp [hsame.1] at hstarts
    simp only [wait, hplay, ht]
    simp only [Bool.false_eq_true, if_false]
    omega

theorem playDue_waiting {bufLen : ℕ} (hwait : (j.playDue unmarshal bufLen).1 = .waiting) :
    (j.playDue unmarshal bufLen).2.queued = 0 := by
  have hplays := playDue_plays unmarshal bufLen j
  generalize j.playDue unmarshal bufLen = r at hplays hwait ⊢
  cases hplays with
  | stopped hempty => exact hempty
  | _ => simp at hwait

theorem Armed.queued_eq_zero (h : j.Armed) (hwf : j.WellFormed S held) {bufLen : ℕ}
    (hwait : (j.readRTP unmarshal now bufLen).1 = .waiting)
    (htimer : ¬ 0 < (j.readRTP unmarshal now bufLen).2.wait now) :
    (j.readRTP unmarshal now bufLen).2.queued = 0 := by
  have harmed := h.begun now
  have hlen := (hwf.begun now).1.queued
  rw [readRTP_eq] at hwait htimer ⊢
  split_ifs at hwait htimer ⊢ with hdue
  · exact playDue_waiting hwait
  · have hunset : ¬ ((j.begun now).playout = true ∨ (j.begun now).startAt ≠ none) :=
      fun hset => htimer (wait_pos_of_idle hdue hset)
    obtain ⟨hplay, hstart⟩ := not_or.mp hunset
    by_contra hne
    exact hstart (harmed.holding (by simpa using hplay) (by simp only at hne ⊢; omega))

/-! ### After the end of the stream -/

def queuedBytes (j : JitterBuffer) : List Bytes := j.queue.map fun i => (j.slots i).raw

@[simp] theorem count_queuedBytes (j : JitterBuffer) (f : Stats → Stats) :
    (j.count f).queuedBytes = j.queuedBytes := rfl

theorem begun_frame (j : JitterBuffer) (now : ℤ) :
    (j.begun now).queuedBytes = j.queuedBytes ∧ (j.begun now).upstreamEnded = j.upstreamEnded ∧
      (j.begun now).readErr = j.readErr := by
  have hskip := skipLost_keeps (P := fun k => k.queuedBytes = j.queuedBytes ∧
    k.upstreamEnded = j.upstreamEnded ∧ k.readErr = j.readErr) (fun _ hk => hk) 65536
    (j := { j with startAt := none }) ⟨rfl, rfl, rfl⟩
  unfold JitterBuffer.begun
  split_ifs
  · exact hskip
  · exact ⟨rfl, rfl, rfl⟩

end JitterBuffer

def parsing (unmarshal : Bytes → Option Packet) (l : List Bytes) : List Bytes :=
  l.filter fun raw => (unmarshal raw).isSome

def Decision.bytes : Decision → Option Bytes
  | .released _ raw => some raw
  | _ => none

namespace JitterBuffer

theorem release_queuedBytes (hdue : j.dueSlot = some i) :
    j.queuedBytes.Perm ((j.slots i).raw :: (j.release i).queuedBytes) := by
  have hperm : (i :: (j.vacate j.expectedSeq).queue).Perm j.queue :=
    vacate_queue (dueSlot_eq_some.mp hdue).1
  exact (hperm.map fun i => (j.slots i).raw).symm

theorem idle_bytes (j : JitterBuffer) : j.idle.bytes = none := by
  unfold idle
  split_ifs <;> rfl

/-- A round of reading takes the packet it releases off the queue, or one that does not parse. -/
theorem readRTP_queuedBytes (j : JitterBuffer) (now : ℤ) (bufLen : ℕ) :
    (parsing unmarshal j.queuedBytes).Perm
      ((j.readRTP unmarshal now bufLen).1.bytes.toList ++
        parsing unmarshal (j.readRTP unmarshal now bufLen).2.queuedBytes) := by
  rw [← (begun_frame j now).1, readRTP_eq]
  generalize j.begun now = k
  split_ifs
  · have hplays := playDue_plays unmarshal bufLen k
    generalize k.playDue unmarshal bufLen = r at hplays ⊢
    cases hplays with
    | malformed hdue hraw =>
      have hperm := (release_queuedBytes hdue).filter fun raw => (unmarshal raw).isSome
      simpa [parsing, Decision.bytes, hraw] using hperm
    | released hdue hraw =>
      have hperm := (release_queuedBytes hdue).filter fun raw => (unmarshal raw).isSome
      simpa [parsing, Decision.bytes, hraw] using hperm
    | stopped =>
      rw [idle_bytes]
      exact .refl _
    | _ => exact .refl _
  · rw [idle_bytes]
    exact .refl _

theorem readRTP_upstream (unmarshal : Bytes → Option Packet) (j : JitterBuffer) (now : ℤ)
    (bufLen : ℕ) :
    (j.readRTP unmarshal now bufLen).2.upstreamEnded = j.upstreamEnded ∧
      (j.readRTP unmarshal now bufLen).2.readErr = j.readErr := by
  obtain ⟨-, hended, herr⟩ := begun_frame j now
  rw [← hended, ← herr, readRTP_eq]
  generalize j.begun now = k
  split_ifs
  · have hplays := playDue_plays unmarshal bufLen k
    generalize k.playDue unmarshal bufLen = r at hplays ⊢
    cases hplays <;> exact ⟨rfl, rfl⟩
  · exact ⟨rfl, rfl⟩

theorem idle_eq_ended {err : Option ℕ} (h : j.idle = .ended err) :
    j.queued = 0 ∧ err = j.readErr := by
  unfold idle at h
  split_ifs at h with hend
  cases h
  exact ⟨hend.2, rfl⟩

theorem WellFormed.readRTP_ended (h : j.WellFormed S held) {bufLen : ℕ} {err : Option ℕ}
    (hend : (j.readRTP unmarshal now bufLen).1 = .ended err) :
    j.queuedBytes = [] ∧ err = j.readErr := by
  obtain ⟨hbytes, -, herr⟩ := begun_frame j now
  have hlen := (h.begun now).1.queued
  rw [readRTP_eq] at hend
  rw [← hbytes, ← herr]
  generalize j.begun now = k at hend hlen ⊢
  have hempty : k.queued = 0 ∧ err = k.readErr := by
    split_ifs at hend
    · have hplays := playDue_plays unmarshal bufLen k
      generalize k.playDue unmarshal bufLen = r at hplays hend
      cases hplays with
      | stopped => exact idle_eq_ended hend
      | _ => simp at hend
    · exact idle_eq_ended hend
  refine ⟨?_, hempty.2⟩
  rw [hempty.1] at hlen
  have hnil : k.queue = [] := List.eq_nil_of_length_eq_zero (by omega)
  simp [queuedBytes, hnil]

end JitterBuffer

/-! ### Whole runs -/

def releasedBy (unmarshal : Bytes → Option Packet) (x : System) : Event → Option Bytes
  | .readRTP now bufLen => (x.buffer.readRTP unmarshal now bufLen).1.bytes
  | _ => none

def releasedIn (unmarshal : Bytes → Option Packet) : System → List Event → List Bytes
  | _, [] => []
  | x, e :: es => (releasedBy unmarshal x e).toList ++ releasedIn unmarshal (stepSystem unmarshal x e) es

/-- The invariant of the waits: a timer while a packet is queued, and nothing read after the end of
the stream. -/
structure System.Attended (x : System) : Prop where
  wellFormed : x.WellFormed fun _ => True
  armed : x.buffer.Armed
  ended : x.buffer.upstreamEnded = true → x.reading = none

theorem stepSystem_attended (unmarshal : Bytes → Option Packet) (h : x.Attended) (e : Event) :
    (stepSystem unmarshal x e).Attended := by
  have hwf : (stepSystem unmarshal x e).WellFormed fun _ => True :=
    stepSystem_wellFormed unmarshal h.wellFormed (by cases e <;> trivial)
  obtain ⟨j, reading⟩ := x
  have hj : j.WellFormed (fun _ => True) reading.toList := h.wellFormed
  have harmed : j.Armed := h.armed
  refine ⟨hwf, ?_, fun hended => ?_⟩
  · cases e with
    | take =>
      simp only [stepSystem]
      split_ifs
      · cases htake : j.takeSlot with
        | none => exact harmed
        | some taken =>
          rw [Option.elim_some, (takeSlot_eq_some htake).2]
          exact { harmed with }
      · exact harmed
    | upstreamError err => cases reading <;> exact { harmed with }
    | keepAlive => cases reading <;> exact { harmed with }
    | packet now slot =>
      cases reading with
      | none => exact harmed
      | some i =>
        have hfill : (j.fill i slot).Armed := { harmed with }
        exact hfill.handleSlot (hj.fill slot) now
    | readRTP now bufLen => exact harmed.readRTP unmarshal now bufLen
    | update sampleDur sampleRate => exact { harmed with }
  · cases e with
    | take =>
      simp only [stepSystem] at hended ⊢
      split_ifs at hended ⊢ with htakes
      · cases htake : j.takeSlot with
        | none => exact htakes.1
        | some taken =>
          rw [htake, Option.elim_some, (takeSlot_eq_some htake).2] at hended
          simp [htakes.2] at hended
      · exact h.ended hended
    | upstreamError err => cases reading <;> rfl
    | keepAlive => cases reading <;> rfl
    | packet now slot => cases reading <;> rfl
    | readRTP now bufLen =>
      exact h.ended ((j.readRTP_upstream unmarshal now bufLen).1.symm.trans hended)
    | update sampleDur sampleRate => exact h.ended hended

theorem step_after_end (unmarshal : Bytes → Option Packet) (h : x.Attended)
    (hend : x.buffer.upstreamEnded = true) (e : Event) :
    (stepSystem unmarshal x e).buffer.upstreamEnded = true ∧
      (stepSystem unmarshal x e).buffer.readErr = x.buffer.readErr ∧
      (parsing unmarshal x.buffer.queuedBytes).Perm ((releasedBy unmarshal x e).toList ++
        parsing unmarshal (stepSystem unmarshal x e).buffer.queuedBytes) := by
  obtain ⟨j, reading⟩ := x
  obtain rfl : reading = none := h.ended hend
  have hj : j.upstreamEnded = true := hend
  cases e with
  | take =>
    have hstay : stepSystem unmarshal ⟨j, none⟩ .take = ⟨j, none⟩ := if_neg (by simp [hj])
    rw [hstay]
    exact ⟨hj, rfl, .refl _⟩
  | readRTP now bufLen =>
    obtain ⟨hended, herr⟩ := j.readRTP_upstream unmarshal now bufLen
    exact ⟨hended.trans hj, herr, j.readRTP_queuedBytes now bufLen⟩
  | _ => exact ⟨hj, rfl, .refl _⟩

/-- After the end of the stream what is queued and parses is released, or still queued. -/
theorem released_or_queued (unmarshal : Bytes → Option Packet) (h : x.Attended)
    (hend : x.buffer.upstreamEnded = true) (es : List Event) :
    (runFrom (stepSystem unmarshal) x es).Attended ∧
      (runFrom (stepSystem unmarshal) x es).buffer.readErr = x.buffer.readErr ∧
      (parsing unmarshal x.buffer.queuedBytes).Perm (releasedIn unmarshal x es ++
        parsing unmarshal (runFrom (stepSystem unmarshal) x es).buffer.queuedBytes) := by
  induction es generalizing x with
  | nil => exact ⟨h, rfl, .refl _⟩
  | cons e es ih =>
    obtain ⟨hended, herr, hstep⟩ := step_after_end unmarshal h hend e
    obtain ⟨hrun, herr', hrest⟩ := ih (stepSystem_attended unmarshal h e) hended
    refine ⟨hrun, herr'.trans herr, ?_⟩
    simp only [releasedIn, List.append_assoc]
    exact hstep.trans (hrest.append_left _)

theorem reached_attended {d : ℤ} {opts : Options} (unmarshal : Bytes → Option Packet)
    (hnew : newRTPJitterBuffer d opts = some j) (hmax : j.maxPackets ≤ 32767)
    (events : List Event) : (reached unmarshal j events).Attended := by
  have hinit : System.Attended ⟨j, none⟩ := by
    have hwf : j.WellFormed (fun _ => True) [] :=
      JitterBuffer.newRTPJitterBuffer_wellFormed hnew hmax
    unfold newRTPJitterBuffer at hnew
    split_ifs at hnew
    cases hnew
    exact ⟨hwf, ⟨by simp, by simp⟩, fun _ => rfl⟩
  have hstep : ∀ (x : System) (e : Event), x.Attended → (stepSystem unmarshal x e).Attended :=
    fun _ e hx => stepSystem_attended unmarshal hx e
  exact runFrom_invariant _ hstep hinit events

namespace JitterBuffer

/-- The loop that starts playout ends within the window, if it was entered, where a packet is
queued. -/
theorem WellFormed.startPlayout_loop (h : j.WellFormed S held) :
    ∃ n < j.maxPackets, j.SkipsIn n ∧ (j.resync = true → 0 < j.queued →
      (JitterBuffer.skipLost n j).slotAt (JitterBuffer.skipLost n j).expectedSeq ≠ none) := by
  have hmax := h.max_pos
  obtain ⟨n, hn, hskips⟩ := h.skipsIn (j.maxPackets - 1) fun i hi => by
    have hin := h.window i hi
    omega
  refine ⟨n, by omega, hskips, fun hresync hqueued hvacant => ?_⟩
  obtain ⟨hresync', hqueued'⟩ := skipLost_keeps
    (P := fun k => k.resync = j.resync ∧ k.queued = j.queued) (fun _ hk => hk) n (j := j) ⟨rfl, rfl⟩
  exact hskips.ends ⟨hresync'.trans hresync, by rwa [hqueued'], hvacant⟩

end JitterBuffer

/-- In every state of a buffer of at most 32767 packets: a reader that waits without a timer has
nothing queued; with a packet queued and playout not running, the time it starts at is set; the
loop that starts playout ends within the window, passing only numbers that are not queued, and if
it was entered, where a packet is queued; and after the end of the stream its error is returned
only once everything queued has been released, bytes apart that do not parse a second time. -/
theorem waits_with_timer {d : ℤ} {opts : Options} (unmarshal : Bytes → Option Packet)
    (hnew : newRTPJitterBuffer d opts = some j) (hmax : j.maxPackets ≤ 32767)
    (events : List Event) :
    let x := reached unmarshal j events
    let b := x.buffer
    let loop : JitterBuffer := { b with startAt := none }
    (∀ now bufLen, (b.readRTP unmarshal now bufLen).1 = .waiting →
      ¬ 0 < (b.readRTP unmarshal now bufLen).2.wait now →
      (b.readRTP unmarshal now bufLen).2.queued = 0) ∧
    (b.playout = false → 0 < b.queued → b.startAt ≠ none) ∧
    (∃ n < j.maxPackets, loop.SkipsIn n ∧
      (b.resync = true → 0 < b.queued →
        ((JitterBuffer.skipLost n loop).slotAt (JitterBuffer.skipLost n loop).expectedSeq) ≠ none)) ∧
    (b.upstreamEnded = true → ∀ more now bufLen err,
      ((runFrom (stepSystem unmarshal) x more).buffer.readRTP unmarshal now bufLen).1 = .ended err →
      err = b.readErr ∧
        (releasedIn unmarshal x more).Perm (parsing unmarshal b.queuedBytes)) := by
  have hx := reached_attended unmarshal hnew hmax events
  have hm := (reached_wellFormed unmarshal hnew hmax events).2
  intro x b loop
  have hwf : b.WellFormed (fun _ => True) x.reading.toList := hx.wellFormed
  refine ⟨fun now bufLen hwait htimer => hx.armed.queued_eq_zero hwf hwait htimer,
    hx.armed.holding, ?_, ?_⟩
  · have hloop : loop.WellFormed (fun _ => True) x.reading.toList := { hwf with }
    obtain ⟨n, hn, hskips⟩ := hloop.startPlayout_loop
    exact ⟨n, by rwa [← hm], hskips⟩
  · intro hend more now bufLen err hended
    obtain ⟨hrun, herr, hperm⟩ := released_or_queued unmarshal hx hend more
    have hrun' : (runFrom (stepSystem unmarshal) x more).buffer.WellFormed (fun _ => True)
      (runFrom (stepSystem unmarshal) x more).reading.toList := hrun.wellFormed
    obtain ⟨hempty, herr'⟩ := hrun'.readRTP_ended hended
    refine ⟨herr'.trans herr, ?_⟩
    rw [hempty] at hperm
    simpa [parsing] using hperm.symm

/-- Packets 5 and 6 are queued when the stream ends, and both are released before its error is
returned. -/
theorem queue_played_before_error :
    let x := reached readNumbered defaultBuffer
      [.take, .packet 0 (numbered 5), .take, .packet 0 (numbered 6), .take, .upstreamError 3]
    let more : List Event := [.readRTP 400000000 1500, .readRTP 420000000 1500]
    x.buffer.upstreamEnded = true ∧
      ((runFrom (stepSystem readNumbered) x more).buffer.readRTP readNumbered 440000000 1500).1 =
        .ended (some 3) ∧
      (releasedIn readNumbered x more).Perm (parsing readNumbered x.buffer.queuedBytes) :=
  ⟨by decide +kernel, by decide +kernel,
    ((waits_with_timer readNumbered (Option.some_get _).symm (by decide +kernel) _).2.2.2
      (by decide +kernel) _ 440000000 1500 (some 3) (by decide +kernel)).2⟩

end Diago.Jitter
