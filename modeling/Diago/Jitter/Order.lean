import Diago.Jitter.System

/-! # Delivery in order and once

An observer follows a run of the buffer and unwraps `expectedSeq` along its moves
since the stream last started.
-/
namespace Diago.Jitter
open Lib JitterBuffer

variable {S : Slot → Prop} {j : JitterBuffer} {x : System}

def resetBy (x : System) : Event → Option Packet
  | .packet _ slot =>
    if x.reading.isSome ∧ x.buffer.restarts slot.packet then some slot.packet else none
  | _ => none

def Decision.packet : Decision → Option Packet
  | .released pkt _ => some pkt
  | _ => none

def deliveredBy (unmarshal : Bytes → Option Packet) (x : System) : Event → Option Packet
  | .readRTP now bufLen => (x.buffer.readRTP unmarshal now bufLen).1.packet
  | _ => none

/-- What the observer keeps since the stream last started. -/
structure Track where
  system : System
  number : ℤ := 0
  source : UInt32 := 0
  /-- What was delivered, with its unwrapped number, the last one first. -/
  delivered : List (ℤ × Packet) := []

def follow (unmarshal : Bytes → Option Packet) (t : Track) (e : Event) : Track :=
  let y := stepSystem unmarshal t.system e
  match resetBy t.system e with
  | some pkt => { system := y, number := y.buffer.expectedSeq.toNat, source := pkt.ssrc }
  | none =>
    let number := t.number + int16 (y.buffer.expectedSeq - t.system.buffer.expectedSeq)
    { system := y
      number := number
      source := t.source
      delivered := (deliveredBy unmarshal t.system e).toList.map
        (fun pkt => (number + int16 (pkt.seq - y.buffer.expectedSeq), pkt)) ++ t.delivered }

/-- The packet read back from the bytes of a slot has its source and its number. -/
def ReadsBack (unmarshal : Bytes → Option Packet) (slot : Slot) : Prop :=
  ∀ pkt, unmarshal slot.raw = some pkt → pkt.ssrc = slot.ssrc ∧ pkt.seq = slot.seq

structure Track.InOrder (unmarshal : Bytes → Option Packet) (t : Track) : Prop where
  wellFormed : t.system.WellFormed (ReadsBack unmarshal)
  source : t.system.buffer.ssrc = t.source
  number : t.number % 65536 = t.system.buffer.expectedSeq.toNat
  carried : ∀ d ∈ t.delivered, d.2.ssrc = t.source ∧ d.1 % 65536 = d.2.seq.toNat
  below : ∀ d ∈ t.delivered, d.1 < t.number
  ordered : t.delivered.Pairwise fun later earlier => earlier.1 < later.1
  buffering : ¬ t.system.buffer.started → t.delivered = []

/-- What a critical section that does not start the stream again does to it, returning `out`. -/
structure Continues (unmarshal : Bytes → Option Packet) (j : JitterBuffer) (out : Option Packet)
    (k : JitterBuffer) : Prop where
  source : k.ssrc = j.ssrc
  started : j.started → k.started
  forward : j.started ∨ out.isSome → ahead j.expectedSeq k.expectedSeq < 32768
  delivered : ∀ pkt, out = some pkt → k.started ∧ 0 < ahead j.expectedSeq k.expectedSeq ∧
    ∃ i ∈ j.queue, (j.slots i).seq + 1 = k.expectedSeq ∧ unmarshal (j.slots i).raw = some pkt

theorem Continues.of_same {unmarshal : Bytes → Option Packet} {k : JitterBuffer}
    (hsrc : k.ssrc = j.ssrc) (hplay : k.playout = j.playout) (hresync : k.resync = j.resync)
    (hexp : k.expectedSeq = j.expectedSeq) : Continues unmarshal j none k where
  source := hsrc
  started hst := by rwa [JitterBuffer.started, hplay, hresync]
  forward _ := by simp [hexp]
  delivered := by simp

theorem handleSlot_continues {unmarshal : Bytes → Option Packet} {i : ℕ} {held : List ℕ}
    (h : j.WellFormed S (i :: held)) (now : ℤ) (slot : Slot) (hcont : ¬ j.restarts slot.packet) :
    Continues unmarshal j none
      ((j.fill i slot).handleSlot now i) := by
  have htrue : j.WellFormed (fun _ => True) (i :: held) := { h with sound := fun _ _ => trivial }
  obtain ⟨k, hk, hfiled⟩ := (htrue.fill slot).handleSlot trivial now
  have hcont' : ¬ (j.fill i slot).restarts ((j.fill i slot).slots i).packet := by
    rw [fill_slots_self]
    exact hcont
  obtain ⟨hsame, hexp, -⟩ := hk.continued hcont'
  generalize JitterBuffer.handleSlot now i _ = m at hfiled ⊢
  have hkeep := hsame.trans hfiled.same
  have hbegun : j.started → k.playout = true ∨ k.resync = true := by
    intro hst
    rwa [hsame.playout, hsame.resync]
  refine ⟨hkeep.ssrc, fun hst => ?_, fun hst => ?_, by simp⟩
  · rwa [JitterBuffer.started, hkeep.playout, hkeep.resync]
  · have hmove := hfiled.forward (hbegun (by simpa using hst))
    rwa [hexp] at hmove

theorem step_continues (unmarshal : Bytes → Option Packet) {e : Event} (h : x.WellFormed S)
    (hcont : resetBy x e = none) :
    Continues unmarshal x.buffer (deliveredBy unmarshal x e) (stepSystem unmarshal x e).buffer := by
  obtain ⟨j, reading⟩ := x
  have hj : j.WellFormed S reading.toList := h
  cases e with
  | take =>
    simp only [stepSystem, deliveredBy]
    split_ifs
    · cases htake : j.takeSlot with
      | none => exact .of_same rfl rfl rfl rfl
      | some taken =>
        rw [Option.elim_some, (takeSlot_eq_some htake).2]
        exact .of_same rfl rfl rfl rfl
    · exact .of_same rfl rfl rfl rfl
  | upstreamError _ => cases reading <;> exact .of_same rfl rfl rfl rfl
  | keepAlive => cases reading <;> exact .of_same rfl rfl rfl rfl
  | packet now slot =>
    cases reading with
    | none => exact .of_same rfl rfl rfl rfl
    | some i => exact handleSlot_continues hj now slot (by simpa [resetBy] using hcont)
  | readRTP now bufLen =>
    have hround := hj.readRTP unmarshal now bufLen
    simp only [stepSystem, deliveredBy]
    generalize j.readRTP unmarshal now bufLen = r at hround ⊢
    refine ⟨hround.same.ssrc, hround.started, fun _ => hround.forward, fun pkt hpkt => ?_⟩
    cases hr : r.1 with
    | released pkt' raw =>
      obtain rfl : pkt' = pkt := by simpa [hr, Decision.packet] using hpkt
      obtain ⟨hst, hpos, i, hi, hseq, rfl, hun⟩ := hround.released pkt' raw hr
      exact ⟨hst, hpos, i, hi, hseq, hun⟩
    | _ => simp [hr, Decision.packet] at hpkt
  | update _ _ => exact .of_same rfl rfl rfl rfl

theorem step_reset_ssrc {unmarshal : Bytes → Option Packet} {e : Event} {pkt : Packet}
    (h : x.WellFormed S) (hreset : resetBy x e = some pkt) :
    (stepSystem unmarshal x e).buffer.ssrc = pkt.ssrc := by
  obtain ⟨j, reading⟩ := x
  cases e with
  | packet now slot =>
    simp only [resetBy] at hreset
    split_ifs at hreset with hr
    cases hreset
    obtain ⟨i, rfl⟩ := Option.isSome_iff_exists.mp hr.1
    have htrue : j.WellFormed (fun _ => True) [i] := { h with sound := fun _ _ => trivial }
    obtain ⟨k, hk, hfiled⟩ := (htrue.fill slot).handleSlot trivial now
    rw [fill_slots_self] at hk
    exact hfiled.same.ssrc.trans hk.ssrc
  | _ => simp [resetBy] at hreset

section Follow

variable {unmarshal : Bytes → Option Packet} {t : Track} {e : Event}

theorem follow_reset {pkt : Packet} (h : t.InOrder unmarshal) (he : e.Sound (ReadsBack unmarshal))
    (hreset : resetBy t.system e = some pkt) : (follow unmarshal t e).InOrder unmarshal := by
  have hwf := stepSystem_wellFormed unmarshal h.wellFormed he
  have hsrc : (stepSystem unmarshal t.system e).buffer.ssrc = pkt.ssrc :=
    step_reset_ssrc h.wellFormed hreset
  have hlt := (stepSystem unmarshal t.system e).buffer.expectedSeq.toNat_lt
  simp only [follow, hreset]
  exact ⟨hwf, hsrc, by simp only; omega, by simp, by simp, .nil, fun _ => rfl⟩

/-- Once playout has started, the unwrapped number does not go back in a stream that continues. -/
theorem follow_number (h : t.InOrder unmarshal) (hcont : resetBy t.system e = none)
    (hst : t.system.buffer.started) : t.number ≤ (follow unmarshal t e).number := by
  have hstep := step_continues unmarshal h.wellFormed hcont
  simp only [follow, hcont]
  rw [int16_of_ahead_lt (hstep.forward (.inl hst))]
  omega

/-- The packet delivered is the one before the number that is next afterwards. -/
theorem delivered_number (h : t.InOrder unmarshal) (hcont : resetBy t.system e = none)
    {pkt : Packet} (hpkt : deliveredBy unmarshal t.system e = some pkt) :
    pkt.ssrc = t.source ∧
      int16 (pkt.seq - (stepSystem unmarshal t.system e).buffer.expectedSeq) = -1 := by
  have hstep := step_continues unmarshal h.wellFormed hcont
  obtain ⟨-, -, i, hi, hseq, hun⟩ := hstep.delivered pkt hpkt
  have hwf : t.system.buffer.WellFormed (ReadsBack unmarshal) _ := h.wellFormed
  obtain ⟨hssrc, hsame⟩ := hwf.sound i hi pkt hun
  refine ⟨?_, ?_⟩
  · rw [hssrc, hwf.source i hi, h.source]
  · rw [hsame, ← hseq, int16_sub_succ]

theorem follow_continues (h : t.InOrder unmarshal) (he : e.Sound (ReadsBack unmarshal))
    (hcont : resetBy t.system e = none) : (follow unmarshal t e).InOrder unmarshal := by
  have hwf := stepSystem_wellFormed unmarshal h.wellFormed he
  have hstep := step_continues unmarshal h.wellFormed hcont
  have hnumber := add_int16_emod h.number (stepSystem unmarshal t.system e).buffer.expectedSeq
  have hback := follow_number h hcont
  have hpkt := fun pkt (hout : deliveredBy unmarshal t.system e = some pkt) =>
    delivered_number h hcont hout
  simp only [follow, hcont] at hback ⊢
  generalize stepSystem unmarshal t.system e = y at hwf hstep hnumber hback hpkt ⊢
  generalize hn : t.number + int16 (y.buffer.expectedSeq - t.system.buffer.expectedSeq) = n
    at hnumber hback ⊢
  cases hout : deliveredBy unmarshal t.system e with
  | none =>
    rw [hout] at hstep
    refine ⟨hwf, hstep.source.trans h.source, hnumber, h.carried, fun d hd => ?_, h.ordered,
      fun hst => h.buffering fun hst' => hst (hstep.started hst')⟩
    have hbegun : t.system.buffer.started := by
      by_contra hnot
      simp [h.buffering hnot] at hd
    exact lt_of_lt_of_le (h.below d hd) (hback hbegun)
  | some pkt =>
    obtain ⟨hsrc, hlast⟩ := hpkt pkt hout
    rw [hout] at hstep
    obtain ⟨hst, hpos, -⟩ := hstep.delivered pkt rfl
    have hmove := int16_of_ahead_lt (hstep.forward (.inr rfl))
    -- what was delivered before is below the number the packet has
    have hbelow : ∀ d ∈ t.delivered, d.1 < n - 1 := fun d hd => by
      have := h.below d hd
      omega
    have hseq := add_int16_emod hnumber pkt.seq
    refine ⟨hwf, hstep.source.trans h.source, hnumber, ?_, ?_, ?_, fun hnot => absurd hst hnot⟩
    · simp only [Option.toList_some, List.map_cons, List.map_nil, List.singleton_append,
        List.forall_mem_cons]
      exact ⟨⟨hsrc, hseq⟩, h.carried⟩
    · simp only [Option.toList_some, List.map_cons, List.map_nil, List.singleton_append,
        List.forall_mem_cons, hlast]
      refine ⟨by omega, fun d hd => ?_⟩
      have := hbelow d hd
      omega
    · simp only [Option.toList_some, List.map_cons, List.map_nil, List.singleton_append,
        List.pairwise_cons, hlast]
      exact ⟨hbelow, h.ordered⟩

theorem follow_inOrder (h : t.InOrder unmarshal) (he : e.Sound (ReadsBack unmarshal)) :
    (follow unmarshal t e).InOrder unmarshal := by
  cases hreset : resetBy t.system e with
  | none => exact follow_continues h he hreset
  | some pkt => exact follow_reset h he hreset

end Follow

/-- The observer after the events of a run from a new buffer. -/
def followed (unmarshal : Bytes → Option Packet) (j : JitterBuffer) (events : List Event) : Track :=
  runFrom (follow unmarshal) { system := ⟨j, none⟩ } events

theorem followed_inOrder {unmarshal : Bytes → Option Packet} {d : ℤ} {opts : Options}
    (hnew : newRTPJitterBuffer d opts = some j) (hmax : j.maxPackets ≤ 32767)
    (events : List Event) (hread : ∀ e ∈ events, e.Sound (ReadsBack unmarshal)) :
    (followed unmarshal j events).InOrder unmarshal := by
  have hinit : Track.InOrder unmarshal { system := ⟨j, none⟩ } := by
    have hwf : j.WellFormed (ReadsBack unmarshal) [] := newRTPJitterBuffer_wellFormed hnew hmax
    unfold newRTPJitterBuffer at hnew
    split_ifs at hnew
    cases hnew
    exact ⟨hwf, rfl, rfl, by simp, by simp, .nil, fun _ => rfl⟩
  have hstep : ∀ (t : Track) (e : Event), t.InOrder unmarshal → e.Sound (ReadsBack unmarshal) →
      (follow unmarshal t e).InOrder unmarshal := fun _ _ ht he => follow_inOrder ht he
  exact runFrom_invariant_of_mem _ hstep hinit hread

/-- Between two starts of the stream the packets delivered carry the source that started it and
strictly growing numbers, and from the first start of playout on the next number never goes back.
The upstream reader and the delivery read the same header from the same bytes. -/
theorem delivered_in_order (unmarshal : Bytes → Option Packet) {d : ℤ} {opts : Options}
    (hnew : newRTPJitterBuffer d opts = some j) (hmax : j.maxPackets ≤ 32767)
    (events : List Event) (hread : ∀ e ∈ events, e.Sound (ReadsBack unmarshal)) :
    let t := followed unmarshal j events
    (∀ p ∈ t.delivered, p.2.ssrc = t.source ∧ p.1 % 65536 = p.2.seq.toNat) ∧
      (t.delivered.Pairwise fun later earlier => earlier.1 < later.1) ∧
      (t.system.buffer.started → ∀ e, resetBy t.system e = none →
        t.number ≤ (follow unmarshal t e).number ∧
          (follow unmarshal t e).system.buffer.started) := by
  have h := followed_inOrder hnew hmax events hread
  intro t
  refine ⟨h.carried, h.ordered, fun hst e hcont => ⟨follow_number h hcont hst, ?_⟩⟩
  have hstep := step_continues unmarshal h.wellFormed hcont
  simp only [follow, hcont]
  exact hstep.started hst

/-- Packets 5 and 6 arrive the other way round and are delivered in order. -/
theorem reordered_in_order :
    let t := followed readNumbered defaultBuffer
      [.take, .packet 0 (numbered 6), .take, .packet 0 (numbered 5), .readRTP 400000000 1500,
        .readRTP 420000000 1500]
    t.delivered = [(6, (numbered 6).packet), (5, (numbered 5).packet)] ∧
      t.delivered.Pairwise fun later earlier => earlier.1 < later.1 :=
  ⟨by decide +kernel,
    (delivered_in_order readNumbered (Option.some_get _).symm (by decide +kernel) _ (by
      have h5 : ReadsBack readNumbered (numbered 5) := by rintro _ ⟨⟩; decide
      have h6 : ReadsBack readNumbered (numbered 6) := by rintro _ ⟨⟩; decide
      simp [Event.Sound, h5, h6])).2.1⟩

end Diago.Jitter
