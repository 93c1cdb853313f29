import Diago.Lib.Machine
import Diago.Lib.Run
import Diago.Media.Codec

/-! # Reading in real time

The reader judges each frame against an anchor, a frame and the time it was read at:
the RTP timestamps tell how much later than the anchor the frame was due, and one that
was already waiting and is read too long after that is dropped.
-/
namespace Diago.Rtp
open Lib Media

def int32 (u : UInt32) : ℤ := u.toInt32.toInt

theorem int32_eq (u : UInt32) :
    int32 u = if u.toNat < 2 ^ 31 then (u.toNat : ℤ) else u.toNat - 2 ^ 32 := by
  have h : int32 u = u.toBitVec.toInt := rfl
  rw [h, BitVec.toInt_eq_toNat_cond]
  simp only [UInt32.toNat_toBitVec]
  split_ifs <;> omega

abbrev microsecond : ℤ := 1000

abbrev nanos : ℤ := 1000000000

def realTimeMinAllowance : ℤ := 40 * millisecond

structure RTPRealTimeReader where
  codec : Codec
  anchored : Bool := false
  /-- In nanoseconds, as all times. -/
  anchorTime : ℤ := 0
  anchorTS : UInt32 := 0
  anchorSSRC : UInt32 := 0

/-- A read of the wrapped reader: the times before and after it, and the packet it returned the
frame of. -/
structure TimedRead where
  start : ℤ
  now : ℤ
  timestamp : UInt32
  ssrc : UInt32
  failed : Bool := false
  deriving DecidableEq

/-- What becomes of a frame. The panic is the division by a clock rate of zero. -/
inductive Verdict where
  | returned
  | skipped
  | failed
  | panicked
  deriving DecidableEq

namespace RTPRealTimeReader

/-- Panics for a codec without a frame duration. -/
def new (codec : Codec) : Option RTPRealTimeReader :=
  if codec.sampleDur = 0 then none else some { codec }

def anchor (r : RTPRealTimeReader) (now : ℤ) (ts ssrc : UInt32) : RTPRealTimeReader :=
  { r with anchored := true, anchorTime := now, anchorTS := ts, anchorSSRC := ssrc }

/-- How much later in the stream than the anchor a timestamp is. -/
def sinceAnchor (r : RTPRealTimeReader) (ts : UInt32) : ℤ :=
  (int32 (ts - r.anchorTS) * nanos).tdiv r.codec.sampleRate.toNat

def allowance (r : RTPRealTimeReader) : ℤ :=
  max (wrap64 (2 * r.codec.sampleDur)) realTimeMinAllowance

def judge (r : RTPRealTimeReader) (x : TimedRead) : Verdict × RTPRealTimeReader :=
  if x.failed = true then (.failed, r)
  else if r.anchored = false ∨ x.ssrc ≠ r.anchorSSRC then
    (.returned, r.anchor x.now x.timestamp x.ssrc)
  else if r.codec.sampleRate = 0 then (.panicked, r)
  else
    let late := x.now - r.anchorTime - r.sinceAnchor x.timestamp
    if late ≤ 0 then (.returned, r.anchor x.now x.timestamp x.ssrc)
    else if late ≤ r.allowance then (.returned, r)
    else if r.codec.sampleDur.tdiv 2 ≤ x.now - x.start then
      (.returned, r.anchor x.now x.timestamp x.ssrc)
    else (.skipped, r)

/-- Reads until a frame is not skipped; none while the wrapped reader has nothing more. -/
def read (r : RTPRealTimeReader) :
    List TimedRead → Option ((TimedRead × Verdict) × List TimedRead × RTPRealTimeReader)
  | [] => none
  | x :: xs =>
    if (r.judge x).1 = .skipped then read (r.judge x).2 xs
    else some ((x, (r.judge x).1), xs, (r.judge x).2)

def reads : ℕ → RTPRealTimeReader → List TimedRead → List (TimedRead × Verdict)
  | 0, _, _ => []
  | k + 1, r, xs =>
    match r.read xs with
    | none => []
    | some (out, rest, r) => out :: reads k r rest

end RTPRealTimeReader

/-! ### Streams -/

/-- Where a frame is in the stream, in samples from its first frame, and when it was read. -/
structure Mark where
  pos : ℕ
  now : ℤ
  deriving DecidableEq

def mediaTime (codec : Codec) (pos : ℕ) : ℚ := (pos : ℚ) * nanos / codec.sampleRate.toNat

def Mark.lateness (codec : Codec) (m : Mark) : ℚ := m.now - mediaTime codec m.pos

/-- The marks of frames that follow one at `pos` with the timestamp `ts`. -/
def marksFrom : UInt32 → ℕ → List TimedRead → List Mark
  | _, _, [] => []
  | ts, pos, x :: xs =>
    let next := pos + (x.timestamp - ts).toNat
    ⟨next, x.now⟩ :: marksFrom x.timestamp next xs

def marks : List TimedRead → List Mark
  | [] => []
  | x :: xs => marksFrom x.timestamp 0 (x :: xs)

/-- Frames of one source, read without errors by a clock that does not go back, each less than
2³¹ samples after the one before it. -/
structure IsStream (ssrc : UInt32) (xs : List TimedRead) : Prop where
  source : ∀ x ∈ xs, x.ssrc = ssrc ∧ x.failed = false
  clock : ∀ x ∈ xs, x.start ≤ x.now
  later : xs.IsChain fun x y => x.now ≤ y.start
  steps : xs.IsChain fun x y => (y.timestamp - x.timestamp).toNat < 2 ^ 31

/-- No frame is later than the earliest before it by more than the allowance less a
microsecond. -/
def Timely (codec : Codec) (allowance : ℤ) (log : List Mark) : Prop :=
  log.Pairwise fun m l =>
    l.lateness codec ≤ m.lateness codec + ((allowance - microsecond : ℤ) : ℚ)

/-- Each frame is less than 2³¹ samples after one of those that were the earliest before it. -/
def Renewed (codec : Codec) (log : List Mark) : Prop :=
  EachAfter (fun earlier l => earlier ≠ [] → ∃ m ∈ earlier,
    (∀ o ∈ earlier, m.lateness codec ≤ o.lateness codec) ∧ l.pos < m.pos + 2 ^ 31) log

def ReturnsAll (r : RTPRealTimeReader) (xs : List TimedRead) : Prop :=
  r.reads xs.length xs = xs.map fun x => (x, .returned)

instance (r : RTPRealTimeReader) (xs : List TimedRead) : Decidable (ReturnsAll r xs) :=
  inferInstanceAs (Decidable (_ = _))

namespace RTPRealTimeReader

variable {r : RTPRealTimeReader}

theorem length_of_read {xs rest : List TimedRead} {out : TimedRead × Verdict}
    {r' : RTPRealTimeReader} (h : r.read xs = some (out, rest, r')) : rest.length < xs.length := by
  induction xs generalizing r with
  | nil => cases h
  | cons x xs ih =>
    rw [read] at h
    split_ifs at h
    · exact (ih h).trans (Nat.lt_succ_self _)
    · obtain ⟨-, rfl, -⟩ := h
      exact Nat.lt_succ_self _

theorem length_reads_le (k : ℕ) (r : RTPRealTimeReader) (xs : List TimedRead) :
    (reads k r xs).length ≤ xs.length := by
  induction k generalizing r xs with
  | zero => exact Nat.zero_le _
  | succ k ih =>
    rw [reads]
    split
    · exact Nat.zero_le _
    · next out rest r' h =>
      have hrest := length_of_read h
      have hlen := ih r' rest
      rw [List.length_cons]
      omega

end RTPRealTimeReader

theorem returnsAll_cons {r : RTPRealTimeReader} {x : TimedRead} {xs : List TimedRead} :
    ReturnsAll r (x :: xs) ↔ (r.judge x).1 = .returned ∧ ReturnsAll (r.judge x).2 xs := by
  unfold ReturnsAll
  rw [List.length_cons, RTPRealTimeReader.reads, RTPRealTimeReader.read, List.map_cons]
  split_ifs with hskip
  · refine ⟨fun h => ?_, fun h => by simp [hskip] at h⟩
    have hlen := congrArg List.length h
    have hle := RTPRealTimeReader.length_reads_le (xs.length + 1) (r.judge x).2 xs
    rw [RTPRealTimeReader.reads, hlen, List.length_cons, List.length_map] at hle
    omega
  · simp

theorem returnsAll_nil (r : RTPRealTimeReader) : ReturnsAll r [] := rfl

section Anchor

variable {codec : Codec}

theorem int32_sub {base : UInt32} {p q : ℕ} (hle : q ≤ p) (hlt : p < q + 2 ^ 31) :
    int32 (base + UInt32.ofNat p - (base + UInt32.ofNat q)) = (p : ℤ) - q := by
  have hbase := base.toNat_lt
  have hdiff : (base + UInt32.ofNat p - (base + UInt32.ofNat q)).toNat = p - q := by
    rw [UInt32.toNat_sub, UInt32.toNat_add, UInt32.toNat_add, UInt32.toNat_ofNat',
      UInt32.toNat_ofNat']
    omega
  rw [int32_eq, hdiff, if_pos (by omega)]
  omega

theorem timestamp_next {base ts : UInt32} {pos : ℕ} (hts : ts = base + UInt32.ofNat pos)
    (t : UInt32) : t = base + UInt32.ofNat (pos + (t - ts).toNat) := by
  rw [UInt32.ofNat_add, UInt32.ofNat_toNat, ← UInt32.add_assoc, ← hts, UInt32.add_comm,
    UInt32.sub_add_cancel]

/-- The reader after the frames of a log, with the mark of its anchor: of the frames that were the
earliest it is the last. -/
structure AnchoredAt (codec : Codec) (ssrc base : UInt32) (log : List Mark) (a : Mark)
    (r : RTPRealTimeReader) : Prop where
  reader : r = ⟨codec, true, a.now, base + UInt32.ofNat a.pos, ssrc⟩
  mem : a ∈ log
  earliest : ∀ m ∈ log, a.lateness codec ≤ m.lateness codec
  last : ∀ m ∈ log, m.lateness codec ≤ a.lateness codec → m.pos ≤ a.pos

theorem tdiv_eq_floor (codec : Codec) {p q : ℕ} (hle : q ≤ p) :
    (((p : ℤ) - q) * nanos).tdiv codec.sampleRate.toNat =
      ⌊mediaTime codec p - mediaTime codec q⌋ := by
  have hspan : mediaTime codec p - mediaTime codec q =
      ((((p : ℤ) - q) * nanos : ℤ) : ℚ) / (codec.sampleRate.toNat : ℕ) := by
    rw [mediaTime, mediaTime, ← sub_div, ← sub_mul]
    push_cast
    rfl
  have hnonneg : 0 ≤ ((p : ℤ) - q) * nanos := by
    have : (0 : ℤ) ≤ (p : ℤ) - q := by omega
    positivity
  rw [hspan, Rat.floor_intCast_div_natCast, Int.tdiv_eq_ediv_of_nonneg hnonneg]

/-- A frame is found late by what its lateness exceeds that of the anchor, rounded up. -/
theorem late_bounds (codec : Codec) {a m : Mark} {late : ℤ}
    (h : late = m.now - a.now - ⌊mediaTime codec m.pos - mediaTime codec a.pos⌋) :
    (late ≤ 0 ↔ m.lateness codec ≤ a.lateness codec) ∧
      (late : ℚ) < m.lateness codec - a.lateness codec + 1 := by
  have hdiff : m.lateness codec - a.lateness codec =
      ((m.now - a.now : ℤ) : ℚ) - (mediaTime codec m.pos - mediaTime codec a.pos) := by
    rw [Mark.lateness, Mark.lateness]
    push_cast
    ring
  constructor
  · rw [h, sub_nonpos, Int.le_floor, ← sub_nonpos, ← hdiff, sub_nonpos]
  · have hfloor := Int.lt_floor_add_one (mediaTime codec m.pos - mediaTime codec a.pos)
    rw [hdiff, h]
    push_cast at *
    linarith

theorem allowance_ge (r : RTPRealTimeReader) : 40 * millisecond ≤ r.allowance := le_max_right _ _

/-- A timely frame close enough to the anchor is returned, and the anchor stays the last of the
earliest. -/
theorem AnchoredAt.judge {ssrc base : UInt32} {log : List Mark} {a : Mark} {r : RTPRealTimeReader}
    (h : AnchoredAt codec ssrc base log a r) (hrate : codec.sampleRate ≠ 0) {x : TimedRead}
    (hsource : x.ssrc = ssrc ∧ x.failed = false) {pos : ℕ}
    (hts : x.timestamp = base + UInt32.ofNat pos) (hpos : ∀ m ∈ log, m.pos ≤ pos)
    (htimely : ∀ m ∈ log, Mark.lateness codec ⟨pos, x.now⟩ ≤
      m.lateness codec + ((r.allowance - microsecond : ℤ) : ℚ))
    (hnear : ∃ m ∈ log, (∀ o ∈ log, m.lateness codec ≤ o.lateness codec) ∧
      pos < m.pos + 2 ^ 31) :
    (r.judge x).1 = .returned ∧
      ∃ a', AnchoredAt codec ssrc base (log ++ [⟨pos, x.now⟩]) a' (r.judge x).2 := by
  obtain ⟨m, hm, hmin, hlt⟩ := hnear
  have hle : a.pos ≤ pos := hpos a h.mem
  have hlast : m.pos ≤ a.pos := h.last m hm (hmin a h.mem)
  obtain ⟨hdue, hlate⟩ := @late_bounds codec a ⟨pos, x.now⟩ _ rfl
  have hsince : r.sinceAnchor x.timestamp = ⌊mediaTime codec pos - mediaTime codec a.pos⌋ := by
    rw [RTPRealTimeReader.sinceAnchor, h.reader, hts]
    dsimp only
    rw [int32_sub hle (by omega), tdiv_eq_floor codec hle]
  have hallowed : x.now - a.now - ⌊mediaTime codec pos - mediaTime codec a.pos⌋ ≤ r.allowance := by
    have hbound := htimely a h.mem
    have hint : ((x.now - a.now - ⌊mediaTime codec pos - mediaTime codec a.pos⌋ : ℤ) : ℚ) <
        ((r.allowance - microsecond + 1 : ℤ) : ℚ) := by
      push_cast at hbound hlate ⊢
      linarith
    have hlt := Int.cast_lt.mp hint
    have hmicro : microsecond = 1000 := rfl
    omega
  rw [RTPRealTimeReader.judge, if_neg (by simp [hsource]), if_neg (by simp [h.reader, hsource]),
    if_neg (by simpa [h.reader] using hrate)]
  dsimp only
  rw [hsince, show r.anchorTime = a.now by rw [h.reader]]
  split_ifs with hearly
  · refine ⟨rfl, ⟨pos, x.now⟩, ?_, by simp, ?_, ?_⟩
    · simp [RTPRealTimeReader.anchor, h.reader, hts, hsource]
    · intro o ho
      obtain ho | rfl := List.mem_append.mp ho |>.imp_right List.mem_singleton.mp
      · exact (hdue.mp hearly).trans (h.earliest o ho)
      · exact le_rfl
    · intro o ho _
      obtain ho | rfl := List.mem_append.mp ho |>.imp_right List.mem_singleton.mp
      · exact hpos o ho
      · exact le_rfl
  · have hlater : a.lateness codec < Mark.lateness codec ⟨pos, x.now⟩ := by
      rw [← not_le, ← hdue]
      exact hearly
    refine ⟨rfl, a, h.reader, by simp [h.mem], ?_, ?_⟩
    · intro o ho
      obtain ho | rfl := List.mem_append.mp ho |>.imp_right List.mem_singleton.mp
      · exact h.earliest o ho
      · exact hlater.le
    · intro o ho hle
      obtain ho | rfl := List.mem_append.mp ho |>.imp_right List.mem_singleton.mp
      · exact h.last o ho hle
      · exact absurd hle (not_le.mpr hlater)

theorem AnchoredAt.returnsAll {ssrc base : UInt32} {log : List Mark} {a : Mark}
    {r : RTPRealTimeReader} (h : AnchoredAt codec ssrc base log a r)
    (hrate : codec.sampleRate ≠ 0) {ts : UInt32} {pos : ℕ} (hts : ts = base + UInt32.ofNat pos)
    (hpos : ∀ m ∈ log, m.pos ≤ pos) {xs : List TimedRead}
    (hsource : ∀ x ∈ xs, x.ssrc = ssrc ∧ x.failed = false)
    (htimely : Timely codec r.allowance (log ++ marksFrom ts pos xs))
    (hrenewed : Renewed codec (log ++ marksFrom ts pos xs)) : ReturnsAll r xs := by
  induction xs generalizing log a r ts pos with
  | nil => exact returnsAll_nil r
  | cons x xs ih =>
    rw [List.forall_mem_cons] at hsource
    rw [marksFrom] at htimely hrenewed
    have hnext := timestamp_next hts x.timestamp
    have hpos' : ∀ m ∈ log, m.pos ≤ pos + (x.timestamp - ts).toNat := fun m hm =>
      (hpos m hm).trans (Nat.le_add_right _ _)
    obtain ⟨hreturned, a', hanchored⟩ := h.judge hrate hsource.1 hnext hpos'
      (fun m hm => (List.pairwise_append.mp htimely).2.2 m hm _ List.mem_cons_self)
      (hrenewed log _ _ rfl (List.ne_nil_of_mem h.mem))
    have hallowance : (r.judge x).2.allowance = r.allowance := by
      rw [hanchored.reader, h.reader]
      rfl
    refine returnsAll_cons.mpr ⟨hreturned, ih hanchored hnext ?_ hsource.2 ?_ ?_⟩
    · intro m hm
      obtain hm | rfl := List.mem_append.mp hm |>.imp_right List.mem_singleton.mp
      · exact hpos' m hm
      · exact le_rfl
    · rw [hallowance, List.append_assoc]
      exact htimely
    · rw [List.append_assoc]
      exact hrenewed

theorem new_eq_some {r : RTPRealTimeReader} (h : RTPRealTimeReader.new codec = some r) :
    r = { codec } := by
  unfold RTPRealTimeReader.new at h
  split_ifs at h
  exact (Option.some.inj h).symm

/-- A timely stream whose frames stay close enough to an earliest one is read without a loss. -/
theorem returnsAll_of_renewed {r : RTPRealTimeReader} (hnew : RTPRealTimeReader.new codec = some r)
    (hrate : codec.sampleRate ≠ 0) {ssrc : UInt32} {xs : List TimedRead}
    (hsource : ∀ x ∈ xs, x.ssrc = ssrc ∧ x.failed = false)
    (htimely : Timely codec r.allowance (marks xs)) (hrenewed : Renewed codec (marks xs)) :
    ReturnsAll r xs := by
  obtain rfl := new_eq_some hnew
  cases xs with
  | nil => exact returnsAll_nil _
  | cons x xs =>
    rw [List.forall_mem_cons] at hsource
    rw [marks, marksFrom, UInt32.sub_self] at htimely hrenewed
    have hjudge : RTPRealTimeReader.judge { codec } x =
        (.returned, ⟨codec, true, x.now, x.timestamp, ssrc⟩) := by
      simp [RTPRealTimeReader.judge, RTPRealTimeReader.anchor, hsource.1]
    have hanchored : AnchoredAt codec ssrc x.timestamp [⟨0, x.now⟩] ⟨0, x.now⟩
        ⟨codec, true, x.now, x.timestamp, ssrc⟩ := by
      refine ⟨?_, by simp, by simp, by simp⟩
      rw [show UInt32.ofNat 0 = 0 from rfl, UInt32.add_zero]
    refine returnsAll_cons.mpr ⟨by rw [hjudge], ?_⟩
    rw [hjudge]
    refine hanchored.returnsAll hrate ?_ (by simp) hsource.2 htimely hrenewed
    simp

end Anchor

/-! ### How far the guarantee reaches -/

def span : List UInt32 → ℕ
  | t :: u :: tss => (u - t).toNat + span (u :: tss)
  | _ => 0

section Span

variable {codec : Codec}

theorem pos_le_span {ts : UInt32} {pos : ℕ} {xs : List TimedRead} {m : Mark}
    (hm : m ∈ marksFrom ts pos xs) : m.pos ≤ pos + span (ts :: xs.map (·.timestamp)) := by
  induction xs generalizing ts pos with
  | nil => cases hm
  | cons x xs ih =>
    rw [List.map_cons, span]
    obtain rfl | hm := List.mem_cons.mp hm
    · dsimp only
      omega
    · have := ih hm
      omega

theorem renewed_of_span {xs : List TimedRead} (h : span (xs.map (·.timestamp)) < 2 ^ 31) :
    Renewed codec (marks xs) := by
  intro earlier l later hlog hne
  obtain ⟨m, hm, hmin⟩ := Finset.exists_min_image earlier.toFinset (Mark.lateness codec)
    (List.toFinset_nonempty_iff earlier |>.mpr hne)
  refine ⟨m, List.mem_toFinset.mp hm, fun o ho => hmin o (List.mem_toFinset.mpr ho), ?_⟩
  have hl : l ∈ marks xs := by simp [hlog]
  cases xs with
  | nil => cases hl
  | cons x xs =>
    have hpos := pos_le_span hl
    rw [List.map_cons, span, UInt32.sub_self, show UInt32.toNat 0 = 0 from rfl] at hpos
    rw [List.map_cons] at h
    omega

theorem half_pos_iff (d : ℤ) : 0 < d.tdiv 2 ↔ 2 ≤ d := by
  obtain hd | hd := le_or_gt 0 d
  · rw [Int.tdiv_eq_ediv_of_nonneg hd]
    omega
  · have hneg : 0 ≤ (-d).tdiv 2 := Int.tdiv_nonneg (by omega) (by omega)
    rw [Int.neg_tdiv] at hneg
    omega

/-- With a frame duration that no read is shorter than half of, every frame counts as waited
for. -/
theorem returnsAll_of_short (hrate : codec.sampleRate ≠ 0) (hdur : codec.sampleDur < 2)
    {r : RTPRealTimeReader} (hr : r.codec = codec) {xs : List TimedRead}
    (hxs : ∀ x ∈ xs, x.failed = false ∧ x.start ≤ x.now) : ReturnsAll r xs := by
  induction xs generalizing r with
  | nil => exact returnsAll_nil r
  | cons x xs ih =>
    rw [List.forall_mem_cons] at hxs
    have hhalf : r.codec.sampleDur.tdiv 2 ≤ x.now - x.start := by
      have := half_pos_iff codec.sampleDur
      rw [hr]
      omega
    have hjudge : (r.judge x).1 = .returned ∧ (r.judge x).2.codec = r.codec := by
      rw [RTPRealTimeReader.judge, if_neg (by simp [hxs.1.1])]
      simp only [hr ▸ hrate, hhalf, if_true, if_false]
      split_ifs <;> exact ⟨rfl, rfl⟩
    exact returnsAll_cons.mpr ⟨hjudge.1, ih (hjudge.2.trans hr) hxs.2⟩

/-- Frames that come as late as they may, without a wait. -/
def delayed (codec : Codec) (ssrc : UInt32) (delay : ℤ) : UInt32 → ℕ → List UInt32 → List TimedRead
  | _, _, [] => []
  | ts, pos, t :: tss =>
    let next := pos + (t - ts).toNat
    let now := ⌊mediaTime codec next⌋ + delay
    { start := now, now, timestamp := t, ssrc } :: delayed codec ssrc delay t next tss

section Delayed

variable {ssrc : UInt32} {delay : ℤ}

theorem timestamps_delayed (ts : UInt32) (pos : ℕ) (tss : List UInt32) :
    (delayed codec ssrc delay ts pos tss).map (·.timestamp) = tss := by
  induction tss generalizing ts pos with
  | nil => rfl
  | cons t tss ih => rw [delayed, List.map_cons, ih]

theorem mediaTime_mono {p q : ℕ} (h : p ≤ q) : mediaTime codec p ≤ mediaTime codec q := by
  have hpq : (p : ℚ) ≤ q := by exact_mod_cast h
  unfold mediaTime
  gcongr

theorem of_mem_delayed {ts : UInt32} {pos : ℕ} {tss : List UInt32} {x : TimedRead}
    (hx : x ∈ delayed codec ssrc delay ts pos tss) :
    x.ssrc = ssrc ∧ x.failed = false ∧ x.start = x.now ∧
      ⌊mediaTime codec pos⌋ + delay ≤ x.now := by
  induction tss generalizing ts pos with
  | nil => cases hx
  | cons t tss ih =>
    have hmono := Int.floor_le_floor (@mediaTime_mono codec pos (pos + (t - ts).toNat) (by omega))
    obtain rfl | hx := List.mem_cons.mp hx
    · exact ⟨rfl, rfl, rfl, by dsimp only; omega⟩
    · obtain ⟨hssrc, hfailed, hstart, hnow⟩ := ih hx
      exact ⟨hssrc, hfailed, hstart, by omega⟩

theorem marks_delayed {ts : UInt32} {pos : ℕ} {tss : List UInt32} {m : Mark}
    (hm : m ∈ marksFrom ts pos (delayed codec ssrc delay ts pos tss)) :
    m.now = ⌊mediaTime codec m.pos⌋ + delay := by
  induction tss generalizing ts pos with
  | nil => cases hm
  | cons t tss ih =>
    obtain rfl | hm := List.mem_cons.mp hm
    · rfl
    · exact ih hm

theorem later_delayed (ts : UInt32) (pos : ℕ) (tss : List UInt32) :
    (delayed codec ssrc delay ts pos tss).IsChain fun x y => x.now ≤ y.start := by
  induction tss generalizing ts pos with
  | nil => exact List.IsChain.nil
  | cons t tss ih =>
    rw [delayed, List.isChain_cons]
    refine ⟨fun y hy => ?_, ih _ _⟩
    obtain ⟨-, -, hstart, hnow⟩ := of_mem_delayed (List.mem_of_mem_head? hy)
    rw [hstart]
    exact hnow

theorem lateness_delayed {ts : UInt32} {pos : ℕ} {tss : List UInt32} {m : Mark}
    (hm : m ∈ marksFrom ts pos (delayed codec ssrc delay ts pos tss)) :
    (delay : ℚ) - 1 < m.lateness codec ∧ m.lateness codec ≤ delay := by
  have hfloor := Int.lt_floor_add_one (mediaTime codec m.pos)
  have hle := Int.floor_le (mediaTime codec m.pos)
  rw [Mark.lateness, marks_delayed hm]
  push_cast
  constructor <;> linarith

end Delayed

/-- The stream that never renews its anchor: the first frame at once, and all others as late as
the reader allows. -/
def stale (codec : Codec) (ssrc : UInt32) (delay : ℤ) : List UInt32 → List TimedRead
  | [] => []
  | ts :: tss =>
    { start := 0, now := 0, timestamp := ts, ssrc } :: delayed codec ssrc delay ts 0 tss

section Stale

variable {ssrc : UInt32} {delay : ℤ}

theorem timestamps_stale (tss : List UInt32) :
    (stale codec ssrc delay tss).map (·.timestamp) = tss := by
  cases tss with
  | nil => rfl
  | cons ts tss => rw [stale, List.map_cons, timestamps_delayed]

theorem isStream_stale (hdelay : 0 ≤ delay) {tss : List UInt32}
    (hsteps : tss.IsChain fun t u => (u - t).toNat < 2 ^ 31) :
    IsStream ssrc (stale codec ssrc delay tss) := by
  have hchain : (stale codec ssrc delay tss).IsChain
      fun x y => (y.timestamp - x.timestamp).toNat < 2 ^ 31 := by
    rw [← @timestamps_stale codec ssrc delay tss, List.isChain_map] at hsteps
    exact hsteps
  cases tss with
  | nil => exact ⟨by simp [stale], by simp [stale], by simp [stale], hchain⟩
  | cons ts tss =>
    refine ⟨?_, ?_, ?_, hchain⟩
    · rw [stale, List.forall_mem_cons]
      exact ⟨⟨rfl, rfl⟩, fun x hx => ⟨(of_mem_delayed hx).1, (of_mem_delayed hx).2.1⟩⟩
    · rw [stale, List.forall_mem_cons]
      exact ⟨le_rfl, fun x hx => (of_mem_delayed hx).2.2.1.le⟩
    · rw [stale, List.isChain_cons]
      refine ⟨fun y hy => ?_, later_delayed _ _ _⟩
      obtain ⟨-, -, hstart, hnow⟩ := of_mem_delayed (List.mem_of_mem_head? hy)
      have hzero : ⌊mediaTime codec 0⌋ = 0 := by simp [mediaTime]
      dsimp only
      omega

theorem timely_stale {allowance : ℤ} (hallowance : 40 * millisecond ≤ allowance)
    (tss : List UInt32) :
    Timely codec allowance (marks (stale codec ssrc (allowance - microsecond) tss)) := by
  have hwide : (40000000 : ℚ) ≤ allowance := by exact_mod_cast hallowance
  cases tss with
  | nil => exact List.Pairwise.nil
  | cons ts tss =>
    rw [stale, marks, marksFrom, UInt32.sub_self]
    refine List.pairwise_cons.mpr ⟨fun l hl => ?_, List.pairwise_of_forall_mem_list ?_⟩
    · have hfirst : Mark.lateness codec ⟨0, 0⟩ = 0 := by simp [Mark.lateness, mediaTime]
      change l.lateness codec ≤ Mark.lateness codec ⟨0, 0⟩ + _
      rw [hfirst, zero_add]
      exact (lateness_delayed hl).2
    · intro m hm l hl
      have hlow := (lateness_delayed hm).1
      have hhigh := (lateness_delayed hl).2
      push_cast at hlow hhigh ⊢
      linarith

theorem judge_of_anchored {base : UInt32} (hrate : codec.sampleRate ≠ 0) (t : UInt32) (now : ℤ) :
    let r : RTPRealTimeReader := ⟨codec, true, 0, base, ssrc⟩
    r.judge { start := now, now, timestamp := t, ssrc } =
      if now - r.sinceAnchor t ≤ 0 then (.returned, r.anchor now t ssrc)
      else if now - r.sinceAnchor t ≤ r.allowance then (.returned, r)
      else if codec.sampleDur.tdiv 2 ≤ 0 then (.returned, r.anchor now t ssrc)
      else (.skipped, r) := by
  intro r
  simp [RTPRealTimeReader.judge, r, hrate]

/-- Less than 2³¹ samples after the anchor the distance of the timestamps is the media time. -/
theorem sinceAnchor_near {base t : UInt32} {next : ℕ} (ht : t = base + UInt32.ofNat next)
    (hnear : next < 2 ^ 31) (ssrc : UInt32) :
    RTPRealTimeReader.sinceAnchor ⟨codec, true, 0, base, ssrc⟩ t = ⌊mediaTime codec next⌋ := by
  have hdist : int32 (t - base) = next := by
    simpa [ht] using @int32_sub base next 0 (Nat.zero_le _) (by omega)
  have hfloor : ((next : ℤ) * nanos).tdiv codec.sampleRate.toNat = ⌊mediaTime codec next⌋ := by
    simpa [mediaTime] using tdiv_eq_floor codec (Nat.zero_le next)
  rw [RTPRealTimeReader.sinceAnchor, hdist, hfloor]

theorem sinceAnchor_far {base t : UInt32} {next : ℕ} (ht : t = base + UInt32.ofNat next)
    (hfar : 2 ^ 31 ≤ next) (hlt : next < 2 ^ 32) (ssrc : UInt32) :
    RTPRealTimeReader.sinceAnchor ⟨codec, true, 0, base, ssrc⟩ t ≤ 0 := by
  have hbase := base.toNat_lt
  have hdiff : (t - base).toNat = next := by
    rw [ht, UInt32.toNat_sub, UInt32.toNat_add, UInt32.toNat_ofNat']
    omega
  have hdist : int32 (t - base) * nanos = -((2 ^ 32 - next) * nanos) := by
    rw [int32_eq, hdiff, if_neg (by omega)]
    ring
  have hback : 0 ≤ (((2 ^ 32 : ℤ) - next) * nanos).tdiv codec.sampleRate.toNat :=
    Int.tdiv_nonneg (mul_nonneg (by omega) (by decide)) (Int.natCast_nonneg _)
  rw [RTPRealTimeReader.sinceAnchor, hdist, Int.neg_tdiv]
  exact neg_nonpos.mpr hback

/-- The media time of 2³¹ samples is more than a microsecond at any clock rate. -/
theorem micro_lt_mediaTime (hrate : codec.sampleRate ≠ 0) {next : ℕ} (hfar : 2 ^ 31 ≤ next) :
    microsecond < ⌊mediaTime codec next⌋ := by
  have hpos : 0 < codec.sampleRate.toNat :=
    Nat.pos_of_ne_zero fun h => hrate (UInt32.toNat_inj.mp h)
  have hrange : (codec.sampleRate.toNat : ℚ) < 2 ^ 32 := by
    exact_mod_cast codec.sampleRate.toNat_lt
  have hposq : (0 : ℚ) < codec.sampleRate.toNat := by exact_mod_cast hpos
  have hfarq : (2 ^ 31 : ℚ) ≤ next := by exact_mod_cast hfar
  rw [← Int.add_one_le_iff, Int.le_floor, mediaTime, le_div_iff₀ hposq]
  push_cast
  linarith

/-- A reader that was anchored at the first frame drops the first frame that is 2³¹ samples after
it. -/
theorem not_returnsAll_delayed (hrate : codec.sampleRate ≠ 0) (hdur : 2 ≤ codec.sampleDur)
    {base : UInt32} {r : RTPRealTimeReader} (hr : r = ⟨codec, true, 0, base, ssrc⟩)
    {ts : UInt32} {pos : ℕ} (hts : ts = base + UInt32.ofNat pos) (hpos : pos < 2 ^ 31)
    {tss : List UInt32} (hsteps : (ts :: tss).IsChain fun t u => (u - t).toNat < 2 ^ 31)
    (hspan : 2 ^ 31 ≤ pos + span (ts :: tss)) :
    ¬ ReturnsAll r (delayed codec ssrc (r.allowance - microsecond) ts pos tss) := by
  induction tss generalizing ts pos with
  | nil =>
    rw [span] at hspan
    · omega
    · simp
  | cons t tss ih =>
    rw [List.isChain_cons_cons] at hsteps
    rw [span] at hspan
    rw [delayed, returnsAll_cons]
    have hallowance := allowance_ge r
    have hmicro : microsecond = 1000 := rfl
    have hmilli : millisecond = 1000000 := rfl
    have hnext := timestamp_next hts t
    rw [hr] at hallowance ⊢
    by_cases hnear : pos + (t - ts).toNat < 2 ^ 31
    · rintro ⟨-, hrest⟩
      rw [judge_of_anchored hrate, sinceAnchor_near hnext hnear, if_neg (by omega),
        if_pos (by omega)] at hrest
      rw [hr] at ih
      exact ih hnext hnear hsteps.2 (by omega) hrest
    · rintro ⟨hreturned, -⟩
      have hback := @sinceAnchor_far codec base t _ hnext (not_lt.mp hnear) (by omega) ssrc
      have hlong := micro_lt_mediaTime hrate (not_lt.mp hnear)
      have hhalf := (half_pos_iff codec.sampleDur).mpr hdur
      rw [judge_of_anchored hrate, if_neg (by omega), if_neg (by omega), if_neg (by omega)]
        at hreturned
      cases hreturned

end Stale

/-- The stale stream of 2³¹ samples is timely and not read whole. -/
theorem not_returnsAll_stale {r : RTPRealTimeReader} (hnew : RTPRealTimeReader.new codec = some r)
    (hrate : codec.sampleRate ≠ 0) (hdur : 2 ≤ codec.sampleDur) {tss : List UInt32}
    (hsteps : tss.IsChain fun t u => (u - t).toNat < 2 ^ 31) (hspan : 2 ^ 31 ≤ span tss)
    (ssrc : UInt32) : ¬ ReturnsAll r (stale codec ssrc (r.allowance - microsecond) tss) := by
  obtain rfl := new_eq_some hnew
  cases tss with
  | nil => simp [span] at hspan
  | cons ts tss =>
    rw [stale, returnsAll_cons]
    rintro ⟨-, hrest⟩
    exact not_returnsAll_delayed hrate hdur rfl (by simp) (by norm_num) hsteps (by omega) hrest

/-- The realtime reader drops nothing of a timely stream whose frames stay within 2³¹ samples of
one that came earliest. Of the timestamps alone this can be told exactly when the whole stream is
shorter than that, but for a frame duration so short that every read counts as a wait. -/
theorem realtime_reader_keeps_iff {r : RTPRealTimeReader}
    (hnew : RTPRealTimeReader.new codec = some r) (hrate : codec.sampleRate ≠ 0) (ssrc : UInt32)
    (tss : List UInt32) (hsteps : tss.IsChain fun t u => (u - t).toNat < 2 ^ 31) :
    (∀ xs, xs.map (·.timestamp) = tss → IsStream ssrc xs → Timely codec r.allowance (marks xs) →
      Renewed codec (marks xs) → ReturnsAll r xs) ∧
    ((∀ xs, xs.map (·.timestamp) = tss → IsStream ssrc xs →
      Timely codec r.allowance (marks xs) → ReturnsAll r xs) ↔
        span tss < 2 ^ 31 ∨ codec.sampleDur < 2) := by
  refine ⟨fun xs _ hstream htimely hrenewed =>
    returnsAll_of_renewed hnew hrate hstream.source htimely hrenewed, ?_, ?_⟩
  · intro hall
    by_contra hnot
    rw [not_or, not_lt, not_lt] at hnot
    have hallowance := allowance_ge r
    have hmicro : microsecond = 1000 := rfl
    have hmilli : millisecond = 1000000 := rfl
    exact not_returnsAll_stale hnew hrate hnot.2 hsteps hnot.1 ssrc
      (hall _ (timestamps_stale tss) (isStream_stale (by omega) hsteps)
        (timely_stale hallowance tss))
  · rintro (hspan | hdur) xs hts hstream htimely
    · rw [← hts] at hspan
      exact returnsAll_of_renewed hnew hrate hstream.source htimely (renewed_of_span hspan)
    · refine returnsAll_of_short hrate hdur (by rw [new_eq_some hnew]) fun x hx => ?_
      exact ⟨(hstream.source x hx).2, hstream.clock x hx⟩

end Span

section Sample

def ulawReader : RTPRealTimeReader := { codec := codecAudioUlaw }

/-- Two frames of μ-law, the second one thirty milliseconds late. -/
theorem late_frame_returned :
    ReturnsAll ulawReader
      [⟨0, 0, 0, 7, false⟩, ⟨50 * millisecond, 50 * millisecond, 160, 7, false⟩] := by
  refine ((@realtime_reader_keeps_iff codecAudioUlaw ulawReader rfl (by decide) 7 [0, 160]
    (by decide)).2.mpr (.inl (by decide))) _ rfl ⟨by decide, by decide, by decide, by decide⟩ ?_
  unfold Timely
  decide +kernel

/-- A stream of μ-law whose first frame stays the earliest, and the frame 2³¹ samples after it. -/
def threeDays : List TimedRead :=
  [⟨0, 0, 0, 7, false⟩, ⟨268435456 * millisecond, 268435456 * millisecond, 2147483647, 7, false⟩,
    ⟨268435457 * millisecond, 268435457 * millisecond, 2147483648, 7, false⟩]

/-- The frames are late by about a millisecond, and the last one is dropped. -/
theorem old_anchor_drops_frame :
    RTPRealTimeReader.new codecAudioUlaw = some ulawReader ∧ IsStream 7 threeDays ∧
      Timely codecAudioUlaw ulawReader.allowance (marks threeDays) ∧
      ¬ ReturnsAll ulawReader threeDays := by
  refine ⟨rfl, ⟨by decide, by decide, by decide, by decide⟩, ?_, by decide +kernel⟩
  unfold Timely
  decide +kernel

end Sample

end Diago.Rtp
