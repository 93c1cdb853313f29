import Diago.Lib.Saturation
import Diago.Media.Wire

/-! # Rounds of the mix

A round takes what each stream has, adds the frames into one buffer of 16-bit samples,
and writes to each stream the buffer without its own frame.
-/
namespace Diago.Bridge
open Lib Media

/-! ## PCM -/

def sample (b₀ b₁ : UInt8) : ℤ :=
  if b₁.toNat < 128 then b₀.toNat + 256 * b₁.toNat else b₀.toNat + 256 * b₁.toNat - 65536

def putSample (s : ℤ) : Bytes := [UInt8.ofNat (s % 256).toNat, UInt8.ofNat (s / 256 % 256).toNat]

def saturate (x : ℤ) : ℤ := clamp (-32768) 32767 x

/-- The loop of PCMMix and PCMUnmix, none when it indexes past a slice. -/
def pcmCombine (op : ℤ → ℤ → ℤ) : (dst mixed read : Bytes) → Option Bytes
  | dst, _, [] => some dst
  | _ :: _ :: dst, m₀ :: m₁ :: mixed, r₀ :: r₁ :: read =>
    (pcmCombine op dst mixed read).map fun rest =>
      putSample (saturate (op (sample m₀ m₁) (sample r₀ r₁))) ++ rest
  | _, _, _ => none

def pcmMix (dst mixed read : Bytes) : Option Bytes := pcmCombine (· + ·) dst mixed read

def pcmUnmix (dst mixed read : Bytes) : Option Bytes := pcmCombine (· - ·) dst mixed read

def sampleAt : Bytes → ℕ → ℤ
  | b₀ :: b₁ :: _, 0 => sample b₀ b₁
  | _ :: _ :: rest, i + 1 => sampleAt rest i
  | _, _ => 0

theorem sample_mem (b₀ b₁ : UInt8) : -32768 ≤ sample b₀ b₁ ∧ sample b₀ b₁ ≤ 32767 := by
  have h₀ := b₀.toNat_lt
  have h₁ := b₁.toNat_lt
  unfold sample
  split <;> omega

theorem sampleAt_mem (bytes : Bytes) (i : ℕ) :
    -32768 ≤ sampleAt bytes i ∧ sampleAt bytes i ≤ 32767 := by
  fun_induction sampleAt bytes i with
  | case1 b₀ b₁ rest => exact sample_mem b₀ b₁
  | case2 _ _ rest i ih => exact ih
  | case3 => decide

theorem saturate_mem (x : ℤ) : -32768 ≤ saturate x ∧ saturate x ≤ 32767 :=
  clamp_mem (by decide) x

theorem saturate_sampleAt (bytes : Bytes) (i : ℕ) :
    saturate (sampleAt bytes i) = sampleAt bytes i :=
  clamp_of_mem (sampleAt_mem bytes i).1 (sampleAt_mem bytes i).2

theorem sampleAt_putSample {s : ℤ} (h : -32768 ≤ s ∧ s ≤ 32767) (rest : Bytes) :
    sampleAt (putSample s ++ rest) 0 = s := by
  change sample (UInt8.ofNat (s % 256).toNat) (UInt8.ofNat (s / 256 % 256).toNat) = s
  have h₀ : (UInt8.ofNat (s % 256).toNat).toNat = (s % 256).toNat := by
    rw [UInt8.toNat_ofNat']
    omega
  have h₁ : (UInt8.ofNat (s / 256 % 256).toNat).toNat = (s / 256 % 256).toNat := by
    rw [UInt8.toNat_ofNat']
    omega
  rw [sample, h₀, h₁]
  split <;> omega

theorem sampleAt_of_length_le {bytes : Bytes} {i : ℕ} (h : bytes.length ≤ 2 * i) :
    sampleAt bytes i = 0 := by
  fun_induction sampleAt bytes i with
  | case1 => simp at h
  | case2 _ _ rest i ih =>
    simp only [List.length_cons] at h
    exact ih (by omega)
  | case3 => rfl

theorem sampleAt_of_forall_zero {bytes : Bytes} (h : ∀ b ∈ bytes, b = 0) (i : ℕ) :
    sampleAt bytes i = 0 := by
  fun_induction sampleAt bytes i with
  | case1 b₀ b₁ rest =>
    rw [h b₀ (by simp), h b₁ (by simp)]
    rfl
  | case2 b₀ b₁ rest i ih => exact ih fun b hb => h b (by simp [hb])
  | case3 => rfl

/-- Within slices that are long enough every sample pair is combined, and the rest stays. -/
theorem pcmCombine_spec (op : ℤ → ℤ → ℤ) {dst mixed read : Bytes} (heven : Even read.length)
    (hdst : read.length ≤ dst.length) (hmixed : read.length ≤ mixed.length) :
    ∃ out, pcmCombine op dst mixed read = some out ∧ out.length = dst.length ∧
      ∀ i, sampleAt out i =
        if 2 * i < read.length then saturate (op (sampleAt mixed i) (sampleAt read i))
        else sampleAt dst i := by
  fun_induction pcmCombine op dst mixed read with
  | case1 _ dst => exact ⟨dst, rfl, rfl, by simp⟩
  | case2 _ _ dst m₀ m₁ mixed r₀ r₁ read ih =>
    simp only [List.length_cons] at heven hdst hmixed
    obtain ⟨rest, hrest, hlen, hsamples⟩ := ih (by simpa [Nat.even_add_one] using heven)
      (by omega) (by omega)
    refine ⟨_, by rw [hrest, Option.map_some], by simp [putSample, hlen], fun i => ?_⟩
    cases i with
    | zero =>
      rw [sampleAt_putSample (saturate_mem _), if_pos (by simp)]
      rfl
    | succ i =>
      have hbound : 2 * (i + 1) < (r₀ :: r₁ :: read).length ↔ 2 * i < read.length := by
        simp only [List.length_cons]
        omega
      rw [if_congr hbound rfl rfl]
      exact hsamples i
  | case3 dst mixed read hnil hlong =>
    match read, dst, mixed with
    | [], _, _ => exact absurd rfl hnil
    | [_], _, _ => simp at heven
    | r₀ :: r₁ :: read, d₀ :: d₁ :: dst, m₀ :: m₁ :: mixed =>
      exact absurd rfl (hlong _ _ _ _ _ _ _ _ _ rfl rfl)
    | _ :: _ :: _, [], _ | _ :: _ :: _, [_], _ => simp at hdst
    | _ :: _ :: _, _, [] | _ :: _ :: _, _, [_] => simp at hmixed

theorem sampleAt_append_left {a b : Bytes} {i : ℕ} (heven : Even a.length)
    (h : 2 * i < a.length) : sampleAt (a ++ b) i = sampleAt a i := by
  fun_induction sampleAt a i with
  | case1 => rfl
  | case2 _ _ rest i ih =>
    simp only [List.length_cons] at h heven
    exact ih (by simpa [Nat.even_add_one] using heven) (by omega)
  | case3 a i hnone hsome =>
    match a, i with
    | [], _ => simp at h
    | [_], _ => simp at heven
    | _ :: _ :: _, 0 => exact absurd rfl (hnone _ _ _ rfl)
    | _ :: _ :: _, i + 1 => exact absurd rfl (hsome _ _ _ _ rfl)

theorem sampleAt_append_right {a b : Bytes} {i : ℕ} (heven : Even a.length)
    (h : a.length ≤ 2 * i) : sampleAt (a ++ b) i = sampleAt b (i - a.length / 2) := by
  fun_induction sampleAt a i with
  | case1 => simp at h
  | case2 _ _ rest i ih =>
    simp only [List.length_cons] at h heven ⊢
    have hrest := ih (by simpa [Nat.even_add_one] using heven) (by omega)
    rw [show i + 1 - (rest.length + 1 + 1) / 2 = i - rest.length / 2 by omega, ← hrest]
    rfl
  | case3 a i hnone hsome =>
    match a, i with
    | [], _ => simp
    | [_], _ => simp at heven
    | _ :: _ :: _, 0 => exact absurd rfl (hnone _ _ _ rfl)
    | _ :: _ :: _, i + 1 => exact absurd rfl (hsome _ _ _ _ rfl)

theorem sampleAt_take_append_drop {a b : Bytes} {n : ℕ} (heven : Even n) (ha : n ≤ a.length)
    (hb : n ≤ b.length) (i : ℕ) : sampleAt (a.take n ++ b.drop n) i =
      if 2 * i < n then sampleAt a i else sampleAt b i := by
  have hlenA : (a.take n).length = n := by simp [ha]
  have hlenB : (b.take n).length = n := by simp [hb]
  split
  · rename_i h
    conv_rhs => rw [← List.take_append_drop n a]
    rw [sampleAt_append_left (by rwa [hlenA]) (by rwa [hlenA]),
      sampleAt_append_left (by rwa [hlenA]) (by rwa [hlenA])]
  · rename_i h
    conv_rhs => rw [← List.take_append_drop n b]
    rw [sampleAt_append_right (by rwa [hlenA]) (by rw [hlenA]; omega),
      sampleAt_append_right (by rwa [hlenB]) (by rw [hlenB]; omega), hlenA, hlenB]

theorem pcmMix_spec {mixed read : Bytes} (heven : Even read.length)
    (hlen : read.length ≤ mixed.length) :
    ∃ out, pcmMix mixed mixed read = some out ∧ out.length = mixed.length ∧
      ∀ i, sampleAt out i = saturate (sampleAt mixed i + sampleAt read i) := by
  obtain ⟨out, hout, hsize, hsamples⟩ := pcmCombine_spec (· + ·) heven hlen hlen
  refine ⟨out, hout, hsize, fun i => ?_⟩
  rw [hsamples i]
  split
  · rfl
  · rename_i h
    rw [sampleAt_of_length_le (not_lt.mp h), add_zero, saturate_sampleAt]

/-! ## Streams -/

/-- What the mix keeps of a stream: its read buffer, with the length of the frame of the round. -/
structure BridgePCMStream where
  buf : Bytes
  n : ℕ
  markGone : Bool
  size : buf.length = rtpBufSize
  fits : n ≤ rtpBufSize

namespace BridgePCMStream

def frame (r : BridgePCMStream) : Bytes := r.buf.take r.n

def clear (r : BridgePCMStream) : BridgePCMStream := { r with n := 0, fits := Nat.zero_le _ }

def drop (r : BridgePCMStream) : BridgePCMStream := { r with markGone := true }

def receive (r : BridgePCMStream) (bytes : Bytes) : BridgePCMStream :=
  { r with
    buf := bytes.take rtpBufSize ++ r.buf.drop bytes.length
    n := min bytes.length rtpBufSize
    size := by
      have := r.size
      simp only [List.length_append, List.length_take, List.length_drop]
      omega
    fits := min_le_right _ _ }

def overwrite (r : BridgePCMStream) (bytes : Bytes) : BridgePCMStream :=
  { r with
    buf := bytes.take rtpBufSize ++ r.buf.drop bytes.length
    size := (r.receive bytes).size }

theorem frame_receive (r : BridgePCMStream) (bytes : Bytes) :
    (r.receive bytes).frame = bytes.take rtpBufSize := by
  have hlen : (bytes.take rtpBufSize).length = min bytes.length rtpBufSize := by
    rw [List.length_take, min_comm]
  change (bytes.take rtpBufSize ++ _).take (min bytes.length rtpBufSize) = _
  rw [← hlen, List.take_left]

theorem length_frame (r : BridgePCMStream) : r.frame.length = r.n := by
  rw [frame, List.length_take, r.size, min_eq_left r.fits]

end BridgePCMStream

/-! ## A round -/

/-- What a stream that is polled has: a frame, nothing yet, or a closed pipe. -/
inductive Polled
  | frame (bytes : Bytes)
  | nothing
  | closed

/-- How a direct read goes: the mix is stopped before it, a frame, a deadline passed while the mix
runs or not, or another error. -/
inductive DirectRead
  | notArmed
  | frame (bytes : Bytes)
  | deadline (running : Bool)
  | failed

inductive MixErr
  | stopped
  | deadline
  | allGone
  deriving DecidableEq, Repr

structure Mixing where
  mixed : Bytes
  maxN : ℕ
  handledStreams : ℤ
  err : Option MixErr

def Mixing.start (streams : ℕ) : Mixing :=
  { mixed := List.replicate rtpBufSize 0, maxN := 0, handledStreams := streams, err := none }

def Mixing.add (x : Mixing) (frame : Bytes) : Option Mixing :=
  (pcmMix x.mixed x.mixed frame).map fun mixed =>
    { x with mixed := mixed, maxN := max x.maxN frame.length }

def Mixing.skip (x : Mixing) : Mixing := { x with handledStreams := x.handledStreams - 1 }

def pollTurn (x : Mixing) (r : BridgePCMStream) (a : Polled) :
    Option (Mixing × BridgePCMStream) :=
  if r.markGone = true then some (x.skip, r)
  else
    match a with
    | .closed => some (x, r.clear.drop)
    | .frame bytes => (x.add (r.receive bytes).frame).map fun y => (y, r.receive bytes)
    | .nothing => some (x, r.clear)

def directTurn (x : Mixing) (r : BridgePCMStream) (a : DirectRead) :
    Option (Mixing × BridgePCMStream) :=
  if r.markGone = true then some (x.skip, r.clear)
  else
    match a with
    | .notArmed => some ({ x with err := some .stopped }, r.clear)
    | .frame bytes => (x.add (r.receive bytes).frame).map fun y => (y, r.receive bytes)
    | .deadline true => some (x, r.clear)
    | .deadline false => some ({ x with err := some .deadline }, r.clear)
    | .failed => some (x.skip, r.clear.drop)

section Pass

variable {α : Type} (turn : Mixing → BridgePCMStream → α → Option (Mixing × BridgePCMStream))

def passStreams : Mixing → List (BridgePCMStream × α) → Option (Mixing × List BridgePCMStream)
  | x, [] => some (x, [])
  | x, (r, a) :: rest =>
    (turn x r a).bind fun (y, r') =>
      if y.err.isSome = true then some (y, r' :: rest.map (·.1))
      else (passStreams y rest).map fun (z, rs) => (z, r' :: rs)

end Pass

/-- The streams of a round with what each has; a polled round reads the state of the mix at its
end. -/
inductive Round
  | poll (turns : List (BridgePCMStream × Polled)) (state : ℕ)
  | direct (turns : List (BridgePCMStream × DirectRead))

def Mixing.endPoll (x : Mixing) (streams state : ℕ) : Mixing :=
  if x.handledStreams = 0 then { x with err := some .allGone }
  else if (x.handledStreams < streams ∨ x.maxN = 0) ∧ state ≠ 1 then { x with err := some .stopped }
  else x

def Mixing.endDirect (x : Mixing) : Mixing :=
  if x.err = none ∧ x.handledStreams = 0 then { x with err := some .allGone } else x

/-- The mix of a round, none when a slice is indexed past its end. -/
def mixAllStreams : Round → Option (Mixing × List BridgePCMStream)
  | .poll turns state =>
    (passStreams pollTurn (.start turns.length) turns).map fun (x, rs) =>
      (x.endPoll turns.length state, rs)
  | .direct turns =>
    (passStreams directTurn (.start turns.length) turns).map fun (x, rs) => (x.endDirect, rs)

def unmixStream (r : BridgePCMStream) (mixed : Bytes) : Option Bytes :=
  if mixed.length ≤ r.buf.length then
    (pcmUnmix (r.buf.take mixed.length) mixed r.frame).map fun heard =>
      heard.take r.frame.length ++ mixed.drop r.frame.length
  else none

inductive WriteResult
  | written
  | closed
  | failed
  deriving DecidableEq, Repr

def BridgePCMStream.hear (mixed : Bytes) (r : BridgePCMStream) :
    Option (Option Bytes × BridgePCMStream) :=
  if r.markGone = true then some (none, r)
  else if 0 < r.n then
    (unmixStream r mixed).map fun heard => (some heard, r.overwrite heard)
  else some (some mixed, r)

def BridgePCMStream.afterWrite (r : BridgePCMStream) (out : Option Bytes) (w : WriteResult) :
    BridgePCMStream :=
  if out.isSome = true ∧ w = .closed then r.drop else r

def broadcast (mixed : Bytes) :
    List BridgePCMStream → Option (List (Option Bytes × BridgePCMStream))
  | [] => some []
  | r :: rs => (r.hear mixed).bind fun h => (broadcast mixed rs).map fun hs => h :: hs

structure RoundEnd where
  written : List (Option Bytes)
  streams : List BridgePCMStream
  err : Option MixErr

/-- A round of mixLoop: the mix, and what is written to each stream unless the mix failed or
nothing was read. -/
def mixRound (round : Round) (writes : ℕ → WriteResult) : Option RoundEnd :=
  (mixAllStreams round).bind fun (x, rs) =>
    if x.err.isSome = true ∨ x.maxN = 0 then some ⟨rs.map fun _ => none, rs, x.err⟩
    else
      (broadcast (x.mixed.take x.maxN) rs).map fun heard =>
        ⟨heard.map (·.1), heard.mapIdx fun i h => h.2.afterWrite h.1 (writes i), none⟩

/-! ## What a round adds up -/

def pollFrame (r : BridgePCMStream) (a : Polled) : Bytes :=
  if r.markGone = true then []
  else
    match a with
    | .frame bytes => bytes.take rtpBufSize
    | .nothing | .closed => []

def directFrame (r : BridgePCMStream) (a : DirectRead) : Bytes :=
  if r.markGone = true then []
  else
    match a with
    | .frame bytes => bytes.take rtpBufSize
    | .notArmed | .deadline _ | .failed => []

def Round.frames : Round → List Bytes
  | .poll turns _ => turns.map fun t => pollFrame t.1 t.2
  | .direct turns => turns.map fun t => directFrame t.1 t.2

/-- The buffer is silent past the longest frame, which has whole samples. -/
structure Mixing.Sound (x : Mixing) : Prop where
  size : x.mixed.length = rtpBufSize
  even : Even x.maxN
  fits : x.maxN ≤ rtpBufSize
  silent : ∀ i, x.maxN ≤ 2 * i → sampleAt x.mixed i = 0

theorem Mixing.start_sound (streams : ℕ) : (Mixing.start streams).Sound where
  size := by simp [Mixing.start]
  even := by simp [Mixing.start]
  fits := Nat.zero_le _
  silent i _ := by
    exact sampleAt_of_forall_zero (fun b hb => List.eq_of_mem_replicate hb) i

structure Mixing.Added (x y : Mixing) (frame : Bytes) : Prop where
  sound : y.Sound
  grows : x.maxN ≤ y.maxN
  covers : frame.length ≤ y.maxN
  samples : ∀ i, sampleAt y.mixed i = saturate (sampleAt x.mixed i + sampleAt frame i)

/-- After its turn a stream holds the frame it contributed, and one that is gone contributed
none. -/
structure BridgePCMStream.Holds (r : BridgePCMStream) (frame : Bytes) : Prop where
  gone : r.markGone = true → frame = []
  holds : r.markGone = false → r.frame = frame

theorem Mixing.Sound.added_nil {x y : Mixing} (h : x.Sound) (hmixed : y.mixed = x.mixed)
    (hmax : y.maxN = x.maxN) : x.Added y [] where
  sound := ⟨hmixed ▸ h.size, hmax ▸ h.even, hmax ▸ h.fits, hmixed ▸ hmax ▸ h.silent⟩
  grows := hmax.ge
  covers := Nat.zero_le _
  samples i := by
    have hnil : sampleAt [] i = 0 := rfl
    rw [hmixed, hnil, add_zero, saturate_sampleAt]

theorem Mixing.Sound.add {x : Mixing} (h : x.Sound) {frame : Bytes} (heven : Even frame.length)
    (hfits : frame.length ≤ rtpBufSize) :
    ∃ y, x.add frame = some y ∧ y.err = x.err ∧ x.Added y frame := by
  obtain ⟨mixed, hmix, hsize, hsamples⟩ := pcmMix_spec heven (h.size ▸ hfits)
  refine ⟨{ x with mixed := mixed, maxN := max x.maxN frame.length }, ?_, rfl, ?_⟩
  · rw [Mixing.add, hmix, Option.map_some]
  · refine ⟨⟨hsize.trans h.size, ?_, max_le h.fits hfits, fun i hi => ?_⟩, le_max_left _ _,
      le_max_right _ _, hsamples⟩
    · rcases max_choice x.maxN frame.length with hmax | hmax
      · exact hmax.symm ▸ h.even
      · exact hmax.symm ▸ heven
    · rw [hsamples i, h.silent i ((le_max_left _ _).trans hi),
        sampleAt_of_length_le ((le_max_right _ _).trans hi)]
      rfl

theorem BridgePCMStream.Holds.clear {r : BridgePCMStream} : r.clear.Holds [] where
  gone _ := rfl
  holds _ := rfl

theorem BridgePCMStream.Holds.drop {r : BridgePCMStream} : r.drop.Holds [] where
  gone _ := rfl
  holds h := nomatch h

theorem BridgePCMStream.receive_holds {r : BridgePCMStream} (h : ¬ r.markGone = true)
    (bytes : Bytes) : (r.receive bytes).Holds (bytes.take rtpBufSize) where
  gone hgone := absurd hgone h
  holds _ := r.frame_receive bytes

section Pass

variable {α : Type} {turn : Mixing → BridgePCMStream → α → Option (Mixing × BridgePCMStream)}
  {frameOf : BridgePCMStream → α → Bytes}

/-- A turn that does not end the round adds what the stream contributes. -/
def AddsFrames (turn : Mixing → BridgePCMStream → α → Option (Mixing × BridgePCMStream))
    (frameOf : BridgePCMStream → α → Bytes) : Prop :=
  ∀ x r a, x.Sound → Even (frameOf r a).length → ∃ y r', turn x r a = some (y, r') ∧
    (y.err = none → x.Added y (frameOf r a) ∧ r'.Holds (frameOf r a))

theorem pollTurn_addsFrames : AddsFrames pollTurn pollFrame := by
  intro x r a hx heven
  unfold pollTurn pollFrame at *
  by_cases hgone : r.markGone = true
  · simp only [hgone, if_true]
    exact ⟨_, _, rfl, fun _ => ⟨hx.added_nil rfl rfl, fun _ => rfl, by simp [hgone]⟩⟩
  · simp only [hgone, Bool.false_eq_true, if_false] at heven ⊢
    cases a with
    | frame bytes =>
      obtain ⟨y, hy, -, hadded⟩ := hx.add heven (List.length_take_le _ _)
      refine ⟨y, r.receive bytes, ?_, fun _ => ⟨hadded, r.receive_holds hgone bytes⟩⟩
      simp [BridgePCMStream.frame_receive, hy]
    | nothing => exact ⟨_, _, rfl, fun _ => ⟨hx.added_nil rfl rfl, .clear⟩⟩
    | closed => exact ⟨_, _, rfl, fun _ => ⟨hx.added_nil rfl rfl, .drop⟩⟩

theorem directTurn_addsFrames : AddsFrames directTurn directFrame := by
  intro x r a hx heven
  unfold directTurn directFrame at *
  by_cases hgone : r.markGone = true
  · simp only [hgone, if_true]
    exact ⟨_, _, rfl, fun _ => ⟨hx.added_nil rfl rfl, .clear⟩⟩
  · simp only [hgone, Bool.false_eq_true, if_false] at heven ⊢
    cases a with
    | notArmed => exact ⟨_, _, rfl, nofun⟩
    | frame bytes =>
      obtain ⟨y, hy, -, hadded⟩ := hx.add heven (List.length_take_le _ _)
      refine ⟨y, r.receive bytes, ?_, fun _ => ⟨hadded, r.receive_holds hgone bytes⟩⟩
      simp [BridgePCMStream.frame_receive, hy]
    | deadline running =>
      cases running
      · exact ⟨_, _, rfl, nofun⟩
      · exact ⟨_, _, rfl, fun _ => ⟨hx.added_nil rfl rfl, .clear⟩⟩
    | failed => exact ⟨_, _, rfl, fun _ => ⟨hx.added_nil rfl rfl, .drop⟩⟩

/-- What a whole pass from `x` leaves: the frames added one after the other. -/
structure Mixing.AddedAll (x y : Mixing) (rs : List BridgePCMStream) (frames : List Bytes) :
    Prop where
  sound : y.Sound
  grows : x.maxN ≤ y.maxN
  covers : ∀ frame ∈ frames, frame.length ≤ y.maxN
  samples : ∀ i, sampleAt y.mixed i =
    (frames.map (sampleAt · i)).foldl (fun acc s => saturate (acc + s)) (sampleAt x.mixed i)
  held : List.Forall₂ BridgePCMStream.Holds rs frames

theorem Mixing.Added.cons {x y z : Mixing} {r : BridgePCMStream} {rs : List BridgePCMStream}
    {frame : Bytes} {frames : List Bytes} (h : x.Added y frame) (hr : r.Holds frame)
    (hrest : y.AddedAll z rs frames) : x.AddedAll z (r :: rs) (frame :: frames) where
  sound := hrest.sound
  grows := h.grows.trans hrest.grows
  covers f hf := by
    rcases List.mem_cons.mp hf with rfl | hf
    · exact h.covers.trans hrest.grows
    · exact hrest.covers f hf
  samples i := by rw [hrest.samples i, h.samples i, List.map_cons, List.foldl_cons]
  held := .cons hr hrest.held

theorem passStreams_added (hturn : AddsFrames turn frameOf) {x : Mixing} (hx : x.Sound)
    (turns : List (BridgePCMStream × α))
    (heven : ∀ frame ∈ turns.map (fun t => frameOf t.1 t.2), Even frame.length) :
    ∃ y rs, passStreams turn x turns = some (y, rs) ∧
      (y.err = none → x.AddedAll y rs (turns.map fun t => frameOf t.1 t.2)) := by
  induction turns generalizing x with
  | nil => exact ⟨x, [], rfl, fun _ => ⟨hx, le_rfl, by simp, fun _ => rfl, .nil⟩⟩
  | cons t rest ih =>
    obtain ⟨r, a⟩ := t
    obtain ⟨y, r', hy, hadded⟩ := hturn x r a hx (heven _ (by simp))
    rw [passStreams, hy, Option.bind_some]
    cases herr : y.err with
    | some e => exact ⟨y, r' :: rest.map (·.1), by simp [herr], by simp [herr]⟩
    | none =>
      obtain ⟨hframe, hholds⟩ := hadded herr
      obtain ⟨z, rs, hz, hall⟩ := ih hframe.sound fun f hf => heven f (List.mem_cons_of_mem _ hf)
      exact ⟨z, r' :: rs, by simp [herr, hz], fun hnone => hframe.cons hholds (hall hnone)⟩

end Pass

/-- A round of frames with whole samples never indexes past a slice, and unless it fails it leaves
in the buffer the frames added one after the other. -/
theorem mixAllStreams_added {round : Round} (heven : ∀ frame ∈ round.frames, Even frame.length) :
    ∃ x rs, mixAllStreams round = some (x, rs) ∧
      (x.err = none → (Mixing.start rs.length).AddedAll x rs round.frames) := by
  cases round with
  | poll turns state =>
    obtain ⟨x, rs, hpass, hall⟩ := passStreams_added pollTurn_addsFrames
      (Mixing.start_sound turns.length) turns heven
    refine ⟨x.endPoll turns.length state, rs, by simp [mixAllStreams, hpass], fun hnone => ?_⟩
    unfold Mixing.endPoll at hnone ⊢
    split_ifs at hnone ⊢ with hgone hstop
    · exact { hall hnone with }
  | direct turns =>
    obtain ⟨x, rs, hpass, hall⟩ := passStreams_added directTurn_addsFrames
      (Mixing.start_sound turns.length) turns heven
    refine ⟨x.endDirect, rs, by simp [mixAllStreams, hpass], fun hnone => ?_⟩
    unfold Mixing.endDirect at hnone ⊢
    split_ifs at hnone ⊢ with hgone
    · exact { hall hnone with }

/-! ## What each stream hears -/

theorem sampleAt_take {bytes : Bytes} {n : ℕ} (heven : Even n) (hn : n ≤ bytes.length) (i : ℕ) :
    sampleAt (bytes.take n) i = if 2 * i < n then sampleAt bytes i else 0 := by
  have hlen : (bytes.take n).length = n := by simp [hn]
  split
  · conv_rhs => rw [← List.take_append_drop n bytes]
    rw [sampleAt_append_left (by rwa [hlen]) (by rwa [hlen])]
  · exact sampleAt_of_length_le (by omega)

theorem Mixing.Sound.sampleAt_take {x : Mixing} (h : x.Sound) (i : ℕ) :
    sampleAt (x.mixed.take x.maxN) i = sampleAt x.mixed i := by
  rw [Bridge.sampleAt_take h.even (h.size ▸ h.fits)]
  split
  · rfl
  · exact (h.silent i (by omega)).symm

/-- A stream is written the mix without the frame it contributed; one that is gone contributed
none. -/
def HeardWithout (mixed : ℕ → ℤ) (frame : Bytes) (h : Option Bytes × BridgePCMStream) : Prop :=
  match h.1 with
  | none => frame = []
  | some bytes => ∀ i, sampleAt bytes i = saturate (mixed i - sampleAt frame i)

theorem unmixStream_spec {x : Mixing} (hx : x.Sound) {r : BridgePCMStream}
    (heven : Even r.frame.length) (hcovers : r.frame.length ≤ x.maxN) :
    ∃ heard, unmixStream r (x.mixed.take x.maxN) = some heard ∧
      ∀ i, sampleAt heard i = saturate (sampleAt x.mixed i - sampleAt r.frame i) := by
  have hlen : (x.mixed.take x.maxN).length = x.maxN := by simp [hx.size, hx.fits]
  have hbuf : (r.buf.take x.maxN).length = x.maxN := by simp [r.size, hx.fits]
  obtain ⟨out, hout, hsize, hsamples⟩ := pcmCombine_spec (· - ·) heven
    (hcovers.trans hbuf.ge) (hcovers.trans hlen.ge)
  refine ⟨out.take r.frame.length ++ (x.mixed.take x.maxN).drop r.frame.length, ?_, fun i => ?_⟩
  · rw [unmixStream, if_pos (by rw [hlen, r.size]; exact hx.fits), hlen, pcmUnmix, hout,
      Option.map_some]
  · rw [sampleAt_take_append_drop heven (by omega) (by omega), hsamples i]
    split
    · rw [hx.sampleAt_take]
    · rename_i h
      rw [hx.sampleAt_take, sampleAt_of_length_le (not_lt.mp h), sub_zero, saturate_sampleAt]

theorem BridgePCMStream.Holds.hear {x : Mixing} (hx : x.Sound) {r : BridgePCMStream}
    {frame : Bytes} (h : r.Holds frame) (heven : Even frame.length)
    (hcovers : frame.length ≤ x.maxN) :
    ∃ out, r.hear (x.mixed.take x.maxN) = some out ∧ HeardWithout (sampleAt x.mixed) frame out := by
  unfold BridgePCMStream.hear
  by_cases hgone : r.markGone = true
  · exact ⟨(none, r), if_pos hgone, h.gone hgone⟩
  · have hframe : r.frame = frame := h.holds (by simpa using hgone)
    rw [if_neg hgone]
    by_cases hn : 0 < r.n
    · obtain ⟨heard, hheard, hsamples⟩ := unmixStream_spec hx (r := r) (hframe ▸ heven)
        (hframe ▸ hcovers)
      refine ⟨(some heard, r.overwrite heard), by rw [if_pos hn, hheard, Option.map_some], ?_⟩
      exact hframe ▸ hsamples
    · refine ⟨(some (x.mixed.take x.maxN), r), if_neg hn, fun i => ?_⟩
      have hnil : frame = [] := by
        rw [← hframe, ← List.length_eq_zero_iff, r.length_frame]
        omega
      have hzero : sampleAt frame i = 0 := by rw [hnil]; rfl
      rw [hx.sampleAt_take, hzero, sub_zero, saturate_sampleAt]

theorem broadcast_spec {x : Mixing} (hx : x.Sound) {rs : List BridgePCMStream}
    {frames : List Bytes} (h : List.Forall₂ BridgePCMStream.Holds rs frames)
    (heven : ∀ frame ∈ frames, Even frame.length)
    (hcovers : ∀ frame ∈ frames, frame.length ≤ x.maxN) :
    ∃ heard, broadcast (x.mixed.take x.maxN) rs = some heard ∧
      List.Forall₂ (HeardWithout (sampleAt x.mixed)) frames heard := by
  induction h with
  | nil => exact ⟨[], rfl, .nil⟩
  | @cons r frame rs frames hr _ ih =>
    obtain ⟨out, hout, hwithout⟩ := hr.hear hx (heven frame (by simp)) (hcovers frame (by simp))
    obtain ⟨heard, hheard, hrest⟩ := ih (fun f hf => heven f (List.mem_cons_of_mem _ hf))
      fun f hf => hcovers f (List.mem_cons_of_mem _ hf)
    exact ⟨out :: heard, by simp [broadcast, hout, hheard], .cons hwithout hrest⟩

/-- Each stream is written, at every sample position, the saturated sum of the frames the other
streams contributed. -/
def HearsOthers (round : Round) (writes : ℕ → WriteResult) : Prop :=
  ∃ e, mixRound round writes = some e ∧
    ∀ w bytes, e.written[w]? = some (some bytes) → ∀ i,
      sampleAt bytes i = saturate ((round.frames.eraseIdx w).map (sampleAt · i)).sum

/-- The round comes to its broadcast. -/
def Round.Succeeds (round : Round) : Prop := ∃ x rs, mixAllStreams round = some (x, rs) ∧ x.err = none

/-- What saturation cuts off while the frames are added cancels out at every position. -/
def Round.AddsExactly (round : Round) : Prop :=
  ∀ i, clampedSum (-32768) 32767 (round.frames.map (sampleAt · i)) =
    (round.frames.map (sampleAt · i)).sum

theorem sum_eraseIdx_samples {frames : List Bytes} {w : ℕ} (h : w < frames.length) (i : ℕ) :
    ((frames.eraseIdx w).map (sampleAt · i)).sum =
      (frames.map (sampleAt · i)).sum - sampleAt frames[w] i := by
  have hlen : w < (frames.map (sampleAt · i)).length := by simpa using h
  have hsum := List.CommMonoid.add_sum_eraseIdx hlen
  rw [List.getElem_map, List.eraseIdx_map] at hsum
  omega

theorem heardWithout_at {mixed : ℕ → ℤ} {frames : List Bytes}
    {heard : List (Option Bytes × BridgePCMStream)}
    (h : List.Forall₂ (HeardWithout mixed) frames heard) {w : ℕ} (hw : w < frames.length) :
    (∃ bytes, (heard.map (·.1))[w]? = some (some bytes) ∧
      ∀ i, sampleAt bytes i = saturate (mixed i - sampleAt frames[w] i)) ∨
    ((heard.map (·.1))[w]? = some none ∧ frames[w] = []) := by
  have hheard : w < heard.length := h.length_eq ▸ hw
  have hwithout := h.get hw hheard
  simp only [List.get_eq_getElem, HeardWithout] at hwithout
  simp only [List.getElem?_map, List.getElem?_eq_getElem hheard, Option.map_some]
  cases hout : heard[w].1 with
  | none => exact .inr ⟨rfl, by simpa [hout] using hwithout⟩
  | some bytes => exact .inl ⟨bytes, rfl, by simpa [hout] using hwithout⟩

theorem mixRound_heard {round : Round} {x : Mixing} {rs : List BridgePCMStream}
    (heven : ∀ frame ∈ round.frames, Even frame.length)
    (hmix : mixAllStreams round = some (x, rs)) (hnone : x.err = none) (hread : x.maxN ≠ 0)
    (hall : (Mixing.start rs.length).AddedAll x rs round.frames) (writes : ℕ → WriteResult) :
    ∃ e, mixRound round writes = some e ∧ e.written.length = round.frames.length ∧
      ∀ w (hw : w < round.frames.length),
        (∃ bytes, e.written[w]? = some (some bytes) ∧
          ∀ i, sampleAt bytes i = saturate (clampedSum (-32768) 32767
            (round.frames.map (sampleAt · i)) - sampleAt round.frames[w] i)) ∨
        (e.written[w]? = some none ∧ round.frames[w] = []) := by
  obtain ⟨heard, hheard, hwithout⟩ := broadcast_spec hall.sound hall.held heven hall.covers
  have hsum (i : ℕ) : sampleAt x.mixed i =
      clampedSum (-32768) 32767 (round.frames.map (sampleAt · i)) := by
    rw [hall.samples i, (Mixing.start_sound rs.length).silent i (Nat.zero_le _)]
    rfl
  refine ⟨⟨heard.map (·.1), heard.mapIdx fun i h => h.2.afterWrite h.1 (writes i), none⟩, ?_, ?_,
    fun w hw => ?_⟩
  · rw [mixRound, hmix, Option.bind_some]
    dsimp only
    rw [if_neg (by simp [hnone, hread]), hheard, Option.map_some]
  · rw [List.length_map, hwithout.length_eq]
  · simp only [← hsum]
    exact heardWithout_at hwithout hw

/-- Each party of a mix hears the others exactly if nothing of the sums is lost to saturation. -/
theorem hears_others_iff (round : Round) (writes : ℕ → WriteResult)
    (heven : ∀ frame ∈ round.frames, Even frame.length) :
    HearsOthers round writes ↔ (round.Succeeds → round.AddsExactly) := by
  obtain ⟨x, rs, hmix, hall⟩ := mixAllStreams_added heven
  constructor
  · rintro ⟨e, he, hhears⟩ ⟨x', rs', hmix', hnone⟩ i
    obtain ⟨rfl, rfl⟩ : x = x' ∧ rs = rs' := by simpa [hmix] using hmix'
    by_cases hne : ∃ s ∈ round.frames.map (sampleAt · i), s ≠ 0
    · have hread : x.maxN ≠ 0 := by
        obtain ⟨s, hs, hs0⟩ := hne
        obtain ⟨frame, hframe, rfl⟩ := List.mem_map.mp hs
        intro hzero
        have hcovers := (hall hnone).covers frame hframe
        exact hs0 (sampleAt_of_length_le (by omega))
      obtain ⟨e', he', -, hheard⟩ := mixRound_heard heven hmix hnone hread (hall hnone) writes
      obtain rfl := Option.some.inj (he.symm.trans he')
      refine eq_sum_of_clamp_sub (by decide) (by decide) (clampedSum_mem (by decide) (by decide) _)
        ?_ hne ?_
      · intro s hs
        obtain ⟨frame, -, rfl⟩ := List.mem_map.mp hs
        exact sampleAt_mem frame i
      · intro s hs hs0
        obtain ⟨frame, hframe, rfl⟩ := List.mem_map.mp hs
        obtain ⟨w, hw, rfl⟩ := List.getElem_of_mem hframe
        rcases hheard w hw with ⟨bytes, hbytes, hsamples⟩ | ⟨-, hnil⟩
        · have hothers := hhears w bytes hbytes i
          rw [hsamples i, sum_eraseIdx_samples hw] at hothers
          exact hothers
        · exact absurd (by rw [hnil]; rfl) hs0
    · exact clampedSum_of_forall_zero (by decide) (by decide) (by simpa using hne)
  · intro hexact
    by_cases hend : x.err.isSome = true ∨ x.maxN = 0
    · refine ⟨⟨rs.map fun _ => none, rs, x.err⟩, ?_, fun w bytes hw => ?_⟩
      · rw [mixRound, hmix, Option.bind_some]
        exact if_pos hend
      · have hmem := List.mem_of_getElem? hw
        simp at hmem
    · have hnone : x.err = none := by
        cases herr : x.err with
        | none => rfl
        | some => exact absurd (.inl (by simp [herr])) hend
      have hread : x.maxN ≠ 0 := fun hzero => hend (.inr hzero)
      obtain ⟨e, he, hlen, hheard⟩ := mixRound_heard heven hmix hnone hread (hall hnone) writes
      refine ⟨e, he, fun w bytes hbytes i => ?_⟩
      have hw : w < round.frames.length := by
        rw [← hlen]
        exact (List.getElem?_eq_some_iff.mp hbytes).1
      rcases hheard w hw with ⟨bytes', hbytes', hsamples⟩ | ⟨hnobody, -⟩
      · obtain rfl : bytes = bytes' := by simpa [hbytes] using hbytes'
        rw [hsamples i, hexact ⟨x, rs, hmix, hnone⟩ i, sum_eraseIdx_samples hw]
      · simp [hbytes] at hnobody

section Sample

def newStream : BridgePCMStream :=
  { buf := List.replicate rtpBufSize 0
    n := 0
    markGone := false
    size := List.length_replicate
    fits := Nat.zero_le _ }

def twoFrames (a b : Bytes) : Round := .poll [(newStream, .frame a), (newStream, .frame b)] 1

/-- One sample of 1 and one of 2. -/
theorem quiet_parties_hear_others :
    (∀ frame ∈ (twoFrames [1, 0] [2, 0]).frames, Even frame.length) ∧
      HearsOthers (twoFrames [1, 0] [2, 0]) fun _ => .written := by
  have heven : ∀ frame ∈ (twoFrames [1, 0] [2, 0]).frames, Even frame.length := by decide
  refine ⟨heven, (hears_others_iff _ _ heven).mpr fun _ i => ?_⟩
  cases i with
  | zero => decide
  | succ i => rfl

/-- Two parties at full volume hear silence, and not each other. -/
theorem loud_parties_hear_silence :
    ((mixRound (twoFrames [0xFF, 0x7F] [0xFF, 0x7F]) fun _ => .written).map (·.written)) =
        some [some [0, 0], some [0, 0]] ∧
      sampleAt [0xFF, 0x7F] 0 = 32767 ∧
      ¬ HearsOthers (twoFrames [0xFF, 0x7F] [0xFF, 0x7F]) fun _ => .written := by
  have hround : ((mixRound (twoFrames [0xFF, 0x7F] [0xFF, 0x7F]) fun _ => .written).map
      (·.written)) = some [some [0, 0], some [0, 0]] := by decide +kernel
  refine ⟨hround, by decide, ?_⟩
  rintro ⟨e, he, hhears⟩
  rw [he, Option.map_some, Option.some.injEq] at hround
  have hfirst := hhears 0 [0, 0] (by rw [hround]; rfl) 0
  exact absurd hfirst (by decide)

end Sample

end Diago.Bridge
