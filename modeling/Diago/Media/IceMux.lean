import Diago.Lib.Schedule
import Diago.Media.Wire

/-! # One ICE connection for three streams

A session over ICE has one nominated pair, and so one connection for the DTLS
handshake, RTP and RTCP. One goroutine reads it, tells each packet by its first
bytes and puts it in the buffer of its stream, from which the conn of the stream
is read. Any number of callers may close the mux, through any of its conns.

The buffers are the transport library's, of which only the laws of `PacketBuffer`
are assumed. A packet that its buffer refuses is dropped. A read fails, and takes the
packet, when its slice is too short.
-/
namespace Diago.Media.IceMux
open Lib

def iceMuxBufferLimit : ℕ := 1000000

/-- RTCP and not RTP, by the payload type without the marker bit. -/
def isRTCP : Bytes → Bool
  | _ :: b :: _ => 64 ≤ b &&& 0x7F && b &&& 0x7F ≤ 95
  | _ => false

def isDTLS : Bytes → Bool
  | b :: _ => 20 ≤ b && b ≤ 63
  | [] => false

inductive Stream
  | dtls
  | rtp
  | rtcp
  deriving DecidableEq, Repr

def streamOf (pkt : Bytes) : Stream :=
  if isDTLS pkt then .dtls else if isRTCP pkt then .rtcp else .rtp

/-- What a buffer of packets holds, as its users see it. -/
structure Contents where
  queue : List Bytes
  closed : Bool
  limit : ℕ
  deriving DecidableEq, Repr

/-- The packet buffer of the transport library. A write takes the packet whole or refuses it, and
in neither case waits; a read, which is the only operation that waits, gives the packet written
first of those not read yet. The library counts the bytes of its packets in its own way. -/
class PacketBuffer (Buffer : Type) where
  /-- NewBuffer, with a limit set on its size. -/
  limited : ℕ → Buffer
  /-- None for a write that fails. -/
  write : Buffer → Bytes → Option Buffer
  /-- None while there is nothing to read. -/
  read : Buffer → Option (Bytes × Buffer)
  close : Buffer → Buffer
  contents : Buffer → Contents
  size : Buffer → ℕ
  contents_limited : ∀ n, contents (limited n) = ⟨[], false, n⟩
  size_limited : ∀ n, size (limited n) ≤ n
  contents_write : ∀ {b b' : Buffer} {pkt : Bytes}, write b pkt = some b' →
    contents b' = { contents b with queue := (contents b).queue ++ [pkt] }
  size_write : ∀ {b b' : Buffer} {pkt : Bytes}, write b pkt = some b' →
    size b' ≤ (contents b).limit
  read_isSome : ∀ b : Buffer, (read b).isSome = true ↔ (contents b).queue ≠ []
  contents_read : ∀ {b b' : Buffer} {pkt : Bytes}, read b = some (pkt, b') →
    contents b = { contents b' with queue := pkt :: (contents b').queue }
  size_read : ∀ {b b' : Buffer} {pkt : Bytes}, read b = some (pkt, b') → size b' ≤ size b
  contents_close : ∀ b : Buffer, contents (close b) = { contents b with closed := true }
  size_close : ∀ b : Buffer, size (close b) ≤ size b

def allStreams : List Stream := [.dtls, .rtp, .rtcp]

inductive LoopPhase
  | reading
  | filing (pkt : Bytes)
  | closing (left : List Stream)
  | returned
  deriving DecidableEq, Repr

inductive ClosePhase
  | idle
  | first
  | closing (left : List Stream)
  | waiting
  | blocked
  | returned
  deriving DecidableEq, Repr

inductive Once
  | fresh
  | running
  | done
  deriving DecidableEq, Repr

structure Mux (Buffer Call : Type) where
  connClosed : Bool := false
  loop : LoopPhase := .reading
  buffer : Stream → Buffer
  once : Once := .fresh
  close : Call → ClosePhase := fun _ => .idle
  received : List Bytes := []
  /-- The packets the conn of each stream has taken from its buffer. -/
  taken : Stream → List Bytes := fun _ => []
  refused : Stream → ℕ := fun _ => 0
  connCloses : ℕ := 0

inductive Event (Call : Type)
  | packet (pkt : Bytes)
  | fail
  | file
  | loopClose
  | read (s : Stream)
  | close (c : Call)
  | connClose (c : Call)
  | closeBuffer (c : Call)
  | join (c : Call)
  | release (c : Call)

namespace Mux

variable {Buffer Call : Type}

def setBuffer (x : Mux Buffer Call) (s : Stream) (b : Buffer) : Mux Buffer Call :=
  { x with buffer := Function.update x.buffer s b }

section Buffers

variable [PacketBuffer Buffer]

def newICEMux : Mux Buffer Call := { buffer := fun _ => PacketBuffer.limited iceMuxBufferLimit }

def queue (x : Mux Buffer Call) (s : Stream) : List Bytes :=
  (PacketBuffer.contents (x.buffer s)).queue

def closed (x : Mux Buffer Call) (s : Stream) : Bool := (PacketBuffer.contents (x.buffer s)).closed

def closeStream (x : Mux Buffer Call) (s : Stream) : Mux Buffer Call :=
  x.setBuffer s (PacketBuffer.close (x.buffer s))

/-- The loop writes a packet to the buffer of its stream. -/
def fileIn (x : Mux Buffer Call) (s : Stream) (pkt : Bytes) : Mux Buffer Call :=
  let written := PacketBuffer.write (x.buffer s) pkt
  { x.setBuffer s (written.getD (x.buffer s)) with
    loop := .reading
    refused := if written.isSome then x.refused
      else Function.update x.refused s (x.refused s + 1) }

end Buffers

section Step

variable [DecidableEq Call]

def setPhase (x : Mux Buffer Call) (c : Call) (phase : ClosePhase) : Mux Buffer Call :=
  { x with close := Function.update x.close c phase }

variable [PacketBuffer Buffer]

def step (x : Mux Buffer Call) : Event Call → Option (Mux Buffer Call)
  | .packet pkt =>
    match x.loop with
    | .reading =>
      if x.connClosed = true ∨ rtpBufSize < pkt.length then none
      else if pkt = [] then some x
      else some { x with loop := .filing pkt, received := x.received ++ [pkt] }
    | _ => none
  | .fail =>
    match x.loop with
    | .reading => some { x with loop := .closing allStreams }
    | _ => none
  | .file =>
    match x.loop with
    | .filing pkt => some (x.fileIn (streamOf pkt) pkt)
    | _ => none
  | .loopClose =>
    match x.loop with
    | .closing [] => some { x with loop := .returned }
    | .closing (s :: left) => some { x.closeStream s with loop := .closing left }
    | _ => none
  | .read s =>
    match PacketBuffer.read (x.buffer s) with
    | none => none
    | some (pkt, b) =>
      some { x.setBuffer s b with
        taken := Function.update x.taken s (x.taken s ++ [pkt]) }
  | .close c =>
    match x.close c, x.once with
    | .idle, .fresh => some { x.setPhase c .first with once := .running }
    | .idle, .running => some (x.setPhase c .blocked)
    | .idle, .done => some (x.setPhase c .returned)
    | _, _ => none
  | .connClose c =>
    match x.close c with
    | .first => some { x.setPhase c (.closing allStreams) with
        connClosed := true, connCloses := x.connCloses + 1 }
    | _ => none
  | .closeBuffer c =>
    match x.close c with
    | .closing [] => some (x.setPhase c .waiting)
    | .closing (s :: left) => some ((x.closeStream s).setPhase c (.closing left))
    | _ => none
  | .join c =>
    match x.close c, x.loop with
    | .waiting, .returned => some { x.setPhase c .returned with once := .done }
    | _, _ => none
  | .release c =>
    match x.close c, x.once with
    | .blocked, .done => some (x.setPhase c .returned)
    | _, _ => none

inductive Effect (x : Mux Buffer Call) : Event Call → Mux Buffer Call → Prop
  | skip (hloop : x.loop = .reading) (hconn : x.connClosed = false) : Effect x (.packet []) x
  | packet (pkt : Bytes) (hloop : x.loop = .reading) (hconn : x.connClosed = false)
      (hfits : pkt.length ≤ rtpBufSize) (hsome : pkt ≠ []) :
    Effect x (.packet pkt) { x with loop := .filing pkt, received := x.received ++ [pkt] }
  | fail (hloop : x.loop = .reading) : Effect x .fail { x with loop := .closing allStreams }
  | file (pkt : Bytes) (hloop : x.loop = .filing pkt) :
    Effect x .file (x.fileIn (streamOf pkt) pkt)
  | loopClose (s : Stream) (left : List Stream) (hloop : x.loop = .closing (s :: left)) :
    Effect x .loopClose { x.closeStream s with loop := .closing left }
  | loopReturn (hloop : x.loop = .closing []) :
    Effect x .loopClose { x with loop := .returned }
  | read (s : Stream) (pkt : Bytes) (b : Buffer)
      (hread : PacketBuffer.read (x.buffer s) = some (pkt, b)) :
    Effect x (.read s) { x.setBuffer s b with
      taken := Function.update x.taken s (x.taken s ++ [pkt]) }
  | closeFirst (c : Call) (hc : x.close c = .idle) (honce : x.once = .fresh) :
    Effect x (.close c) { x.setPhase c .first with once := .running }
  | closeBlocked (c : Call) (hc : x.close c = .idle) (honce : x.once = .running) :
    Effect x (.close c) (x.setPhase c .blocked)
  | closeAgain (c : Call) (hc : x.close c = .idle) (honce : x.once = .done) :
    Effect x (.close c) (x.setPhase c .returned)
  | connClose (c : Call) (hc : x.close c = .first) :
    Effect x (.connClose c) { x.setPhase c (.closing allStreams) with
      connClosed := true, connCloses := x.connCloses + 1 }
  | closeBuffer (c : Call) (s : Stream) (left : List Stream)
      (hc : x.close c = .closing (s :: left)) :
    Effect x (.closeBuffer c) ((x.closeStream s).setPhase c (.closing left))
  | closedBuffers (c : Call) (hc : x.close c = .closing []) :
    Effect x (.closeBuffer c) (x.setPhase c .waiting)
  | join (c : Call) (hc : x.close c = .waiting) (hloop : x.loop = .returned) :
    Effect x (.join c) { x.setPhase c .returned with once := .done }
  | release (c : Call) (hc : x.close c = .blocked) (honce : x.once = .done) :
    Effect x (.release c) (x.setPhase c .returned)

theorem effect_of_step {x y : Mux Buffer Call} {e : Event Call} (h : x.step e = some y) :
    Effect x e y := by
  cases e with
  | packet pkt =>
    simp only [step] at h
    split at h
    · rename_i hloop
      split_ifs at h with hconn hpkt
      · cases h
        subst hpkt
        exact .skip hloop (by simpa using hconn)
      · cases h
        rw [not_or, Bool.not_eq_true, not_lt] at hconn
        exact .packet pkt hloop hconn.1 hconn.2 hpkt
    · cases h
  | fail =>
    simp only [step] at h
    split at h
    · cases h
      exact .fail ‹_›
    · cases h
  | file =>
    simp only [step] at h
    split at h
    · cases h
      exact .file _ ‹_›
    · cases h
  | loopClose =>
    simp only [step] at h
    split at h
    · cases h
      exact .loopReturn ‹_›
    · cases h
      exact .loopClose _ _ ‹_›
    · cases h
  | read s =>
    simp only [step] at h
    split at h
    · cases h
    · cases h
      exact .read s _ _ ‹_›
  | close c =>
    simp only [step] at h
    split at h
    · cases h
      exact .closeFirst c ‹_› ‹_›
    · cases h
      exact .closeBlocked c ‹_› ‹_›
    · cases h
      exact .closeAgain c ‹_› ‹_›
    · cases h
  | connClose c =>
    simp only [step] at h
    split at h
    · cases h
      exact .connClose c ‹_›
    · cases h
  | closeBuffer c =>
    simp only [step] at h
    split at h
    · cases h
      exact .closedBuffers c ‹_›
    · cases h
      exact .closeBuffer c _ _ ‹_›
    · cases h
  | join c =>
    simp only [step] at h
    split at h
    · cases h
      exact .join c ‹_› ‹_›
    · cases h
  | release c =>
    simp only [step] at h
    split at h
    · cases h
      exact .release c ‹_› ‹_›
    · cases h

theorem step_of_effect {x y : Mux Buffer Call} {e : Event Call} (h : Effect x e y) :
    x.step e = some y := by
  cases h with
  | skip hloop hconn => simp [step, hloop, hconn]
  | packet pkt hloop hconn hfits hsome => simp [step, hloop, hconn, hfits, hsome]
  | fail hloop => simp [step, hloop]
  | file pkt hloop => simp [step, hloop]
  | loopClose s left hloop => simp [step, hloop]
  | loopReturn hloop => simp [step, hloop]
  | read s pkt b hread => simp [step, hread]
  | closeFirst c hc honce => simp [step, hc, honce]
  | closeBlocked c hc honce => simp [step, hc, honce]
  | closeAgain c hc honce => simp [step, hc, honce]
  | connClose c hc => simp [step, hc]
  | closeBuffer c s left hc => simp [step, hc]
  | closedBuffers c hc => simp [step, hc]
  | join c hc hloop => simp [step, hc, hloop]
  | release c hc honce => simp [step, hc, honce]

end Step

/-! ## The packets of a stream -/

def ofStream (s : Stream) (pkts : List Bytes) : List Bytes := pkts.filter fun p => streamOf p = s

@[simp] theorem ofStream_nil (s : Stream) : ofStream s [] = [] := rfl

theorem ofStream_append (s : Stream) (a b : List Bytes) :
    ofStream s (a ++ b) = ofStream s a ++ ofStream s b := List.filter_append ..

theorem ofStream_self (pkt : Bytes) : ofStream (streamOf pkt) [pkt] = [pkt] := by
  simp [ofStream]

theorem ofStream_ne {s : Stream} {pkt : Bytes} (h : s ≠ streamOf pkt) : ofStream s [pkt] = [] := by
  simp [ofStream, h.symm]

/-- Of all packets, some are kept in their order and the others counted. -/
structure Kept (kept : List Bytes) (refused : ℕ) (all : List Bytes) : Prop where
  order : kept.Sublist all
  count : kept.length + refused = all.length

theorem Kept.append {kept all : List Bytes} {refused : ℕ} (h : Kept kept refused all)
    (pkts : List Bytes) : Kept (kept ++ pkts) refused (all ++ pkts) where
  order := h.order.append_right pkts
  count := by
    have hcount := h.count
    simp only [List.length_append]
    omega

theorem Kept.refuse {kept all : List Bytes} {refused : ℕ} {pkt : Bytes}
    (h : Kept (kept ++ [pkt]) refused all) : Kept kept (refused + 1) all where
  order := (List.sublist_append_left kept [pkt]).trans h.order
  count := by
    have hcount := h.count
    simp only [List.length_append, List.length_singleton] at hcount
    omega

/-- The packet the loop has read and not put in its buffer yet. -/
def hand (x : Mux Buffer Call) : List Bytes :=
  match x.loop with
  | .filing pkt => [pkt]
  | _ => []

theorem buffer_setBuffer (x : Mux Buffer Call) (s t : Stream) (b : Buffer) :
    (x.setBuffer s b).buffer t = if t = s then b else x.buffer t := by
  simp only [setBuffer, Function.update_apply]

theorem hand_of_reading {x : Mux Buffer Call} (h : x.loop = .reading) : x.hand = [] := by
  rw [hand, h]

theorem hand_of_closing {x : Mux Buffer Call} {left : List Stream} (h : x.loop = .closing left) :
    x.hand = [] := by
  rw [hand, h]

section Sorted

variable [PacketBuffer Buffer]

/-- A buffer keeps the limit it was made with, and to it. -/
def Within (b : Buffer) : Prop :=
  (PacketBuffer.contents b).limit = iceMuxBufferLimit ∧ PacketBuffer.size b ≤ iceMuxBufferLimit

theorem within_limited : Within (PacketBuffer.limited iceMuxBufferLimit : Buffer) :=
  ⟨by rw [PacketBuffer.contents_limited], PacketBuffer.size_limited _⟩

theorem Within.write {b b' : Buffer} {pkt : Bytes} (h : Within b)
    (hwrite : PacketBuffer.write b pkt = some b') : Within b' := by
  refine ⟨?_, (PacketBuffer.size_write hwrite).trans h.1.le⟩
  rw [PacketBuffer.contents_write hwrite]
  exact h.1

theorem Within.read {b b' : Buffer} {pkt : Bytes} (h : Within b)
    (hread : PacketBuffer.read b = some (pkt, b')) : Within b' := by
  have hlimit := h.1
  rw [PacketBuffer.contents_read hread] at hlimit
  exact ⟨hlimit, (PacketBuffer.size_read hread).trans h.2⟩

theorem Within.close {b : Buffer} (h : Within b) : Within (PacketBuffer.close b) := by
  refine ⟨?_, (PacketBuffer.size_close b).trans h.2⟩
  rw [PacketBuffer.contents_close]
  exact h.1

/-- The packets taken from a buffer, then those still in it and the one on its way to it, are the
packets of its stream, but for those it did not take. -/
structure Sorted (x : Mux Buffer Call) : Prop where
  kept : ∀ s, Kept (x.taken s ++ x.queue s ++ ofStream s x.hand) (x.refused s)
    (ofStream s x.received)
  within : ∀ s, Within (x.buffer s)

theorem queue_setBuffer_of_ne (x : Mux Buffer Call) {s t : Stream} (h : t ≠ s) (b : Buffer) :
    (x.setBuffer s b).queue t = x.queue t := by
  rw [queue, buffer_setBuffer, if_neg h, queue]

theorem queue_setBuffer_self (x : Mux Buffer Call) (s : Stream) (b : Buffer) :
    (x.setBuffer s b).queue s = (PacketBuffer.contents b).queue := by
  rw [queue, buffer_setBuffer, if_pos rfl]

theorem within_setBuffer {x : Mux Buffer Call} (h : ∀ s, Within (x.buffer s)) {s : Stream}
    {b : Buffer} (hb : Within b) (t : Stream) : Within ((x.setBuffer s b).buffer t) := by
  rw [buffer_setBuffer]
  split
  · exact hb
  · exact h t

theorem queue_closeStream (x : Mux Buffer Call) (s t : Stream) :
    (x.closeStream s).queue t = x.queue t := by
  by_cases ht : t = s
  · subst ht
    rw [closeStream, queue_setBuffer_self, PacketBuffer.contents_close, queue]
  · exact queue_setBuffer_of_ne x ht _

theorem Sorted.of_eq {x y : Mux Buffer Call} (h : x.Sorted) (htaken : y.taken = x.taken)
    (hqueue : ∀ s, y.queue s = x.queue s) (hwithin : ∀ s, Within (y.buffer s))
    (hrefused : y.refused = x.refused) (hreceived : y.received = x.received)
    (hhand : y.hand = x.hand) : y.Sorted where
  kept s := by
    rw [htaken, hqueue, hhand, hreceived, hrefused]
    exact h.kept s
  within := hwithin

theorem Sorted.packet {x : Mux Buffer Call} (h : x.Sorted) (hloop : x.loop = .reading)
    (pkt : Bytes) :
    Sorted { x with loop := .filing pkt, received := x.received ++ [pkt] } where
  kept s := by
    have hkept := h.kept s
    rw [hand_of_reading hloop, ofStream_nil, List.append_nil] at hkept
    rw [ofStream_append]
    exact hkept.append (ofStream s [pkt])
  within := h.within

theorem Sorted.file {x : Mux Buffer Call} (h : x.Sorted) {pkt : Bytes}
    (hloop : x.loop = .filing pkt) : (x.fileIn (streamOf pkt) pkt).Sorted := by
  have hhand : x.hand = [pkt] := by rw [hand, hloop]
  have hempty : (x.fileIn (streamOf pkt) pkt).hand = [] := hand_of_reading rfl
  refine ⟨fun s => ?_, ?_⟩
  · have hkept := h.kept s
    rw [hhand] at hkept
    rw [hempty, ofStream_nil, List.append_nil]
    by_cases hs : s = streamOf pkt
    · subst hs
      have hqueue := queue_setBuffer_self x (streamOf pkt)
        ((PacketBuffer.write (x.buffer (streamOf pkt)) pkt).getD (x.buffer (streamOf pkt)))
      rw [ofStream_self] at hkept
      cases hwrite : PacketBuffer.write (x.buffer (streamOf pkt)) pkt with
      | some b =>
        rw [hwrite, Option.getD_some, PacketBuffer.contents_write hwrite] at hqueue
        rw [List.append_assoc] at hkept
        simp only [fileIn, hwrite, Option.isSome_some, if_true]
        exact hqueue ▸ hkept
      | none =>
        rw [hwrite, Option.getD_none] at hqueue
        simp only [fileIn, hwrite, Option.isSome_none, Bool.false_eq_true, if_false,
          Function.update_self]
        exact hqueue ▸ hkept.refuse
    · rw [ofStream_ne hs, List.append_nil] at hkept
      have hrefused : (x.fileIn (streamOf pkt) pkt).refused s = x.refused s := by
        simp only [fileIn]
        split
        · rfl
        · exact Function.update_of_ne hs ..
      rw [hrefused]
      exact queue_setBuffer_of_ne x hs _ ▸ hkept
  · refine within_setBuffer h.within ?_
    cases hwrite : PacketBuffer.write (x.buffer (streamOf pkt)) pkt with
    | some b => exact (h.within _).write hwrite
    | none => exact h.within _

theorem Sorted.read {x : Mux Buffer Call} (h : x.Sorted) {s : Stream} {pkt : Bytes} {b : Buffer}
    (hread : PacketBuffer.read (x.buffer s) = some (pkt, b)) :
    Sorted { x.setBuffer s b with
      taken := Function.update x.taken s (x.taken s ++ [pkt]) } := by
  refine ⟨fun t => ?_, within_setBuffer h.within ((h.within s).read hread)⟩
  have hkept := h.kept t
  dsimp only
  by_cases ht : t = s
  · subst ht
    have hqueue : x.queue t = pkt :: (x.setBuffer t b).queue t := by
      rw [queue_setBuffer_self, queue, PacketBuffer.contents_read hread]
    rw [hqueue, List.append_cons] at hkept
    rw [Function.update_self]
    exact hkept
  · rw [← queue_setBuffer_of_ne x ht b] at hkept
    rw [Function.update_of_ne ht]
    exact hkept

theorem Sorted.step [DecidableEq Call] {x y : Mux Buffer Call} {e : Event Call} (h : x.Sorted)
    (hy : x.step e = some y) : y.Sorted := by
  cases effect_of_step hy with
  | skip hloop hconn => exact h
  | packet pkt hloop hconn hfits hsome => exact h.packet hloop pkt
  | fail hloop =>
    refine h.of_eq rfl (fun _ => rfl) h.within rfl rfl ?_
    exact (hand_of_closing rfl).trans (hand_of_reading hloop).symm
  | file pkt hloop => exact h.file hloop
  | loopClose s left hloop =>
    exact h.of_eq rfl (queue_closeStream x s) (within_setBuffer h.within (h.within s).close) rfl rfl
      ((hand_of_closing rfl).trans (hand_of_closing hloop).symm)
  | loopReturn hloop =>
    exact h.of_eq rfl (fun _ => rfl) h.within rfl rfl (hand_of_closing hloop).symm
  | read s pkt b hread => exact h.read hread
  | closeBuffer c s left hc =>
    exact h.of_eq rfl (queue_closeStream x s) (within_setBuffer h.within (h.within s).close) rfl rfl
      rfl
  | _ => exact h.of_eq rfl (fun _ => rfl) h.within rfl rfl rfl

theorem sorted_newICEMux : Sorted (newICEMux : Mux Buffer Call) where
  kept s := by
    rw [newICEMux, queue, PacketBuffer.contents_limited]
    exact ⟨List.Sublist.refl _, rfl⟩
  within _ := within_limited

end Sorted

/-! ## A stream and the readers of the others -/

/-- What a stream and the goroutines have of two muxes. -/
structure SameFor (s : Stream) (x y : Mux Buffer Call) : Prop where
  connClosed : y.connClosed = x.connClosed
  loop : y.loop = x.loop
  once : y.once = x.once
  close : y.close = x.close
  received : y.received = x.received
  connCloses : y.connCloses = x.connCloses
  buffer : y.buffer s = x.buffer s
  taken : y.taken s = x.taken s
  refused : y.refused s = x.refused s

def Event.concerns (s : Stream) : Event Call → Bool
  | .read t => t = s
  | _ => true

section SameFor

variable {s : Stream} {x y : Mux Buffer Call}

theorem SameFor.setBuffer (h : SameFor s x y) {t : Stream} {b b' : Buffer}
    (hb : t = s → b' = b) : SameFor s (x.setBuffer t b) (y.setBuffer t b') :=
  { h with
    buffer := by
      rw [buffer_setBuffer, buffer_setBuffer]
      split
      · rename_i hst
        exact hb hst.symm
      · exact h.buffer }

theorem SameFor.closeStream [PacketBuffer Buffer] (h : SameFor s x y) (t : Stream) :
    SameFor s (x.closeStream t) (y.closeStream t) := by
  refine h.setBuffer fun ht => ?_
  subst ht
  rw [h.buffer]

theorem SameFor.fileIn [PacketBuffer Buffer] (h : SameFor s x y) (t : Stream) (pkt : Bytes) :
    SameFor s (x.fileIn t pkt) (y.fileIn t pkt) := by
  have hbuffers : SameFor s
      (x.setBuffer t ((PacketBuffer.write (x.buffer t) pkt).getD (x.buffer t)))
      (y.setBuffer t ((PacketBuffer.write (y.buffer t) pkt).getD (y.buffer t))) := by
    refine h.setBuffer fun ht => ?_
    subst ht
    rw [h.buffer]
  refine { hbuffers with loop := rfl, refused := ?_ }
  by_cases ht : t = s
  · subst ht
    simp only [Mux.fileIn, h.buffer]
    split
    · exact h.refused
    · rw [Function.update_self, Function.update_self, h.refused]
  · have hother : ∀ z : Mux Buffer Call, (z.fileIn t pkt).refused s = z.refused s := by
      intro z
      simp only [Mux.fileIn]
      split
      · rfl
      · exact Function.update_of_ne (Ne.symm ht) ..
    rw [hother, hother, h.refused]

theorem SameFor.phase (h : SameFor s x y) {c : Call} {phase : ClosePhase}
    (hc : x.close c = phase) : y.close c = phase := by
  rw [h.close, hc]

variable [DecidableEq Call]

theorem SameFor.setPhase (h : SameFor s x y) (c : Call) (phase : ClosePhase) :
    SameFor s (x.setPhase c phase) (y.setPhase c phase) :=
  { h with
    close := by
      simp only [Mux.setPhase]
      rw [h.close] }

variable [PacketBuffer Buffer]

theorem SameFor.step (h : SameFor s x y) {e : Event Call} {x' : Mux Buffer Call}
    (he : Event.concerns s e = true) (hx : x.step e = some x') :
    ∃ y', y.step e = some y' ∧ SameFor s x' y' := by
  cases effect_of_step hx with
  | skip hloop hconn =>
    exact ⟨y, step_of_effect (.skip (h.loop.trans hloop) (h.connClosed.trans hconn)), h⟩
  | packet pkt hloop hconn hfits hsome =>
    refine ⟨_, step_of_effect
      (.packet pkt (h.loop.trans hloop) (h.connClosed.trans hconn) hfits hsome), ?_⟩
    exact { h with loop := rfl, received := congrArg (· ++ [pkt]) h.received }
  | fail hloop => exact ⟨_, step_of_effect (.fail (h.loop.trans hloop)), { h with loop := rfl }⟩
  | file pkt hloop => exact ⟨_, step_of_effect (.file pkt (h.loop.trans hloop)), h.fileIn _ pkt⟩
  | loopClose t left hloop =>
    exact ⟨_, step_of_effect (.loopClose t left (h.loop.trans hloop)),
      { h.closeStream t with loop := rfl }⟩
  | loopReturn hloop =>
    exact ⟨_, step_of_effect (.loopReturn (h.loop.trans hloop)), { h with loop := rfl }⟩
  | read t pkt b hread =>
    obtain rfl : t = s := by simpa [Event.concerns] using he
    refine ⟨_, step_of_effect (.read t pkt b (h.buffer ▸ hread)), ?_⟩
    refine { h.setBuffer fun _ => rfl with taken := ?_ }
    dsimp only
    rw [Function.update_self, Function.update_self, h.taken]
  | closeFirst c hc honce =>
    exact ⟨_, step_of_effect (.closeFirst c (h.phase hc) (h.once.trans honce)),
      { h.setPhase c .first with once := rfl }⟩
  | closeBlocked c hc honce =>
    exact ⟨_, step_of_effect (.closeBlocked c (h.phase hc) (h.once.trans honce)),
      h.setPhase c .blocked⟩
  | closeAgain c hc honce =>
    exact ⟨_, step_of_effect (.closeAgain c (h.phase hc) (h.once.trans honce)),
      h.setPhase c .returned⟩
  | connClose c hc =>
    exact ⟨_, step_of_effect (.connClose c (h.phase hc)),
      { h.setPhase c (.closing allStreams) with
        connClosed := rfl, connCloses := congrArg (· + 1) h.connCloses }⟩
  | closeBuffer c t left hc =>
    exact ⟨_, step_of_effect (.closeBuffer c t left (h.phase hc)),
      (h.closeStream t).setPhase c (.closing left)⟩
  | closedBuffers c hc =>
    exact ⟨_, step_of_effect (.closedBuffers c (h.phase hc)), h.setPhase c .waiting⟩
  | join c hc hloop =>
    exact ⟨_, step_of_effect (.join c (h.phase hc) (h.loop.trans hloop)),
      { h.setPhase c .returned with once := rfl }⟩
  | release c hc honce =>
    exact ⟨_, step_of_effect (.release c (h.phase hc) (h.once.trans honce)),
      h.setPhase c .returned⟩

theorem SameFor.skip (h : SameFor s x y) {e : Event Call} {x' : Mux Buffer Call}
    (he : Event.concerns s e = false) (hx : x.step e = some x') : SameFor s x' y := by
  cases effect_of_step hx with
  | read t pkt b hread =>
    have hne : s ≠ t := by
      rintro rfl
      simp [Event.concerns] at he
    refine { h with buffer := ?_, taken := ?_ }
    · rw [buffer_setBuffer, if_neg hne]
      exact h.buffer
    · dsimp only
      rw [Function.update_of_ne hne]
      exact h.taken
  | _ => simp [Event.concerns] at he

end SameFor

/-- The conn of a stream gives the packets of the stream in the order in which the connection gave
them, all of them as long as its buffer refuses none; what waits can be read, and the buffer stays
within its limit. It is all the same to it whether the other streams are read: without their reads
the same packets come. -/
theorem streams_apart [PacketBuffer Buffer] [DecidableEq Call] (events : List (Event Call))
    (x : Mux Buffer Call) (hx : schedule step newICEMux events = some x) (s : Stream) :
    (x.taken s ++ x.queue s).Sublist (ofStream s x.received) ∧
      (x.refused s = 0 → x.taken s ++ x.queue s ++ ofStream s x.hand = ofStream s x.received) ∧
      (x.queue s ≠ [] → (x.step (.read s)).isSome = true) ∧
      PacketBuffer.size (x.buffer s) ≤ iceMuxBufferLimit ∧
      ∃ y, schedule step newICEMux (events.filter (Event.concerns s)) = some y ∧
        y.received = x.received ∧ y.taken s = x.taken s ∧ y.buffer s = x.buffer s ∧
        y.refused s = x.refused s := by
  have hsorted := schedule_invariant Sorted (fun _ _ _ => Sorted.step) sorted_newICEMux hx
  have hkept := hsorted.kept s
  refine ⟨(List.sublist_append_left _ _).trans hkept.order, fun hnone => ?_, fun hwaits => ?_,
    (hsorted.within s).2, ?_⟩
  · refine hkept.order.eq_of_length ?_
    rw [← hkept.count, hnone, Nat.add_zero]
  · obtain ⟨⟨pkt, b⟩, hread⟩ :=
      Option.isSome_iff_exists.mp ((PacketBuffer.read_isSome (x.buffer s)).mpr hwaits)
    exact Option.isSome_iff_exists.mpr ⟨_, step_of_effect (.read s pkt b hread)⟩
  · obtain ⟨y, hy, hsame⟩ := schedule_filter (SameFor s) (Event.concerns s)
      (fun _ _ _ _ h he hx => h.step he hx) (fun _ _ _ _ h he hx => h.skip he hx)
      ⟨rfl, rfl, rfl, rfl, rfl, rfl, rfl, rfl, rfl⟩ hx
    exact ⟨y, hy, hsame.received, hsame.taken, hsame.buffer, hsame.refused⟩

end Mux

/-- A buffer that counts two bytes more for each packet. -/
structure ListBuffer extends Contents where
  deriving DecidableEq, Repr

def ListBuffer.size (b : ListBuffer) : ℕ := (b.queue.map (·.length + 2)).sum

instance listBuffer : PacketBuffer ListBuffer where
  limited n := ⟨[], false, n⟩
  write b pkt :=
    if b.closed = false ∧ b.size + 2 + pkt.length ≤ b.limit then
      some { b with queue := b.queue ++ [pkt] }
    else none
  read b := b.queue.head?.map fun pkt => (pkt, { b with queue := b.queue.tail })
  close b := { b with closed := true }
  contents b := b.toContents
  size := ListBuffer.size
  contents_limited _ := rfl
  size_limited _ := Nat.zero_le _
  contents_write h := by
    split at h
    · cases h
      rfl
    · cases h
  size_write {b b' pkt} h := by
    split at h
    · rename_i hfits
      cases h
      simp only [ListBuffer.size, List.map_append, List.sum_append, List.map_cons, List.map_nil,
        List.sum_singleton] at hfits ⊢
      omega
    · cases h
  read_isSome b := by
    rcases b with ⟨⟨_ | ⟨pkt, rest⟩, _, _⟩⟩ <;> simp
  contents_read {b b' pkt} h := by
    rcases b with ⟨⟨_ | ⟨p, rest⟩, _, _⟩⟩ <;> cases h
    rfl
  size_read {b b' pkt} h := by
    rcases b with ⟨⟨_ | ⟨p, rest⟩, _, _⟩⟩ <;> cases h
    simp [ListBuffer.size]
  contents_close _ := rfl
  size_close _ := le_rfl

namespace Mux

/-- A packet of RTP, a DTLS record and a packet of RTCP, of which the first two are read. -/
def threePackets : List (Event Unit) :=
  [.packet [0x80, 0x00], .file, .packet [0x16, 0xFE], .file, .read .dtls, .packet [0x81, 0xC8],
    .file, .read .rtp]

theorem streams_apart_three : ∃ x : Mux ListBuffer Unit,
    schedule step newICEMux threePackets = some x ∧
      x.taken .rtp = [[0x80, 0x00]] ∧ x.queue .rtcp = [[0x81, 0xC8]] ∧
      (x.step (.read .rtcp)).isSome = true ∧
      ∃ y : Mux ListBuffer Unit,
        schedule step newICEMux (threePackets.filter (Event.concerns .rtp)) = some y ∧
        y.taken .rtp = x.taken .rtp := by
  refine ⟨_, rfl, rfl, rfl, ?_⟩
  obtain ⟨-, -, -, -, y, hy, -, htaken, -⟩ :=
    streams_apart threePackets (_ : Mux ListBuffer Unit) rfl .rtp
  obtain ⟨-, -, hread, -⟩ := streams_apart threePackets (_ : Mux ListBuffer Unit) rfl .rtcp
  exact ⟨hread nofun, y, hy, htaken⟩

end Mux

end Diago.Media.IceMux
