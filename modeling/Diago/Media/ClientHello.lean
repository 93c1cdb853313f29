import Diago.Lib.BigEndian

/-! # Recognising a ClientHello

A client may send its first flight again as it was, so the datagram that holds
it is recognised by its headers: one record of epoch 0, in it one handshake
message that is a ClientHello and not a fragment of one.
-/
namespace Diago.Media
open Lib

def recordHeaderLen : ℕ := 13
def handshakeHeaderLen : ℕ := 12
def contentTypeHandshake : UInt8 := 22
def handshakeTypeClientHello : UInt8 := 1

/-! ## The check -/

/-- Two bytes as a number; none where the source reads past the end. -/
def read16 (p : Bytes) (i : ℕ) : Option ℕ := do
  return (← p[i]?).toNat <<< 8 ||| (← p[i + 1]?).toNat

def read24 (p : Bytes) (i : ℕ) : Option ℕ := do
  return (← p[i]?).toNat <<< 16 ||| (← p[i + 1]?).toNat <<< 8 ||| (← p[i + 2]?).toNat

def sliceFrom (p : Bytes) (i : ℕ) : Option Bytes := if i ≤ p.length then some (p.drop i) else none

def isClientHelloDatagram (p : Bytes) : Option Bool := do
  if p.length < recordHeaderLen + handshakeHeaderLen then return false
  if (← p[0]?) ≠ contentTypeHandshake then return false
  if (← p[3]?) ≠ 0 then return false
  if (← p[4]?) ≠ 0 then return false
  let recordLen ← read16 p 11
  if recordHeaderLen + recordLen ≠ p.length then return false
  let h ← sliceFrom p recordHeaderLen
  if (← h[0]?) ≠ handshakeTypeClientHello then return false
  let msgLen ← read24 h 1
  let fragOffset ← read24 h 6
  let fragLen ← read24 h 9
  return fragOffset = 0 && fragLen = msgLen && handshakeHeaderLen + msgLen = recordLen

/-! ## What it is to recognise -/

structure Record where
  contentType : UInt8
  version : UInt16
  epoch : UInt16
  sequenceNumber : ℕ
  fragment : Bytes
  sequence_lt : sequenceNumber < 256 ^ 6
  fits : fragment.length < 256 ^ 2

def Record.encode (r : Record) : Bytes :=
  r.contentType :: (bigEndian 2 r.version.toNat ++ bigEndian 2 r.epoch.toNat ++
    bigEndian 6 r.sequenceNumber ++ bigEndian 2 r.fragment.length ++ r.fragment)

structure Handshake where
  msgType : UInt8
  length : ℕ
  messageSeq : UInt16
  fragmentOffset : ℕ
  fragment : Bytes
  length_lt : length < 256 ^ 3
  offset_lt : fragmentOffset < 256 ^ 3
  fits : fragment.length < 256 ^ 3

def Handshake.encode (m : Handshake) : Bytes :=
  m.msgType :: (bigEndian 3 m.length ++ bigEndian 2 m.messageSeq.toNat ++
    bigEndian 3 m.fragmentOffset ++ bigEndian 3 m.fragment.length ++ m.fragment)

/-- The datagram is one handshake record of epoch 0 that holds one whole ClientHello. -/
def HoldsClientHello (p : Bytes) : Prop :=
  ∃ (r : Record) (m : Handshake), p = r.encode ∧ r.fragment = m.encode ∧
    r.contentType = contentTypeHandshake ∧ r.epoch = 0 ∧ m.msgType = handshakeTypeClientHello ∧
    m.fragmentOffset = 0 ∧ m.fragment.length = m.length

/-! ## The headers, byte by byte -/

theorem exists_recordHeader {p : Bytes} (h : recordHeaderLen ≤ p.length) :
    ∃ b0 v0 v1 e0 e1 s0 s1 s2 s3 s4 s5 l0 l1 rest,
      p = b0 :: v0 :: v1 :: e0 :: e1 :: s0 :: s1 :: s2 :: s3 :: s4 :: s5 :: l0 :: l1 :: rest := by
  unfold recordHeaderLen at h
  rcases p with _ | ⟨b0, _ | ⟨v0, _ | ⟨v1, _ | ⟨e0, _ | ⟨e1, _ | ⟨s0, _ | ⟨s1, _ | ⟨s2, _ | ⟨s3, _ |
    ⟨s4, _ | ⟨s5, _ | ⟨l0, _ | ⟨l1, rest⟩⟩⟩⟩⟩⟩⟩⟩⟩⟩⟩⟩⟩
  case cons.cons.cons.cons.cons.cons.cons.cons.cons.cons.cons.cons.cons =>
    exact ⟨b0, v0, v1, e0, e1, s0, s1, s2, s3, s4, s5, l0, l1, rest, rfl⟩
  all_goals exact absurd h (by simp)

theorem exists_handshakeHeader {h : Bytes} (hlen : handshakeHeaderLen ≤ h.length) :
    ∃ t m0 m1 m2 q0 q1 o0 o1 o2 f0 f1 f2 rest,
      h = t :: m0 :: m1 :: m2 :: q0 :: q1 :: o0 :: o1 :: o2 :: f0 :: f1 :: f2 :: rest := by
  unfold handshakeHeaderLen at hlen
  rcases h with _ | ⟨t, _ | ⟨m0, _ | ⟨m1, _ | ⟨m2, _ | ⟨q0, _ | ⟨q1, _ | ⟨o0, _ | ⟨o1, _ | ⟨o2, _ |
    ⟨f0, _ | ⟨f1, _ | ⟨f2, rest⟩⟩⟩⟩⟩⟩⟩⟩⟩⟩⟩⟩
  case cons.cons.cons.cons.cons.cons.cons.cons.cons.cons.cons.cons =>
    exact ⟨t, m0, m1, m2, q0, q1, o0, o1, o2, f0, f1, f2, rest, rfl⟩
  all_goals exact absurd hlen (by simp)

/-! ## The check is exact -/

theorem read16_eq {p : Bytes} {i : ℕ} {a b : UInt8} (ha : p[i]? = some a)
    (hb : p[i + 1]? = some b) : read16 p i = some (fromBigEndian [a, b]) := by
  rw [read16, ha, hb]
  simp [fromBigEndian, shiftLeft_or_toNat]

theorem read24_eq {p : Bytes} {i : ℕ} {a b c : UInt8} (ha : p[i]? = some a)
    (hb : p[i + 1]? = some b) (hc : p[i + 2]? = some c) :
    read24 p i = some (fromBigEndian [a, b, c]) := by
  have hshift : a.toNat <<< 16 ||| b.toNat <<< 8 = (a.toNat <<< 8 ||| b.toNat) <<< 8 := by
    rw [Nat.shiftLeft_or_distrib, ← Nat.shiftLeft_add]
  have hvalue : fromBigEndian [a, b, c] = (a.toNat * 256 + b.toNat) * 256 + c.toNat := by
    simp only [fromBigEndian, List.length_cons, List.length_nil]
    ring
  rw [read24, ha, hb, hc, hvalue, ← shiftLeft_or_toNat, ← shiftLeft_or_toNat, ← hshift]
  rfl

theorem isClientHelloDatagram_eq {p h : Bytes} {b0 e0 e1 t : UInt8}
    {recordLen msgLen fragOffset fragLen : ℕ}
    (hlen : recordHeaderLen + handshakeHeaderLen ≤ p.length)
    (hb0 : p[0]? = some b0) (he0 : p[3]? = some e0) (he1 : p[4]? = some e1)
    (hrecord : read16 p 11 = some recordLen) (hslice : p.drop recordHeaderLen = h)
    (ht : h[0]? = some t) (hmsg : read24 h 1 = some msgLen)
    (hoffset : read24 h 6 = some fragOffset) (hfrag : read24 h 9 = some fragLen) :
    isClientHelloDatagram p = some (decide (b0 = contentTypeHandshake ∧ e0 = 0 ∧ e1 = 0 ∧
      recordHeaderLen + recordLen = p.length ∧ t = handshakeTypeClientHello ∧ fragOffset = 0 ∧
      fragLen = msgLen ∧ handshakeHeaderLen + msgLen = recordLen)) := by
  have hfrom : recordHeaderLen ≤ p.length := le_of_add_le_left hlen
  simp only [isClientHelloDatagram, if_neg (not_lt.mpr hlen), hb0, he0, he1, hrecord, sliceFrom,
    if_pos hfrom, hslice, ht, hmsg, hoffset, hfrag, Option.bind_eq_bind, Option.bind_some, ne_eq,
    ite_not]
  split_ifs <;> simp [*, Bool.and_assoc]

theorem Record.length_encode (r : Record) :
    r.encode.length = recordHeaderLen + r.fragment.length := by
  simp [Record.encode, recordHeaderLen]
  omega

theorem Handshake.length_encode (m : Handshake) :
    m.encode.length = handshakeHeaderLen + m.fragment.length := by
  simp [Handshake.encode, handshakeHeaderLen]
  omega

theorem Record.read16_encode (r : Record) : read16 r.encode 11 = some r.fragment.length := by
  have hread : read16 r.encode 11 = some (fromBigEndian (bigEndian 2 r.fragment.length)) :=
    read16_eq rfl rfl
  rw [hread, fromBigEndian_bigEndian r.fits]

theorem Handshake.read24_encode (m : Handshake) :
    read24 m.encode 1 = some m.length ∧ read24 m.encode 6 = some m.fragmentOffset ∧
      read24 m.encode 9 = some m.fragment.length := by
  have hlength : read24 m.encode 1 = some (fromBigEndian (bigEndian 3 m.length)) :=
    read24_eq rfl rfl rfl
  have hoffset : read24 m.encode 6 = some (fromBigEndian (bigEndian 3 m.fragmentOffset)) :=
    read24_eq rfl rfl rfl
  have hfragment : read24 m.encode 9 = some (fromBigEndian (bigEndian 3 m.fragment.length)) :=
    read24_eq rfl rfl rfl
  rw [hlength, hoffset, hfragment, fromBigEndian_bigEndian m.length_lt,
    fromBigEndian_bigEndian m.offset_lt, fromBigEndian_bigEndian m.fits]
  exact ⟨rfl, rfl, rfl⟩

theorem HoldsClientHello.accepted {p : Bytes} (h : HoldsClientHello p) :
    isClientHelloDatagram p = some true := by
  obtain ⟨r, m, rfl, hfragment, htype, hepoch, hmsgType, hoffset, hwhole⟩ := h
  have hlength : r.fragment.length = handshakeHeaderLen + m.length := by
    rw [hfragment, m.length_encode, hwhole]
  have hlen : recordHeaderLen + handshakeHeaderLen ≤ r.encode.length := by
    rw [r.length_encode, hlength]
    omega
  have he0 : r.encode[3]? = some 0 := by
    rw [Record.encode, hepoch]
    rfl
  have he1 : r.encode[4]? = some 0 := by
    rw [Record.encode, hepoch]
    rfl
  obtain ⟨hreadLength, hreadOffset, hreadFragment⟩ := m.read24_encode
  rw [isClientHelloDatagram_eq hlen rfl he0 he1 r.read16_encode hfragment rfl hreadLength
    hreadOffset hreadFragment]
  simp [htype, r.length_encode, hmsgType, hoffset, hwhole, hlength]

theorem HoldsClientHello.length_le {p : Bytes} (h : HoldsClientHello p) :
    recordHeaderLen + handshakeHeaderLen ≤ p.length := by
  obtain ⟨r, m, rfl, hfragment, -⟩ := h
  rw [r.length_encode, hfragment, m.length_encode]
  omega

/-- The record that stands in a datagram, if the headers say so. -/
theorem holdsClientHello_of_headers {v0 v1 s0 s1 s2 s3 s4 s5 l0 l1 m0 m1 m2 q0 q1 : UInt8}
    {body : Bytes} (hrecord : fromBigEndian [l0, l1] = handshakeHeaderLen + body.length)
    (hmsg : fromBigEndian [m0, m1, m2] = body.length) :
    HoldsClientHello (contentTypeHandshake :: v0 :: v1 :: 0 :: 0 :: s0 :: s1 :: s2 :: s3 :: s4 ::
      s5 :: l0 :: l1 :: handshakeTypeClientHello :: m0 :: m1 :: m2 :: q0 :: q1 :: 0 :: 0 :: 0 ::
      m0 :: m1 :: m2 :: body) := by
  have hbody : body.length < 256 ^ 3 := hmsg ▸ fromBigEndian_lt [m0, m1, m2]
  have hbytes : bigEndian 3 body.length = [m0, m1, m2] :=
    hmsg ▸ bigEndian_fromBigEndian [m0, m1, m2]
  have hsum : handshakeHeaderLen + body.length < 256 ^ 2 := hrecord ▸ fromBigEndian_lt [l0, l1]
  have hpair (a b : UInt8) : bigEndian 2 (UInt16.ofNat (fromBigEndian [a, b])).toNat = [a, b] := by
    have hlt : fromBigEndian [a, b] < 2 ^ 16 := (fromBigEndian_lt [a, b]).trans_eq (by norm_num)
    rw [UInt16.toNat_ofNat', Nat.mod_eq_of_lt hlt]
    exact bigEndian_fromBigEndian [a, b]
  have hzero : bigEndian 3 0 = [0, 0, 0] := by decide
  have hepoch : bigEndian 2 (0 : UInt16).toNat = [0, 0] := by decide
  have hsequence : bigEndian 6 (fromBigEndian [s0, s1, s2, s3, s4, s5]) =
      [s0, s1, s2, s3, s4, s5] := bigEndian_fromBigEndian [s0, s1, s2, s3, s4, s5]
  let m : Handshake :=
    { msgType := handshakeTypeClientHello
      length := body.length
      messageSeq := UInt16.ofNat (fromBigEndian [q0, q1])
      fragmentOffset := 0
      fragment := body
      length_lt := hbody
      offset_lt := by norm_num
      fits := hbody }
  have hm : m.encode = handshakeTypeClientHello :: m0 :: m1 :: m2 :: q0 :: q1 :: 0 :: 0 :: 0 ::
      m0 :: m1 :: m2 :: body := by
    simp only [m, Handshake.encode, hbytes, hpair, hzero]
    rfl
  let r : Record :=
    { contentType := contentTypeHandshake
      version := UInt16.ofNat (fromBigEndian [v0, v1])
      epoch := 0
      sequenceNumber := fromBigEndian [s0, s1, s2, s3, s4, s5]
      fragment := m.encode
      sequence_lt := fromBigEndian_lt [s0, s1, s2, s3, s4, s5]
      fits := by
        rw [m.length_encode]
        exact hsum }
  have hlength : bigEndian 2 m.encode.length = [l0, l1] := by
    rw [m.length_encode, ← hrecord]
    exact bigEndian_fromBigEndian [l0, l1]
  have hr : r.encode = contentTypeHandshake :: v0 :: v1 :: 0 :: 0 :: s0 :: s1 :: s2 :: s3 :: s4 ::
      s5 :: l0 :: l1 :: m.encode := by
    simp only [r, Record.encode, hpair, hlength, hepoch, hsequence]
    rfl
  rw [← hm, ← hr]
  exact ⟨r, m, rfl, rfl, rfl, rfl, rfl, rfl, rfl⟩

/-- The check reads no byte past the end of the datagram, and accepts it exactly if it is one
record of epoch 0 that holds one whole ClientHello. -/
theorem isClientHelloDatagram_exact (p : Bytes) :
    ∃ accepted, isClientHelloDatagram p = some accepted ∧
      (accepted = true ↔ HoldsClientHello p) := by
  by_cases hlen : recordHeaderLen + handshakeHeaderLen ≤ p.length
  · obtain ⟨b0, v0, v1, e0, e1, s0, s1, s2, s3, s4, s5, l0, l1, h, rfl⟩ :=
      exists_recordHeader (le_of_add_le_left hlen)
    have hrest : handshakeHeaderLen ≤ h.length := by
      simp only [recordHeaderLen, List.length_cons] at hlen
      omega
    obtain ⟨t, m0, m1, m2, q0, q1, o0, o1, o2, f0, f1, f2, body, rfl⟩ :=
      exists_handshakeHeader hrest
    have heq := isClientHelloDatagram_eq hlen rfl rfl rfl (read16_eq rfl rfl) rfl rfl
      (read24_eq rfl rfl rfl) (read24_eq rfl rfl rfl) (read24_eq rfl rfl rfl)
    refine ⟨_, heq, fun haccepted => ?_, fun hholds => ?_⟩
    · obtain ⟨rfl, rfl, rfl, hrecord, rfl, hoffset, hfrag, hmsg⟩ := of_decide_eq_true haccepted
      have hzero : [o0, o1, o2] = [0, 0, 0] := fromBigEndian_inj rfl (hoffset.trans (by decide))
      have hwhole : [f0, f1, f2] = [m0, m1, m2] := fromBigEndian_inj rfl hfrag
      simp only [List.cons.injEq, and_true] at hzero hwhole
      obtain ⟨rfl, rfl, rfl⟩ := hzero
      obtain ⟨rfl, rfl, rfl⟩ := hwhole
      simp only [recordHeaderLen, handshakeHeaderLen, List.length_cons] at hrecord hmsg
      apply holdsClientHello_of_headers
      · simp only [handshakeHeaderLen]
        omega
      · omega
    · exact Option.some.inj (heq.symm.trans hholds.accepted)
  · refine ⟨false, ?_, by simpa using fun hholds => hlen hholds.length_le⟩
    rw [isClientHelloDatagram, if_pos (not_le.mp hlen)]
    rfl

theorem holdsClientHello_iff (p : Bytes) :
    HoldsClientHello p ↔ isClientHelloDatagram p = some true := by
  obtain ⟨accepted, heq, hiff⟩ := isClientHelloDatagram_exact p
  rw [← hiff, heq, Option.some_inj]

instance (p : Bytes) : Decidable (HoldsClientHello p) :=
  decidable_of_iff (isClientHelloDatagram p = some true) (holdsClientHello_iff p).symm

end Diago.Media
