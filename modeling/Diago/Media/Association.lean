import Mathlib.Data.List.Destutter
import Mathlib.Data.List.Sort
import Diago.Media.Session

/-! # DTLS associations

The a=setup role a session advertises and plays, the fingerprints it advertises and
the tls-id of its association.
-/
namespace Diago.Media
open Lib SDP

/-- A tls-id as drawn: 26 letters of the base32 alphabet. -/
structure TLSID where
  letters : Fin 26 → Fin 32

def base32Letter (v : Fin 32) : UInt8 :=
  if v.val < 26 then UInt8.ofNat (0x41 + v.val) else UInt8.ofNat (0x32 + (v.val - 26))

def TLSID.text (t : TLSID) : Bytes := List.ofFn fun i => base32Letter (t.letters i)

def hexOctet (b : UInt8) : Bytes :=
  [b.toNat / 16, b.toNat % 16].map fun d => UInt8.ofNat (asciiUpper (digitByte d).toNat)

/-- Upper case hex octets separated by colons. -/
def fingerprintText (digest : Fin 32 → UInt8) : Bytes :=
  List.intercalate [colon] (List.ofFn fun i => hexOctet (digest i))

def dtlsSHA256Fingerprint (cert : Certificate) : Option Bytes := cert.digest.map fingerprintText

/-- A certificate without a fingerprint leaves an empty entry. -/
def MediaSession.localDTLSFingerprints (s : MediaSession) : List SdpFingerprint :=
  s.dtlsConf.certificates.map fun cert =>
    match dtlsSHA256Fingerprint cert with
    | some fingerprint => ⟨fingerprint, lit "SHA-256"⟩
    | none => ⟨[], []⟩

def dtlsRoleAgainst : SetupRole → Option SetupRole
  | .active => some .passive
  | .passive => some .active
  | .actpass => none

/-- The role we advertise, complementary to the peer's once it is known. -/
def MediaSession.localDTLSSetup (s : MediaSession) : SetupRole :=
  let answering : Bool := s.dtlsEndpointRole = .answerer
  match s.dtlsConf.sdpSetupRole with
  | some role => role (!answering)
  | none =>
    match s.dtlsRemoteSetup with
    | some .active => .passive
    | some .passive => .active
    | some .actpass => .active
    | none => if answering then .active else .actpass

def MediaSession.dtlsActsAsClient (s : MediaSession) : Bool := s.localDTLSSetup = .active

section Fold
variable [UnicodeCase]

def parseSetup (v : Bytes) : Option SetupRole :=
  let v := toLower (trimSpace v)
  if v = SetupRole.active.text then some .active
  else if v = SetupRole.passive.text then some .passive
  else if v = SetupRole.actpass.text then some .actpass
  else none

/-- A sorted set that does not depend on letter case or on the order of the attributes. -/
def fingerprintSet (fingerprints : List SdpFingerprint) : List Bytes :=
  let set := (fingerprints.filter fun fp => fp.fingerprint ≠ []).map fun fp =>
    toLower fp.alg ++ space :: toUpper fp.fingerprint
  (set.insertionSort (· ≤ ·)).destutter (· ≠ ·)

/-- Why the attributes just read ask for a new association, none when they continue this one. -/
def DTLSAssociation.changedBy (a : DTLSAssociation) (s : MediaSession) (setup : SetupRole)
    (fingerprints : List SdpFingerprint) (tlsID : Bytes) : Option Change :=
  if ∃ role ∈ dtlsRoleAgainst setup, role ≠ a.setup then some .roles
  else if fingerprintSet fingerprints ≠ a.remoteFingerprints then some .remoteFingerprints
  else if fingerprintSet s.localDTLSFingerprints ≠ a.localFingerprints then some .localFingerprints
  else if tlsID ≠ [] ∧ tlsID ≠ a.remoteTLSID then some .tlsID
  else if s.iceEnabled then none
  else if s.laddr ≠ a.laddr then some .localTransport
  else if tlsID = [] ∧ s.raddr ≠ a.raddr then some .remoteTransport
  else none

def DTLSAssociation.localChangedBy (a : DTLSAssociation) (s : MediaSession) : Bool :=
  fingerprintSet s.localDTLSFingerprints ≠ a.localFingerprints ||
    (!s.iceEnabled && s.laddr ≠ a.laddr)

/-- A new association we answer takes a new tls-id when the offer carries one. -/
def MediaSession.newAnswerTLSID (s : MediaSession) (drawn : TLSID) (remoteTLSID : Bytes) :
    MediaSession :=
  { s with
    localTLSID :=
      if s.remoteSDPIsAnswer then s.localTLSID
      else if remoteTLSID ≠ [] then drawn.text
      else [] }

/-- The tls-id of an offer: the one of the association it continues, or a new one. -/
def MediaSession.offerTLSID (s : MediaSession) (drawn : TLSID) : Bytes :=
  match s.dtlsAssoc with
  | some a =>
    if ¬ a.localChangedBy s then a.localTLSID
    else if s.localTLSID = a.localTLSID then drawn.text
    else s.localTLSID
  | none => if s.localTLSID = [] then drawn.text else s.localTLSID

/-- The tls-id of the description about to be written; an offer records the value it carries. -/
def MediaSession.localSDPTLSID (s : MediaSession) (drawn : TLSID) : Bytes × MediaSession :=
  if s.answeringOffer then (if s.dtlsRemoteTLSID = [] then [] else s.localTLSID, s)
  else (s.offerTLSID drawn, { s with localTLSID := s.offerTLSID drawn })

end Fold

theorem graphic_base32Letter : ∀ v : Fin 32, Graphic (base32Letter v) := by decide

theorem TLSID.text_ne_nil (t : TLSID) : t.text ≠ [] := by
  simp [TLSID.text]

theorem TLSID.graphic_text (t : TLSID) : ∀ b ∈ t.text, Graphic b := by
  simp only [TLSID.text, List.forall_mem_ofFn_iff]
  exact fun i => graphic_base32Letter _

theorem graphic_hexOctet (b : UInt8) : ∀ c ∈ hexOctet b, Graphic c := by
  have hdigit : ∀ d < 16, Graphic (UInt8.ofNat (asciiUpper (digitByte d).toNat)) := by decide
  have hb : b.toNat < 256 := b.toNat_lt
  simp only [hexOctet, List.map_cons, List.map_nil, List.forall_mem_cons]
  exact ⟨hdigit _ (by omega), hdigit _ (by omega), by simp⟩

theorem graphic_fingerprintText (digest : Fin 32 → UInt8) :
    ∀ b ∈ fingerprintText digest, Graphic b := by
  apply forall_mem_intercalate
  · decide
  · simp only [List.forall_mem_ofFn_iff]
    exact fun i => graphic_hexOctet _

theorem localDTLSFingerprints_graphic (s : MediaSession) : ∀ fp ∈ s.localDTLSFingerprints,
    (∀ b ∈ fp.alg, Graphic b) ∧ ∀ b ∈ fp.fingerprint, Graphic b := by
  have halg : ∀ b ∈ lit "SHA-256", Graphic b := by decide
  simp only [MediaSession.localDTLSFingerprints, List.forall_mem_map]
  intro cert _
  unfold dtlsSHA256Fingerprint
  cases cert.digest with
  | none => simp
  | some digest => exact ⟨halg, graphic_fingerprintText digest⟩

end Diago.Media
