import Diago.Lib.Base64
import Diago.SDP.Description

/-! # SRTP contexts and their SDES text

A context is what the SRTP library makes of a master key, a master salt and a
protection profile. SDES names the profile and carries key and salt in base64.
-/
namespace Diago.Media
open Lib SDP

abbrev ProtectionProfile := UInt16

abbrev profileAes128CmHmacSha1_80 : ProtectionProfile := 0x0001
abbrev profileAes256CmHmacSha1_80 : ProtectionProfile := 0x0003
abbrev profileNullHmacSha1_80 : ProtectionProfile := 0x0005
abbrev profileAeadAes128Gcm : ProtectionProfile := 0x0007
abbrev profileAeadAes256Gcm : ProtectionProfile := 0x0008

/-- The SRTP library: the lengths and the name it gives a profile, and the keys it takes. A
context is made exactly from a key and a salt of the profile's lengths. -/
class SrtpLib where
  keyLen : ProtectionProfile → Option ℕ
  saltLen : ProtectionProfile → Option ℕ
  profileName : ProtectionProfile → Bytes
  accepts : (masterKey masterSalt : Bytes) → ProtectionProfile → Bool
  accepts_iff : ∀ masterKey masterSalt profile, accepts masterKey masterSalt profile = true ↔
    keyLen profile = some masterKey.length ∧ saltLen profile = some masterSalt.length

/-- A context; `handle` tells it from every other context, also one with the same keys. -/
structure SrtpContext where
  handle : ℕ
  masterKey : Bytes
  masterSalt : Bytes
  profile : ProtectionProfile
  deriving DecidableEq, Repr

def SrtpContext.SameKeys (c d : SrtpContext) : Prop :=
  c.masterKey = d.masterKey ∧ c.masterSalt = d.masterSalt ∧ c.profile = d.profile

instance (c d : SrtpContext) : Decidable (c.SameKeys d) := inferInstanceAs (Decidable (_ ∧ _ ∧ _))

def srtpProfileParse (alg : Bytes) : ProtectionProfile :=
  if alg = lit "AES_CM_128_HMAC_SHA1_80" then profileAes128CmHmacSha1_80
  else if alg = lit "AES_CM_256_HMAC_SHA1_80" then profileAes256CmHmacSha1_80
  else if alg = lit "AEAD_AES_128_GCM" then profileAeadAes128Gcm
  else if alg = lit "AEAD_AES_256_GCM" then profileAeadAes256Gcm
  else if alg = lit "NULL_HMAC_SHA1_80" then profileNullHmacSha1_80
  else 0

structure SdesInline where
  alg : Bytes
  base64 : Bytes
  tag : ℤ
  deriving DecidableEq

def SdesInline.value (d : SdesInline) : Bytes :=
  lit "crypto:" ++ itoa d.tag ++ space :: d.alg ++ lit " inline:" ++ d.base64

def draw (random : ℕ → UInt8) (n : ℕ) : Bytes := (List.range n).map random

@[simp] theorem length_draw (random : ℕ → UInt8) (n : ℕ) : (draw random n).length = n := by
  simp [draw]

section Lib
variable [SrtpLib]

/-- For a profile without an SDES name the arguments of the trim are swapped, so what is left
is (a tail of) `SRTP_`. -/
def srtpProfileString (p : ProtectionProfile) : Bytes :=
  if p = profileAes128CmHmacSha1_80 then lit "AES_CM_128_HMAC_SHA1_80"
  else if p = profileAes256CmHmacSha1_80 then lit "AES_CM_256_HMAC_SHA1_80"
  else if p = profileAeadAes128Gcm then lit "AEAD_AES_128_GCM"
  else if p = profileAeadAes256Gcm then lit "AEAD_AES_256_GCM"
  else if p = profileNullHmacSha1_80 then lit "NULL_HMAC_SHA1_80"
  else (cutPre (SrtpLib.profileName p) (lit "SRTP_")).getD (lit "SRTP_")

def createContext (handle : ℕ) (masterKey masterSalt : Bytes) (profile : ProtectionProfile) :
    Option SrtpContext :=
  if SrtpLib.accepts masterKey masterSalt profile then
    some ⟨handle, masterKey, masterSalt, profile⟩
  else none

/-- Key and salt in one buffer, and the length of the key. -/
def generateMasterKeySalt (random : ℕ → UInt8) (profile : ProtectionProfile) :
    Option (Bytes × ℕ) := do
  let keyLen ← SrtpLib.keyLen profile
  let saltLen ← SrtpLib.saltLen profile
  return (draw random (keyLen + saltLen), keyLen)

theorem createContext_isSome {handle : ℕ} {key salt : Bytes} {p : ProtectionProfile} :
    (createContext handle key salt p).isSome = true ↔
      SrtpLib.keyLen p = some key.length ∧ SrtpLib.saltLen p = some salt.length := by
  rw [← SrtpLib.accepts_iff]
  unfold createContext
  split <;> simp_all

theorem createContext_eq_some {handle : ℕ} {key salt : Bytes} {p : ProtectionProfile}
    {c : SrtpContext} (h : createContext handle key salt p = some c) :
    c = ⟨handle, key, salt, p⟩ := by
  unfold createContext at h
  split at h
  · exact (Option.some.inj h).symm
  · cases h

end Lib

def documentedLens (p : ProtectionProfile) : Option (ℕ × ℕ) :=
  if p = profileAes128CmHmacSha1_80 ∨ p = profileNullHmacSha1_80 then some (16, 14)
  else if p = profileAes256CmHmacSha1_80 then some (32, 14)
  else if p = profileAeadAes128Gcm then some (16, 12)
  else if p = profileAeadAes256Gcm then some (32, 12)
  else none

@[reducible] def documentedSrtp : SrtpLib where
  keyLen p := (documentedLens p).map Prod.fst
  saltLen p := (documentedLens p).map Prod.snd
  profileName _ := lit "Unknown SRTP profile"
  accepts key salt p :=
    decide ((documentedLens p).map Prod.fst = some key.length ∧
      (documentedLens p).map Prod.snd = some salt.length)
  accepts_iff := by simp

end Diago.Media
