import Diago.Lib.LetterCase
import Diago.Media.Association

/-! # The certificate of the peer

The certificates of DTLS-SRTP are self signed, so what binds the peer of the handshake
to the signalling is the a=fingerprint of its description: the digest of its
certificate in hexadecimal octets between colons.
-/
namespace Diago.Media.Verification
open Lib

inductive Hash
  | sha1
  | sha224
  | sha256
  | sha384
  | sha512
  deriving DecidableEq, Repr

/-- What the libraries compute: a DER certificate parsed to its raw form, and digests. -/
structure Crypto where
  parseCertificate : Bytes → Option Bytes
  sum : Hash → Bytes → Bytes

def dtlsFingerprintHashes (name : Bytes) : Option Hash :=
  if name = lit "sha-1" then some .sha1
  else if name = lit "sha-224" then some .sha224
  else if name = lit "sha-256" then some .sha256
  else if name = lit "sha-384" then some .sha384
  else if name = lit "sha-512" then some .sha512
  else none

def hexDigit (n : ℕ) : UInt8 := UInt8.ofNat (if n < 10 then 0x30 + n else 0x37 + n)

def hexOctet (b : UInt8) : Bytes := [hexDigit (b.toNat / 16), hexDigit (b.toNat % 16)]

def fingerprintText : Bytes → Bytes
  | [] => []
  | [b] => hexOctet b
  | b :: c :: sum => hexOctet b ++ 0x3A :: fingerprintText (c :: sum)

def dtlsCertificateFingerprint (lib : Crypto) (cert : Bytes) (h : Hash) : Option Bytes :=
  (lib.parseCertificate cert).map fun raw => fingerprintText (lib.sum h raw)

/-- What our description carries of one certificate, nothing of one that can not be parsed. -/
def localFingerprint (lib : Crypto) (cert : Bytes) : SdpFingerprint :=
  (dtlsCertificateFingerprint lib cert .sha256).elim ⟨[], []⟩ fun text => ⟨text, lit "SHA-256"⟩

def localDTLSFingerprints (lib : Crypto) (certificates : List Bytes) : List SdpFingerprint :=
  certificates.map (localFingerprint lib)

theorem hexOctet_eq (b : UInt8) : hexOctet b = Media.hexOctet b := by
  have hdigit : ∀ d < 16, hexDigit d = UInt8.ofNat (asciiUpper (digitByte d).toNat) := by decide
  have hb : b.toNat < 256 := b.toNat_lt
  rw [hexOctet, Media.hexOctet, hdigit _ (by omega), hdigit _ (by omega)]
  rfl

theorem fingerprintText_eq (sum : Bytes) :
    fingerprintText sum = List.intercalate [colon] (sum.map Media.hexOctet) := by
  fun_induction fingerprintText sum with
  | case1 => rfl
  | case2 b => simp [hexOctet_eq, List.intercalate]
  | case3 b c sum ih =>
    rw [ih, hexOctet_eq]
    rfl

/-- The certificate of a session as its DER bytes have it. -/
def Encodes (lib : Crypto) (cert : Certificate) (der : Bytes) : Prop :=
  cert.digest.map List.ofFn = (lib.parseCertificate der).map (lib.sum .sha256)

/-- What our description carries is what the certificates of the session are verified against. -/
theorem localDTLSFingerprints_eq {lib : Crypto} {s : MediaSession} {ders : List Bytes}
    (h : List.Forall₂ (Encodes lib) s.dtlsConf.certificates ders) :
    s.localDTLSFingerprints = localDTLSFingerprints lib ders := by
  unfold MediaSession.localDTLSFingerprints localDTLSFingerprints
  generalize s.dtlsConf.certificates = certs at h
  induction h with
  | nil => rfl
  | @cons cert der certs ders hcert _ ih =>
    rw [List.map_cons, List.map_cons, ih, localFingerprint, dtlsCertificateFingerprint,
      dtlsSHA256Fingerprint]
    congr 1
    unfold Encodes at hcert
    cases hdigest : cert.digest with
    | none =>
      rw [hdigest] at hcert
      rw [Option.map_eq_none_iff.mp hcert.symm]
      rfl
    | some digest =>
      rw [hdigest] at hcert
      obtain ⟨raw, hraw, hsum⟩ := Option.map_eq_some_iff.mp hcert.symm
      rw [hraw, Option.map_some, Option.map_some, hsum, fingerprintText_eq, List.map_ofFn]
      rfl

inductive VerifyErr
  | noCertificate
  | parse
  | noMatch
  deriving DecidableEq, Repr

section Verify

variable [UnicodeCase]

def verifyLoop (lib : Crypto) (remoteCert : Bytes) :
    List SdpFingerprint → Except VerifyErr Unit
  | [] => .error .noMatch
  | fp :: fps =>
    match dtlsFingerprintHashes (toLower fp.alg) with
    | none => verifyLoop lib remoteCert fps
    | some h =>
      match dtlsCertificateFingerprint lib remoteCert h with
      | none => .error .parse
      | some remoteFP =>
        if equalFold fp.fingerprint remoteFP then .ok () else verifyLoop lib remoteCert fps

def dtlsVerifyConnection (lib : Crypto) (peerCertificates : List Bytes)
    (fingerprints : List SdpFingerprint) : Except VerifyErr Unit :=
  match peerCertificates with
  | [] => .error .noCertificate
  | remoteCert :: _ => verifyLoop lib remoteCert fingerprints

end Verify

/-! ## The octets of a fingerprint -/

def hexValue (b : UInt8) : Option ℕ :=
  if 0x30 ≤ b ∧ b ≤ 0x39 then some (b.toNat - 0x30)
  else if 0x41 ≤ b ∧ b ≤ 0x46 then some (b.toNat - 0x37)
  else if 0x61 ≤ b ∧ b ≤ 0x66 then some (b.toNat - 0x57)
  else none

def readOctet (a b : UInt8) : Option UInt8 :=
  (hexValue a).bind fun x => (hexValue b).map fun y => UInt8.ofNat (16 * x + y)

/-- The octets a text names, if it is one of octets between colons. -/
def readOctets : Bytes → Option Bytes
  | [] => some []
  | [a, b] => (readOctet a b).map ([·])
  | a :: b :: c :: rest =>
    if c = 0x3A ∧ rest ≠ [] then
      (readOctet a b).bind fun o => (readOctets rest).map (o :: ·)
    else none
  | [_] => none

theorem toNat_hexDigit {n : ℕ} (h : n < 16) :
    (hexDigit n).toNat = if n < 10 then 0x30 + n else 0x37 + n := by
  unfold hexDigit
  rw [UInt8.toNat_ofNat_of_lt']
  split <;> simp only [UInt8.size] <;> omega

theorem hexValue_lt {a : UInt8} {x : ℕ} (h : hexValue a = some x) : x < 16 := by
  simp only [hexValue, UInt8.le_iff_toNat_le, UInt8.reduceToNat] at h
  split_ifs at h <;> simp only [Option.some.injEq] at h <;> omega

theorem hexValue_eq_iff (a : UInt8) {n : ℕ} (h : n < 16) :
    hexValue a = some n ↔ asciiLower a.toNat = asciiLower (hexDigit n).toNat := by
  rw [toNat_hexDigit h]
  simp only [hexValue, UInt8.le_iff_toNat_le, UInt8.reduceToNat, asciiLower]
  split_ifs <;> simp only [Option.some.injEq, false_iff] <;> omega

theorem readOctet_eq_iff (a b o : UInt8) :
    readOctet a b = some o ↔ SameText [a, b] (hexOctet o) := by
  have ho : o.toNat < 256 := o.toNat_lt
  have hsame : SameText [a, b] (hexOctet o) ↔
      hexValue a = some (o.toNat / 16) ∧ hexValue b = some (o.toNat % 16) := by
    rw [hexValue_eq_iff a (by omega), hexValue_eq_iff b (by omega)]
    simp [SameText, hexOctet]
  rw [hsame, readOctet]
  constructor
  · intro h
    obtain ⟨x, hx, hmap⟩ := Option.bind_eq_some_iff.mp h
    obtain ⟨y, hy, rfl⟩ := Option.map_eq_some_iff.mp hmap
    have hx16 := hexValue_lt hx
    have hy16 := hexValue_lt hy
    rw [UInt8.toNat_ofNat_of_lt' (by simp only [UInt8.size]; omega)]
    rw [hx, hy, Option.some.injEq, Option.some.injEq]
    omega
  · rintro ⟨hx, hy⟩
    rw [hx, hy, Option.bind_some, Option.map_some, Option.some.injEq, Nat.div_add_mod,
      UInt8.ofNat_toNat]

theorem eq_colon_iff (c : UInt8) : asciiLower c.toNat = asciiLower 0x3A ↔ c = 0x3A := by
  rw [← UInt8.toNat_inj]
  simp only [UInt8.reduceToNat, asciiLower]
  split_ifs <;> omega

theorem sameText_cons {a b c : UInt8} {rest sum : Bytes} {o o' : UInt8} :
    SameText (a :: b :: c :: rest) (fingerprintText (o :: o' :: sum)) ↔
      SameText [a, b] (hexOctet o) ∧ c = 0x3A ∧ SameText rest (fingerprintText (o' :: sum)) := by
  rw [← eq_colon_iff c]
  simp [SameText, fingerprintText, hexOctet, and_assoc]

theorem fingerprintText_ne_nil (o : UInt8) (sum : Bytes) : fingerprintText (o :: sum) ≠ [] := by
  cases sum <;> simp [fingerprintText, hexOctet]

/-- A text is the fingerprint of a digest in some letter case exactly if it names the octets of the
digest. -/
theorem readOctets_eq_iff (s sum : Bytes) :
    readOctets s = some sum ↔ SameText s (fingerprintText sum) := by
  fun_induction readOctets s generalizing sum with
  | case1 =>
    rcases sum with _ | ⟨o, _ | ⟨o', sum⟩⟩ <;> simp [SameText, fingerprintText, hexOctet]
  | case2 a b =>
    rcases sum with _ | ⟨o, _ | ⟨o', sum⟩⟩
    · simp [SameText, fingerprintText]
    · simp [fingerprintText, ← readOctet_eq_iff]
    · simp [SameText, fingerprintText, hexOctet]
  | case3 a b c rest h ih =>
    obtain ⟨rfl, hrest⟩ := h
    rcases sum with _ | ⟨o, _ | ⟨o', sum⟩⟩
    · simp [SameText, fingerprintText, Option.bind_eq_some_iff]
    · have hnil : readOctets rest ≠ some [] := by
        rw [Ne, ih]
        simp [SameText, fingerprintText, hrest]
      simp [SameText, fingerprintText, hexOctet, Option.bind_eq_some_iff, hnil]
    · rw [sameText_cons, ← ih, ← readOctet_eq_iff]
      simp [Option.bind_eq_some_iff]
  | case4 a b c rest h =>
    rcases sum with _ | ⟨o, _ | ⟨o', sum⟩⟩
    · simp [SameText, fingerprintText]
    · simp [SameText, fingerprintText, hexOctet]
    · rw [sameText_cons]
      simp only [reduceCtorEq, false_iff]
      rintro ⟨-, rfl, hrest⟩
      exact h ⟨rfl, hrest.symm.ne_nil (fingerprintText_ne_nil o' sum)⟩
  | case5 a =>
    rcases sum with _ | ⟨o, _ | ⟨o', sum⟩⟩ <;> simp [SameText, fingerprintText, hexOctet]

theorem ascii_fingerprintText (sum : Bytes) : Ascii (fingerprintText sum) := by
  have hoctet : ∀ b, Ascii (hexOctet b) := by
    intro b
    have hb : b.toNat < 256 := b.toNat_lt
    have hdigit : ∀ n < 16, hexDigit n < 0x80 := by
      intro n hn
      rw [UInt8.lt_iff_toNat_lt, toNat_hexDigit hn]
      simp only [UInt8.reduceToNat]
      split <;> omega
    simp only [Ascii, hexOctet, List.mem_cons, List.not_mem_nil, or_false, forall_eq_or_imp,
      forall_eq]
    exact ⟨hdigit _ (by omega), hdigit _ (by omega)⟩
  fun_induction fingerprintText sum with
  | case1 => nofun
  | case2 b => exact hoctet b
  | case3 b c sum ih =>
    intro x hx
    rw [List.mem_append, List.mem_cons] at hx
    obtain hx | rfl | hx := hx
    · exact hoctet b x hx
    · decide
    · exact ih x hx

theorem ascii_localFingerprint (lib : Crypto) (cert : Bytes) :
    Ascii (localFingerprint lib cert).fingerprint := by
  unfold localFingerprint dtlsCertificateFingerprint
  cases lib.parseCertificate cert with
  | none => nofun
  | some raw => exact ascii_fingerprintText _

/-! ## Who is accepted -/

section Accepted

variable [UnicodeCase]

/-- The fingerprint names the digest of the certificate under a known hash. -/
def Names (lib : Crypto) (fp : SdpFingerprint) (raw : Bytes) : Prop :=
  ∃ h, dtlsFingerprintHashes (toLower fp.alg) = some h ∧
    readOctets fp.fingerprint = some (lib.sum h raw)

theorem verifyLoop_eq_ok_iff {lib : Crypto} {cert raw : Bytes} {fps : List SdpFingerprint}
    (hraw : lib.parseCertificate cert = some raw) (hascii : ∀ fp ∈ fps, Ascii fp.fingerprint) :
    verifyLoop lib cert fps = .ok () ↔ ∃ fp ∈ fps, Names lib fp raw := by
  induction fps with
  | nil => simp [verifyLoop]
  | cons fp fps ih =>
    rw [List.forall_mem_cons] at hascii
    rw [List.exists_mem_cons_iff, ← ih hascii.2, verifyLoop]
    cases hhash : dtlsFingerprintHashes (toLower fp.alg) with
    | none => simp [Names, hhash]
    | some h =>
      have hnames : Names lib fp raw ↔
          equalFold fp.fingerprint (fingerprintText (lib.sum h raw)) = true := by
        rw [equalFold_iff hascii.1 (ascii_fingerprintText _), ← readOctets_eq_iff]
        simp [Names, hhash]
      rw [hnames]
      simp only [dtlsCertificateFingerprint, hraw, Option.map_some]
      split_ifs with hequal
      · simp [hequal]
      · simp [hequal]

theorem hash_of_sha256 : dtlsFingerprintHashes (toLower (lit "SHA-256")) = some .sha256 := by
  rw [toLower_of_ascii (by decide)]
  decide

theorem hash_of_nil : dtlsFingerprintHashes (toLower []) = none := by
  rw [toLower_of_ascii (by nofun)]
  decide

/-- What our description carries of a certificate names the certificates with its digest. -/
theorem names_localFingerprint_iff (lib : Crypto) (cert raw : Bytes) :
    Names lib (localFingerprint lib cert) raw ↔
      ∃ own, lib.parseCertificate cert = some own ∧ lib.sum .sha256 own = lib.sum .sha256 raw := by
  unfold Names localFingerprint dtlsCertificateFingerprint
  cases lib.parseCertificate cert with
  | none => simp [hash_of_nil]
  | some own =>
    have hread : readOctets (fingerprintText (lib.sum .sha256 own)) = some (lib.sum .sha256 own) :=
      (readOctets_eq_iff _ _).mpr (.refl _)
    simp [hash_of_sha256, hread]

/-- The peer is accepted exactly if a fingerprint of its description names the digest of the first
certificate it shows, in whatever letter case. With what our description carries of our own
certificates these are the certificates that have the SHA-256 digest of one of ours. -/
theorem peer_accepted_iff (lib : Crypto) (cert raw : Bytes) (chain : List Bytes)
    (hraw : lib.parseCertificate cert = some raw) :
    (∀ fps : List SdpFingerprint, (∀ fp ∈ fps, Ascii fp.fingerprint) →
      (dtlsVerifyConnection lib (cert :: chain) fps = .ok () ↔ ∃ fp ∈ fps, Names lib fp raw)) ∧
    ∀ ours : List Bytes,
      dtlsVerifyConnection lib (cert :: chain) (localDTLSFingerprints lib ours) = .ok () ↔
        ∃ c ∈ ours, ∃ own, lib.parseCertificate c = some own ∧
          lib.sum .sha256 own = lib.sum .sha256 raw := by
  have hgeneral := fun (fps : List SdpFingerprint) (hascii : ∀ fp ∈ fps, Ascii fp.fingerprint) =>
    verifyLoop_eq_ok_iff hraw hascii
  refine ⟨hgeneral, fun ours => ?_⟩
  have hascii : ∀ fp ∈ localDTLSFingerprints lib ours, Ascii fp.fingerprint := by
    intro fp hfp
    obtain ⟨c, -, rfl⟩ := List.mem_map.mp hfp
    exact ascii_localFingerprint lib c
  refine (hgeneral _ hascii).trans ?_
  simp [localDTLSFingerprints, names_localFingerprint_iff]

end Accepted

def shortDigest : Crypto where
  parseCertificate := some
  sum _ raw := raw.take 2

section Sample

attribute [local instance] asciiOnly

theorem peer_accepted_lower_case :
    dtlsVerifyConnection shortDigest [[0xAB, 0x0C, 0x01]] [⟨lit "ab:0c", lit "sha-1"⟩] = .ok () ∧
      dtlsVerifyConnection shortDigest [[0xAB, 0x0D]]
        (localDTLSFingerprints shortDigest [[0xAB, 0x0C]]) ≠ .ok () := by
  constructor
  · refine ((peer_accepted_iff shortDigest [0xAB, 0x0C, 0x01] _ [] rfl).1 _ (by decide)).mpr ?_
    exact ⟨_, List.mem_singleton_self _, .sha1, by decide +kernel, by decide +kernel⟩
  · rw [Ne, (peer_accepted_iff shortDigest [0xAB, 0x0D] _ [] rfl).2]
    simp [shortDigest]

end Sample

end Diago.Media.Verification
