import Podmesh.Protocol.IdentityAuthority
import Podmesh.Scheduler.RelayAccess

namespace Podmesh

structure GrantIssuer extends RelayPlatform where
  signGrant : Bytes → Bytes → Except String Bytes

/-- Base64 and the codec lose nothing of the grant, and Base64 takes four bytes for three. -/
structure GrantIssuer.Lossless (p : GrantIssuer) (grant : MachineRelayGrant) : Prop where
  b64 : ∀ bytes, p.b64Decode (p.b64Encode bytes) = .ok bytes
  codec : ∀ bytes, p.encodeGrant grant = .ok bytes →
    bytes ≠ [] ∧ p.decodeGrant bytes = .ok grant ∧ p.b64Encode bytes ≠ "" ∧
      (p.b64Encode bytes).utf8ByteSize ≤ 4 * ((bytes.length + 2) / 3)

namespace MachineRelayGrant

def sign (p : GrantIssuer) (self : MachineRelayGrant) (issuerPublic issuerPrivate : Bytes)
    (nowSecs : UInt64) : Except String MachineRelayGrant := do
  let unsigned := { self with issuerPubkey := p.b64Encode issuerPublic, signature := "" }
  unsigned.validateUnsigned nowSecs
  let canonical ← unsigned.canonicalBytes p.toRelayPlatform
  let signature ← p.signGrant issuerPrivate canonical
  let signed := { unsigned with signature := p.b64Encode signature }
  signed.validate p.toRelayPlatform nowSecs
  return signed

def toBytes (p : RelayPlatform) (self : MachineRelayGrant) (nowSecs : UInt64) :
    Except String Bytes := do
  self.validate p nowSecs
  let bytes ← p.encodeGrant self
  validateEncodedSize bytes
  return bytes

def toAuthToken (p : RelayPlatform) (self : MachineRelayGrant) (nowSecs : UInt64) :
    Except String String := do
  let bytes ← self.toBytes p nowSecs
  return p.b64Encode bytes

theorem validate_at {p : RelayPlatform} {g : MachineRelayGrant} (h : g.validate p now = .ok ())
    (hi : g.issuedAtSecs ≤ t) (he : t ≤ g.expiresAtSecs) : g.validate p t = .ok () := by
  have hk : g.issuedAtSecs.toNat ≤ saturatingAdd u64Max t.toNat maxMachineRelayClockSkewSecs := by
    have : g.issuedAtSecs.toNat ≤ t.toNat := hi
    have := g.issuedAtSecs.toNat_lt
    simp only [saturatingAdd, u64Max]
    omega
  simp only [validate, validateUnsigned, unit_bind_ok, ensure_ok, decide_eq_true_eq] at h ⊢
  exact ⟨⟨h.1.1, h.1.2.1, h.1.2.2.1, h.1.2.2.2.1, hk, he, h.1.2.2.2.2.2.2⟩, h.2⟩

theorem toAuthToken_ok {p : RelayPlatform} {g : MachineRelayGrant} :
    g.toAuthToken p now = .ok token ↔ g.validate p now = .ok () ∧ ∃ bytes,
      p.encodeGrant g = .ok bytes ∧ bytes ≠ [] ∧ bytes.length ≤ maxMachineRelayGrantBytes ∧
        p.b64Encode bytes = token := by
  simp [toAuthToken, toBytes, validateEncodedSize, bind_ok, pure, Except.pure, and_assoc,
    Unique.exists_iff]

variable {p : GrantIssuer} {grant g : MachineRelayGrant}

theorem sign_ok (h : grant.sign p issuerPublic issuerPrivate now = .ok g) :
    g.validate p.toRelayPlatform now = .ok () ∧ g.issuerPubkey = p.b64Encode issuerPublic ∧
      ∃ canonical signature, g.canonicalBytes p.toRelayPlatform = .ok canonical ∧
        p.signGrant issuerPrivate canonical = .ok signature ∧
        g.signature = p.b64Encode signature := by
  simp only [sign, bind_ok] at h
  obtain ⟨_, -, canonical, hc, signature, hs, _, hv, hg⟩ := h
  cases hg
  exact ⟨hv, rfl, canonical, signature, hc, hs, rfl⟩

open IdentityReference

def sample (padding : Nat) (signature : String) : MachineRelayGrant where
  version := 1
  subjectEndpointId := List.replicate 32 1
  role := .agent
  relayAudience := "https://" ++ text 'a' padding
  issuedAtSecs := 100
  expiresAtSecs := 200
  tokenId := "t"
  issuerPubkey := encodeText issuerKey
  signature

/-- The encoding has the length that postcard gives the sample, with 44 characters of Base64 for the
key and 88 for the signature. -/
def sampleIssuer (padding : Nat) : GrantIssuer :=
  { Membership.sampleRelay with
    b64Encode := encodeText
    b64Decode text := .ok (decodeText text)
    encodeGrant grant :=
      .ok (List.replicate (padding + if grant.signature = "" then 96 else 184) 0)
    decodeGrant _ := .ok (sample padding (text 'C' 64))
    signGrant _ _ := .ok (List.replicate 64 67) }

theorem utf8Bytes_padded (n : Nat) : utf8Bytes ("https://" ++ text 'a' n) =
    [104, 116, 116, 112, 115, 58, 47, 47] ++ List.replicate n 97 := by
  have hc : String.utf8EncodeChar 'a' = [97] := by decide
  have hh : "https://".toByteArray.data = #[104, 116, 116, 112, 115, 58, 47, 47] := by decide
  simp [utf8Bytes, text, List.utf8Encode, List.flatMap_replicate, hc, hh]

theorem audience_valid (h : n ≤ 2040) : validateAudience ("https://" ++ text 'a' n) = .ok () := by
  have hs : ("https://" ++ text 'a' n).utf8ByteSize = n + 8 := by
    have hl := congrArg List.length (utf8Bytes_padded n)
    simp only [utf8Bytes, Array.length_toList, List.length_append, List.length_replicate] at hl
    exact hl.trans (Nat.add_comm 8 n)
  have hh : utf8Bytes "https://" = [104, 116, 116, 112, 115, 58, 47, 47] := by decide
  simp [validateAudience, bind_ok, startsWith, utf8Bytes_padded, hh, hs,
    maxMachineRelayAudienceLen, isAsciiWhitespaceOrControl]
  omega

theorem sample_b64 (bytes : Bytes) :
    (sampleIssuer padding).b64Decode ((sampleIssuer padding).b64Encode bytes) = .ok bytes :=
  congrArg Except.ok (decode_encode bytes)

theorem sample_sign (h : padding ≤ 1952) :
    (sample padding "").sign (sampleIssuer padding) issuerKey [] 100 =
      .ok (sample padding (text 'C' 64)) := by
  have hu : ∀ signature, (sample padding signature).validateUnsigned 100 = .ok () := by
    intro signature
    simp only [sample, validateUnsigned, audience_valid (h.trans (by decide)), bind_ok]
    exact ⟨(), rfl, (), rfl, (), trivial, (), rfl, (), rfl, (), rfl, (), rfl, rfl⟩
  simp only [sign, bind_ok]
  refine ⟨(), hu "", List.replicate (padding + 96) 0, ?_, _, rfl, (), ?_, rfl⟩
  · simp [canonicalBytes, validateEncodedSize, sampleIssuer, bind_ok, maxMachineRelayGrantBytes, h,
      ensure]
  · simp only [validate, bind_ok]
    exact ⟨(), hu _, _, sample_b64 _, (), rfl, _, sample_b64 _, rfl⟩

end MachineRelayGrant
end Podmesh
