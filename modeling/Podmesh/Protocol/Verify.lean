import Podmesh.Lib.Fallible
import Podmesh.Lib.Saturating
import Podmesh.Protocol.Message

namespace Podmesh

def u64Max : Nat := 2 ^ 64 - 1
def u32Max : Nat := 2 ^ 32 - 1

structure Platform where
  b64Encode : Bytes → String
  b64Decode : String → Except String Bytes
  canonical : SignedBody → Except String Bytes
  signDomain : Bytes → SignatureDomain → Bytes → Except String Bytes
  verifyDomain : Bytes → SignatureDomain → Bytes → Bytes → Except String Unit
  blake3Hex : List Bytes → String
  /-- The normal form of a socket address, if the text parses. -/
  parseSocketAddr : String → Option String

def utf8Bytes (s : String) : Bytes := s.toByteArray.data.toList

def startsWith (s head : String) : Bool := (utf8Bytes head).isPrefixOf (utf8Bytes s)

def isAsciiDigit (b : UInt8) : Bool := 48 ≤ b && b ≤ 57

def isAsciiHexdigit (b : UInt8) : Bool :=
  isAsciiDigit b || (97 ≤ b && b ≤ 102) || (65 ≤ b && b ≤ 70)

def isAsciiAlphanumeric (b : UInt8) : Bool :=
  isAsciiDigit b || (97 ≤ b && b ≤ 122) || (65 ≤ b && b ≤ 90)

def validateHexId (value field : String) : Except String Unit := do
  ensure (value.utf8ByteSize == 64) s!"{field} must be a full 32-byte hex digest"
  ensure ((utf8Bytes value).all isAsciiHexdigit) s!"{field} must be hex"

def validateValidityWindow (issuedAtSecs expiresAtSecs nowSecs : UInt64) (what : String) :
    Except String Unit := do
  ensure (issuedAtSecs.toNat ≤ saturatingAdd u64Max nowSecs.toNat maxAgentClockSkewSecs)
    s!"{what} was issued too far in the future"
  ensure (expiresAtSecs.toNat > issuedAtSecs.toNat) s!"{what} expires before it was issued"
  ensure (expiresAtSecs.toNat - issuedAtSecs.toNat ≤ maxAgentMessageLifetimeSecs)
    s!"{what} lifetime exceeds {maxAgentMessageLifetimeSecs} seconds"
  ensure (saturatingAdd u64Max expiresAtSecs.toNat maxAgentClockSkewSecs ≥ nowSecs.toNat)
    s!"{what} expired"

namespace Platform
variable (p : Platform)

def decodeFixed (value : String) (expected : Nat) (field : String) : Except String Bytes := do
  let decoded ← p.b64Decode value
  ensure (decoded.length == expected) s!"{field} must decode to {expected} bytes"
  return decoded

def verifyBody (key : Bytes) (domain : SignatureDomain) (body : SignedBody) (signature : Bytes) :
    Except String Unit := do
  let bytes ← p.canonical body
  p.verifyDomain key domain bytes signature

def signBody (key : Bytes) (domain : SignatureDomain) (body : SignedBody) :
    Except String String := do
  let bytes ← p.canonical body
  let signature ← p.signDomain key domain bytes
  return p.b64Encode signature

def workloadId (namespaceId : Bytes) (workloadName : String) (replicaIndex : UInt32) : String :=
  p.blake3Hex [utf8Bytes "podmesh/workload/v1\x00", namespaceId, [0], utf8Bytes workloadName, [0],
    (List.range 4).map fun i => UInt8.ofNat (replicaIndex.toNat / 256 ^ i)]

def revisionId (canonicalManifest : Bytes) : String :=
  p.blake3Hex [utf8Bytes "podmesh/revision/v1\x00", canonicalManifest]

def deploymentId (namespaceId : Bytes) (workloadName : String) : String :=
  p.blake3Hex [utf8Bytes "podmesh/deployment/v1\x00", namespaceId, [0], utf8Bytes workloadName]

end Platform

/-- The bounds every owner message puts on its request id and its nonce. -/
def boundedText (value : String) : Bool := value != "" && value.utf8ByteSize ≤ 128

def AdmissionRequest.verify (p : Platform) (self : AdmissionRequest) (nowSecs : UInt64) : Except String Unit := do
  ensure (self.version == agentProtocolVersion) "unsupported admission version"
  let owner ← p.decodeFixed self.namespaceId 32 "namespace_id"
  let _ ← p.decodeFixed self.targetNodeId 32 "target_node_id"
  let _ ← p.decodeFixed self.responseKemPubkey 32 "response_kem_pubkey"
  validateHexId self.workloadId "workload_id"
  ensure (boundedText self.requestId) "invalid request_id"
  ensure (boundedText self.nonce) "invalid nonce"
  validateValidityWindow self.issuedAtSecs self.expiresAtSecs nowSecs "admission request"
  let signature ← p.decodeFixed self.ownerSignature 64 "owner_signature"
  p.verifyBody owner .admissionRequest
    (.admissionRequest { self with ownerSignature := "" }) signature

namespace Reservation

def sign (p : Platform) (self : Reservation) (signingPublic signingPrivate : Bytes) :
    Except String Reservation := do
  let named := { self with agentNodeId := p.b64Encode signingPublic, signature := "" }
  let signature ← p.signBody signingPrivate .reservation (.reservation named)
  return { named with signature }

def verify (p : Platform) (self : Reservation) (nowSecs : UInt64) : Except String Unit := do
  ensure (self.version == agentProtocolVersion) "unsupported reservation version"
  let agent ← p.decodeFixed self.agentNodeId 32 "agent_node_id"
  let _ ← p.decodeFixed self.namespaceId 32 "namespace_id"
  validateHexId self.workloadId "workload_id"
  ensure (self.expiresAtSecs.toNat ≥ nowSecs.toNat) "reservation expired"
  ensure (self.reason.utf8ByteSize ≤ 1024) "reservation reason too long"
  let signature ← p.decodeFixed self.signature 64 "signature"
  p.verifyBody agent .reservation (.reservation { self with signature := "" }) signature

end Reservation

def EncryptedWorkloadCapsule.validate (self : EncryptedWorkloadCapsule) : Except String Unit := do
  ensure (!self.ciphertext.isEmpty && self.ciphertext.length ≤ maxEncryptedCapsuleBytes)
    "invalid capsule ciphertext length"
  ensure (self.nonce.length == 24) "capsule nonce must be 24 bytes"
  ensure (!self.wrappedDek.isEmpty && self.wrappedDek.length ≤ maxWrappedKeyBytes)
    "invalid wrapped DEK length"

def DeploymentGrant.verify (p : Platform) (self : DeploymentGrant) (nowSecs : UInt64) : Except String Unit := do
  ensure (self.version == agentProtocolVersion) "unsupported deployment grant version"
  let owner ← p.decodeFixed self.namespaceId 32 "namespace_id"
  let _ ← p.decodeFixed self.targetNodeId 32 "target_node_id"
  let _ ← p.decodeFixed self.responseKemPubkey 32 "response_kem_pubkey"
  validateHexId self.workloadId "workload_id"
  validateHexId self.revisionId "revision_id"
  self.capsule.validate
  validateValidityWindow self.issuedAtSecs self.expiresAtSecs nowSecs "deployment grant"
  ensure (boundedText self.reservationId) "invalid reservation_id"
  ensure (boundedText self.nonce) "invalid nonce"
  let signature ← p.decodeFixed self.ownerSignature 64 "owner_signature"
  p.verifyBody owner .deploymentGrant
    (.deploymentGrant { self with ownerSignature := "" }) signature

def UpdateRequest.verify (p : Platform) (self : UpdateRequest) (nowSecs : UInt64) : Except String Unit := do
  ensure (self.version == agentProtocolVersion) "unsupported update request version"
  let owner ← p.decodeFixed self.namespaceId 32 "namespace_id"
  let _ ← p.decodeFixed self.targetNodeId 32 "target_node_id"
  let _ ← p.decodeFixed self.responseKemPubkey 32 "response_kem_pubkey"
  validateHexId self.workloadId "workload_id"
  validateHexId self.expectedRevisionId "expected_revision_id"
  validateHexId self.requestedRevisionId "requested_revision_id"
  ensure (boundedText self.requestId) "invalid request_id"
  ensure (boundedText self.nonce) "invalid nonce"
  ensure (self.cpuMilli > 0 && self.memoryBytes > 0 && self.storageBytes > 0)
    "update resources must be non-zero"
  self.grant.verify p nowSecs
  ensure (self.grant.namespaceId == self.namespaceId
      && self.grant.workloadId == self.workloadId
      && self.grant.targetNodeId == self.targetNodeId
      && self.grant.responseKemPubkey == self.responseKemPubkey
      && self.grant.revisionId == self.requestedRevisionId)
    "update grant binding mismatch"
  validateValidityWindow self.issuedAtSecs self.expiresAtSecs nowSecs "update request"
  let signature ← p.decodeFixed self.ownerSignature 64 "owner_signature"
  p.verifyBody owner .updateRequest (.updateRequest { self with ownerSignature := "" }) signature

def WorkloadCommand.verify (p : Platform) (self : WorkloadCommand) (nowSecs : UInt64) : Except String Unit := do
  ensure (self.version == agentProtocolVersion) "unsupported workload command version"
  let owner ← p.decodeFixed self.namespaceId 32 "namespace_id"
  let _ ← p.decodeFixed self.targetNodeId 32 "target_node_id"
  let _ ← p.decodeFixed self.responseKemPubkey 32 "response_kem_pubkey"
  validateHexId self.workloadId "workload_id"
  ensure (boundedText self.requestId) "invalid request_id"
  ensure (boundedText self.nonce) "invalid nonce"
  validateValidityWindow self.issuedAtSecs self.expiresAtSecs nowSecs "workload command"
  ensure ((self.logTail.getD 0).toNat ≤ 10000) "log tail exceeds limit"
  let signature ← p.decodeFixed self.ownerSignature 64 "owner_signature"
  p.verifyBody owner .workloadCommand
    (.workloadCommand { self with ownerSignature := "" }) signature

def WorkloadListRequest.verify (p : Platform) (self : WorkloadListRequest) (nowSecs : UInt64) :
    Except String Unit := do
  ensure (self.version == agentProtocolVersion) "unsupported workload list version"
  let owner ← p.decodeFixed self.namespaceId 32 "namespace_id"
  let _ ← p.decodeFixed self.responseKemPubkey 32 "response_kem_pubkey"
  ensure (boundedText self.requestId) "invalid request_id"
  ensure (boundedText self.nonce) "invalid nonce"
  validateValidityWindow self.issuedAtSecs self.expiresAtSecs nowSecs "workload list request"
  let signature ← p.decodeFixed self.ownerSignature 64 "owner_signature"
  p.verifyBody owner .workloadListRequest
    (.workloadListRequest { self with ownerSignature := "" }) signature

end Podmesh
