import Podmesh.Protocol.Execution

namespace Podmesh

def capacityProtocolVersion : UInt16 := 1
def maxCapacityMessageBytes : Nat := 16 * 1024
def maxCapacityQueryLifetimeSecs : Nat := 15
def maxCapacityOfferLifetimeSecs : Nat := 15
def maxCapacityClockSkewSecs : Nat := 5
def maxCapacityCapabilities : Nat := 32
def maxCapacityCapabilityLen : Nat := 64
def maxCapacityExcludedEndpoints : Nat := 64
def maxCapacityIdLen : Nat := 128
def maxCapacityNonceLen : Nat := 128

namespace Capacity

def validateCommon (version : UInt16) (id : String) (issuedAtSecs expiresAtSecs : UInt64)
    (maxLifetimeSecs : Nat) (nowSecs : UInt64) : Except String Unit := do
  ensure (version == capacityProtocolVersion) "unsupported capacity protocol version"
  ensure (id != "" && id.utf8ByteSize ≤ maxCapacityIdLen) "capacity ID length is invalid"
  ensure (issuedAtSecs.toNat ≤ saturatingAdd u64Max nowSecs.toNat maxCapacityClockSkewSecs)
    "capacity message issue time is too far in the future"
  ensure (expiresAtSecs.toNat ≥ nowSecs.toNat) "capacity message expired"
  ensure (expiresAtSecs.toNat ≥ issuedAtSecs.toNat) "capacity expiry precedes issue time"
  ensure (expiresAtSecs.toNat - issuedAtSecs.toNat ≤ maxLifetimeSecs)
    "capacity message lifetime exceeds limit"

def validateCapability (capability : String) : Except String Unit :=
  ensure (capability != "" && capability.utf8ByteSize ≤ maxCapacityCapabilityLen)
    "capacity capability length is invalid"

def validateExclusion (endpointId : Bytes) : Except String Unit :=
  ensure (endpointId.length == 32) "excluded endpoint ID must contain 32 bytes"

def validateUnique [DecidableEq α] (check : α → Except String Unit) (duplicate : String) :
    List α → List α → Except String Unit
  | _, [] => .ok ()
  | unique, a :: rest => do
    check a
    ensure (!unique.contains a) duplicate
    validateUnique check duplicate (a :: unique) rest

def validateCapabilities (capabilities : List String) : Except String Unit := do
  ensure (capabilities.length ≤ maxCapacityCapabilities) "too many capacity capabilities"
  validateUnique validateCapability "duplicate capacity capability" [] capabilities

def validateExclusions (endpointIds : List Bytes) : Except String Unit := do
  ensure (endpointIds.length ≤ maxCapacityExcludedEndpoints) "too many excluded endpoints"
  validateUnique validateExclusion "duplicate excluded endpoint ID" [] endpointIds

def validateSignatureFields (p : Platform) (signingPubkey signature : String) :
    Except String Unit := do
  let key ← p.b64Decode signingPubkey
  ensure (key.length == 32) "signing key must decode to 32 bytes"
  let signature ← p.b64Decode signature
  ensure (signature.length == 64) "signature must decode to 64 bytes"

def encodeBounded (p : Platform) (body : SignedBody) : Except String Bytes := do
  let bytes ← p.canonical body
  ensure (!bytes.isEmpty && bytes.length ≤ maxCapacityMessageBytes)
    "capacity message encoded size is invalid"
  return bytes

def verifySignature (p : Platform) (signingPubkey signature : String) (domain : SignatureDomain)
    (body : SignedBody) : Except String Unit := do
  let canonical ← encodeBounded p body
  let key ← p.b64Decode signingPubkey
  let signature ← p.b64Decode signature
  p.verifyDomain key domain canonical signature

end Capacity

namespace CapacityQuery

def validateUnsigned (p : Platform) (self : CapacityQuery) (nowSecs : UInt64) :
    Except String Unit := do
  Capacity.validateCommon self.version self.queryId self.issuedAtSecs self.expiresAtSecs
    maxCapacityQueryLifetimeSecs nowSecs
  ensure (self.nonce != "" && self.nonce.utf8ByteSize ≤ maxCapacityNonceLen)
    "capacity query nonce length is invalid"
  ensure (self.cpuMilli > 0 && self.memoryBytes > 0 && self.storageBytes > 0)
    "capacity query resources must be non-zero"
  Capacity.validateCapabilities self.requiredCapabilities
  Capacity.validateExclusions self.excludedEndpointIds
  self.replyEndpoint.verify p nowSecs
  ensure (self.replyEndpoint.signingPubkey == self.signingPubkey)
    "capacity query signer is not bound to reply endpoint"

def verify (p : Platform) (self : CapacityQuery) (nowSecs : UInt64) : Except String Unit := do
  self.validateUnsigned p nowSecs
  Capacity.validateSignatureFields p self.signingPubkey self.signature
  Capacity.verifySignature p self.signingPubkey self.signature .capacityQuery
    (.capacityQuery { self with signature := "" })

end CapacityQuery

namespace CapacityOffer

def validateUnsigned (p : Platform) (self : CapacityOffer) (nowSecs : UInt64) :
    Except String Unit := do
  Capacity.validateCommon self.version self.queryId self.issuedAtSecs self.expiresAtSecs
    maxCapacityOfferLifetimeSecs nowSecs
  self.agentEndpoint.verify p nowSecs
  ensure (self.agentEndpoint.signingPubkey == self.signingPubkey)
    "capacity offer signer is not bound to agent endpoint"
  let kemPublic ← p.b64Decode self.kemPubkey
  ensure (kemPublic.length == 32) "KEM public key must decode to 32 bytes"
  Capacity.validateCapabilities self.capabilities

def verify (p : Platform) (self : CapacityOffer) (nowSecs : UInt64) : Except String Unit := do
  self.validateUnsigned p nowSecs
  Capacity.validateSignatureFields p self.signingPubkey self.signature
  Capacity.verifySignature p self.signingPubkey self.signature .capacityOffer
    (.capacityOffer { self with signature := "" })

def sign (p : Platform) (self : CapacityOffer) (signingPublic signingPrivate : Bytes)
    (nowSecs : UInt64) : Except String CapacityOffer := do
  let named := { self with signingPubkey := p.b64Encode signingPublic, signature := "" }
  named.validateUnsigned p nowSecs
  let bytes ← Capacity.encodeBounded p (.capacityOffer named)
  let signature ← p.signDomain signingPrivate .capacityOffer bytes
  let signed := { named with signature := p.b64Encode signature }
  signed.validateUnsigned p nowSecs
  Capacity.validateSignatureFields p signed.signingPubkey signed.signature
  return signed

end CapacityOffer

end Podmesh
