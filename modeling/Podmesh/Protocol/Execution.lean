import Podmesh.Protocol.Verify

namespace Podmesh

def maxEndpointDirectAddresses : Nat := 8
def maxEndpointDirectAddressLen : Nat := 128
def maxEndpointRelayUrlLen : Nat := 2048
def maxEndpointRecordBytes : Nat := 4 * 1024
def maxEndpointRecordLifetimeSecs : Nat := 60 * 60
def maxEndpointRecordClockSkewSecs : Nat := 60
def maxProxyEndpoints : Nat := 32
def maxWorkloadCredentialB64Len : Nat := 4 * ((16 * 1024 + 2) / 3)
def maxIdentityLifetimeSecs : Nat := 3600
def i64Max : Nat := 2 ^ 63 - 1

def isAsciiWhitespaceOrControl (b : UInt8) : Bool := b ≤ 32 || b == 127

def validateRelayUrl (value : String) : Except String Unit := do
  ensure (value != "" && value.utf8ByteSize ≤ maxEndpointRelayUrlLen) "relay URL length is invalid"
  ensure (startsWith value "https://" || startsWith value "http://")
    "relay URL must use HTTP or HTTPS"
  ensure (!(utf8Bytes value).any isAsciiWhitespaceOrControl) "relay URL contains invalid characters"

namespace EndpointRecord

/-- Checks each address and that no two of them parse to the same socket address. -/
def validateDirectAddresses (p : Platform) : List String → List String → Except String Unit
  | _, [] => .ok ()
  | unique, address :: rest => do
    ensure (address != "" && address.utf8ByteSize ≤ maxEndpointDirectAddressLen)
      "direct endpoint address length is invalid"
    match p.parseSocketAddr address with
    | none => throw "invalid direct endpoint address"
    | some parsed =>
      ensure (!unique.contains parsed) "duplicate direct endpoint address"
      validateDirectAddresses p (parsed :: unique) rest

def validateUnsigned (p : Platform) (self : EndpointRecord) (nowSecs : UInt64) :
    Except String Unit := do
  ensure (self.version == endpointRecordVersion) "unsupported endpoint record version"
  ensure (self.endpointId.length == 32) "endpoint ID must contain 32 bytes"
  ensure (self.relayUrl.isSome || !self.directAddresses.isEmpty)
    "endpoint record must contain a relay or direct address"
  match self.relayUrl with
  | some relayUrl => validateRelayUrl relayUrl
  | none => pure ()
  ensure (self.directAddresses.length ≤ maxEndpointDirectAddresses)
    "too many direct endpoint addresses"
  validateDirectAddresses p [] self.directAddresses
  ensure (self.issuedAtSecs.toNat ≤
      saturatingAdd u64Max nowSecs.toNat maxEndpointRecordClockSkewSecs)
    "endpoint record issue time is too far in the future"
  ensure (self.expiresAtSecs.toNat ≥ nowSecs.toNat) "endpoint record expired"
  ensure (self.expiresAtSecs.toNat ≥ self.issuedAtSecs.toNat)
    "endpoint record expiry precedes issue time"
  ensure (self.expiresAtSecs.toNat - self.issuedAtSecs.toNat ≤ maxEndpointRecordLifetimeSecs)
    "endpoint record lifetime exceeds limit"

def validateSignatureFields (p : Platform) (self : EndpointRecord) : Except String Unit := do
  let signingPublic ← p.b64Decode self.signingPubkey
  ensure (signingPublic.length == 32) "signing public key must decode to 32 bytes"
  let signature ← p.b64Decode self.signature
  ensure (signature.length == 64) "signature must decode to 64 bytes"

def canonicalBytes (p : Platform) (self : EndpointRecord) : Except String Bytes := do
  let bytes ← p.canonical (.endpointRecord { self with signature := "" })
  ensure (!bytes.isEmpty && bytes.length ≤ maxEndpointRecordBytes)
    "endpoint record encoded size is invalid"
  return bytes

def verifySignature (p : Platform) (self : EndpointRecord) : Except String Unit := do
  let signingPublic ← p.b64Decode self.signingPubkey
  let signature ← p.b64Decode self.signature
  let bytes ← self.canonicalBytes p
  p.verifyDomain signingPublic .endpointRecord bytes signature

def verify (p : Platform) (self : EndpointRecord) (nowSecs : UInt64) : Except String Unit := do
  self.validateUnsigned p nowSecs
  self.validateSignatureFields p
  self.verifySignature p

def sign (p : Platform) (self : EndpointRecord) (signingPublic signingPrivate : Bytes)
    (nowSecs : UInt64) : Except String EndpointRecord := do
  let named := { self with signingPubkey := p.b64Encode signingPublic, signature := "" }
  named.validateUnsigned p nowSecs
  let bytes ← named.canonicalBytes p
  let signature ← p.signDomain signingPrivate .endpointRecord bytes
  let signed := { named with signature := p.b64Encode signature }
  signed.validateUnsigned p nowSecs
  signed.validateSignatureFields p
  return signed

/-- The structural check: the validity window is tested at the record's own issue time. -/
def verifyStructure (p : Platform) (self : EndpointRecord) : Except String Unit :=
  self.verify p self.issuedAtSecs

theorem verify_iff {p : Platform} {self : EndpointRecord} :
    self.verify p now = .ok () ↔ self.verifyStructure p = .ok () ∧
      self.issuedAtSecs.toNat ≤ saturatingAdd u64Max now.toNat maxEndpointRecordClockSkewSecs ∧
      now.toNat ≤ self.expiresAtSecs.toNat := by
  have hi : self.issuedAtSecs.toNat ≤
      saturatingAdd u64Max self.issuedAtSecs.toNat maxEndpointRecordClockSkewSecs := by
    have hm : self.issuedAtSecs.toNat ≤ u64Max := Nat.le_pred_of_lt self.issuedAtSecs.toNat_lt
    simp only [saturatingAdd]
    omega
  simp only [verifyStructure, verify, validateUnsigned, unit_bind_ok, ensure_ok]
  cases self.relayUrl with
  | none | some relayUrl =>
    simp only [unit_bind_ok, ensure_ok, decide_eq_true_eq]
    tauto

theorem verify_later {p : Platform} {self : EndpointRecord} (h : self.verify p t = .ok ())
    (ht : t.toNat ≤ now.toNat) :
    self.verify p now = .ok () ↔ now.toNat ≤ self.expiresAtSecs.toNat := by
  obtain ⟨hs, hi, _⟩ := verify_iff.1 h
  have hl := hi.trans (saturatingAdd_mono ht (Nat.le_refl maxEndpointRecordClockSkewSecs))
  rw [verify_iff]
  exact ⟨fun h => h.2.2, fun h => ⟨hs, hl, h⟩⟩

end EndpointRecord

structure EnrollmentScope where
  tenantOwner : String
  manifestId : String
  workloadId : String
  revisionId : String
  issuerPublicKeyB64 : String
  tokenId : String
  issuedAtSecs : UInt64
  expiresAtSecs : Option UInt64
  maxChildLifetimeSecs : UInt64
  deriving DecidableEq

structure EnrollmentDelegation where
  version : UInt16
  scope : EnrollmentScope
  biscuitB64 : String
  deriving DecidableEq

/-- What the owner seals for one replica; the service catalog stays in its encoded form. -/
structure ExecutionSpec where
  workloadName : String
  replicaIndex : UInt32
  replicaCount : UInt32
  manifest : Bytes
  proxyEndpoints : List EndpointRecord
  serviceCatalog : Option Bytes
  workloadCredentialB64 : String
  workloadRelayAuthToken : String
  workloadRelayCaCertificates : List Bytes
  deriving DecidableEq

structure SidecarMetadata where
  workloadName : String
  manifestId : String
  replicaIndex : UInt32
  replicaCount : UInt32
  manifestB64 : String
  ownerPublicKeyB64 : String
  proxyEndpoints : List EndpointRecord
  serviceCatalog : Option Bytes
  workloadCredentialB64 : String
  workloadRelayAuthToken : String
  workloadRelayCaCertificates : List Bytes
  deriving DecidableEq

structure IdentityPlatform extends Platform where
  decodeDelegation : String → Except String EnrollmentDelegation
  /-- The Biscuit check of a delegation under the owner key, at an optional time. -/
  verifyToken : EnrollmentDelegation → Bytes → Option UInt64 → Except String Unit
  /-- The catalog of the metadata is signed by the owner and lists the manifest's services. -/
  verifyCatalog : Bytes → SidecarMetadata → String → Except String Unit
  encodeMetadata : SidecarMetadata → Except String Bytes
  encodeDelegation : EnrollmentDelegation → Except String Bytes

def Platform.routeId (p : Platform) (owner : Bytes) (workloadName : String) : String :=
  p.blake3Hex [utf8Bytes "podmesh/route/v1\x00", owner, [0], utf8Bytes workloadName]

def Platform.publicKey (p : Platform) (value : String) : Except String Bytes := do
  ensure (value.utf8ByteSize ≤ 44) "public key encoding exceeds limit"
  let key ← p.b64Decode value
  ensure (key.length == 32 && p.b64Encode key == value) "invalid identity public key"
  return key

def hexId (value : String) : Except String Unit :=
  ensure (value.utf8ByteSize == 64
      && (utf8Bytes value).all fun b => isAsciiDigit b || (97 ≤ b && b ≤ 102))
    "invalid identity digest/endpoint"

def EnrollmentScope.validate (p : Platform) (self : EnrollmentScope) : Except String Unit := do
  let _ ← p.publicKey self.tenantOwner
  let _ ← p.publicKey self.issuerPublicKeyB64
  forEach hexId [self.manifestId, self.workloadId, self.revisionId]
  ensure (self.tokenId != "" && self.tokenId.utf8ByteSize ≤ 128
    && (utf8Bytes self.tokenId).all fun b => b < 128) "invalid enrollment generation"
  ensure (1 ≤ self.maxChildLifetimeSecs.toNat
    && self.maxChildLifetimeSecs.toNat ≤ maxIdentityLifetimeSecs) "invalid delegated child lifetime"
  ensure (self.issuedAtSecs.toNat ≤ i64Max) "invalid delegation issue time"
  match self.expiresAtSecs with
  | some expires =>
    ensure (expires.toNat ≥ self.issuedAtSecs.toNat && expires.toNat ≤ i64Max)
      "invalid delegation expiry"
  | none => pure ()

namespace EnrollmentDelegation

def verify (p : IdentityPlatform) (self : EnrollmentDelegation) (now : Option UInt64) :
    Except String Unit := do
  ensure (self.version == 1) "unsupported enrollment delegation version"
  self.scope.validate p.toPlatform
  let owner ← p.publicKey self.scope.tenantOwner
  p.verifyToken self owner now
  match now with
  | none => pure ()
  | some now => do
    ensure (self.scope.issuedAtSecs.toNat ≤ saturatingAdd u64Max now.toNat 60)
      "delegation is not yet valid"
    match self.scope.expiresAtSecs with
    | some expires => ensure (now.toNat ≤ expires.toNat) "enrollment delegation expired"
    | none => pure ()

def verifyScope (p : IdentityPlatform) (self : EnrollmentDelegation)
    (owner manifest workload : String) (issuer : Option String) (now : Option UInt64) :
    Except String Unit := do
  ensure (self.scope.tenantOwner == owner && self.scope.manifestId == manifest
    && self.scope.workloadId == workload) "enrollment delegation scope mismatch"
  match issuer with
  | some issuer =>
    ensure (self.scope.issuerPublicKeyB64 == issuer) "enrollment issuer mismatch"
  | none => pure ()
  self.verify p now

end EnrollmentDelegation

/-- The bounds on relay credentials shared by the execution spec and the sidecar metadata. -/
def validateRelayAccess (authToken : String) (certificates : List Bytes) : Except String Unit := do
  ensure (authToken.utf8ByteSize ≥ 32 && authToken.utf8ByteSize ≤ 4 * 1024)
    "invalid workload relay auth token length"
  ensure (certificates.length ≤ 8) "too many workload relay CA certificates"
  forEach (fun certificate : Bytes =>
    ensure (!certificate.isEmpty && certificate.length ≤ 64 * 1024)
      "invalid workload relay CA certificate size") certificates

def validateReplica (index count : UInt32) : Except String Unit := do
  ensure (1 ≤ count.toNat && count.toNat ≤ maxWorkloadReplicas)
    s!"replica count must be between 1 and {maxWorkloadReplicas}"
  ensure (index.toNat < count.toNat) "replica index is outside the deployment"

def ExecutionSpec.validate (p : Platform) (self : ExecutionSpec) : Except String Unit := do
  ensure (self.workloadName != "" && self.workloadName.utf8ByteSize ≤ 253) "invalid workload name"
  validateReplica self.replicaIndex self.replicaCount
  ensure (!self.manifest.isEmpty && self.manifest.length ≤ maxManifestBytes)
    "invalid manifest length"
  ensure (!self.proxyEndpoints.isEmpty && self.proxyEndpoints.length ≤ maxProxyEndpoints)
    "invalid proxy endpoint count"
  forEach (EndpointRecord.verifyStructure p) self.proxyEndpoints
  ensure (self.workloadCredentialB64 != ""
      && self.workloadCredentialB64.utf8ByteSize ≤ maxWorkloadCredentialB64Len)
    "invalid workload credential length"
  validateRelayAccess self.workloadRelayAuthToken self.workloadRelayCaCertificates

def SidecarMetadata.validate (p : IdentityPlatform) (self : SidecarMetadata) :
    Except String Unit := do
  ensure (self.workloadName != "" && self.workloadName.utf8ByteSize ≤ 253) "invalid workload name"
  let owner ← p.b64Decode self.ownerPublicKeyB64
  ensure (owner.length == 32) "owner_public_key_b64 must decode to 32 bytes"
  ensure (self.manifestId == p.routeId owner self.workloadName)
    "manifest_id is not derived from the owner key and workload name"
  validateReplica self.replicaIndex self.replicaCount
  ensure (!self.proxyEndpoints.isEmpty && self.proxyEndpoints.length ≤ maxProxyEndpoints)
    "invalid proxy endpoint count"
  forEach (EndpointRecord.verifyStructure p.toPlatform) self.proxyEndpoints
  let delegation ← p.decodeDelegation self.workloadCredentialB64
  delegation.verifyScope p self.ownerPublicKeyB64 self.manifestId
    (p.workloadId owner self.workloadName self.replicaIndex) none none
  let manifest ← p.b64Decode self.manifestB64
  ensure (delegation.scope.revisionId == p.revisionId manifest)
    "sidecar enrollment revision mismatch"
  match self.serviceCatalog with
  | some catalog => p.verifyCatalog catalog self delegation.scope.revisionId
  | none => pure ()
  validateRelayAccess self.workloadRelayAuthToken self.workloadRelayCaCertificates

end Podmesh
