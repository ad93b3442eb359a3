import Podmesh.Lib.Biscuit
import Podmesh.Protocol.Execution

namespace Podmesh

open Biscuit (Fact Atom Query Token)

def workloadIdentityVersion : UInt16 := 1
def maxIdentityTokenBytes : Nat := 4096
def maxDelegationBytes : Nat := 6 * 1024
def maxWorkloadIdentityBytes : Nat := 12 * 1024
def identityClockSkewSecs : Nat := 60

structure WorkloadIdentityClaims where
  delegationDigest : String
  endpointId : String
  signingPublicKeyB64 : String
  issuedAtSecs : UInt64
  expiresAtSecs : UInt64
  deriving DecidableEq

structure WorkloadIdentity where
  version : UInt16
  delegation : EnrollmentDelegation
  claims : WorkloadIdentityClaims
  biscuitB64 : String
  deriving DecidableEq

/-- The Biscuit tokens and JSON encodings behind identities. -/
structure TokenPlatform extends Platform where
  /-- `Biscuit::from`: the blocks of a token whose signatures hold under a root key. -/
  tokenFrom : Bytes → Bytes → Except String Token
  /-- The serialized token of an authority block with these facts, signed by a private key. -/
  buildToken : Bytes → List Fact → Except String Bytes
  publicOf : Bytes → Except String Bytes
  delegationJson : EnrollmentDelegation → Except String Bytes
  delegationFromJson : Bytes → Except String EnrollmentDelegation
  identityJson : WorkloadIdentity → Except String Bytes
  identityFromJson : Bytes → Except String WorkloadIdentity
  catalogCheck : Bytes → SidecarMetadata → String → Except String Unit
  metadataJson : SidecarMetadata → Except String Bytes

def roleFact (role : String) : Fact := ⟨"role", [.str role]⟩
def claimFact (key : String) (value : Biscuit.Term) : Fact := ⟨"claim", [.str key, value]⟩
def expectedFact (key : String) (value : Biscuit.Term) : Fact := ⟨"expected", [.str key, value]⟩
def timeFact (now : UInt64) : Fact := ⟨"time", [.int now.toNat]⟩

def tokenFacts (role : String) (fields : List (String × String)) : List Fact :=
  roleFact role :: fields.map fun field => claimFact field.1 (.str field.2)

def tokenGiven (fields : List (String × String)) (now : Option UInt64) : List Fact :=
  fields.map (fun field => expectedFact field.1 (.str field.2)) ++ now.toList.map timeFact

/-- A claim of the token must agree with what is expected of its key. -/
def fieldAtoms (field : String × String) (index : Nat) : List Atom :=
  [⟨"claim", [.value (.str field.1), .var index]⟩,
    ⟨"expected", [.value (.str field.1), .var index]⟩]

def tokenPolicy (role : String) (fields : List (String × String)) : Query :=
  .all (⟨"role", [.value (.str role)]⟩ ::
    fields.zipIdx.flatMap fun (field, index) => fieldAtoms field index)

def encodeBounded (bytes : Except String Bytes) (limit : Nat) : Except String Bytes := do
  let bytes ← bytes
  ensure (!bytes.isEmpty && bytes.length ≤ limit) "identity encoding exceeds limit"
  return bytes

def decodeBounded (decode : Bytes → Except String α) (value : Bytes) (limit : Nat) :
    Except String α := do
  ensure (!value.isEmpty && value.length ≤ limit) "identity encoding exceeds limit"
  decode value

namespace TokenPlatform
variable (p : TokenPlatform)

def mintToken (signer : Bytes) (role : String) (fields : List (String × String)) :
    Except String String := do
  let bytes ← p.buildToken signer (tokenFacts role fields)
  ensure (bytes.length ≤ maxIdentityTokenBytes) "identity Biscuit exceeds limit"
  return p.b64Encode bytes

def verifyToken (encoded : String) (root : Bytes) (role : String)
    (fields : List (String × String)) (now : Option UInt64) : Except String Unit := do
  ensure (encoded.utf8ByteSize ≤ (maxIdentityTokenBytes + 2) / 3 * 4)
    "identity Biscuit encoding exceeds limit"
  let bytes ← p.b64Decode encoded
  ensure (!bytes.isEmpty && bytes.length ≤ maxIdentityTokenBytes) "invalid identity Biscuit size"
  let token ← p.tokenFrom bytes root
  ensure (now.all fun now => now.toNat ≤ i64Max)
    "out of range integral type conversion attempted"
  ensure (token.authorize (tokenGiven fields now) (tokenPolicy role fields))
    "identity Biscuit authorization failed"

def decodeB64 (decode : Bytes → Except String α) (value : String) (limit : Nat) :
    Except String α := do
  ensure (value.utf8ByteSize ≤ (limit + 2) / 3 * 4) "identity base64 exceeds limit"
  let bytes ← p.b64Decode value
  decodeBounded decode bytes limit

end TokenPlatform

def EnrollmentScope.fields (self : EnrollmentScope) : List (String × String) :=
  [("owner", self.tenantOwner), ("manifest", self.manifestId), ("workload", self.workloadId),
    ("revision", self.revisionId), ("issuer", self.issuerPublicKeyB64),
    ("generation", self.tokenId), ("issued", toString self.issuedAtSecs.toNat),
    ("expires", (self.expiresAtSecs.map fun n => toString n.toNat).getD "standing"),
    ("child_lifetime", toString self.maxChildLifetimeSecs.toNat)]

def TokenPlatform.identity (p : TokenPlatform) : IdentityPlatform where
  toPlatform := p.toPlatform
  decodeDelegation value := p.decodeB64 p.delegationFromJson value maxDelegationBytes
  verifyToken delegation owner now :=
    p.verifyToken delegation.biscuitB64 owner "workload_enrollment" delegation.scope.fields now
  verifyCatalog := p.catalogCheck
  encodeMetadata := p.metadataJson
  encodeDelegation delegation := encodeBounded (p.delegationJson delegation) maxDelegationBytes

def EnrollmentDelegation.digest (p : TokenPlatform) (self : EnrollmentDelegation) :
    Except String String := do
  let bytes ← p.identity.encodeDelegation self
  return p.blake3Hex [bytes]

namespace WorkloadIdentityClaims

def fields (self : WorkloadIdentityClaims) : List (String × String) :=
  [("delegation", self.delegationDigest), ("endpoint", self.endpointId),
    ("signer", self.signingPublicKeyB64), ("issued", toString self.issuedAtSecs.toNat),
    ("expires", toString self.expiresAtSecs.toNat)]

def validate (p : Platform) (self : WorkloadIdentityClaims) : Except String Unit := do
  hexId self.delegationDigest
  hexId self.endpointId
  let _ ← p.publicKey self.signingPublicKeyB64
  ensure (self.expiresAtSecs.toNat > self.issuedAtSecs.toNat
    && self.expiresAtSecs.toNat ≤ i64Max) "invalid identity validity window"
  ensure (self.expiresAtSecs.toNat - self.issuedAtSecs.toNat ≤ maxIdentityLifetimeSecs)
    "identity lifetime exceeds limit"

end WorkloadIdentityClaims

namespace WorkloadIdentity

def live (self : WorkloadIdentity) (now : UInt64) : Except String Unit :=
  ensure (self.claims.issuedAtSecs.toNat ≤ saturatingAdd u64Max now.toNat identityClockSkewSecs
    && now.toNat ≤ self.claims.expiresAtSecs.toNat) "workload identity expired or not yet valid"

def verify (p : TokenPlatform) (self : WorkloadIdentity) (now : Option UInt64) :
    Except String Unit := do
  ensure (self.version == workloadIdentityVersion) "unsupported workload identity version"
  self.delegation.verify p.identity now
  self.claims.validate p.toPlatform
  let digest ← self.delegation.digest p
  ensure (self.claims.delegationDigest == digest) "identity delegation mismatch"
  ensure (self.claims.expiresAtSecs.toNat - self.claims.issuedAtSecs.toNat
    ≤ self.delegation.scope.maxChildLifetimeSecs.toNat) "identity exceeds delegated lifetime"
  ensure (saturatingAdd u64Max self.claims.issuedAtSecs.toNat identityClockSkewSecs
    ≥ self.delegation.scope.issuedAtSecs.toNat) "identity predates delegation"
  ensure (self.delegation.scope.expiresAtSecs.all fun finish =>
    self.claims.expiresAtSecs.toNat ≤ finish.toNat) "identity outlives delegation"
  let issuer ← p.publicKey self.delegation.scope.issuerPublicKeyB64
  p.verifyToken self.biscuitB64 issuer "workload_identity" self.claims.fields now
  match now with
  | none => pure ()
  | some now => self.live now

def verifySession (p : TokenPlatform) (self : WorkloadIdentity) (owner manifest endpoint : String)
    (signingKey : Bytes) (now : UInt64) : Except String Unit := do
  ensure (self.delegation.scope.tenantOwner == owner
    && self.delegation.scope.manifestId == manifest) "workload identity tenant/scope mismatch"
  ensure (self.claims.endpointId == endpoint) "workload identity transport mismatch"
  ensure (self.claims.signingPublicKeyB64 == p.b64Encode signingKey)
    "workload identity application signer mismatch"
  self.verify p (some now)

def toBytes (p : TokenPlatform) (self : WorkloadIdentity) : Except String Bytes :=
  encodeBounded (p.identityJson self) maxWorkloadIdentityBytes

/-- The expiry of a minted identity: the lifetime from now on, cut at the end of the delegation. -/
def mintExpiry (scope : EnrollmentScope) (now lifetime : UInt64) : Except String UInt64 := do
  ensure (now.toNat + lifetime.toNat ≤ u64Max) "identity expiry overflow"
  return match scope.expiresAtSecs with
  | some finish => min finish (now + lifetime)
  | none => now + lifetime

def mint (p : TokenPlatform) (issuerPrivate : Bytes) (delegation : EnrollmentDelegation)
    (endpointId signer : String) (now lifetime : UInt64) : Except String WorkloadIdentity := do
  delegation.verify p.identity (some now)
  let issuer ← p.publicOf issuerPrivate
  ensure (p.b64Encode issuer == delegation.scope.issuerPublicKeyB64)
    "identity signing issuer mismatch"
  ensure (1 ≤ lifetime.toNat && lifetime.toNat ≤ delegation.scope.maxChildLifetimeSecs.toNat)
    "child exceeds delegated lifetime"
  let expiresAtSecs ← mintExpiry delegation.scope now lifetime
  let digest ← delegation.digest p
  let claims : WorkloadIdentityClaims := {
    delegationDigest := digest
    endpointId := endpointId
    signingPublicKeyB64 := signer
    issuedAtSecs := now
    expiresAtSecs := expiresAtSecs }
  claims.validate p.toPlatform
  let biscuitB64 ← p.mintToken issuerPrivate "workload_identity" claims.fields
  let value : WorkloadIdentity := {
    version := workloadIdentityVersion
    delegation := delegation
    claims := claims
    biscuitB64 := biscuitB64 }
  value.verify p (some now)
  let _ ← value.toBytes p
  return value

end WorkloadIdentity
end Podmesh
