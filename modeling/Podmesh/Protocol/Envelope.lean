import Podmesh.Protocol.Execution
import Podmesh.Protocol.ReplayRegistry

namespace Podmesh

def maxEnvelopeDriftMs : Nat := 30000
def envelopeSignatureAlgorithm : String := "ed25519"
def envelopeVersion : UInt16 := 1
def workloadEnvelopeOverheadBytes : Nat := 4 * 1024

inductive WorkloadStreamKind where
  | handshake | registration | proxyDiscovery | egress | ingress | proxyAnnouncement
  deriving DecidableEq

inductive WorkloadPayloadType where
  | handshakeRequest | handshakeResponse | registrationRequest | registrationResponse
  | proxyDiscoveryRequest | proxyDiscoveryResponse | ingressRequest | ingressResponse
  | egressRequest | egressResponse | proxyAnnouncementRequest | proxyAnnouncementResponse
  | peerRequest | peerResponse
  deriving DecidableEq

namespace WorkloadPayloadType

def all : List WorkloadPayloadType :=
  [.handshakeRequest, .handshakeResponse, .registrationRequest, .registrationResponse,
    .proxyDiscoveryRequest, .proxyDiscoveryResponse, .ingressRequest, .ingressResponse,
    .egressRequest, .egressResponse, .proxyAnnouncementRequest, .proxyAnnouncementResponse,
    .peerRequest, .peerResponse]

def wireName : WorkloadPayloadType → String
  | .handshakeRequest => "podmesh.workload.handshake.request.v1"
  | .handshakeResponse => "podmesh.workload.handshake.response.v1"
  | .registrationRequest => "podmesh.workload.registration.request.v1"
  | .registrationResponse => "podmesh.workload.registration.response.v1"
  | .proxyDiscoveryRequest => "podmesh.workload.discovery.request.v1"
  | .proxyDiscoveryResponse => "podmesh.workload.discovery.response.v1"
  | .ingressRequest => "podmesh.workload.ingress.request.v1"
  | .ingressResponse => "podmesh.workload.ingress.response.v1"
  | .egressRequest => "podmesh.workload.egress.request.v1"
  | .egressResponse => "podmesh.workload.egress.response.v1"
  | .proxyAnnouncementRequest => "podmesh.workload.announcement.request.v1"
  | .proxyAnnouncementResponse => "podmesh.workload.announcement.response.v1"
  | .peerRequest => "podmesh.peer.control.request.v1"
  | .peerResponse => "podmesh.peer.control.response.v1"

def fromWireName (value : String) : Option WorkloadPayloadType :=
  all.find? fun payloadType => payloadType.wireName = value

def frameKind : WorkloadPayloadType → WorkloadStreamKind
  | .handshakeRequest | .handshakeResponse | .peerRequest | .peerResponse => .handshake
  | .registrationRequest | .registrationResponse => .registration
  | .proxyDiscoveryRequest | .proxyDiscoveryResponse => .proxyDiscovery
  | .ingressRequest | .ingressResponse => .ingress
  | .egressRequest | .egressResponse => .egress
  | .proxyAnnouncementRequest | .proxyAnnouncementResponse => .proxyAnnouncement

def payloadLimit (self : WorkloadPayloadType) : Nat :=
  match self.frameKind with
  | .handshake | .registration | .proxyDiscovery | .ingress => 64 * 1024
  | .egress => 32 * 1024
  | .proxyAnnouncement => 4 * 1024

def envelopeLimit (self : WorkloadPayloadType) : Nat :=
  self.payloadLimit + workloadEnvelopeOverheadBytes

end WorkloadPayloadType

structure Envelope where
  version : UInt16
  payload : Bytes
  payloadType : String
  nonce : String
  tsMillis : UInt64
  alg : String
  senderId : String
  recipientId : String
  senderSigningPubkey : String
  senderKemPubkey : String
  signature : String
  deriving DecidableEq

structure EnvelopePlatform extends Platform where
  encodeEnvelope : Envelope → Except String Bytes
  decodeEnvelope : Bytes → Except String Envelope

structure WorkloadPayload (T : Type) where
  payloadType : WorkloadPayloadType
  encode : T → Except String Bytes
  decode : Bytes → Except String T
  validate : T → UInt64 → Except String Unit

structure AcceptedWorkloadPayload (T : Type) where
  payload : T
  payloadType : WorkloadPayloadType
  senderSigningKey : Bytes
  senderKemKey : Option Bytes
  nonce : String
  timestampMillis : UInt64

def isLowerHex (b : UInt8) : Bool := isAsciiDigit b || (97 ≤ b && b ≤ 102)

def validateEndpointId (value name : String) : Except String Unit :=
  ensure (value.utf8ByteSize == 64 && (utf8Bytes value).all isLowerHex)
    s!"workload envelope {name} endpoint id is invalid"

def validateKey (key : Bytes) (name : String) : Except String Unit :=
  ensure (key.length == 32) s!"workload envelope {name} key length is invalid"

def Platform.validateCanonicalKey (p : Platform) (value name : String) : Except String Unit := do
  let decoded ← p.b64Decode value
  validateKey decoded name
  ensure (p.b64Encode decoded == value) s!"workload envelope {name} key is not canonical Base64"

def Platform.validateCanonicalSignature (p : Platform) (value : String) : Except String Unit := do
  ensure (value != "") "workload envelope is unsigned"
  let decoded ← p.b64Decode value
  ensure (decoded.length == 64) "workload envelope signature length is invalid"
  ensure (p.b64Encode decoded == value) "workload envelope signature is not canonical Base64"

namespace Envelope

def decodeWithLimit (p : EnvelopePlatform) (bytes : Bytes) (maxBytes : Nat) :
    Except String Envelope := do
  ensure (bytes.length ≤ maxBytes)
    s!"envelope is {bytes.length} bytes, over the {maxBytes} byte limit"
  p.decodeEnvelope bytes

/-- The whole envelope with the signature field blanked is what a signature covers. -/
def canonicalBytes (p : EnvelopePlatform) (self : Envelope) : Except String Bytes :=
  p.encodeEnvelope { self with signature := "" }

def verifySignature (p : EnvelopePlatform) (self : Envelope) : Except String Unit := do
  let signingKey ← p.b64Decode self.senderSigningPubkey
  let signature ← p.b64Decode self.signature
  let canonical ← self.canonicalBytes p
  p.verifyDomain signingKey .workloadEnvelope canonical signature

def senderKemKey (p : EnvelopePlatform) (self : Envelope) : Except String (Option Bytes) :=
  if self.senderKemPubkey = "" then .ok none
  else do
    let key ← p.b64Decode self.senderKemPubkey
    return some key

end Envelope

/-- The checks of an envelope that come before its nonce is recorded. -/
def openEnvelope (p : EnvelopePlatform) (expected : WorkloadPayloadType) (bytes : Bytes)
    (localId authenticatedRemoteId : String) (nowMillis : UInt64) (maxNonceBytes : Nat) :
    Except String Envelope := do
  validateEndpointId localId "local"
  validateEndpointId authenticatedRemoteId "remote"
  let envelope ← Envelope.decodeWithLimit p bytes expected.envelopeLimit
  ensure (envelope.version == envelopeVersion) "unsupported workload envelope version"
  ensure (envelope.alg == envelopeSignatureAlgorithm) "unsupported workload envelope algorithm"
  ensure (WorkloadPayloadType.fromWireName envelope.payloadType == some expected)
    "unexpected workload payload type"
  ensure (envelope.senderId == authenticatedRemoteId)
    "workload envelope sender does not match transport"
  ensure (envelope.recipientId == localId)
    "workload envelope recipient does not match local endpoint"
  ensure ((nowMillis.toNat - envelope.tsMillis.toNat) + (envelope.tsMillis.toNat - nowMillis.toNat)
      ≤ maxEnvelopeDriftMs)
    "workload envelope timestamp is outside drift window"
  ensure (envelope.nonce != "" && envelope.nonce.utf8ByteSize ≤ maxNonceBytes)
    "workload envelope nonce length is invalid"
  p.validateCanonicalKey envelope.senderSigningPubkey "signing"
  if envelope.senderKemPubkey ≠ "" then p.validateCanonicalKey envelope.senderKemPubkey "KEM"
  p.validateCanonicalSignature envelope.signature
  envelope.verifySignature p
  return envelope

/-- The checks of an envelope that come after its nonce has been recorded. -/
def readPayload (p : EnvelopePlatform) (spec : WorkloadPayload T) (envelope : Envelope)
    (nowMillis : UInt64) : Except String (AcceptedWorkloadPayload T) := do
  ensure (envelope.payload.length ≤ spec.payloadType.payloadLimit)
    "workload payload exceeds its type limit"
  let payload ← spec.decode envelope.payload
  spec.validate payload (nowMillis / 1000)
  let senderSigningKey ← p.b64Decode envelope.senderSigningPubkey
  let senderKemKey ← envelope.senderKemKey p
  return {
    payload
    payloadType := spec.payloadType
    senderSigningKey
    senderKemKey
    nonce := envelope.nonce
    timestampMillis := envelope.tsMillis }

def acceptWorkloadPayload (p : EnvelopePlatform) (spec : WorkloadPayload T) (bytes : Bytes)
    (localId authenticatedRemoteId : String) (nowMillis : UInt64) (replay : PeerReplayRegistry)
    (observedAt : Nat) : Except String (AcceptedWorkloadPayload T) × PeerReplayRegistry :=
  match openEnvelope p spec.payloadType bytes localId authenticatedRemoteId nowMillis
      replay.limits.maxNonceBytes with
  | .error e => (.error e, replay)
  | .ok envelope =>
    match replay.checkAndInsert authenticatedRemoteId envelope.nonce observedAt with
    | (.error e, replay) => (.error e, replay)
    | (.ok (), replay) => (readPayload p spec envelope nowMillis, replay)

structure WorkloadEnvelopeParts where
  nonce : String
  nowMillis : UInt64
  senderId : String
  recipientId : String
  senderSigningPublic : Bytes
  senderSigningPrivate : Bytes
  senderKemPublic : Option Bytes

namespace Envelope

def sign (p : EnvelopePlatform) (parts : WorkloadEnvelopeParts) (payload : Bytes)
    (payloadType : WorkloadPayloadType) : Except String Envelope := do
  let envelope : Envelope :=
    { version := envelopeVersion
      payload
      payloadType := payloadType.wireName
      nonce := parts.nonce
      tsMillis := parts.nowMillis
      alg := envelopeSignatureAlgorithm
      senderId := parts.senderId
      recipientId := parts.recipientId
      senderSigningPubkey := p.b64Encode parts.senderSigningPublic
      senderKemPubkey := (parts.senderKemPublic.map p.b64Encode).getD ""
      signature := "" }
  let canonical ← envelope.canonicalBytes p
  let signature ← p.signDomain parts.senderSigningPrivate .workloadEnvelope canonical
  return { envelope with signature := p.b64Encode signature }

def toBytesWithLimit (p : EnvelopePlatform) (self : Envelope) (maxBytes : Nat) :
    Except String Bytes := do
  let bytes ← p.encodeEnvelope self
  ensure (bytes.length ≤ maxBytes)
    s!"envelope is {bytes.length} bytes, over the {maxBytes} byte limit"
  return bytes

end Envelope

def WorkloadEnvelopeParts.validate (parts : WorkloadEnvelopeParts) : Except String Unit := do
  validateEndpointId parts.senderId "sender"
  validateEndpointId parts.recipientId "recipient"
  ensure (parts.nonce != "" && parts.nonce.utf8ByteSize ≤ 128)
    "workload envelope nonce length is invalid"
  validateKey parts.senderSigningPublic "signing"
  match parts.senderKemPublic with
  | some key => validateKey key "KEM"
  | none => return

def enclose (p : EnvelopePlatform) (spec : WorkloadPayload T) (parts : WorkloadEnvelopeParts)
    (payload : T) : Except String Bytes := do
  let bytes ← spec.encode payload
  ensure (bytes.length ≤ spec.payloadType.payloadLimit) "workload payload exceeds its type limit"
  let envelope ← Envelope.sign p parts bytes spec.payloadType
  envelope.toBytesWithLimit p spec.payloadType.envelopeLimit

def sealWorkloadPayload (p : EnvelopePlatform) (spec : WorkloadPayload T)
    (parts : WorkloadEnvelopeParts) (payload : T) : Except String Bytes := do
  parts.validate
  spec.validate payload (parts.nowMillis / 1000)
  enclose p spec parts payload

variable {p : EnvelopePlatform}

structure Opened (p : EnvelopePlatform) (expected : WorkloadPayloadType) (bytes : Bytes)
    (localId remote : String) (nowMillis : UInt64) (maxNonceBytes : Nat) (envelope : Envelope) :
    Prop where
  localEndpoint : validateEndpointId localId "local" = .ok ()
  remoteEndpoint : validateEndpointId remote "remote" = .ok ()
  size : bytes.length ≤ expected.envelopeLimit
  decoded : p.decodeEnvelope bytes = .ok envelope
  version : envelope.version = envelopeVersion
  alg : envelope.alg = envelopeSignatureAlgorithm
  payloadType : WorkloadPayloadType.fromWireName envelope.payloadType = some expected
  sender : envelope.senderId = remote
  recipient : envelope.recipientId = localId
  drift : (nowMillis.toNat - envelope.tsMillis.toNat) + (envelope.tsMillis.toNat - nowMillis.toNat)
    ≤ maxEnvelopeDriftMs
  nonce : envelope.nonce ≠ "" ∧ envelope.nonce.utf8ByteSize ≤ maxNonceBytes
  signingKey : p.validateCanonicalKey envelope.senderSigningPubkey "signing" = .ok ()
  kemKey : envelope.senderKemPubkey ≠ "" →
    p.validateCanonicalKey envelope.senderKemPubkey "KEM" = .ok ()
  signature : p.validateCanonicalSignature envelope.signature = .ok ()
  verified : envelope.verifySignature p = .ok ()

theorem openEnvelope_ok :
    openEnvelope p expected bytes lid rem nowMs maxNonceBytes = .ok envelope ↔
      Opened p expected bytes lid rem nowMs maxNonceBytes envelope := by
  simp only [openEnvelope, Envelope.decodeWithLimit, bind_ok, ite_bind_ok, ensure_ok,
    Bool.and_eq_true, decide_eq_true_eq, beq_iff_eq, bne_iff_ne, Unique.exists_iff]
  constructor
  · rintro ⟨hl, hrm, e, ⟨hsz, hd⟩, hvr, ha, ht, hsn, hr, hdr, hn, hky, hk, hs, hv, he⟩
    cases he
    exact ⟨hl, hrm, hsz, hd, hvr, ha, ht, hsn, hr, hdr, hn, hky, hk, hs, hv⟩
  · rintro ⟨hl, hrm, hsz, hd, hvr, ha, ht, hsn, hr, hdr, hn, hky, hk, hs, hv⟩
    exact ⟨hl, hrm, envelope, ⟨hsz, hd⟩, hvr, ha, ht, hsn, hr, hdr, hn, hky, hk, hs, hv, rfl⟩

theorem validateEndpointId_ok (h : validateEndpointId value name = .ok ()) (name' : String) :
    validateEndpointId value name' = .ok () :=
  ensure_ok.2 (ensure_ok.1 h)

structure Reads (p : EnvelopePlatform) (spec : WorkloadPayload T) (envelope : Envelope)
    (nowMillis : UInt64) (accepted : AcceptedWorkloadPayload T) : Prop where
  size : envelope.payload.length ≤ spec.payloadType.payloadLimit
  decoded : spec.decode envelope.payload = .ok accepted.payload
  valid : spec.validate accepted.payload (nowMillis / 1000) = .ok ()
  signingKey : p.b64Decode envelope.senderSigningPubkey = .ok accepted.senderSigningKey
  kemKey : envelope.senderKemKey p = .ok accepted.senderKemKey
  payloadType : accepted.payloadType = spec.payloadType
  nonce : accepted.nonce = envelope.nonce
  timestamp : accepted.timestampMillis = envelope.tsMillis

theorem readPayload_ok :
    readPayload p spec env nowMs = .ok accepted ↔ Reads p spec env nowMs accepted := by
  simp only [readPayload, bind_ok, ensure_ok, decide_eq_true_eq, Unique.exists_iff]
  constructor
  · rintro ⟨hs, payload, hd, hv, key, hky, kem, hk, h⟩
    cases h
    exact ⟨hs, hd, hv, hky, hk, rfl, rfl, rfl⟩
  · rintro ⟨hs, hd, hv, hky, hk, hty, hn, ht⟩
    refine ⟨hs, _, hd, hv, _, hky, _, hk, ?_⟩
    rw [← hty, ← hn, ← ht]
    rfl

theorem acceptWorkloadPayload_ok
    (h : (acceptWorkloadPayload p spec bytes lid rem nowMs replay obs).1 = .ok accepted) :
    ∃ env,
      openEnvelope p spec.payloadType bytes lid rem nowMs replay.limits.maxNonceBytes = .ok env ∧
      Reads p spec env nowMs accepted := by
  unfold acceptWorkloadPayload at h
  split at h
  · cases h
  · next env ho =>
    split at h
    · cases h
    · exact ⟨env, ho, readPayload_ok.1 h⟩

end Podmesh
