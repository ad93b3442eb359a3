import Podmesh.Protocol.Reference
import Podmesh.Proxy.Runtime

namespace Podmesh

/-! A proxy for two tenants, each with one workload, one endpoint and one application key. -/
namespace ProxyReference
open Reference (key owner signedBy)
open Biscuit (Fact Token)

def endpoint (digit : Char) : String := String.ofList (List.replicate 64 digit)

def localId : String := endpoint 'f'

def peer (n : UInt8) : String := endpoint (Reference.hexDigit n.toNat)

def signer (n : UInt8) : Bytes := key (n + 32)

def issuerKey : Bytes := key 64

def manifest (n : UInt8) : String := Reference.platform.routeId (key n) "web"

def scope (n : UInt8) : EnrollmentScope where
  tenantOwner := owner n
  manifestId := manifest n
  workloadId := Reference.platform.workloadId (key n) "web" 0
  revisionId := endpoint '0'
  issuerPublicKeyB64 := Reference.b64Encode issuerKey
  tokenId := "token"
  issuedAtSecs := 0
  expiresAtSecs := none
  maxChildLifetimeSecs := 3600

/-- The token of an enrollment is `[1, n]`, that of an identity `[2, n]`, that of a grant `[3, n]`. -/
def delegation (n : UInt8) : EnrollmentDelegation := ⟨1, scope n, Reference.b64Encode [1, n]⟩

def claims (n : UInt8) : WorkloadIdentityClaims where
  delegationDigest := Reference.blake3Hex [[1]]
  endpointId := peer n
  signingPublicKeyB64 := Reference.b64Encode (signer n)
  issuedAtSecs := 100
  expiresAtSecs := 160

def identity (n : UInt8) : WorkloadIdentity :=
  ⟨1, delegation n, claims n, Reference.b64Encode [2, n]⟩

def grantFacts (n : UInt8) : List Fact :=
  [⟨"tenant_owner", [.str (owner n)]⟩, ⟨"subject_peer", [.str localId]⟩, ⟨"role", [.str "proxy"]⟩,
    ⟨"operation", [.str "proxy_service"]⟩, ⟨"issued_at", [.int 0]⟩, ⟨"expires_at", [.int 1000]⟩,
    ⟨"token_id", [.str "grant"]⟩]

def blocks : Bytes → Bytes → Except String (List Fact)
  | [1, n], root => if root = key n then .ok (tokenFacts "workload_enrollment" (scope n).fields)
    else .error "invalid token"
  | [2, n], root => if root = issuerKey then .ok (tokenFacts "workload_identity" (claims n).fields)
    else .error "invalid token"
  | [3, n], root => if root = key n then .ok (grantFacts n) else .error "invalid token"
  | _, _ => .error "invalid token"

/-- The second tenant claims the canonical name of the first one. -/
def registration (n : UInt8) : SidecarRegistration where
  version := 2
  ownerPubkey := owner n
  workloadName := "web"
  manifestId := manifest n
  replicaIndex := 0
  replicaCount := 1
  routes := [⟨if n = 2 then manifest 1 ++ ".mesh.local" else "", "/", 8080⟩]
  sidecarPeerId := peer n

def handshake (n : UInt8) : WorkloadHandshakeRequest where
  protocolVersion := handshakeProtocolVersion
  tenantOwnerPubkey := owner n
  manifestId := manifest n
  workloadCredentialB64 := Reference.b64Encode [n]

/-- An envelope `[kind, n, k, nonce]`: a message of tenant `n`, signed with the key of tenant `k`. -/
def envelope (kind n k nonce : UInt8) : Envelope where
  version := 1
  payload := [n]
  payloadType := (match kind with
    | 0 => WorkloadPayloadType.handshakeRequest
    | 1 => WorkloadPayloadType.registrationRequest
    | _ => WorkloadPayloadType.ingressResponse).wireName
  nonce := Reference.b64Encode [nonce + 65]
  tsMillis := 100000
  alg := "ed25519"
  senderId := peer n
  recipientId := localId
  senderSigningPubkey := Reference.b64Encode (signer k)
  senderKemPubkey := ""
  signature := Reference.b64Encode (Reference.signature (signer k))

def platform : ProxyPlatform where
  toPlatform := Reference.platform
  encodeEnvelope _ := .ok []
  decodeEnvelope
    | [kind, n, k, nonce] => .ok (envelope kind n k nonce)
    | _ => .error "invalid envelope"
  tokenFrom bytes root := (blocks bytes root).map fun facts => ⟨⟨facts, []⟩, []⟩
  buildToken _ _ := .error "no signing key"
  publicOf _ := .error "no signing key"
  delegationJson _ := .ok [1]
  delegationFromJson _ := .error "not used"
  identityJson _ := .ok [1]
  identityFromJson
    | [n] => .ok (identity n)
    | _ => .error "invalid identity"
  catalogCheck _ _ _ := .ok ()
  metadataJson _ := .ok []
  encodeHandshake _ := .ok []
  decodeHandshake
    | [n] => .ok (handshake n)
    | _ => .error "invalid handshake"
  encodeRegistration _ := .ok []
  decodeRegistration
    | [n] => .ok (registration n)
    | _ => .error "invalid registration"

def signed (root : Bytes) (facts : List Fact) : Prop := ∃ bytes, blocks bytes root = .ok facts

theorem unforgeable : platform.Unforgeable signed := by
  intro bytes root token h
  change (blocks bytes root).map _ = .ok token at h
  cases hb : blocks bytes root with
  | error e =>
    rw [hb] at h
    cases h
  | ok facts =>
    rw [hb] at h
    cases h
    exact ⟨bytes, hb⟩

theorem signed_cases (h : signed root facts) :
    (∃ role fields, facts = tokenFacts role fields) ∨ ∃ n, facts = grantFacts n := by
  obtain ⟨bytes, h⟩ := h
  unfold blocks at h
  split at h
  · split at h <;> cases h
    exact .inl ⟨_, _, rfl⟩
  · split at h <;> cases h
    exact .inl ⟨_, _, rfl⟩
  · split at h <;> cases h
    exact .inr ⟨_, rfl⟩
  · cases h

theorem signed_plain : Plain signed := by
  intro root facts h k v
  rcases signed_cases h with ⟨role, fields, rfl⟩ | ⟨n, rfl⟩
  · exact tokenFacts_plain
  · simp [grantFacts, expectedFact]

theorem signed_plainGrants : PlainGrants signed := by
  intro root facts h f hf
  rcases signed_cases h with ⟨role, fields, rfl⟩ | ⟨n, rfl⟩
  · rcases List.mem_cons.1 hf with rfl | hf
    · simp [roleFact, requestNames]
    · obtain ⟨field, _, rfl⟩ := List.mem_map.1 hf
      simp [claimFact, requestNames]
  · simp only [grantFacts, List.mem_cons, List.not_mem_nil, or_false] at hf
    rcases hf with rfl | rfl | rfl | rfl | rfl | rfl | rfl <;> simp [requestNames]

def start : ProxyState := .init ⟨.default, .empty⟩

def arrive (n : UInt8) (stableId : Nat) (nonce : UInt8) : List ProxyAction :=
  [.connect stableId (peer n) stableId, .link stableId .enter, .link stableId .start,
    .open stableId stableId .handshake [0, n, n, nonce],
    .stream stableId (.accept 100000 0), .stream stableId (.prove 100 100)]

/-- The checks of a registration stream of a tenant, up to the one for a grant. -/
def registerChecks (n : UInt8) (id link : Nat) (nonce : UInt8) : List ProxyAction :=
  [.submitGrant (owner n) [3, n] 100, .open id link .registration [1, n, n, nonce],
    .stream id (.accept 100000 0), .stream id (.checkKey 100), .stream id (.checkTenant 100),
    .stream id (.checkGrant 100)]

def depart (link : Nat) : List ProxyAction :=
  [.link link .leave, .link link .cleanup, .link link .removeSession, .link link .removeConnection]

end ProxyReference
end Podmesh
