import Podmesh.Protocol.Execution

namespace Podmesh

def meshComponentTenant : String := "podmesh-mesh-component"
def derivationContext : String := "podmesh/workload-relay-token/v1"
def minRelayMeshSecretBytes : Nat := 32
def maxRelayMeshSecretBytes : Nat := 4 * 1024

structure RelayTokenPlatform where
  b64Encode : Bytes → String
  /-- `blake3::Hasher::new_derive_key`, fed with some byte strings. -/
  deriveKey : String → List Bytes → Bytes
  blake3 : Bytes → Bytes
  recordBytes : EndpointRecord → UInt64 → Except String Bytes

def validateMeshSecret (meshSecret : String) : Except String Unit := do
  ensure (minRelayMeshSecretBytes ≤ meshSecret.utf8ByteSize
    && meshSecret.utf8ByteSize ≤ maxRelayMeshSecretBytes)
    "workload relay mesh secret length is invalid"
  ensure ((utf8Bytes meshSecret).all (· < 128)
    && !(utf8Bytes meshSecret).any isAsciiWhitespaceOrControl)
    "workload relay mesh secret contains invalid characters"

def deriveTenantRelayToken (p : RelayTokenPlatform) (meshSecret ownerPubkey : String) :
    Except String String := do
  validateMeshSecret meshSecret
  ensure (ownerPubkey != "" && !ownerPubkey.toList.contains '.')
    "tenant owner key is not usable in a relay token"
  let proof := p.b64Encode
    (p.deriveKey derivationContext [utf8Bytes meshSecret, [0], utf8Bytes ownerPubkey])
  return ownerPubkey ++ "." ++ proof

def splitTenant (token : String) : Option String :=
  if token.toList.contains '.' then some (String.ofList (token.toList.takeWhile (· != '.')))
  else none

def tenantFromRelayToken (p : RelayTokenPlatform) (meshSecret token : String) :
    Except String String := do
  match splitTenant token with
  | none => throw "relay token does not name a tenant"
  | some owner =>
    let expected ← deriveTenantRelayToken p meshSecret owner
    ensure (p.blake3 (utf8Bytes expected) == p.blake3 (utf8Bytes token))
      "relay token is not valid for the tenant it names"
    return owner

inductive RelayTenantPolicy where
  | all
  | only (owners : List String)

def RelayTenantPolicy.admits (self : RelayTenantPolicy) (ownerPubkey : String) : Bool :=
  if ownerPubkey = meshComponentTenant then true
  else match self with
    | .all => true
    | .only owners => owners.contains ownerPubkey

structure WorkloadRelayAccessControl where
  meshSecret : String
  tenants : RelayTenantPolicy

def WorkloadRelayAccessControl.admittedTenant (p : RelayTokenPlatform)
    (self : WorkloadRelayAccessControl) (authToken : Option String) : Option String := do
  let token ← authToken
  let owner ← (tenantFromRelayToken p self.meshSecret token).toOption
  if self.tenants.admits owner then some owner else none

structure RelayBootstrap where
  meshSecret : String
  caCertificateDer : Bytes

structure WorkloadRelayBootstrapResponse where
  endpointRecordB64 : String
  authToken : String
  caCertificateB64 : String
  deriving DecidableEq

/-- What the endpoint answers to a tenant: a body, or a status with an error. The record is absent
if its lock is poisoned. -/
def getWorkloadRelayBootstrap (p : RelayTokenPlatform) (relayBootstrap : Option RelayBootstrap)
    (endpointRecord : Option EndpointRecord) (owner : String) (now : UInt64) :
    Except (Nat × String) WorkloadRelayBootstrapResponse :=
  match relayBootstrap, endpointRecord with
  | none, _ => .error (404, "this proxy does not publish workload relay credentials")
  | some _, none => .error (500, "proxy EndpointRecord lock poisoned")
  | some bootstrap, some record =>
    match deriveTenantRelayToken p bootstrap.meshSecret owner with
    | .error error => .error (400, s!"cannot derive a relay token for that tenant: {error}")
    | .ok authToken =>
      match p.recordBytes record now with
      | .error error => .error (500, s!"failed to encode EndpointRecord: {error}")
      | .ok bytes =>
        .ok ⟨p.b64Encode bytes, authToken, p.b64Encode bootstrap.caCertificateDer⟩

section Tokens
variable {p : RelayTokenPlatform} {meshSecret owner token : String}

theorem deriveTenantRelayToken_ok (h : deriveTenantRelayToken p meshSecret owner = .ok token) :
    '.' ∉ owner.toList ∧ ∃ proof, token = owner ++ "." ++ proof := by
  obtain ⟨_, h⟩ := unit_bind_ok.1 h
  obtain ⟨ho, h⟩ := unit_bind_ok.1 h
  cases h
  rw [ensure_ok, Bool.and_eq_true, Bool.not_eq_true'] at ho
  exact ⟨by simpa using ho.2, _, rfl⟩

theorem splitTenant_token (h : '.' ∉ owner.toList) (proof : String) :
    splitTenant (owner ++ "." ++ proof) = some owner := by
  have hl : (owner ++ "." ++ proof).toList = owner.toList ++ '.' :: proof.toList := by
    simp [String.toList_append]
  have ht : (owner.toList ++ '.' :: proof.toList).takeWhile (· != '.') = owner.toList := by
    rw [List.takeWhile_append_of_pos]
    · simp
    · intro c hc
      simpa using fun he : c = '.' => h (he ▸ hc)
  rw [splitTenant, hl, ht, String.ofList_toList]
  simp

/-- A derived token proves the tenant it was derived for, whoever that is. -/
theorem tenantFromRelayToken_derived (h : deriveTenantRelayToken p meshSecret owner = .ok token) :
    tenantFromRelayToken p meshSecret token = .ok owner := by
  obtain ⟨hd, proof, rfl⟩ := deriveTenantRelayToken_ok h
  rw [tenantFromRelayToken, splitTenant_token hd]
  simp only [h, bind, Except.bind, BEq.rfl, ensure]
  rfl

end Tokens

theorem bootstrap_derives
    (h : getWorkloadRelayBootstrap p (some bootstrap) rcd owner now = .ok resp) :
    deriveTenantRelayToken p bootstrap.meshSecret owner = .ok resp.authToken := by
  cases rcd with
  | none => cases h
  | some rcd =>
    simp only [getWorkloadRelayBootstrap] at h
    split at h
    · cases h
    · next token ht =>
      split at h
      · cases h
      · cases h
        exact ht

/-- The token that the endpoint returns for an owner is admitted for that owner only. It respects
the policy of the relay exactly if the owner is not the name reserved for mesh components. -/
theorem relay_token_respects_policy_iff {owners : List String}
    (h : getWorkloadRelayBootstrap p (some bootstrap) record owner now = .ok response) :
    (∀ tenant, WorkloadRelayAccessControl.admittedTenant p ⟨bootstrap.meshSecret, .only owners⟩
        (some response.authToken) = some tenant →
      tenant = owner ∧ owner ∈ owners ∧ tenant ≠ meshComponentTenant) ↔
      owner ≠ meshComponentTenant := by
  have ht := tenantFromRelayToken_derived (bootstrap_derives h)
  have ha : WorkloadRelayAccessControl.admittedTenant p ⟨bootstrap.meshSecret, .only owners⟩
      (some response.authToken) =
      if (RelayTenantPolicy.only owners).admits owner then some owner else none := by
    simp [WorkloadRelayAccessControl.admittedTenant, ht, Except.toOption]
  rw [ha]
  constructor
  · rintro hc rfl
    exact (hc meshComponentTenant (if_pos rfl)).2.2 rfl
  · intro hne tenant hs
    simp only [RelayTenantPolicy.admits, if_neg hne, List.contains_iff_mem] at hs
    split at hs
    · next hm =>
      cases hs
      exact ⟨rfl, hm, hne⟩
    · cases hs

namespace RelaySample

def platform : RelayTokenPlatform := ⟨fun _ => "proof", fun _ _ => [], id, fun _ _ => .ok [1]⟩

def bootstrap : RelayBootstrap := ⟨"0123456789abcdef0123456789abcdef", []⟩

def record : EndpointRecord where
  version := 1
  endpointId := []
  relayUrl := none
  directAddresses := []
  signingPubkey := ""
  issuedAtSecs := 0
  expiresAtSecs := 0
  signature := ""

def answer (owner : String) : Except (Nat × String) WorkloadRelayBootstrapResponse :=
  getWorkloadRelayBootstrap platform (some bootstrap) (some record) owner 0

end RelaySample

open RelaySample in
/-- The relay serves no tenant at all, and still admits the token that anybody gets by naming the
mesh component as owner. -/
theorem mesh_component_token_published :
    answer meshComponentTenant = .ok ⟨"proof", meshComponentTenant ++ ".proof", "proof"⟩ ∧
      WorkloadRelayAccessControl.admittedTenant platform ⟨bootstrap.meshSecret, .only []⟩
        (some (meshComponentTenant ++ ".proof")) = some meshComponentTenant := by
  decide +kernel

open RelaySample in
theorem relay_token_respects_policy_iff_tenant :
    answer "T" = .ok ⟨"proof", "T.proof", "proof"⟩ ∧
    ∀ tenant, WorkloadRelayAccessControl.admittedTenant platform ⟨bootstrap.meshSecret, .only ["T"]⟩
        (some "T.proof") = some tenant →
      tenant = "T" ∧ "T" ∈ ["T"] ∧ tenant ≠ meshComponentTenant := by
  have h : answer "T" = .ok ⟨"proof", "T.proof", "proof"⟩ := by decide +kernel
  exact ⟨h, (relay_token_respects_policy_iff h).2 (by decide)⟩

end Podmesh
