import Podmesh.Lib.Assoc
import Podmesh.Protocol.Identity

namespace Podmesh

def WorkloadIdentity.fromBytes (p : TokenPlatform) (value : Bytes) :
    Except String WorkloadIdentity :=
  decodeBounded p.identityFromJson value maxWorkloadIdentityBytes

structure ProvenTenant where
  ownerPubkey : String
  manifestId : String
  credential : Bytes
  deriving DecidableEq

structure TenantSession where
  stableId : Nat
  tenant : Option ProvenTenant
  deriving DecidableEq

/-- Proven tenancy per open connection, by the endpoint that the transport authenticated. -/
abbrev TenantSessions := AList fun _ : String => TenantSession

namespace ProvenTenant
variable (p : TokenPlatform)

def identity (self : ProvenTenant) : Except String WorkloadIdentity :=
  WorkloadIdentity.fromBytes p self.credential

/-- The credential authorizes the endpoint for the owner and manifest it was proven for. -/
def authorize (self : ProvenTenant) (endpoint : String) (now : UInt64) :
    Except String WorkloadIdentity := do
  let identity ← self.identity p
  let signingKey ← p.b64Decode identity.claims.signingPublicKeyB64
  identity.verifySession p self.ownerPubkey self.manifestId endpoint signingKey now
  return identity

/-- A renewal keeps the tenant, the workload and the application key of what it replaces. -/
def checkRenewal (old new : ProvenTenant) (identity : WorkloadIdentity) : Except String Unit := do
  let previous ← old.identity p
  ensure (old.ownerPubkey == new.ownerPubkey && old.manifestId == new.manifestId
      && previous.delegation.scope.workloadId == identity.delegation.scope.workloadId
      && previous.claims.signingPublicKeyB64 == identity.claims.signingPublicKeyB64)
    "workload renewal changes proven identity"
  ensure (identity.claims.issuedAtSecs.toNat ≥ previous.claims.issuedAtSecs.toNat
      && identity.claims.expiresAtSecs.toNat ≥ previous.claims.expiresAtSecs.toNat)
    "workload renewal regresses authority"

end ProvenTenant

namespace TenantSessions

/-- `TenantSessions::begin`: starts tracking one accepted transport connection. -/
def start (sessions : TenantSessions) (endpoint : String) (stableId : Nat) :
    Except String TenantSessions := do
  ensure (sessions.lookup endpoint).isNone "endpoint already has an active connection"
  return sessions.insert endpoint ⟨stableId, none⟩

def proven (sessions : TenantSessions) (endpoint : String) (stableId : Nat) : Option ProvenTenant :=
  (sessions.lookup endpoint).bind fun session =>
    if session.stableId = stableId then session.tenant else none

def current (sessions : TenantSessions) (endpoint : String) (stableId : Nat) :
    Except String TenantSession :=
  match sessions.lookup endpoint with
  | none => .error "connection is no longer active"
  | some session =>
    if session.stableId = stableId then .ok session
    else .error "operation belongs to a stale connection"

def proveBound (p : TokenPlatform) (sessions : TenantSessions) (endpoint : String) (stableId : Nat)
    (tenant : ProvenTenant) (now : UInt64) : Except String TenantSessions := do
  let identity ← tenant.authorize p endpoint now
  let session ← sessions.current endpoint stableId
  match session.tenant with
  | some old => old.checkRenewal p tenant identity
  | none => pure ()
  return sessions.insert endpoint ⟨stableId, some tenant⟩

def provenLive (p : TokenPlatform) (sessions : TenantSessions) (endpoint : String) (stableId : Nat)
    (now : UInt64) : Except String ProvenTenant :=
  match sessions.proven endpoint stableId with
  | none => .error "operation on a connection that proved no tenant"
  | some tenant => do
    let identity ← tenant.identity p
    let signingKey ← p.b64Decode identity.claims.signingPublicKeyB64
    withContext "workload credential is no longer valid"
      (identity.verifySession p tenant.ownerPubkey tenant.manifestId endpoint signingKey now)
    return tenant

def removeIfCurrent (sessions : TenantSessions) (endpoint : String) (stableId : Nat) :
    TenantSessions :=
  if (sessions.lookup endpoint).any fun session => session.stableId = stableId then
    sessions.erase endpoint
  else
    sessions

end TenantSessions

/-- The same owner, manifest, workload and application key, with a window that did not go back. -/
def ProvenTenant.Renews (p : TokenPlatform) (old new : ProvenTenant) : Prop :=
  new.ownerPubkey = old.ownerPubkey ∧ new.manifestId = old.manifestId ∧
    ∃ before after, old.identity p = .ok before ∧ new.identity p = .ok after ∧
      after.delegation.scope.workloadId = before.delegation.scope.workloadId ∧
      after.claims.signingPublicKeyB64 = before.claims.signingPublicKeyB64 ∧
      before.claims.issuedAtSecs.toNat ≤ after.claims.issuedAtSecs.toNat ∧
      before.claims.expiresAtSecs.toNat ≤ after.claims.expiresAtSecs.toNat

namespace ProvenTenant
variable {p : TokenPlatform} {t u v : ProvenTenant} {identity : WorkloadIdentity}

theorem Renews.refl (h : t.identity p = .ok identity) : t.Renews p t :=
  ⟨rfl, rfl, identity, identity, h, h, rfl, rfl, Nat.le_refl _, Nat.le_refl _⟩

theorem Renews.trans (h : t.Renews p u) (h' : u.Renews p v) : t.Renews p v := by
  obtain ⟨ho, hm, a, b, ha, hb, hw, hk, hi, he⟩ := h
  obtain ⟨ho', hm', b', c, hb', hc, hw', hk', hi', he'⟩ := h'
  rw [hb] at hb'
  cases hb'
  exact ⟨ho'.trans ho, hm'.trans hm, a, c, ha, hc, hw'.trans hw, hk'.trans hk, Nat.le_trans hi hi',
    Nat.le_trans he he'⟩

theorem identity_of_authorize (h : t.authorize p ep now = .ok identity) :
    t.identity p = .ok identity := by
  unfold authorize at h
  simp only [bind_ok] at h
  obtain ⟨identity', hi, _, _, _, _, h⟩ := h
  cases h
  exact hi

theorem verify_of_authorize (h : t.authorize p ep now = .ok identity) :
    identity.delegation.scope.tenantOwner = t.ownerPubkey ∧
      identity.delegation.scope.manifestId = t.manifestId ∧
      identity.claims.endpointId = ep ∧ identity.verify p (some now) = .ok () := by
  unfold authorize WorkloadIdentity.verifySession at h
  simp only [bind_ok, ensure_ok, exists_const, Bool.and_eq_true, beq_iff_eq] at h
  obtain ⟨identity', hi, key, _, _, ⟨hs, he, _, hv⟩, h⟩ := h
  cases h
  exact ⟨hs.1, hs.2, he, hv⟩

theorem renews_of_checkRenewal (h : t.checkRenewal p u identity = .ok ())
    (hu : u.identity p = .ok identity) : t.Renews p u := by
  unfold checkRenewal at h
  simp only [bind_ok, ensure_ok, exists_const, Bool.and_eq_true, beq_iff_eq, decide_eq_true_eq] at h
  obtain ⟨previous, hp, ⟨⟨⟨ho, hm⟩, hw⟩, hk⟩, hi, he⟩ := h
  exact ⟨ho.symm, hm.symm, previous, identity, hp, hu, hw.symm, hk.symm, hi, he⟩

end ProvenTenant

namespace TenantSessions
variable {p : TokenPlatform} {sessions : TenantSessions}

theorem current_ok (h : sessions.current endpoint stableId = .ok sn) :
    sessions.lookup endpoint = some sn ∧ sn.stableId = stableId := by
  unfold current at h
  split at h
  · cases h
  · next sn' hl =>
    split at h
    · next hid =>
      cases h
      exact ⟨hl, hid⟩
    · cases h

theorem proveBound_ok (h : sessions.proveBound p ep sid tenant now = .ok sessions') :
    ∃ session identity, sessions.lookup ep = some session ∧ session.stableId = sid ∧
      sessions' = sessions.insert ep ⟨sid, some tenant⟩ ∧ tenant.identity p = .ok identity ∧ ∀ old,
      session.tenant = some old → old.Renews p tenant := by
  unfold proveBound at h
  simp only [bind_ok] at h
  obtain ⟨identity, ha, session, hc, h⟩ := h
  obtain ⟨hl, hid⟩ := current_ok hc
  have hi := ProvenTenant.identity_of_authorize ha
  cases ht : session.tenant with
  | none =>
    simp only [ht] at h
    cases h
    exact ⟨session, identity, hl, hid, rfl, hi, fun old ho => by
      rw [ht] at ho
      cases ho⟩
  | some old =>
    simp only [ht] at h
    obtain ⟨hr, h⟩ := unit_bind_ok.1 h
    cases h
    refine ⟨session, identity, hl, hid, rfl, hi, ?_⟩
    intro old' ho'
    rw [ht] at ho'
    cases ho'
    exact ProvenTenant.renews_of_checkRenewal hr hi

theorem proven_eq_some : sessions.proven ep sid = some ten ↔
    sessions.lookup ep = some ⟨sid, some ten⟩ := by
  unfold proven
  cases hl : sessions.lookup ep with
  | none => simp
  | some ses =>
    obtain ⟨id, proved⟩ := ses
    by_cases hid : id = sid <;> simp [hid]

theorem provenLive_ok (h : sessions.provenLive p ep sid now = .ok ten) :
    sessions.lookup ep = some ⟨sid, some ten⟩ ∧
      ∃ identity, ten.authorize p ep now = .ok identity := by
  unfold provenLive at h
  split at h
  · cases h
  · next ten' hp =>
    simp only [bind_ok] at h
    obtain ⟨identity, hi, key, hk, _, hv, h⟩ := h
    cases h
    refine ⟨proven_eq_some.1 hp, identity, ?_⟩
    simp only [ProvenTenant.authorize, bind_ok]
    exact ⟨identity, hi, key, hk, (), withContext_ok.1 hv, rfl⟩

theorem removeIfCurrent_eq (h : sessions.lookup endpoint = some ses) (hid : ses.stableId = sid) :
    sessions.removeIfCurrent endpoint sid = sessions.erase endpoint := by
  simp [removeIfCurrent, h, hid]

theorem stale_operation (h : sessions.lookup ep = some ses) (hid : ses.stableId ≠ sid) :
    sessions.proven ep sid = none ∧
      (∀ ten now, ∃ e, sessions.proveBound p ep sid ten now = .error e) ∧
      sessions.removeIfCurrent ep sid = sessions := by
  refine ⟨by simp [proven, h, hid], ?_, by simp [removeIfCurrent, h, hid]⟩
  intro ten now
  cases hp : sessions.proveBound p ep sid ten now with
  | error e => exact ⟨e, rfl⟩
  | ok sessions' =>
    obtain ⟨ses', _, hl, hi', _⟩ := proveBound_ok hp
    rw [h] at hl
    cases hl
    exact absurd hi' hid

end TenantSessions
end Podmesh
