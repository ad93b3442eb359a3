import Podmesh.Proxy.Pairing
import Podmesh.Proxy.Reference

namespace Podmesh

namespace RouteTable

variable {self : RouteTable}

theorem entry_of_select (h : (self.select mid path host).2.byManifest.lookup m = some entry) :
    ∃ old, self.byManifest.lookup m = some old ∧ entry = { old with cursor := entry.cursor } := by
  have hk : self.byManifest.lookup m = some entry →
      ∃ old, self.byManifest.lookup m = some old ∧ entry = { old with cursor := entry.cursor } := by
    intro h
    exact ⟨entry, h, rfl⟩
  unfold select at h
  split at h
  · exact hk h
  · next chosen hc =>
    simp only at h
    split at h
    · exact hk h
    · rcases Assoc.lookup_insert_cases h with ⟨rfl, rfl⟩ | ⟨_, h⟩
      · exact ⟨chosen, hc, rfl⟩
      · exact hk h

theorem select_hostClaims : (self.select mid path host).2.hostClaims = self.hostClaims := by
  unfold select
  split
  · rfl
  · simp only
    split <;> rfl

theorem entry_of_installed (how : self.Unowned reg.ownerPubkey reg.manifestId)
    (hm : (self.installed reg regAt).byManifest.lookup m = some entry) :
    (m = reg.manifestId ∧ entry.ownerPubkey = reg.ownerPubkey ∧
      entry.workloadName = reg.workloadName) ∨ ∃ old, self.byManifest.lookup m = some old ∧
      old.ownerPubkey = entry.ownerPubkey ∧ old.workloadName = entry.workloadName := by
  rcases Assoc.lookup_insert_cases hm with ⟨rfl, rfl⟩ | ⟨_, hm⟩
  · have ho := refreshed_ownerPubkey how regAt
    cases hol : self.byManifest.lookup reg.manifestId with
    | none =>
      refine .inl ⟨rfl, ho, ?_⟩
      simp [refreshed, hol, SidecarRegistration.emptyEntry]
    | some old =>
      refine .inr ⟨old, rfl, (how old hol).trans ho.symm, ?_⟩
      simp [refreshed, hol]
  · exact .inr ⟨entry, hm, rfl, rfl⟩

structure Traced (installs : List Install) (table : RouteTable) : Prop where
  backend : ∀ m entry r b, table.byManifest.lookup m = some entry →
    entry.backends.lookup r = some b → ∃ i ∈ installs, i.registration.manifestId = m ∧
      i.registration.replicaIndex = r ∧ i.registration.ownerPubkey = entry.ownerPubkey ∧
      b = i.registration.backend i.registeredAt
  entry : ∀ m entry, table.byManifest.lookup m = some entry → ∃ i ∈ installs,
    i.registration.manifestId = m ∧ i.registration.ownerPubkey = entry.ownerPubkey ∧
      i.registration.workloadName = entry.workloadName
  claim : ∀ host c, table.hostClaims.lookup host = some c → ∃ i ∈ installs,
    c = i.registration.claim i.registeredAt ∧
      ∃ named ∈ i.registration.hosts, toAsciiLowercase named = host

theorem Traced.empty : Traced [] .empty where
  backend := by
    intro _ _ _ _ h
    cases h
  entry := by
    intro _ _ h
    cases h
  claim := by
    intro _ _ h
    cases h

theorem Traced.installed (h : Traced installs self) (i : Install)
    (how : self.Unowned i.registration.ownerPubkey i.registration.manifestId) :
    Traced (i :: installs) (self.installed i.registration i.registeredAt) where
  backend := by
    intro m entry r b hm hb
    rcases backend_of_installed how hm hb with ⟨rfl, rfl, rfl, ho⟩ | ⟨old, hol, ho, hb⟩
    · exact ⟨i, List.mem_cons_self, rfl, rfl, ho.symm, rfl⟩
    · obtain ⟨j, hj, hjm, hjr, hjo, hjb⟩ := h.backend m old r b hol hb
      exact ⟨j, List.mem_cons_of_mem _ hj, hjm, hjr, hjo.trans ho, hjb⟩
  entry := by
    intro m entry hm
    rcases entry_of_installed how hm with ⟨rfl, ho, hn⟩ | ⟨old, hol, ho, hn⟩
    · exact ⟨i, List.mem_cons_self, rfl, ho.symm, hn.symm⟩
    · obtain ⟨j, hj, hjm, hjo, hjn⟩ := h.entry m old hol
      exact ⟨j, List.mem_cons_of_mem _ hj, hjm, hjo.trans ho, hjn.trans hn⟩
  claim := by
    intro host c hc
    rw [RouteTable.installed, claimed, lookup_foldl_claims] at hc
    split at hc
    · next hnm =>
      cases hc
      exact ⟨i, List.mem_cons_self, rfl, hnm⟩
    · obtain ⟨j, hj, hjc⟩ := h.claim host c hc
      exact ⟨j, List.mem_cons_of_mem _ hj, hjc⟩

theorem Traced.prune (h : Traced installs self) : Traced installs (self.prune nowMs ttl) where
  backend := by
    intro m entry r b hm hb
    obtain ⟨old, ho, rfl⟩ := entry_of_prune hm
    exact h.backend m old r b ho (pruneEntry_backend.1 hb).1
  entry := by
    intro m entry hm
    obtain ⟨old, ho, rfl⟩ := entry_of_prune hm
    exact h.entry m old ho
  claim := by
    intro host c hc
    exact h.claim host c (prune_claim.1 hc).1

theorem Traced.select (h : Traced installs self) :
    Traced installs (self.select mid path requested).2 where
  backend := by
    intro m entry r b hm hb
    obtain ⟨old, ho, he⟩ := entry_of_select hm
    rw [he] at hb ⊢
    exact h.backend m old r b ho hb
  entry := by
    intro m entry hm
    obtain ⟨old, ho, he⟩ := entry_of_select hm
    rw [he]
    exact h.entry m old ho
  claim := by
    intro host c hc
    rw [select_hostClaims] at hc
    exact h.claim host c hc

end RouteTable

/-- What the session of a connection proves about a registration on it, at a time. -/
structure Registering.Proof (p : TokenPlatform) (call : Registering) (tenant : ProvenTenant)
    (identity : WorkloadIdentity) (now : UInt64) : Prop where
  valid : call.registration.validate p.toPlatform = .ok ()
  peer : call.registration.sidecarPeerId = call.remote
  owner : tenant.ownerPubkey = call.registration.ownerPubkey
  manifest : tenant.manifestId = call.registration.manifestId
  live : tenant.authorize p call.remote now = .ok identity
  signer : identity.claims.signingPublicKeyB64 = p.b64Encode call.signingKey
  workload : ∃ key, p.b64Decode call.registration.ownerPubkey = .ok key ∧
    identity.delegation.scope.workloadId =
      p.workloadId key call.registration.workloadName call.registration.replicaIndex

theorem checkTenant_ok {registration : SidecarRegistration}
    (h : checkTenant p sessions registration remote stableId now = .ok ()) :
    ∃ tenant identity, sessions.lookup remote = some ⟨stableId, some tenant⟩ ∧
      tenant.identity p = .ok identity ∧
      ∀ id sk, identity.claims.signingPublicKeyB64 = p.b64Encode sk →
        Registering.Proof p ⟨id, remote, stableId, registration, sk⟩ tenant identity now := by
  simp only [checkTenant, bind_ok, ensure_ok, exists_const, beq_iff_eq] at h
  obtain ⟨_, hv, hp, tenant, hl, ho, hm, identity, hi, key, hk, hw⟩ := h
  obtain ⟨hs, identity', ha⟩ := TenantSessions.provenLive_ok hl
  have hsm := ProvenTenant.identity_of_authorize ha
  rw [ProvenTenant.identity, hi] at hsm
  cases hsm
  refine ⟨tenant, identity, hs, hi, ?_⟩
  intro id sk hsg
  exact {
    valid := hv
    peer := hp
    owner := ho
    manifest := hm
    live := ha
    signer := hsg
    workload := ⟨key, hk, hw⟩ }

namespace ProxyState
variable {p : ProxyPlatform} {localId : String} {start w w' : ProxyState} {c : Registering}

def At (w : ProxyState) (c : Registering) (phase : SidecarRegistration → Bytes → StreamPhase) :
    Prop :=
  w.streams.lookup c.stream = some ⟨c.remote, c.stableId, phase c.registration c.signingKey⟩

/-- The moment at which a registration stream checks the session of its connection. -/
def ProvedIn (p : ProxyPlatform) (w : ProxyState) (c : Registering) : Prop :=
  w.At c .keyed ∧ ∃ tenant identity now,
    w.links.sessions.lookup c.remote = some ⟨c.stableId, some tenant⟩ ∧
      c.Proof p.toTokenPlatform tenant identity now

/-- The moment at which a registration stream finds a live grant of its owner. -/
def GrantedIn (p : ProxyPlatform) (localId : String) (w : ProxyState) (c : Registering) : Prop :=
  w.At c .proven ∧ ∃ now,
    w.grants.live p.toTokenPlatform c.registration.ownerPubkey localId now = true

def KeyHeld (p : ProxyPlatform) (w : ProxyState) (c : Registering) : Prop :=
  ∃ tenant identity, tenant.identity p.toTokenPlatform = .ok identity ∧
    identity.claims.signingPublicKeyB64 = p.b64Encode c.signingKey ∧
    Links.Holds p.toTokenPlatform c.remote c.stableId tenant w.links

def TenantHeld (p : ProxyPlatform) (w : ProxyState) (c : Registering) : Prop :=
  ∃ tenant identity, tenant.identity p.toTokenPlatform = .ok identity ∧
    identity.claims.signingPublicKeyB64 = p.b64Encode c.signingKey ∧
    tenant.ownerPubkey = c.registration.ownerPubkey ∧
    tenant.manifestId = c.registration.manifestId ∧
    Links.Holds p.toTokenPlatform c.remote c.stableId tenant w.links

/-- The moments of an install: the session was checked, then the grant, then the routes of the
registration were written, all by one stream. -/
def Authorized (p : ProxyPlatform) (localId : String) (start w : ProxyState) (i : Install) : Prop :=
  ∃ w₀ w₁ w₂ w₃ s,
    Reach (step p localId) Regular start w₀ ∧ ProvedIn p w₀ i.toRegistering ∧
    Reach (step p localId) Regular w₀ w₁ ∧ GrantedIn p localId w₁ i.toRegistering ∧
    Reach (step p localId) Regular w₁ w₂ ∧ w₂.At i.toRegistering .granted ∧
    step p localId w₂ (.stream i.stream s) = some w₃ ∧ w₃.installs = i :: w₂.installs ∧
    Reach (step p localId) Regular w₃ w

theorem at_of_step (hs : step p localId w a = some w') (hat : w'.At c phase)
    (hb : (phase c.registration c.signingKey).bare = false) : w.At c phase ∨
      ∃ bef, w.streams.lookup c.stream = some ⟨c.remote, c.stableId, bef⟩ ∧
        Passed p localId w ⟨c.remote, c.stableId, bef⟩ (phase c.registration c.signingKey) := by
  unfold At at hat ⊢
  cases step_cases hs with
  | @advanced _ _ _ stream _ hst ha =>
    rw [ha.streams] at hat
    rcases Assoc.lookup_insert_cases hat with ⟨rfl, heq⟩ | ⟨_, hat⟩
    · obtain ⟨rem, stableId, bef⟩ := stream
      cases heq
      rcases ha.passed with hn | hps
      · rw [hb] at hn
        cases hn
      · exact .inr ⟨bef, hst, hps⟩
    · exact .inl hat
  | linked => exact .inl hat
  | opened _ _ _ hn =>
    rcases Assoc.lookup_insert_cases hat with ⟨_, heq⟩ | ⟨_, hat⟩
    · have hp := congrArg Stream.phase heq
      simp only at hp
      rw [← hp, hb] at hn
      cases hn
    · exact .inl hat
  | quiet hq =>
    rw [hq.streams] at hat
    exact .inl hat

variable {replay : PeerReplayRegistry}

theorem holds_step (hw : Reach (step p localId) Regular (.init replay) w)
    (hs : step p localId w a = some w') (h : Links.Holds p.toTokenPlatform e sid ten w.links) :
    Links.Holds p.toTokenPlatform e sid ten w'.links := by
  have hb := Links.reach_begun (reach_links hw)
  cases step_cases hs with
  | advanced _ ha =>
    rcases ha.links with hsm | ⟨ten', now, hp⟩
    · rw [hsm]
      exact h
    · exact h.step hb hp
  | linked hl => exact h.step hb hl
  | opened => exact h
  | quiet hq =>
    rw [hq.links]
    exact h

theorem KeyHeld.step (hw : Reach (ProxyState.step p localId) Regular (.init replay) w)
    (hs : ProxyState.step p localId w a = some w') (h : KeyHeld p w c) : KeyHeld p w' c := by
  obtain ⟨ten, identity, hi, hk, hh⟩ := h
  exact ⟨ten, identity, hi, hk, holds_step hw hs hh⟩

theorem TenantHeld.step (hw : Reach (ProxyState.step p localId) Regular (.init replay) w)
    (hs : ProxyState.step p localId w a = some w') (h : TenantHeld p w c) : TenantHeld p w' c := by
  obtain ⟨ten, identity, hi, hk, ho, hm, hh⟩ := h
  exact ⟨ten, identity, hi, hk, ho, hm, holds_step hw hs hh⟩

theorem provedIn_of_checkTenant
    (hw : Reach (step p localId) Regular (.init replay) w) (hat : w.At c .keyed)
    (hk : KeyHeld p w c)
    (h : Podmesh.checkTenant p.toTokenPlatform w.links.sessions c.registration c.remote c.stableId
      now = .ok ()) : ProvedIn p w c ∧ TenantHeld p w c := by
  obtain ⟨tenant, identity, hs, hi, hp⟩ := checkTenant_ok h
  obtain ⟨held, before, hb, hsg, hh⟩ := hk
  -- what the session has now renews what it had when the key was checked
  obtain ⟨tenant', ht', hr⟩ := hh.2 _ hs rfl
  cases ht'
  obtain ⟨_, _, before', after, hb', ha, _, hsm, _⟩ := hr
  rw [hb] at hb'
  cases hb'
  rw [hi] at ha
  cases ha
  have hs' := hsm.trans hsg
  have hp := hp c.stream c.signingKey hs'
  have hn := Links.holds_of_session (Links.reach_begun (reach_links hw)) hs
  exact ⟨⟨hat, tenant, identity, now, hs, hp⟩, tenant, identity, hi, hs', hp.owner, hp.manifest, hn⟩

structure Sound (p : ProxyPlatform) (localId : String) (start w : ProxyState) : Prop where
  keyed : ∀ c, w.At c .keyed → KeyHeld p w c
  proven : ∀ c, w.At c .proven → TenantHeld p w c ∧ ∃ w₀,
    Reach (step p localId) Regular start w₀ ∧ ProvedIn p w₀ c ∧
    Reach (step p localId) Regular w₀ w
  granted : ∀ c, w.At c .granted → TenantHeld p w c ∧ ∃ w₀ w₁,
    Reach (step p localId) Regular start w₀ ∧ ProvedIn p w₀ c ∧
    Reach (step p localId) Regular w₀ w₁ ∧ GrantedIn p localId w₁ c ∧
    Reach (step p localId) Regular w₁ w
  installed : ∀ i ∈ w.installs, TenantHeld p w i.toRegistering ∧ Authorized p localId start w i
  traced : w.routes.Traced w.installs

theorem Authorized.next (h : Authorized p localId start w i) (ha : Regular w a)
    (hs : step p localId w a = some w') : Authorized p localId start w' i := by
  obtain ⟨w₀, w₁, w₂, w₃, s, h₀, hp, h₁, hg, h₂, hat, hi, hl, h₃⟩ := h
  exact ⟨w₀, w₁, w₂, w₃, s, h₀, hp, h₁, hg, h₂, hat, hi, hl, h₃.next ha hs⟩

theorem installs_of_step (hs : step p localId w a = some w') (ht : w.routes.Traced w.installs) :
    (w'.installs = w.installs ∧ w'.routes.Traced w'.installs) ∨
    ∃ i s, a = .stream i.stream s ∧ w.At i.toRegistering .granted ∧
      w'.installs = i :: w.installs ∧ w'.routes.Traced w'.installs := by
  cases step_cases hs with
  | @advanced _ s id stream _ hst ha =>
    rcases ha.routes with ⟨hr, hi⟩ |
      ⟨registration, signingKey, nowMillis, hp, hi, hr, ho, _⟩
    · rw [hr, hi]
      exact .inl ⟨rfl, ht⟩
    · refine .inr ⟨⟨⟨id, stream.remote, stream.stableId, registration, signingKey⟩, nowMillis⟩, s,
        rfl, ?_, hi, ?_⟩
      · obtain ⟨rem, stableId, bef⟩ := stream
        cases hp
        exact hst
      · rw [hr, hi]
        exact ht.installed _ ho
  | linked | opened => exact .inl ⟨rfl, ht⟩
  | quiet hq =>
    refine .inl ⟨hq.installs, ?_⟩
    rw [hq.installs]
    rcases hq.routes with hr | ⟨nowMillis, ttl, hr⟩ | ⟨mid, path, host, hr⟩
    · rw [hr]
      exact ht
    · rw [hr]
      exact ht.prune
    · rw [hr]
      exact ht.select

theorem Sound.step (h : Sound p localId (.init replay) w)
    (hw : Reach (ProxyState.step p localId) Regular (.init replay) w) (ha : Regular w a)
    (hs : ProxyState.step p localId w a = some w') : Sound p localId (.init replay) w' where
  keyed := by
    intro c hat
    rcases at_of_step hs hat rfl with ho | ⟨bef, hb, hps⟩
    · exact (h.keyed c ho).step hw hs
    · cases hps with
      | keyed _ hc =>
        simp only [checkSigningKey, bind_ok, ensure_ok, beq_iff_eq] at hc
        obtain ⟨ten, hl, identity, hid, hk⟩ := hc
        have hss := (TenantSessions.provenLive_ok hl).1
        have hhl := Links.holds_of_session (Links.reach_begun (reach_links hw)) hss
        exact ⟨ten, identity, hid, hk, holds_step hw hs hhl⟩
  proven := by
    intro c hat
    rcases at_of_step hs hat rfl with ho | ⟨bef, hb, hps⟩
    · obtain ⟨hh, w₀, h₀, hp, h₁⟩ := h.proven c ho
      exact ⟨hh.step hw hs, w₀, h₀, hp, h₁.next ha hs⟩
    · cases hps with
      | proven hph hc =>
        cases hph
        obtain ⟨hp, hh⟩ := provedIn_of_checkTenant hw hb (h.keyed c hb) hc
        exact ⟨hh.step hw hs, w, hw, hp, Reach.start.next ha hs⟩
  granted := by
    intro c hat
    rcases at_of_step hs hat rfl with ho | ⟨bef, hb, hps⟩
    · obtain ⟨hh, w₀, w₁, h₀, hp, h₁, hg, h₂⟩ := h.granted c ho
      exact ⟨hh.step hw hs, w₀, w₁, h₀, hp, h₁, hg, h₂.next ha hs⟩
    · cases hps with
      | granted hph hl =>
        cases hph
        obtain ⟨hh, w₀, h₀, hp, h₁⟩ := h.proven c hb
        exact ⟨hh.step hw hs, w₀, w, h₀, hp, h₁, ⟨hb, _, hl⟩, Reach.start.next ha hs⟩
  installed := by
    intro i hi
    rcases installs_of_step hs h.traced with ⟨hsm, _⟩ | ⟨j, s, rfl, hat, hin, _⟩
    · rw [hsm] at hi
      obtain ⟨hh, hau⟩ := h.installed i hi
      exact ⟨hh.step hw hs, hau.next ha hs⟩
    · rw [hin] at hi
      rcases List.mem_cons.1 hi with rfl | hi
      · obtain ⟨hh, w₀, w₁, h₀, hp, h₁, hg, h₂⟩ := h.granted _ hat
        exact ⟨hh.step hw hs, w₀, w₁, w, w', s, h₀, hp, h₁, hg, h₂, hat, hs, hin, .start⟩
      · obtain ⟨hh, hau⟩ := h.installed i hi
        exact ⟨hh.step hw hs, hau.next ha hs⟩
  traced := by
    rcases installs_of_step hs h.traced with ⟨_, ht⟩ | ⟨_, _, _, _, _, ht⟩
    · exact ht
    · exact ht

theorem reach_sound
    (h : Reach (step p localId) Regular (.init replay) w) : Sound p localId (.init replay) w := by
  apply Reach.invariant (Sound p localId (.init replay)) _ _ h
  · constructor
    · intro _ hat
      cases hat
    · intro _ hat
      cases hat
    · intro _ hat
      cases hat
    · intro _ hi
      cases hi
    · exact .empty
  · intro w a w' hw ih ha hs
    exact ih.step hw ha hs

/-- The registrations of a run have no routing key in common unless they have the owner and the name
in common. -/
def CollisionFree (p : Platform) (w : ProxyState) : Prop :=
  ∀ i ∈ w.installs, ∀ j ∈ w.installs, ∀ a b,
    p.b64Decode i.registration.ownerPubkey = .ok a →
    p.b64Decode j.registration.ownerPubkey = .ok b →
    p.routeId a i.registration.workloadName = p.routeId b j.registration.workloadName →
    a = b ∧ i.registration.workloadName = j.registration.workloadName

structure Serves (i : Install) (m : String) (entry : SidecarRouteEntry) (r : UInt32) (b : Backend) :
    Prop where
  manifest : i.registration.manifestId = m
  owner : i.registration.ownerPubkey = entry.ownerPubkey
  name : i.registration.workloadName = entry.workloadName
  replica : i.registration.replicaIndex = r
  backend : b = i.registration.backend i.registeredAt
  peer : i.remote = b.sidecarPeerId

/-- The session of a registration's connection holds a live identity for the owner, manifest,
workload, endpoint and application key of the registration, on the authority of the owner. -/
def SessionAuthorizes (p : ProxyPlatform) (signed : Bytes → List Biscuit.Fact → Prop)
    (w : ProxyState) (c : Registering) : Prop :=
  (∃ id link, w.links.tasks.lookup id = some link ∧ link.remote = c.remote ∧
    link.stableId = c.stableId) ∧
  ∃ tenant identity now, w.links.sessions.lookup c.remote = some ⟨c.stableId, some tenant⟩ ∧
    c.Proof p.toTokenPlatform tenant identity now ∧ identity.claims.endpointId = c.remote ∧
    identity.Nested p.toTokenPlatform signed now

/-- The proxy holds a live grant that the owner of a registration signed. -/
def GrantAuthorizes (p : ProxyPlatform) (localId : String)
    (signed : Bytes → List Biscuit.Fact → Prop) (w : ProxyState) (c : Registering) : Prop :=
  ∃ now, w.grants.live p.toTokenPlatform c.registration.ownerPubkey localId now = true ∧
    Granted p.toTokenPlatform signed c.registration.ownerPubkey localId now

theorem ProvedIn.authorizes (hu : p.Unforgeable signed)
    (hp : Plain signed) (hw : Reach (step p localId) Regular (.init replay) w)
    (h : ProvedIn p w c) : SessionAuthorizes p signed w c := by
  obtain ⟨_, tenant, identity, now, hs, hpr⟩ := h
  obtain ⟨_, _, he, hv⟩ := ProvenTenant.verify_of_authorize hpr.live
  obtain ⟨id, link, hl, hr, hid, _⟩ :=
    (Links.reach_begun (reach_links hw)).owned c.remote _ hs
  exact ⟨⟨id, link, hl, hr, hid⟩, tenant, identity, now, hs, hpr, he,
    WorkloadIdentity.nested_of_verify hu hp hv⟩

theorem GrantedIn.authorizes (hu : p.Unforgeable signed) (hg : PlainGrants signed)
    (h : GrantedIn p localId w c) : GrantAuthorizes p localId signed w c := by
  obtain ⟨_, now, hl⟩ := h
  exact ⟨now, hl, ProxyGrantStore.granted_of_live hu hg hl⟩

theorem Authorized.routeId (h : Authorized p localId start w i) :
    ∃ key, p.b64Decode i.registration.ownerPubkey = .ok key ∧
      i.registration.manifestId = p.routeId key i.registration.workloadName := by
  obtain ⟨_, _, _, _, _, _, ⟨_, _, _, _, _, hp⟩, _⟩ := h
  exact SidecarRegistration.validate_routeId hp.valid

theorem Sound.serves (h : Sound p localId start w) (hc : CollisionFree p.toPlatform w)
    (hm : w.routes.byManifest.lookup m = some entry) (hb : entry.backends.lookup r = some b) :
    ∃ i ∈ w.installs, Serves i m entry r b ∧ Authorized p localId start w i := by
  obtain ⟨i, hi, him, hir, hio, hib⟩ := h.traced.backend m entry r b hm hb
  obtain ⟨j, hj, hjm, hjo, hjn⟩ := h.traced.entry m entry hm
  have ha := (h.installed i hi).2
  obtain ⟨key, hk, hr⟩ := ha.routeId
  obtain ⟨key', hk', hr'⟩ := (h.installed j hj).2.routeId
  have hn := (hc i hi j hj key key' hk hk' (by rw [← hr, ← hr', him, hjm])).2
  obtain ⟨_, _, _, _, _, _, ⟨_, _, _, _, _, hp⟩, _⟩ := id ha
  refine ⟨i, hi, ?_, ha⟩
  exact {
    manifest := him
    owner := hio
    name := hn.trans hjn
    replica := hir
    backend := hib
    peer := by
      rw [hib]
      exact hp.peer.symm }

theorem registered_backends_were_authorized (p : ProxyPlatform) (localId : String)
    (replay : PeerReplayRegistry) (signed : Bytes → List Biscuit.Fact → Prop)
    (hu : p.Unforgeable signed) (hp : Plain signed) (hg : PlainGrants signed)
    (h : Reach (step p localId) Regular (.init replay) w) (hc : CollisionFree p.toPlatform w)
    (hm : w.routes.byManifest.lookup m = some entry) (hb : entry.backends.lookup r = some b) :
    ∃ i ∈ w.installs, Serves i m entry r b ∧ ∃ w₀ w₁ w₂ w₃ s,
      Reach (step p localId) Regular (.init replay) w₀ ∧
      w₀.At i.toRegistering .keyed ∧ SessionAuthorizes p signed w₀ i.toRegistering ∧
      Reach (step p localId) Regular w₀ w₁ ∧
      w₁.At i.toRegistering .proven ∧ GrantAuthorizes p localId signed w₁ i.toRegistering ∧
      Reach (step p localId) Regular w₁ w₂ ∧
      w₂.At i.toRegistering .granted ∧ step p localId w₂ (.stream i.stream s) = some w₃ ∧
      w₃.installs = i :: w₂.installs ∧ Reach (step p localId) Regular w₃ w := by
  obtain ⟨i, hi, hs, w₀, w₁, w₂, w₃, s, h₀, hpr, h₁, hgr, h₂, hat, hin, hl, h₃⟩ :=
    (reach_sound h).serves hc hm hb
  exact ⟨i, hi, hs, w₀, w₁, w₂, w₃, s, h₀, hpr.1, hpr.authorizes hu hp h₀, h₁,
    hgr.1, hgr.authorizes hu hg, h₂, hat, hin, hl, h₃⟩

/-- The session of its connection was checked for the registration, in this state or before. -/
def Vetted (w : ProxyState) (c : Registering) : Prop :=
  w.At c .proven ∨ w.At c .granted ∨ ∃ i ∈ w.installs, i.toRegistering = c

theorem Sound.held (h : Sound p localId start w) (hv : w.Vetted c) : TenantHeld p w c := by
  rcases hv with hat | hat | ⟨i, hi, rfl⟩
  · exact (h.proven c hat).1
  · exact (h.granted c hat).1
  · exact (h.installed i hi).1

theorem vetted_of_step (hw : Reach (step p localId) Regular (.init replay) w)
    (hs : step p localId w a = some w') (hv : w'.Vetted c) :
    w.Vetted c ∨ ProvedIn p w c ∧ TenantHeld p w c := by
  have h := reach_sound hw
  rcases hv with hat | hat | ⟨i, hi, rfl⟩
  · rcases at_of_step hs hat rfl with ho | ⟨bef, hb, hps⟩
    · exact .inl (.inl ho)
    · cases hps with
      | proven hph hc =>
        cases hph
        exact .inr (provedIn_of_checkTenant hw hb (h.keyed c hb) hc)
  · rcases at_of_step hs hat rfl with ho | ⟨bef, hb, hps⟩
    · exact .inl (.inr (.inl ho))
    · cases hps with
      | granted hph =>
        cases hph
        exact .inl (.inl hb)
  · rcases installs_of_step hs h.traced with ⟨hsm, _⟩ | ⟨j, s, _, hat, hin, _⟩
    · rw [hsm] at hi
      exact .inl (.inr (.inr ⟨i, hi, rfl⟩))
    · rw [hin] at hi
      rcases List.mem_cons.1 hi with rfl | hi
      · exact .inl (.inr (.inl hat))
      · exact .inl (.inr (.inr ⟨i, hi, rfl⟩))

def SameTenant (p : ProxyPlatform) (c d : Registering) : Prop :=
  c.registration.ownerPubkey = d.registration.ownerPubkey ∧
    c.registration.manifestId = d.registration.manifestId ∧
    p.b64Encode c.signingKey = p.b64Encode d.signingKey

theorem ProvedIn.sameTenant (hc : ProvedIn p w c) (hd : TenantHeld p w d)
    (hr : c.remote = d.remote) (hid : c.stableId = d.stableId) : SameTenant p c d := by
  obtain ⟨_, tenant, identity, now, hs, hp⟩ := hc
  obtain ⟨held, before, hb, hk, ho, hm, hh⟩ := hd
  rw [hr, hid] at hs
  -- what the session has proved by now renews what it had proved for `d`
  obtain ⟨_, ht, hro, hrm, before', after, hb', ha, _, hsk, _⟩ := hh.2 _ hs rfl
  cases ht
  rw [hb] at hb'
  cases hb'
  rw [ProvenTenant.identity_of_authorize hp.live] at ha
  cases ha
  exact ⟨hp.owner.symm.trans (hro.trans ho), hp.manifest.symm.trans (hrm.trans hm),
    hp.signer.symm.trans (hsk.trans hk)⟩

/-- A connection registers routes for one tenant only, and with one application key. -/
theorem one_tenant_per_connection (h : Reach (step p localId) Regular (.init replay) w) :
    ∀ c d, w.Vetted c → w.Vetted d → c.remote = d.remote → c.stableId = d.stableId →
      SameTenant p c d := by
  apply Reach.invariant _ _ _ h
  · intro c d hc
    rcases hc with hc | hc | ⟨i, hi, _⟩
    · cases hc
    · cases hc
    · cases hi
  · intro w a w' hw ih _ hs c d hc hd hr hid
    have hh := reach_sound hw
    rcases vetted_of_step hw hs hc with hc | ⟨hc, hch⟩
    · rcases vetted_of_step hw hs hd with hd | ⟨hd, _⟩
      · exact ih c d hc hd hr hid
      · obtain ⟨ho, hm, hk⟩ := hd.sameTenant (hh.held hc) hr.symm hid.symm
        exact ⟨ho.symm, hm.symm, hk.symm⟩
    · rcases vetted_of_step hw hs hd with hd | ⟨_, hd⟩
      · exact hc.sameTenant (hh.held hd) hr hid
      · exact hc.sameTenant hd hr hid

end ProxyState

namespace ProxyState
open ProxyReference

def sampleInstall : Install := ⟨⟨1, peer 1, 7, registration 1, signer 1⟩, 100000⟩

/-- A connection that ends after its session was checked still gets its routes installed, when it
has no session any more. -/
theorem install_after_departure : ∃ w₂ w₃ i s,
    Reach (step platform localId) Regular start w₂ ∧
    step platform localId w₂ (.stream i.stream s) = some w₃ ∧ w₃.installs = i :: w₂.installs ∧
    (∃ entry b, w₃.routes.byManifest.lookup (manifest 1) = some entry ∧
      entry.backends.lookup 0 = some b ∧ b.sidecarPeerId = i.remote) ∧
    w₂.links.sessions.lookup i.remote = none ∧ w₂.links.connections.lookup i.remote = none := by
  obtain ⟨w₂, hr, hs, hc, w₃, hst, hi, entry, he, b, hb, hp⟩ :=
    exists_reach_of_run (step platform localId) Regular start
      (arrive 1 7 0 ++ registerChecks 1 1 7 1 ++ depart 7)
      (fun w₂ => w₂.links.sessions.lookup (peer 1) = none ∧
        w₂.links.connections.lookup (peer 1) = none ∧
        ∃ w₃, step platform localId w₂ (.stream 1 (.install 100000)) = some w₃ ∧
          w₃.installs = sampleInstall :: w₂.installs ∧
          ∃ entry, w₃.routes.byManifest.lookup (manifest 1) = some entry ∧
            ∃ b, entry.backends.lookup 0 = some b ∧ b.sidecarPeerId = peer 1) (by decide +kernel)
  exact ⟨w₂, w₃, sampleInstall, _, hr, hst, hi, ⟨entry, b, he, hb, hp⟩, hs, hc⟩

/-- A backend of the first tenant, with the moments of its install. -/
theorem registered_backends_sample : ∃ w entry b,
    Reach (step platform localId) Regular start w ∧
    w.routes.byManifest.lookup (manifest 1) = some entry ∧ entry.backends.lookup 0 = some b ∧
    ∃ i ∈ w.installs, Serves i (manifest 1) entry 0 b ∧ ∃ w₀ w₁ w₂ w₃ s,
      Reach (step platform localId) Regular start w₀ ∧
      w₀.At i.toRegistering .keyed ∧ SessionAuthorizes platform signed w₀ i.toRegistering ∧
      Reach (step platform localId) Regular w₀ w₁ ∧
      w₁.At i.toRegistering .proven ∧ GrantAuthorizes platform localId signed w₁ i.toRegistering ∧
      Reach (step platform localId) Regular w₁ w₂ ∧
      w₂.At i.toRegistering .granted ∧ step platform localId w₂ (.stream i.stream s) = some w₃ ∧
      w₃.installs = i :: w₂.installs ∧ Reach (step platform localId) Regular w₃ w := by
  obtain ⟨w, hr, hin, entry, he, hb⟩ := exists_reach_of_run (step platform localId)
    Regular start (arrive 1 7 0 ++ registerChecks 1 1 7 1 ++ [.stream 1 (.install 100000)])
    (fun w => w.installs = [sampleInstall] ∧
      ∃ entry, w.routes.byManifest.lookup (manifest 1) = some entry ∧
        (entry.backends.lookup 0).isSome) (by decide +kernel)
  obtain ⟨b, hb⟩ := Option.isSome_iff_exists.1 hb
  have hc : CollisionFree platform.toPlatform w := by
    intro i hi j hj a b ha hb _
    rw [hin, List.mem_singleton] at hi hj
    subst hi hj
    rw [ha] at hb
    cases hb
    exact ⟨rfl, rfl⟩
  exact ⟨w, entry, b, hr, he, hb,
    registered_backends_were_authorized platform localId _ signed unforgeable signed_plain
      signed_plainGrants hr hc he hb⟩

theorem registered_again : ∃ w c d, Reach (step platform localId) Regular start w ∧
    c.stream ≠ d.stream ∧ w.Vetted c ∧ w.Vetted d ∧ SameTenant platform c d := by
  let again : Install := { sampleInstall with stream := 2 }
  obtain ⟨w, hr, hi, hj⟩ := exists_reach_of_run (step platform localId) Regular start
    (arrive 1 7 0 ++ registerChecks 1 1 7 1 ++ [.stream 1 (.install 100000)] ++
      registerChecks 1 2 7 2 ++ [.stream 2 (.install 100000)])
    (fun w => sampleInstall ∈ w.installs ∧ again ∈ w.installs) (by decide +kernel)
  have hc : w.Vetted sampleInstall.toRegistering := .inr (.inr ⟨_, hi, rfl⟩)
  have hd : w.Vetted again.toRegistering := .inr (.inr ⟨_, hj, rfl⟩)
  exact ⟨w, _, _, hr, by decide, hc, hd, one_tenant_per_connection hr _ _ hc hd rfl rfl⟩

end ProxyState
end Podmesh
