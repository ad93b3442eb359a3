import Podmesh.Proxy.Routes

namespace Podmesh

variable {self : RouteTable}

namespace RouteTable

def claimed (self : RouteTable) (registration : SidecarRegistration) (registeredAt : UInt64) :
    AList fun _ : String => HostClaim :=
  registration.hosts.foldl
    (fun claims host => claims.insert (toAsciiLowercase host) (registration.claim registeredAt))
    self.hostClaims

def refreshed (self : RouteTable) (registration : SidecarRegistration) (registeredAt : UInt64) :
    SidecarRouteEntry :=
  let entry := (self.byManifest.lookup registration.manifestId).getD registration.emptyEntry
  { entry with
    replicaCount := registration.replicaCount
    backends := entry.backends.insert registration.replicaIndex (registration.backend registeredAt) }

def installed (self : RouteTable) (registration : SidecarRegistration) (registeredAt : UInt64) :
    RouteTable where
  byManifest := self.byManifest.insert registration.manifestId
    (self.refreshed registration registeredAt)
  hostClaims := self.claimed registration registeredAt

def Free (self : RouteTable) (owner host : String) : Prop :=
  ∀ claim, self.hostClaims.lookup (toAsciiLowercase host) = some claim → claim.ownerPubkey = owner

def Unowned (self : RouteTable) (owner manifestId : String) : Prop :=
  ∀ entry, self.byManifest.lookup manifestId = some entry → entry.ownerPubkey = owner

theorem checkManifest_exec (self : RouteTable) (registration : SidecarRegistration)
    (maxEntries : Nat) :
    (∃ e, (checkManifest registration maxEntries).exec self = (.error e, self)) ∨
      (checkManifest registration maxEntries).exec self = (.ok (), self) ∧
        self.Unowned registration.ownerPubkey registration.manifestId := by
  rw [checkManifest, Locked.exec_get_bind]
  cases hm : self.byManifest.lookup registration.manifestId with
  | none =>
    have how : self.Unowned registration.ownerPubkey registration.manifestId := by
      intro entry h
      rw [hm] at h
      cases h
    by_cases hf : maxEntries ≤ Assoc.size self.byManifest
    · left
      simp only [hf, if_true]
      exact ⟨_, rfl⟩
    · right
      simp only [hf, if_false]
      exact ⟨rfl, how⟩
  | some existing =>
    by_cases ho : existing.ownerPubkey = registration.ownerPubkey
    · right
      simp only [ne_eq, ho, not_true_eq_false, if_false]
      refine ⟨rfl, fun entry h => ?_⟩
      rw [hm] at h
      cases h
      exact ho
    · left
      simp only [ne_eq, ho, not_false_eq_true, if_true]
      exact ⟨_, rfl⟩

theorem checkHost_exec (self : RouteTable) (owner host : String) :
    (∃ e, (checkHost owner host).exec self = (.error e, self)) ∨
      (checkHost owner host).exec self = (.ok (), self) ∧ self.Free owner host := by
  rw [checkHost, Locked.exec_get_bind]
  cases hc : self.hostClaims.lookup (toAsciiLowercase host) with
  | none =>
    right
    refine ⟨rfl, fun claim h => ?_⟩
    rw [hc] at h
    cases h
  | some claim =>
    by_cases ho : claim.ownerPubkey = owner
    · right
      simp only [ne_eq, ho, not_true_eq_false, if_false]
      refine ⟨rfl, fun claim' h => ?_⟩
      rw [hc] at h
      cases h
      exact ho
    · left
      simp only [ne_eq, ho, not_false_eq_true, if_true]
      exact ⟨_, rfl⟩

theorem foldl_claims (hosts : List String) :
    hosts.foldl (fun inner host => { inner with
        hostClaims := inner.hostClaims.insert (toAsciiLowercase host) claim }) self
      = { self with
          hostClaims := hosts.foldl
            (fun claims host => claims.insert (toAsciiLowercase host) claim) self.hostClaims } := by
  induction hosts generalizing self with
  | nil => rfl
  | cons host hosts ih => rw [List.foldl_cons, ih, List.foldl_cons]

theorem claimHosts_exec :
    (registration.hosts.forM (claimHost (registration.claim regAt))).exec self
      = (.ok (), { self with hostClaims := self.claimed registration regAt }) := by
  rw [claimed, ← foldl_claims]
  exact Locked.exec_forM_modify _ registration.hosts self

theorem register_cases (self : RouteTable) (registration : SidecarRegistration) (regAt : UInt64)
    (maxEntries : Nat) :
    (∃ e, self.register registration regAt maxEntries = (.error e, self)) ∨
      self.register registration regAt maxEntries = (.ok (), self.installed registration regAt) ∧
      self.Unowned registration.ownerPubkey registration.manifestId ∧ ∀ host ∈ registration.hosts,
      self.Free registration.ownerPubkey host := by
  rw [register, registerInner]
  rcases checkManifest_exec self registration maxEntries with ⟨e, he⟩ | ⟨hok, ho⟩
  · exact .inl ⟨e, Locked.exec_bind_error _ he⟩
  · rw [Locked.exec_bind_ok _ hok]
    rcases Locked.exec_forM_check (l := registration.hosts)
      (checkHost_exec self registration.ownerPubkey) with ⟨e, he⟩ | ⟨hh, hf⟩
    · exact .inl ⟨e, Locked.exec_bind_error _ he⟩
    · rw [Locked.exec_bind_ok _ hh, Locked.exec_bind_ok _ claimHosts_exec]
      exact .inr ⟨rfl, ho, hf⟩

theorem lookup_foldl_claims (claim : HostClaim) (hosts : List String)
    (claims : AList fun _ : String => HostClaim) (h : String) :
    (hosts.foldl (fun claims host => claims.insert (toAsciiLowercase host) claim) claims).lookup h
      = if ∃ host ∈ hosts, toAsciiLowercase host = h then some claim else claims.lookup h := by
  induction hosts generalizing claims with
  | nil => simp
  | cons host hosts ih =>
    rw [List.foldl_cons, ih]
    by_cases hr : ∃ host ∈ hosts, toAsciiLowercase host = h
    · obtain ⟨host', hm, he⟩ := hr
      rw [if_pos ⟨host', hm, he⟩, if_pos ⟨host', List.mem_cons_of_mem _ hm, he⟩]
    · rw [if_neg hr]
      by_cases hh : toAsciiLowercase host = h
      · rw [if_pos ⟨host, List.mem_cons_self, hh⟩, hh, AList.lookup_insert]
      · rw [AList.lookup_insert_ne (Ne.symm hh), if_neg]
        rintro ⟨host', hm, he⟩
        rcases List.mem_cons.1 hm with rfl | hm
        · exact hh he
        · exact hr ⟨host', hm, he⟩

/-- The ownership of hosts and routing keys, and the ages that keep it through pruning. -/
structure Owned (table : RouteTable) (clock : UInt64) : Prop where
  /-- A backend's hosts are claimed by its owner, no earlier than the backend was registered. -/
  claim : ∀ m entry r b route host, table.byManifest.lookup m = some entry →
    entry.backends.lookup r = some b → route ∈ b.routes → route.hostName = some host →
    ∃ c, table.hostClaims.lookup (toAsciiLowercase host) = some c ∧
      c.ownerPubkey = entry.ownerPubkey ∧ b.registeredAt ≤ c.registeredAt
  /-- A claim is backed by its owner's entry, no later than one of the backends there. -/
  backend : ∀ host c, table.hostClaims.lookup host = some c →
    ∃ entry, table.byManifest.lookup c.manifestId = some entry ∧
      entry.ownerPubkey = c.ownerPubkey ∧
      ∃ r b, entry.backends.lookup r = some b ∧ c.registeredAt ≤ b.registeredAt
  pastClaim : ∀ host c, table.hostClaims.lookup host = some c → c.registeredAt ≤ clock
  pastBackend : ∀ m entry r b, table.byManifest.lookup m = some entry →
    entry.backends.lookup r = some b → b.registeredAt ≤ clock

theorem Owned.empty (clock : UInt64) : RouteTable.empty.Owned clock where
  claim := by
    intro _ _ _ _ _ _ h
    cases h
  backend := by
    intro _ _ h
    cases h
  pastClaim := by
    intro _ _ h
    cases h
  pastBackend := by
    intro _ _ _ _ h
    cases h

variable {registration : SidecarRegistration}

theorem refreshed_ownerPubkey
    (h : self.Unowned registration.ownerPubkey registration.manifestId) (regAt : UInt64) :
    (self.refreshed registration regAt).ownerPubkey = registration.ownerPubkey := by
  cases hm : self.byManifest.lookup registration.manifestId with
  | none => simp only [refreshed, hm, Option.getD_none, SidecarRegistration.emptyEntry]
  | some entry => simp only [refreshed, hm, Option.getD_some, h entry hm]

theorem refreshed_backend :
    (self.refreshed registration regAt).backends.lookup registration.replicaIndex
      = some (registration.backend regAt) := AList.lookup_insert _

theorem refreshed_sibling (hr : r ≠ registration.replicaIndex) (regAt : UInt64) :
    (self.refreshed registration regAt).backends.lookup r = some b ↔
      ∃ entry, self.byManifest.lookup registration.manifestId = some entry ∧
        entry.backends.lookup r = some b := by
  cases hm : self.byManifest.lookup registration.manifestId with
  | none =>
    simp only [refreshed, hm, Option.getD_none, SidecarRegistration.emptyEntry,
      AList.lookup_insert_ne hr, reduceCtorEq, false_and, exists_false, iff_false]
    intro h
    cases h
  | some entry =>
    simp only [refreshed, hm, Option.getD_some, AList.lookup_insert_ne hr, Option.some.injEq,
      exists_eq_left']

theorem mem_hosts (hr : route ∈ registration.routes)
    (hh : route.hostName = some host) : host ∈ registration.hosts :=
  List.mem_filterMap.2 ⟨route, hr, hh⟩

theorem Owned.claim_installed (h : self.Owned clock) (ht : clock ≤ regAt)
    (hf : ∀ host ∈ registration.hosts, self.Free registration.ownerPubkey host)
    (hc : self.hostClaims.lookup (toAsciiLowercase host) = some c) :
    ∃ c', (self.installed registration regAt).hostClaims.lookup (toAsciiLowercase host)
        = some c' ∧ c'.ownerPubkey = c.ownerPubkey ∧ c.registeredAt ≤ c'.registeredAt := by
  rw [installed, claimed, lookup_foldl_claims]
  split
  · next hn =>
    obtain ⟨host', hm, he⟩ := hn
    have ho : c.ownerPubkey = registration.ownerPubkey := hf host' hm c (he ▸ hc)
    exact ⟨_, rfl, ho.symm, UInt64.le_trans (h.pastClaim _ c hc) ht⟩
  · exact ⟨c, hc, rfl, UInt64.le_refl _⟩

theorem Owned.backend_installed (h : self.Owned clock)
    (ht : clock ≤ regAt) (ho : self.Unowned registration.ownerPubkey registration.manifestId)
    (hm : self.byManifest.lookup m = some entry) (hb : entry.backends.lookup r = some b) :
    ∃ entry', (self.installed registration regAt).byManifest.lookup m = some entry' ∧
      entry'.ownerPubkey = entry.ownerPubkey ∧
      ∃ b', entry'.backends.lookup r = some b' ∧ b.registeredAt ≤ b'.registeredAt := by
  by_cases hk : m = registration.manifestId
  · subst hk
    refine ⟨_, AList.lookup_insert _, ?_, ?_⟩
    · rw [refreshed_ownerPubkey ho, ho entry hm]
    · by_cases hr : r = registration.replicaIndex
      · subst hr
        exact ⟨_, refreshed_backend, UInt64.le_trans (h.pastBackend _ entry _ b hm hb) ht⟩
      · exact ⟨b, (refreshed_sibling hr _).2 ⟨entry, hm, hb⟩, UInt64.le_refl _⟩
  · exact ⟨entry, (AList.lookup_insert_ne hk).trans hm, rfl, b, hb, UInt64.le_refl _⟩

theorem backend_of_installed (ho : self.Unowned registration.ownerPubkey registration.manifestId)
    (hm : (self.installed registration regAt).byManifest.lookup m = some entry)
    (hb : entry.backends.lookup r = some b) :
    (m = registration.manifestId ∧ r = registration.replicaIndex ∧ b = registration.backend regAt ∧
      entry.ownerPubkey = registration.ownerPubkey) ∨ ∃ old, self.byManifest.lookup m = some old ∧
      old.ownerPubkey = entry.ownerPubkey ∧ old.backends.lookup r = some b := by
  rcases Assoc.lookup_insert_cases hm with ⟨rfl, rfl⟩ | ⟨_, hm⟩
  · by_cases hr : r = registration.replicaIndex
    · subst hr
      rw [refreshed_backend] at hb
      cases hb
      exact .inl ⟨rfl, rfl, rfl, refreshed_ownerPubkey ho _⟩
    · obtain ⟨old, hol, hb⟩ := (refreshed_sibling hr _).1 hb
      refine .inr ⟨old, hol, ?_, hb⟩
      rw [refreshed_ownerPubkey ho, ho old hol]
  · exact .inr ⟨entry, hm, rfl, hb⟩

theorem Owned.installed (h : self.Owned clock) (ht : clock ≤ regAt)
    (how : self.Unowned registration.ownerPubkey registration.manifestId)
    (hf : ∀ host ∈ registration.hosts, self.Free registration.ownerPubkey host) :
    (self.installed registration regAt).Owned regAt where
  claim := by
    intro m entry r b route host hm hb hr hh
    rcases backend_of_installed how hm hb with ⟨rfl, rfl, rfl, ho⟩ | ⟨old, hol, ho, hb⟩
    · refine ⟨registration.claim regAt, ?_, ho.symm, UInt64.le_refl _⟩
      rw [RouteTable.installed, claimed, lookup_foldl_claims, if_pos ⟨host, mem_hosts hr hh, rfl⟩]
    · obtain ⟨c, hc, hco, ha⟩ := h.claim m old r b route host hol hb hr hh
      obtain ⟨c', hc', hco', ha'⟩ := h.claim_installed ht hf hc
      exact ⟨c', hc', hco'.trans (hco.trans ho), UInt64.le_trans ha ha'⟩
  backend := by
    intro host c hc
    rw [RouteTable.installed, claimed, lookup_foldl_claims] at hc
    split at hc
    · cases hc
      exact ⟨_, AList.lookup_insert _, refreshed_ownerPubkey how _, _, _,
        refreshed_backend, UInt64.le_refl _⟩
    · obtain ⟨entry, hm, ho, r, b, hb, ha⟩ := h.backend host c hc
      obtain ⟨entry', hm', ho', b', hb', ha'⟩ := h.backend_installed ht how hm hb
      exact ⟨entry', hm', ho'.trans ho, r, b', hb', UInt64.le_trans ha ha'⟩
  pastClaim := by
    intro host c hc
    rw [RouteTable.installed, claimed, lookup_foldl_claims] at hc
    split at hc
    · cases hc
      exact UInt64.le_refl _
    · exact UInt64.le_trans (h.pastClaim host c hc) ht
  pastBackend := by
    intro m entry r b hm hb
    rcases backend_of_installed how hm hb with ⟨_, _, rfl, _⟩ | ⟨old, hol, _, hb⟩
    · exact UInt64.le_refl _
    · exact UInt64.le_trans (h.pastBackend m old r b hol hb) ht

theorem stale_mono (h : a ≤ b) (ha : stale nowMs ttl a = false) : stale nowMs ttl b = false := by
  have hle : a.toNat ≤ b.toNat := h
  simp only [stale, decide_eq_false_iff_not] at ha ⊢
  omega

theorem prune_claim :
    (self.prune nowMs ttl).hostClaims.lookup host = some c ↔
      self.hostClaims.lookup host = some c ∧ stale nowMs ttl c.registeredAt = false := by
  rw [prune, Assoc.lookup_retain, Option.filter_eq_some_iff, Bool.not_eq_true']

def pruneEntry (nowMillis : UInt64) (ttl : Nat) (entry : SidecarRouteEntry) : SidecarRouteEntry :=
  { entry with
    backends := Assoc.retain (fun _ b => !stale nowMillis ttl b.registeredAt) entry.backends }

theorem pruneEntry_backend :
    (pruneEntry nowMs ttl entry).backends.lookup r = some b ↔
      entry.backends.lookup r = some b ∧ stale nowMs ttl b.registeredAt = false := by
  rw [pruneEntry, Assoc.lookup_retain, Option.filter_eq_some_iff, Bool.not_eq_true']

theorem entry_of_prune (h : (self.prune nowMs ttl).byManifest.lookup m = some entry) :
    ∃ old, self.byManifest.lookup m = some old ∧ entry = pruneEntry nowMs ttl old := by
  obtain ⟨hm, _⟩ := Assoc.lookup_of_retain h
  rw [Assoc.lookup_mapValues, Option.map_eq_some_iff] at hm
  obtain ⟨old, ho, rfl⟩ := hm
  exact ⟨old, ho, rfl⟩

theorem prune_entry (hm : self.byManifest.lookup m = some entry)
    (hb : (pruneEntry nowMs ttl entry).backends.lookup r = some b) :
    (self.prune nowMs ttl).byManifest.lookup m = some (pruneEntry nowMs ttl entry) := by
  have hs : ((pruneEntry nowMs ttl entry).backends.entries.isEmpty) = false := by
    rw [List.isEmpty_eq_false_iff]
    exact List.ne_nil_of_mem (AList.mem_lookup_iff.1 hb)
  rw [prune, Assoc.lookup_retain, Assoc.lookup_mapValues, hm, Option.map_some,
    Option.filter_eq_some_iff]
  exact ⟨rfl, by rw [Bool.not_eq_true']; exact hs⟩

theorem Owned.prune (h : self.Owned clock) (ht : clock ≤ clock')
    (nowMs : UInt64) (ttl : Nat) : (self.prune nowMs ttl).Owned clock' where
  claim := by
    intro m entry r b route host hm hb hr hh
    obtain ⟨old, hol, rfl⟩ := entry_of_prune hm
    obtain ⟨hb, hf⟩ := pruneEntry_backend.1 hb
    obtain ⟨c, hc, ho, ha⟩ := h.claim m old r b route host hol hb hr hh
    exact ⟨c, prune_claim.2 ⟨hc, stale_mono ha hf⟩, ho, ha⟩
  backend := by
    intro host c hc
    obtain ⟨hc, hf⟩ := prune_claim.1 hc
    obtain ⟨entry, hm, ho, r, b, hb, ha⟩ := h.backend host c hc
    have hb' := pruneEntry_backend.2 ⟨hb, stale_mono ha hf⟩
    exact ⟨_, prune_entry hm hb', ho, r, b, hb', ha⟩
  pastClaim := by
    intro host c hc
    exact UInt64.le_trans (h.pastClaim host c (prune_claim.1 hc).1) ht
  pastBackend := by
    intro m entry r b hm hb
    obtain ⟨old, hol, rfl⟩ := entry_of_prune hm
    exact UInt64.le_trans (h.pastBackend m old r b hol (pruneEntry_backend.1 hb).1) ht

end RouteTable

inductive RouteCall where
  | register (registration : SidecarRegistration) (registeredAt : UInt64) (maxEntries : Nat)
  | prune (nowMillis : UInt64) (ttl : Nat)

def RouteCall.clock : RouteCall → UInt64
  | register _ registeredAt _ => registeredAt
  | prune nowMillis _ => nowMillis

namespace RouteTable

def call (self : RouteTable) : RouteCall → RouteTable
  | .register registration registeredAt maxEntries =>
    (self.register registration registeredAt maxEntries).2
  | .prune nowMillis ttl => self.prune nowMillis ttl

def timedCall (s : RouteTable × UInt64) (c : RouteCall) : Option (RouteTable × UInt64) :=
  if s.2 ≤ c.clock then some (s.1.call c, c.clock) else none

theorem Owned.call (h : self.Owned clock) (ht : clock ≤ c.clock) : (self.call c).Owned c.clock := by
  cases c with
  | register registration regAt maxEntries =>
    rw [RouteTable.call]
    rcases self.register_cases registration regAt maxEntries with
      ⟨e, he⟩ | ⟨hok, ho, hf⟩
    · rw [he]
      exact { h with
        pastClaim := fun host c hc => UInt64.le_trans (h.pastClaim host c hc) ht
        pastBackend := fun m entry r b hm hb => UInt64.le_trans (h.pastBackend m entry r b hm hb) ht }
    · rw [hok]
      exact h.installed ht ho hf
  | prune nowMs ttl => exact h.prune ht nowMs ttl

theorem reach_owned (start : UInt64) (h : Reach timedCall always (RouteTable.empty, start) s) :
    s.1.Owned s.2 := by
  refine Reach.invariant (fun s => s.1.Owned s.2) (Owned.empty start) ?_ h
  intro s c s' _ hs _ hst
  rw [timedCall] at hst
  split at hst
  · next ht =>
    cases hst
    exact hs.call ht
  · cases hst

/-- The route table never lets two owners serve one host, never keeps a claim without a backend of
its owner, and is left alone by a registration it refuses. -/
theorem route_ownership (start : UInt64)
    (h : Reach timedCall always (RouteTable.empty, start) (self, clock)) :
    (∀ m entry r b route host, self.byManifest.lookup m = some entry →
      entry.backends.lookup r = some b → route ∈ b.routes → route.hostName = some host →
      ∃ c, self.hostClaims.lookup (toAsciiLowercase host) = some c ∧
        c.ownerPubkey = entry.ownerPubkey ∧ b.registeredAt ≤ c.registeredAt) ∧
    (∀ m m' entry entry' r r' b b' route route' host host',
      self.byManifest.lookup m = some entry → self.byManifest.lookup m' = some entry' →
      entry.backends.lookup r = some b → entry'.backends.lookup r' = some b' →
      route ∈ b.routes → route' ∈ b'.routes →
      route.hostName = some host → route'.hostName = some host' →
      toAsciiLowercase host = toAsciiLowercase host' → entry.ownerPubkey = entry'.ownerPubkey) ∧
    (∀ host c, self.hostClaims.lookup host = some c →
      ∃ entry, self.byManifest.lookup c.manifestId = some entry ∧
        entry.ownerPubkey = c.ownerPubkey ∧ ∃ r b, entry.backends.lookup r = some b) ∧
    (∀ registration registeredAt maxEntries e,
      (self.register registration registeredAt maxEntries).1 = .error e →
      (self.register registration registeredAt maxEntries).2 = self) := by
  have how := reach_owned start h
  refine ⟨how.claim, ?_, ?_, ?_⟩
  · intro m m' entry entry' r r' b b' route route' host host' hm hm' hb hb' hr hr' hh hh' heq
    obtain ⟨c, hc, ho, _⟩ := how.claim m entry r b route host hm hb hr hh
    obtain ⟨c', hc', ho', _⟩ := how.claim m' entry' r' b' route' host' hm' hb' hr' hh'
    rw [heq, hc'] at hc
    cases hc
    exact ho.symm.trans ho'
  · intro host c hc
    obtain ⟨entry, hm, ho, r, b, hb, _⟩ := how.backend host c hc
    exact ⟨entry, hm, ho, r, b, hb⟩
  · intro registration registeredAt maxEntries e he
    rcases self.register_cases registration registeredAt maxEntries with ⟨e', he'⟩ | ⟨hok, _⟩
    · rw [he']
    · rw [hok] at he
      cases he

def sampleRegistration : SidecarRegistration where
  version := 2
  ownerPubkey := "owner"
  workloadName := "web"
  manifestId := "key"
  replicaIndex := 0
  replicaCount := 1
  routes := [⟨"Shop.test", "/", 8080⟩]
  sidecarPeerId := "peer"

theorem route_ownership_registered :
    ∃ t, Reach timedCall always (RouteTable.empty, 5) t ∧
      t.1.resolveHost "shop.TEST" = some "key" ∧
      ∀ host c, t.1.hostClaims.lookup host = some c →
        ∃ entry, t.1.byManifest.lookup c.manifestId = some entry ∧
          entry.ownerPubkey = c.ownerPubkey ∧ ∃ r b, entry.backends.lookup r = some b := by
  obtain ⟨⟨self, clock⟩, hr, hrs⟩ := exists_reach_of_run timedCall always
    (RouteTable.empty, 5) [.register sampleRegistration 7 8, .prune 9 120]
    (·.1.resolveHost "shop.TEST" = some "key") (by decide +kernel)
  exact ⟨_, hr, hrs, (route_ownership 5 hr).2.2.1⟩

end RouteTable
end Podmesh
