import Podmesh.Proxy.Forward

namespace Podmesh

/-- A registration of the routed workload by its owner, installed over one connection. -/
def Forward.backedBy (self : Forward) (target : RouteTarget) (stableId : Nat) (i : Install) : Bool :=
  i.remote == target.sidecarPeerId && i.stableId == stableId &&
    i.registration.manifestId == self.request.manifestId &&
    self.owner == some i.registration.ownerPubkey

/-- A request is sent only over a connection that registered the workload itself, while its session
and a grant of the owner are live, and a response is signed with the key of that registration. -/
def ForwardState.followed (p : IngressPlatform) (localId : String) (w : ForwardState) :
    ForwardAction → Bool
  | .proxy a => decide (w.proxy.Regular a)
  | .request _ _ _ => true
  | .call id s =>
    match w.forwards.lookup id with
    | none => true
    | some forward =>
      match forward.phase, s with
      | .opened target _ stableId, .send now =>
        (w.proxy.links.sessions.provenLive p.toTokenPlatform target.sidecarPeerId stableId now).isOk
          && w.proxy.installs.any fun i => forward.backedBy target stableId i &&
            w.proxy.grants.live p.toTokenPlatform i.registration.ownerPubkey localId now
      | .sent target stableId view _, .respond payload _ _ =>
        match p.decodeEnvelope payload with
        | .error _ => true
        | .ok envelope => view.installs.any fun i => forward.backedBy target stableId i &&
            p.b64Decode envelope.senderSigningPubkey == .ok i.signingKey
      | _, _ => true

/-- A request went to a session with a live tenant for the owner and manifest of its route, while
the proxy held a live grant of that owner. -/
structure Forward.Tenancy (p : IngressPlatform) (localId : String) (forward : Forward)
    (target : RouteTarget) (stableId : Nat) (view : ProxyState) (now : UInt64)
    (tenant : ProvenTenant) (identity : WorkloadIdentity) : Prop where
  session : view.links.sessions.lookup target.sidecarPeerId = some ⟨stableId, some tenant⟩
  live : tenant.authorize p.toTokenPlatform target.sidecarPeerId now = .ok identity
  owner : forward.owner = some tenant.ownerPubkey
  manifest : tenant.manifestId = forward.request.manifestId
  grant : view.grants.live p.toTokenPlatform tenant.ownerPubkey localId now = true

theorem Forward.backedBy_iff {self : Forward} : self.backedBy tgt sid i = true ↔
    i.remote = tgt.sidecarPeerId ∧ i.stableId = sid ∧
      i.registration.manifestId = self.request.manifestId ∧
      self.owner = some i.registration.ownerPubkey := by
  simp [backedBy, and_assoc]

theorem registry_of_accept (p : EnvelopePlatform) (spec : WorkloadPayload T) (bytes : Bytes)
    (localId rem : String) (nowMs : UInt64) (registry : PeerReplayRegistry) (obs : Nat) :
    (acceptWorkloadPayload p spec bytes localId rem nowMs registry obs).2 = registry ∨
    ∃ nonce, (acceptWorkloadPayload p spec bytes localId rem nowMs registry obs).2 =
      (registry.checkAndInsert rem nonce obs).2 := by
  unfold acceptWorkloadPayload
  split
  · exact .inl rfl
  · next env _ =>
    refine .inr ⟨env.nonce, ?_⟩
    split <;> next hc => rw [hc]

def ForwardPhase.delivered : ForwardPhase → Bool
  | .sent _ _ _ _ | .answered _ _ _ _ _ => true
  | _ => false

theorem ForwardPhase.next_delivered : (ForwardPhase.next targets msg).delivered = false := by
  unfold next
  split <;> rfl

namespace ForwardState
variable {p : IngressPlatform} {localId : String} {w w' : ForwardState} {id : Nat}
  {forward : Forward}

inductive Progress (p : IngressPlatform) (w : ForwardState) (forward : Forward) :
    ForwardPhase → ForwardStep → Prop
  | sent : forward.phase = .opened target rest stableId →
      Progress p w forward (.sent target stableId w.proxy now) (.send now)
  | answered : forward.phase = .sent target stableId view now →
      p.decodeEnvelope payload = .ok envelope →
      p.b64Decode envelope.senderSigningPubkey = .ok key →
      Progress p w forward (.answered target stableId view now key)
        (.respond payload nowMillis observedAt)

structure Advanced (p : IngressPlatform) (localId : String) (w : ForwardState) (id : Nat)
    (forward : Forward) (s : ForwardStep) (phase : ForwardPhase) (w' : ForwardState) : Prop where
  forwards : w'.forwards = w.forwards.insert id { forward with phase := phase }
  proxy : w'.proxy = w.proxy ∨ ∃ peer nonce observedAt,
    w.proxy.step p.toProxyPlatform localId (.record peer nonce observedAt) = some w'.proxy
  progress : phase.delivered = false ∨ Progress p w forward phase s

theorem Advanced.undelivered (hp : phase.delivered = false) :
    Advanced p localId w id forward s phase (w.move id forward phase) where
  forwards := rfl
  proxy := .inl rfl
  progress := .inl hp

theorem respond_advanced (hph : forward.phase = .sent tgt sid view now) :
    ∃ phase, Advanced p localId w id forward (.respond pay nowMs obs) phase
      (w.respond p localId id forward tgt sid view now pay nowMs obs) := by
  have hr := registry_of_accept p.toEnvelopePlatform p.ingressResponse pay localId
    tgt.sidecarPeerId nowMs w.proxy.replay obs
  have hk : ∀ acc, (acceptWorkloadPayload p.toEnvelopePlatform p.ingressResponse pay
      localId tgt.sidecarPeerId nowMs w.proxy.replay obs).1 = .ok acc →
      ∃ env, p.decodeEnvelope pay = .ok env ∧
        p.b64Decode env.senderSigningPubkey = .ok acc.senderSigningKey := by
    intro acc ha
    obtain ⟨env, ho, hrd⟩ := acceptWorkloadPayload_ok ha
    exact ⟨env, (openEnvelope_ok.1 ho).decoded, hrd.signingKey⟩
  unfold respond
  generalize acceptWorkloadPayload p.toEnvelopePlatform p.ingressResponse pay localId
    tgt.sidecarPeerId nowMs w.proxy.replay obs = outcome at hr hk
  obtain ⟨res, registry⟩ := outcome
  -- whatever the answer, the registry is the one of a recorded nonce
  have hp : ({ w.proxy with replay := registry } : ProxyState) = w.proxy ∨
      ∃ peer nonce obs,
        w.proxy.step p.toProxyPlatform localId (.record peer nonce obs) =
          some { w.proxy with replay := registry } := by
    rcases hr with hs | ⟨nonce, hrc⟩
    · left
      simp only at hs
      rw [hs]
    · right
      simp only at hrc
      exact ⟨_, nonce, _, by rw [hrc]; rfl⟩
  cases res with
  | error e => exact ⟨_, rfl, hp, .inl rfl⟩
  | ok acc =>
    obtain ⟨env, hd, hsg⟩ := hk acc rfl
    simp only
    split
    · exact ⟨_, rfl, hp, .inl rfl⟩
    · exact ⟨_, rfl, hp, .inr (.answered hph hd hsg)⟩

theorem advance_cases (h : w.advance p localId id forward s = some w') :
    ∃ phase, Advanced p localId w id forward s phase w' := by
  cases s with
  | lookup =>
    simp only [advance] at h
    split at h
    · split at h
      · cases h
        unfold lookup
        split
        · exact ⟨_, .undelivered ForwardPhase.next_delivered⟩
        · exact ⟨_, .undelivered rfl⟩
      · cases h
    · cases h
  | broken msg =>
    simp only [advance] at h
    split at h
    · cases h
      exact ⟨_, .undelivered ForwardPhase.next_delivered⟩
    · cases h
      exact ⟨_, .undelivered rfl⟩
    · cases h
  | send now =>
    simp only [advance] at h
    split at h
    · next hp =>
      cases h
      exact ⟨_, rfl, .inl rfl, .inr (.sent hp)⟩
    · cases h
  | respond pay nowMs obs =>
    simp only [advance] at h
    split at h
    · next hp =>
      cases h
      exact respond_advanced hp
    · cases h

theorem step_cases (h : step p localId w a = some w') :
    (∃ b proxy, a = .proxy b ∧ w.proxy.step p.toProxyPlatform localId b = some proxy ∧
      w' = { w with proxy }) ∨
    (∃ id, ∃ forward : Forward, ∃ mid path host, forward.phase.delivered = false ∧
      w'.forwards = w.forwards.insert id forward ∧
      w.proxy.step p.toProxyPlatform localId (.select mid path host) = some w'.proxy) ∨
    ∃ id s forward phase, a = .call id s ∧ w.forwards.lookup id = some forward ∧
      Advanced p localId w id forward s phase w' := by
  cases a with
  | proxy b =>
    obtain ⟨proxy, hp, rfl⟩ := Option.map_eq_some_iff.1 h
    exact .inl ⟨b, proxy, rfl, hp, rfl⟩
  | request id request handle =>
    simp only [step] at h
    split at h
    · cases h
      exact .inr (.inl ⟨id, _, _, _, _, ForwardPhase.next_delivered, rfl, rfl⟩)
    · cases h
  | call id s =>
    simp only [step] at h
    split at h
    · next forward hf =>
      obtain ⟨phase, ha⟩ := advance_cases h
      exact .inr (.inr ⟨id, s, forward, phase, rfl, hf, ha⟩)
    · cases h

variable {replay : PeerReplayRegistry}

theorem reach_proxy
    (h : Reach (step p localId) (fun w a => w.followed p localId a = true) (.init replay) w) :
    Reach (ProxyState.step p.toProxyPlatform localId) ProxyState.Regular (.init replay) w.proxy := by
  apply Reach.invariant (fun w => Reach (ProxyState.step p.toProxyPlatform localId)
    ProxyState.Regular (.init replay) w.proxy) .start _ h
  intro w a w' _ ih ha hs
  rcases step_cases hs with ⟨b, proxy, rfl, hp, rfl⟩ | ⟨id, forward, manifestId, path, host, _, _, hsl⟩ |
    ⟨id, s, forward, phase, _, _, had⟩
  · exact ih.next (of_decide_eq_true ha) hp
  · have hr : w.proxy.Regular (.select manifestId path host) := trivial
    exact ih.next hr hsl
  · rcases had.proxy with hsm | ⟨peer, nonce, observedAt, hrc⟩
    · rw [hsm]
      exact ih
    · have hr : w.proxy.Regular (.record peer nonce observedAt) := trivial
      exact ih.next hr hrc

theorem session_of_install {proxy : ProxyState}
    (h : Reach (ProxyState.step p.toProxyPlatform localId) ProxyState.Regular (.init replay) proxy)
    (hi : i ∈ proxy.installs)
    (hs : proxy.links.sessions.lookup i.remote = some ⟨i.stableId, some ten⟩)
    (hid : ten.identity p.toTokenPlatform = .ok ident) :
    ten.ownerPubkey = i.registration.ownerPubkey ∧ ten.manifestId = i.registration.manifestId ∧
      ident.claims.signingPublicKeyB64 = p.b64Encode i.signingKey := by
  obtain ⟨⟨held, before, hb, hk, ho, hm, hh⟩, _⟩ :=
    (ProxyState.reach_sound h).installed i hi
  obtain ⟨ten', ht', hr⟩ := hh.2 _ hs rfl
  cases ht'
  obtain ⟨ho', hm', before', after, hb', ha, _, hsm, _⟩ := hr
  rw [hb] at hb'
  cases hb'
  rw [hid] at ha
  cases ha
  exact ⟨ho'.trans ho, hm'.trans hm, hsm.trans hk⟩

def Followed (p : IngressPlatform) (localId : String) (replay : PeerReplayRegistry)
    (forward : Forward) : Prop :=
  (∀ target stableId view now, forward.phase = .sent target stableId view now →
    Reach (ProxyState.step p.toProxyPlatform localId) ProxyState.Regular (.init replay) view ∧
    ∃ tenant identity, forward.Tenancy p localId target stableId view now tenant identity) ∧
  ∀ target stableId view now key, forward.phase = .answered target stableId view now key →
    Reach (ProxyState.step p.toProxyPlatform localId) ProxyState.Regular (.init replay) view ∧
    ∃ tenant identity, forward.Tenancy p localId target stableId view now tenant identity ∧
      identity.claims.signingPublicKeyB64 = p.b64Encode key

theorem Followed.of_undelivered
    (h : forward.phase.delivered = false) : Followed p localId replay forward := by
  constructor
  · intro _ _ _ _ hp
    rw [hp] at h
    cases h
  · intro _ _ _ _ _ hp
    rw [hp] at h
    cases h

theorem tenancy_of_send
    (hw : Reach (ProxyState.step p.toProxyPlatform localId) ProxyState.Regular (.init replay)
      w.proxy)
    (hf : w.forwards.lookup id = some forward)
    (hph : forward.phase = .opened tgt rest sid)
    (ha : w.followed p localId (.call id (.send now)) = true) :
    ∃ ten identity, forward.Tenancy p localId tgt sid w.proxy now ten identity := by
  simp only [followed, hf, hph, Bool.and_eq_true, List.any_eq_true, Forward.backedBy_iff] at ha
  obtain ⟨hl, i, hi, ⟨hr, hid, hm, ho⟩, hg⟩ := ha
  cases hp : w.proxy.links.sessions.provenLive p.toTokenPlatform tgt.sidecarPeerId sid
      now with
  | error e =>
    rw [hp] at hl
    cases hl
  | ok ten =>
    obtain ⟨hs, identity, hat⟩ := TenantSessions.provenLive_ok hp
    have hin := ProvenTenant.identity_of_authorize hat
    obtain ⟨hto, htm, _⟩ := session_of_install hw hi (by rw [hr, hid]; exact hs) hin
    exact ⟨ten, identity, {
      session := hs
      live := hat
      owner := by rw [hto]; exact ho
      manifest := htm.trans hm
      grant := by rw [hto]; exact hg }⟩

theorem key_of_respond
    (hv : Reach (ProxyState.step p.toProxyPlatform localId) ProxyState.Regular (.init replay) view)
    (hf : w.forwards.lookup id = some forward) (hp : forward.phase = .sent tgt sid view now)
    (ht : forward.Tenancy p localId tgt sid view now ten ident)
    (ha : w.followed p localId (.call id (.respond pay nowMs obs)) = true)
    (hd : p.decodeEnvelope pay = .ok env) (hk : p.b64Decode env.senderSigningPubkey = .ok key) :
    ident.claims.signingPublicKeyB64 = p.b64Encode key := by
  simp only [followed, hf, hp, hd, hk, Bool.and_eq_true, List.any_eq_true,
    Forward.backedBy_iff, beq_iff_eq] at ha
  obtain ⟨i, hi, ⟨hr, hid, _, _⟩, hs⟩ := ha
  cases hs
  have hin := ProvenTenant.identity_of_authorize ht.live
  exact (session_of_install hv hi (by rw [hr, hid]; exact ht.session) hin).2.2

theorem followed_step
    (hw : Reach (step p localId) (fun w a => w.followed p localId a = true) (.init replay) w)
    (ih : ∀ id forward, w.forwards.lookup id = some forward → Followed p localId replay forward)
    (ha : w.followed p localId a = true) (hs : step p localId w a = some w')
    (hf : w'.forwards.lookup id = some forward) : Followed p localId replay forward := by
  rcases step_cases hs with ⟨b, proxy, _, _, rfl⟩ | ⟨new, created, _, _, _, hc, hfr, _⟩ |
    ⟨moved, s, old, phase, rfl, ho, had⟩
  · exact ih id forward hf
  · rw [hfr] at hf
    rcases Assoc.lookup_insert_cases hf with ⟨_, rfl⟩ | ⟨_, hf⟩
    · exact .of_undelivered hc
    · exact ih id forward hf
  · rw [had.forwards] at hf
    rcases Assoc.lookup_insert_cases hf with ⟨rfl, rfl⟩ | ⟨_, hf⟩
    · rcases had.progress with he | hpr
      · exact .of_undelivered he
      · cases hpr with
        | sent hp =>
          obtain ⟨tenant, identity, ht⟩ := tenancy_of_send (reach_proxy hw) ho hp ha
          constructor
          · rintro _ _ _ _ hsn
            cases hsn
            exact ⟨reach_proxy hw, tenant, identity, { ht with }⟩
          · rintro _ _ _ _ _ han
            cases han
        | answered hp hd hk =>
          obtain ⟨hv, tenant, identity, ht⟩ := (ih _ old ho).1 _ _ _ _ hp
          have hsg := key_of_respond hv ho hp ht ha hd hk
          constructor
          · rintro _ _ _ _ hsn
            cases hsn
          · rintro _ _ _ _ _ han
            cases han
            exact ⟨hv, tenant, identity, { ht with }, hsg⟩
    · exact ih id forward hf

/-- In every run in which requests are sent only over the connection that registered the workload,
while its session and a grant of the owner are live, and responses are signed with the key of that
registration, each request goes to a session with a live tenant for the route, and each accepted
response is signed with the application key of that session. -/
theorem ingress_follows_live_tenancy (p : IngressPlatform) (localId : String)
    (replay : PeerReplayRegistry)
    (h : Reach (step p localId) (fun w a => w.followed p localId a = true) (.init replay) w)
    (hforward : w.forwards.lookup id = some forward) : Followed p localId replay forward := by
  have hal : ∀ id forward, w.forwards.lookup id = some forward →
      Followed p localId replay forward := by
    apply Reach.invariant (fun w : ForwardState => ∀ id forward,
      w.forwards.lookup id = some forward → Followed p localId replay forward) _ _ h
    · intro _ _ hn
      cases hn
    · intro w a w' hw ih ha hs id forward hforward
      exact followed_step hw ih ha hs hforward
  exact hal id forward hforward

end ForwardState

namespace ForwardState
open ProxyReference

def Regular (w : ForwardState) : ForwardAction → Prop
  | .proxy a => w.proxy.Regular a
  | _ => True

instance (w : ForwardState) (a : ForwardAction) : Decidable (Regular w a) :=
  match a with
  | .proxy a => inferInstanceAs (Decidable (w.proxy.Regular a))
  | .request _ _ _ | .call _ _ => .isTrue trivial

def ingress : IngressPlatform where
  toProxyPlatform := platform
  encodeIngressResponse _ := .ok []
  decodeIngressResponse _ := .ok ⟨200, [], false⟩

def registered : List ProxyAction :=
  arrive 1 7 0 ++ registerChecks 1 1 7 1 ++ [.stream 1 (.install 100000)]

def reconnected : List ProxyAction :=
  registered ++ depart 7 ++ [.connect 9 (peer 1) 9, .link 9 .enter, .link 9 .start]

def exchange (k : UInt8) : List ForwardAction :=
  [.request 0 ⟨manifest 1, "/", [], false⟩ false, .call 0 .lookup, .call 0 (.send 100),
    .call 0 (.respond [2, 1, k, 5] 100000 0)]

/-- After a reconnect that proved nothing, requests still go to the endpoint, and a response with the
key of another tenant is accepted. -/
theorem reconnected_endpoint_gets_requests : ∃ w forward target view now,
    Reach (step ingress localId) Regular (.init ⟨.default, .empty⟩) w ∧
    w.forwards.lookup 0 = some forward ∧ forward.request.manifestId = manifest 1 ∧
    forward.phase = .answered target 9 view now (signer 2) ∧
    view.links.sessions.lookup target.sidecarPeerId = some ⟨9, none⟩ ∧
    view.links.connections.lookup target.sidecarPeerId = some 9 ∧
    ∀ tenant identity, ¬ forward.Tenancy ingress localId target 9 view now tenant identity := by
  obtain ⟨w, hr, forward, hf, hm, hw⟩ := exists_reach_of_run (step ingress localId)
    Regular (.init ⟨.default, .empty⟩) (reconnected.map .proxy ++ exchange 2)
    (fun w => ∃ forward, w.forwards.lookup 0 = some forward ∧
      forward.request.manifestId = manifest 1 ∧ (match forward.phase with
      | .answered target sid view _ key => sid == 9 && key == signer 2 &&
        view.links.sessions.lookup target.sidecarPeerId == some ⟨9, none⟩ &&
        view.links.connections.lookup target.sidecarPeerId == some 9
      | _ => false) = true) (by decide +kernel)
  split at hw
  · next target sid view now key hph =>
    simp only [Bool.and_eq_true, beq_iff_eq] at hw
    obtain ⟨⟨⟨rfl, rfl⟩, hs⟩, hc⟩ := hw
    refine ⟨w, forward, target, view, now, hr, hf, hm, hph, hs, hc, ?_⟩
    intro tenant identity ht
    have hp := ht.session
    rw [hs] at hp
    cases hp
  · cases hw

/-- A request of a run under the condition, answered with the key of its tenant. -/
theorem ingress_follows_live_tenancy_sample : ∃ w forward target view now,
    Reach (step ingress localId) (fun w a => w.followed ingress localId a = true)
      (.init ⟨.default, .empty⟩) w ∧
    w.forwards.lookup 0 = some forward ∧ forward.phase = .answered target 7 view now (signer 1) ∧
    ∃ tenant identity, forward.Tenancy ingress localId target 7 view now tenant identity ∧
      identity.claims.signingPublicKeyB64 = ingress.b64Encode (signer 1) := by
  obtain ⟨w, hr, forward, hf, hw⟩ := exists_reach_of_run (step ingress localId)
    (·.followed ingress localId · = true) (.init ⟨.default, .empty⟩)
    (registered.map .proxy ++ exchange 1)
    (fun w => ∃ forward, w.forwards.lookup 0 = some forward ∧ (match forward.phase with
      | .answered _ sid _ _ key => sid == 7 && key == signer 1
      | _ => false) = true) (by decide +kernel)
  split at hw
  · next target sid view now key hp =>
    simp only [Bool.and_eq_true, beq_iff_eq] at hw
    obtain ⟨rfl, rfl⟩ := hw
    have hfl := ingress_follows_live_tenancy ingress localId _ hr hf
    exact ⟨w, forward, target, view, now, hr, hf, hp, (hfl.2 _ _ _ _ _ hp).2⟩
  · cases hw

end ForwardState
end Podmesh
