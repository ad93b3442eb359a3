import Podmesh.Protocol.Envelope
import Podmesh.Proxy.Connections
import Podmesh.Proxy.Grants
import Podmesh.Proxy.Ownership

namespace Podmesh

def handshakeProtocolVersion : String := "podmesh/1.0"
def maxHandshakeFieldLen : Nat := 16 * 1024
def maxRegisteredSidecars : Nat := 10000
def sidecarRegistrationTtl : Nat := 120 * 1000

structure WorkloadHandshakeRequest where
  protocolVersion : String
  tenantOwnerPubkey : String
  manifestId : String
  workloadCredentialB64 : String
  deriving DecidableEq

def WorkloadHandshakeRequest.validate (self : WorkloadHandshakeRequest) : Except String Unit := do
  ensure (self.protocolVersion == handshakeProtocolVersion)
    "unsupported workload handshake protocol version"
  forEach (fun field : String × String =>
      ensure (field.2 != "" && field.2.utf8ByteSize ≤ maxHandshakeFieldLen)
        s!"workload handshake {field.1} field length is invalid")
    [("tenant owner", self.tenantOwnerPubkey), ("manifest", self.manifestId),
      ("credential", self.workloadCredentialB64)]

/-- The primitives of a proxy: envelopes, tokens, and the postcard decoders of its requests. -/
structure ProxyPlatform extends EnvelopePlatform, TokenPlatform where
  encodeHandshake : WorkloadHandshakeRequest → Except String Bytes
  decodeHandshake : Bytes → Except String WorkloadHandshakeRequest
  encodeRegistration : SidecarRegistration → Except String Bytes
  decodeRegistration : Bytes → Except String SidecarRegistration

namespace ProxyPlatform
variable (p : ProxyPlatform)

def handshakeRequest : WorkloadPayload WorkloadHandshakeRequest where
  payloadType := .handshakeRequest
  encode := p.encodeHandshake
  decode := p.decodeHandshake
  validate request _ := request.validate

def registrationRequest : WorkloadPayload SidecarRegistration where
  payloadType := .registrationRequest
  encode := p.encodeRegistration
  decode := p.decodeRegistration
  validate registration _ := registration.validate p.toPlatform

end ProxyPlatform

def workloadCredentialFromB64 (p : Platform) (value : String) : Except String Bytes := do
  ensure (value != "" && value.utf8ByteSize ≤ maxWorkloadCredentialB64Len)
    "workload credential length is invalid"
  p.b64Decode value

def WorkloadHandshakeRequest.tenant (p : TokenPlatform) (self : WorkloadHandshakeRequest)
    (remote : String) (signingKey : Bytes) (now : UInt64) : Except String ProvenTenant := do
  let credential ← workloadCredentialFromB64 p.toPlatform self.workloadCredentialB64
  let identity ← WorkloadIdentity.fromBytes p credential
  withContext "verify endpoint-bound workload identity"
    (identity.verifySession p self.tenantOwnerPubkey self.manifestId remote signingKey now)
  return ⟨self.tenantOwnerPubkey, self.manifestId, credential⟩

/-- The check of `accept_typed_request` after the envelope of a request other than a handshake has
been accepted. -/
def checkSigningKey (p : TokenPlatform) (sessions : TenantSessions) (remote : String)
    (stableId : Nat) (signingKey : Bytes) (now : UInt64) : Except String Unit := do
  let proven ← sessions.provenLive p remote stableId now
  let identity ← WorkloadIdentity.fromBytes p proven.credential
  ensure (identity.claims.signingPublicKeyB64 == p.b64Encode signingKey)
    "workload envelope uses an unauthorized application key"

/-- The checks of `install_registration` up to the one for a live grant. -/
def checkTenant (p : TokenPlatform) (sessions : TenantSessions) (registration : SidecarRegistration)
    (remote : String) (stableId : Nat) (now : UInt64) : Except String Unit := do
  registration.validate p.toPlatform
  ensure (registration.sidecarPeerId == remote)
    "registration names an endpoint other than the authenticated transport"
  let proven ← sessions.provenLive p remote stableId now
  ensure (proven.ownerPubkey == registration.ownerPubkey)
    "registration names a different owner than this connection proved"
  ensure (proven.manifestId == registration.manifestId)
    "registration names a different workload than this connection proved"
  let identity ← WorkloadIdentity.fromBytes p proven.credential
  let owner ← p.b64Decode registration.ownerPubkey
  ensure (identity.delegation.scope.workloadId ==
      p.workloadId owner registration.workloadName registration.replicaIndex)
    "registration names another replica than its credential authorizes"

/-- Where a stream of `handle_stream` stands. -/
inductive StreamPhase where
  | handshake (payload : Bytes)
  | proving (request : WorkloadHandshakeRequest) (signingKey : Bytes)
  | greeting (ownerPubkey : String)
  | registering (payload : Bytes)
  | accepted (registration : SidecarRegistration) (signingKey : Bytes)
  | keyed (registration : SidecarRegistration) (signingKey : Bytes)
  | proven (registration : SidecarRegistration) (signingKey : Bytes)
  | granted (registration : SidecarRegistration) (signingKey : Bytes)
  | ended (result : Except String Unit)

structure Stream where
  remote : String
  stableId : Nat
  phase : StreamPhase

/-- A registration on its way: its stream, the connection of the stream, and the key that signed
the envelope. -/
structure Registering where
  stream : Nat
  remote : String
  stableId : Nat
  registration : SidecarRegistration
  signingKey : Bytes
  deriving DecidableEq

structure Install extends Registering where
  registeredAt : UInt64
  deriving DecidableEq

/-- The stores of a proxy, its tasks, the grants found invalid and not yet dropped, and the history
of its installs. -/
structure ProxyState where
  links : Links
  grants : ProxyGrantStore
  dropping : List String
  routes : RouteTable
  replay : PeerReplayRegistry
  streams : AList fun _ : Nat => Stream
  installs : List Install

inductive StreamStep where
  | accept (nowMillis : UInt64) (observedAt : Nat)
  | prove (now now' : UInt64)
  | greet (now : UInt64)
  | checkKey (now : UInt64)
  | checkTenant (now : UInt64)
  | checkGrant (now : UInt64)
  | install (nowMillis : UInt64)

/-- Whatever the tasks of a proxy can do next. The streams of other kinds record nonces and look for
grants, and so does the ingress of requests, which moves the cursors of routes. -/
inductive ProxyAction where
  | connect (id : Nat) (remote : String) (stableId : Nat)
  | link (id : Nat) (step : LinkStep)
  | open (id link : Nat) (kind : WorkloadStreamKind) (payload : Bytes)
  | stream (id : Nat) (step : StreamStep)
  | submitGrant (ownerPubkey : String) (encoded : Bytes) (now : UInt64)
  | lookGrant (ownerPubkey : String) (now : UInt64)
  | dropGrant (ownerPubkey : String)
  | record (peer nonce : String) (observedAt : Nat)
  | prune (nowMillis : UInt64)
  | select (manifestId path : String) (host : Option String)

namespace ProxyState

def init (replay : PeerReplayRegistry) : ProxyState where
  links := .empty
  grants := ∅
  dropping := []
  routes := .empty
  replay := replay
  streams := ∅
  installs := []

def move (w : ProxyState) (id : Nat) (stream : Stream) (phase : StreamPhase) : ProxyState :=
  { w with streams := w.streams.insert id { stream with phase := phase } }

def accept (p : ProxyPlatform) (localId : String) (w : ProxyState) (id : Nat) (stream : Stream)
    (nowMillis : UInt64) (observedAt : Nat) : Option ProxyState :=
  match stream.phase with
  | .handshake payload =>
    match acceptWorkloadPayload p.toEnvelopePlatform p.handshakeRequest payload localId stream.remote
        nowMillis w.replay observedAt with
    | (.ok accepted, replay) =>
      some { w.move id stream (.proving accepted.payload accepted.senderSigningKey) with replay }
    | (.error e, replay) => some { w.move id stream (.ended (.error e)) with replay }
  | .registering payload =>
    match acceptWorkloadPayload p.toEnvelopePlatform p.registrationRequest payload localId
        stream.remote nowMillis w.replay observedAt with
    | (.ok accepted, replay) =>
      some { w.move id stream (.accepted accepted.payload accepted.senderSigningKey) with replay }
    | (.error e, replay) => some { w.move id stream (.ended (.error e)) with replay }
  | _ => none

def prove (p : ProxyPlatform) (w : ProxyState) (id : Nat) (stream : Stream)
    (request : WorkloadHandshakeRequest) (signingKey : Bytes) (now now' : UInt64) : ProxyState :=
  match request.tenant p.toTokenPlatform stream.remote signingKey now with
  | .error e => w.move id stream (.ended (.error e))
  | .ok tenant =>
    match w.links.sessions.proveBound p.toTokenPlatform stream.remote stream.stableId tenant now' with
    | .error e => w.move id stream (.ended (.error e))
    | .ok sessions => { w.move id stream (.greeting request.tenantOwnerPubkey) with
        links := { w.links with sessions } }

def check (w : ProxyState) (id : Nat) (stream : Stream) (phase : StreamPhase) :
    Except String Unit → ProxyState
  | .ok () => w.move id stream phase
  | .error e => w.move id stream (.ended (.error e))

def checkGrant (p : ProxyPlatform) (localId : String) (w : ProxyState) (id : Nat) (stream : Stream)
    (registration : SidecarRegistration) (signingKey : Bytes) (now : UInt64) : ProxyState :=
  let (live, dropped) :=
    w.grants.holdsLiveGrant p.toTokenPlatform registration.ownerPubkey localId now
  let w := { w with dropping := dropped ++ w.dropping }
  w.check id stream (.granted registration signingKey)
    (ensure live "this proxy holds no live owner grant for the registration tenant")

def install (w : ProxyState) (id : Nat) (stream : Stream) (registration : SidecarRegistration)
    (signingKey : Bytes) (nowMillis : UInt64) : ProxyState :=
  match w.routes.register registration nowMillis maxRegisteredSidecars with
  | (.error e, routes) => { w.move id stream (.ended (.error e)) with routes }
  | (.ok (), routes) => { w.move id stream (.ended (.ok ())) with
      routes
      installs := ⟨⟨id, stream.remote, stream.stableId, registration, signingKey⟩, nowMillis⟩ ::
        w.installs }

def advance (p : ProxyPlatform) (localId : String) (w : ProxyState) (id : Nat) (stream : Stream) :
    StreamStep → Option ProxyState
  | .accept nowMillis observedAt => w.accept p localId id stream nowMillis observedAt
  | .prove now now' =>
    match stream.phase with
    | .proving request signingKey => some (w.prove p id stream request signingKey now now')
    | _ => none
  | .greet now =>
    match stream.phase with
    | .greeting ownerPubkey =>
      some { w.move id stream (.ended (.ok ())) with
        dropping := (w.grants.liveGrant p.toTokenPlatform ownerPubkey localId now).2 ++ w.dropping }
    | _ => none
  | .checkKey now =>
    match stream.phase with
    | .accepted registration signingKey =>
      some (w.check id stream (.keyed registration signingKey)
        (checkSigningKey p.toTokenPlatform w.links.sessions stream.remote stream.stableId signingKey
          now))
    | _ => none
  | .checkTenant now =>
    match stream.phase with
    | .keyed registration signingKey =>
      some (w.check id stream (.proven registration signingKey)
        (Podmesh.checkTenant p.toTokenPlatform w.links.sessions registration stream.remote
          stream.stableId now))
    | _ => none
  | .checkGrant now =>
    match stream.phase with
    | .proven registration signingKey =>
      some (w.checkGrant p localId id stream registration signingKey now)
    | _ => none
  | .install nowMillis =>
    match stream.phase with
    | .granted registration signingKey =>
      some (w.install id stream registration signingKey nowMillis)
    | _ => none

def firstPhase (payload : Bytes) : WorkloadStreamKind → Option StreamPhase
  | .handshake => some (.handshake payload)
  | .registration => some (.registering payload)
  | .ingress => some (.ended (.error "proxy does not accept ingress operations"))
  | _ => none

def openStream (w : ProxyState) (id link : Nat) (kind : WorkloadStreamKind) (payload : Bytes) :
    Option ProxyState :=
  match w.streams.lookup id, w.links.tasks.lookup link, firstPhase payload kind with
  | none, some served, some phase =>
    if served.phase = .serving then
      some { w with streams := w.streams.insert id ⟨served.remote, served.stableId, phase⟩ }
    else none
  | _, _, _ => none

def step (p : ProxyPlatform) (localId : String) (w : ProxyState) : ProxyAction → Option ProxyState
  | .connect id remote stableId =>
    (w.links.step p.toTokenPlatform (.connect id remote stableId)).map fun links => { w with links }
  | .link id step =>
    (w.links.step p.toTokenPlatform (.task id step)).map fun links => { w with links }
  | .open id link kind payload => w.openStream id link kind payload
  | .stream id step =>
    match w.streams.lookup id with
    | some stream => w.advance p localId id stream step
    | none => none
  | .submitGrant ownerPubkey encoded now =>
    match w.grants.accept p.toTokenPlatform ownerPubkey encoded localId now with
    | .ok grants => some { w with grants }
    | .error _ => some w
  | .lookGrant ownerPubkey now => some { w with
      dropping := (w.grants.liveGrant p.toTokenPlatform ownerPubkey localId now).2 ++ w.dropping }
  | .dropGrant ownerPubkey =>
    if ownerPubkey ∈ w.dropping then
      some { w with grants := w.grants.erase ownerPubkey, dropping := w.dropping.erase ownerPubkey }
    else none
  | .record peer nonce observedAt =>
    some { w with replay := (w.replay.checkAndInsert peer nonce observedAt).2 }
  | .prune nowMillis => some { w with routes := w.routes.prune nowMillis sidecarRegistrationTtl }
  | .select manifestId path host =>
    some { w with routes := (w.routes.select manifestId path host).2 }

def Regular (w : ProxyState) : ProxyAction → Prop
  | .connect id remote stableId => w.links.Regular (.connect id remote stableId)
  | _ => True

instance (w : ProxyState) (a : ProxyAction) : Decidable (Regular w a) :=
  match a with
  | .connect id remote stableId =>
    inferInstanceAs (Decidable (w.links.Regular (.connect id remote stableId)))
  | .link _ _ | .open _ _ _ _ | .stream _ _ | .submitGrant _ _ _ | .lookGrant _ _ | .dropGrant _
  | .record _ _ _ | .prune _ | .select _ _ _ => .isTrue trivial

end ProxyState

def StreamPhase.bare : StreamPhase → Bool
  | .keyed _ _ | .proven _ _ | .granted _ _ => false
  | _ => true

namespace ProxyState
variable {p : ProxyPlatform} {localId : String} {w w' : ProxyState} {id : Nat} {stream : Stream}

inductive Passed (p : ProxyPlatform) (localId : String) (w : ProxyState) (stream : Stream) :
    StreamPhase → Prop
  | keyed : stream.phase = .accepted registration signingKey →
      checkSigningKey p.toTokenPlatform w.links.sessions stream.remote stream.stableId signingKey
        now = .ok () → Passed p localId w stream (.keyed registration signingKey)
  | proven : stream.phase = .keyed registration signingKey →
      Podmesh.checkTenant p.toTokenPlatform w.links.sessions registration stream.remote
        stream.stableId now = .ok () → Passed p localId w stream (.proven registration signingKey)
  | granted : stream.phase = .proven registration signingKey →
      w.grants.live p.toTokenPlatform registration.ownerPubkey localId now = true →
      Passed p localId w stream (.granted registration signingKey)

def Installs (w : ProxyState) (id : Nat) (stream : Stream) (w' : ProxyState) : Prop :=
  ∃ registration signingKey nowMillis, stream.phase = .granted registration signingKey ∧
    w'.installs = ⟨⟨id, stream.remote, stream.stableId, registration, signingKey⟩, nowMillis⟩ ::
      w.installs ∧
    w'.routes = w.routes.installed registration nowMillis ∧
    w.routes.Unowned registration.ownerPubkey registration.manifestId ∧
    ∀ host ∈ registration.hosts, w.routes.Free registration.ownerPubkey host

structure Advanced (p : ProxyPlatform) (localId : String) (w : ProxyState) (id : Nat)
    (stream : Stream) (phase : StreamPhase) (w' : ProxyState) : Prop where
  streams : w'.streams = w.streams.insert id { stream with phase := phase }
  links : w'.links = w.links ∨ ∃ tenant now, w.links.step p.toTokenPlatform
    (.proveBound stream.remote stream.stableId tenant now) = some w'.links
  routes : w'.routes = w.routes ∧ w'.installs = w.installs ∨ Installs w id stream w'
  passed : phase.bare = true ∨ Passed p localId w stream phase

theorem Advanced.bare (hp : phase.bare = true)
    (hs : w'.streams = w.streams.insert id { stream with phase := phase })
    (hl : w'.links = w.links) (hr : w'.routes = w.routes)
    (hi : w'.installs = w.installs) : Advanced p localId w id stream phase w' where
  streams := hs
  links := .inl hl
  routes := .inl ⟨hr, hi⟩
  passed := .inl hp

theorem Advanced.check (hp : res = .ok () → Passed p localId w stream phase) :
    ∃ phase', Advanced p localId w id stream phase' (w.check id stream phase res) := by
  cases hr : res with
  | error e => exact ⟨_, .bare rfl rfl rfl rfl rfl⟩
  | ok =>
    exact ⟨phase, {
      streams := rfl
      links := .inl rfl
      routes := .inl ⟨rfl, rfl⟩
      passed := .inr (hp hr) }⟩

theorem prove_advanced :
    ∃ phase, Advanced p localId w id stream phase (w.prove p id stream req sk now now') := by
  unfold prove
  split
  · exact ⟨_, .bare rfl rfl rfl rfl rfl⟩
  · next ten _ =>
    split
    · exact ⟨_, .bare rfl rfl rfl rfl rfl⟩
    · next sessions hok =>
      refine ⟨_, rfl, .inr ⟨ten, now', ?_⟩, .inl ⟨rfl, rfl⟩, .inl rfl⟩
      simp [Links.step, Links.proveBound, hok]

theorem checkGrant_advanced (hp : stream.phase = .proven reg sk) :
    ∃ phase, Advanced p localId w id stream phase
      (w.checkGrant p localId id stream reg sk now) := by
  have hl := w.grants.holdsLiveGrant_fst p.toTokenPlatform reg.ownerPubkey localId now
  unfold checkGrant
  generalize w.grants.holdsLiveGrant p.toTokenPlatform reg.ownerPubkey localId now = found
    at hl
  obtain ⟨live, dropped⟩ := found
  cases live with
  | false => exact ⟨_, .bare rfl rfl rfl rfl rfl⟩
  | true => exact ⟨_, rfl, .inl rfl, .inl ⟨rfl, rfl⟩, .inr (.granted hp hl.symm)⟩

theorem advance_cases (h : w.advance p localId id stream s = some w') :
    ∃ phase, Advanced p localId w id stream phase w' := by
  cases s with
  | accept nowMillis obs =>
    change w.accept p localId id stream nowMillis obs = some w' at h
    unfold accept at h
    split at h
    · split at h <;> cases h <;> exact ⟨_, .bare rfl rfl rfl rfl rfl⟩
    · split at h <;> cases h <;> exact ⟨_, .bare rfl rfl rfl rfl rfl⟩
    · cases h
  | prove now now' =>
    simp only [advance] at h
    split at h
    · cases h
      exact prove_advanced
    · cases h
  | greet now =>
    simp only [advance] at h
    split at h
    · cases h
      exact ⟨_, .bare rfl rfl rfl rfl rfl⟩
    · cases h
  | checkKey now =>
    simp only [advance] at h
    split at h
    · next hp =>
      cases h
      exact Advanced.check fun hok => .keyed hp hok
    · cases h
  | checkTenant now =>
    simp only [advance] at h
    split at h
    · next hp =>
      cases h
      exact Advanced.check fun hok => .proven hp hok
    · cases h
  | checkGrant now =>
    simp only [advance] at h
    split at h
    · next hp =>
      cases h
      exact checkGrant_advanced hp
    · cases h
  | install nowMillis =>
    simp only [advance] at h
    split at h
    · next reg signingKey hp =>
      cases h
      unfold install
      rcases w.routes.register_cases reg nowMillis maxRegisteredSidecars with
        ⟨e, he⟩ | ⟨hok, ho, hf⟩
      · rw [he]
        exact ⟨_, .bare rfl rfl rfl rfl rfl⟩
      · rw [hok]
        exact ⟨_, rfl, .inl rfl, .inr ⟨reg, signingKey, nowMillis, hp, rfl, rfl, ho, hf⟩, .inl rfl⟩
    · cases h

/-- A step of no stream that may prune the routes or move a cursor. -/
structure Quiet (w w' : ProxyState) : Prop where
  links : w'.links = w.links
  streams : w'.streams = w.streams
  installs : w'.installs = w.installs
  routes : w'.routes = w.routes ∨ (∃ nowMillis ttl, w'.routes = w.routes.prune nowMillis ttl) ∨
    ∃ manifestId path host, w'.routes = (w.routes.select manifestId path host).2

inductive Stepped (p : ProxyPlatform) (localId : String) (w : ProxyState) :
    ProxyAction → ProxyState → Prop
  | advanced {id : Nat} {stream : Stream} {w' : ProxyState}
    (hstream : w.streams.lookup id = some stream)
    (hadvanced : Advanced p localId w id stream phase w') : Stepped p localId w (.stream id s) w'
  | linked {links : Links} (hlinks : w.links.step p.toTokenPlatform l = some links)
    (hregular : Regular w a → w.links.Regular l) : Stepped p localId w a { w with links }
  | opened {id : Nat} (hnone : w.streams.lookup id = none)
    (hserved : w.links.tasks.lookup link = some served) (hserving : served.phase = .serving)
    (hbare : phase.bare = true) : Stepped p localId w a
      { w with streams := w.streams.insert id ⟨served.remote, served.stableId, phase⟩ }
  | quiet {w' : ProxyState} (hquiet : Quiet w w') : Stepped p localId w a w'

theorem step_cases (h : step p localId w a = some w') : Stepped p localId w a w' := by
  cases a with
  | connect id rem sid =>
    obtain ⟨links, hl, rfl⟩ := Option.map_eq_some_iff.1 h
    exact .linked hl fun hr => hr
  | link id s =>
    obtain ⟨links, hl, rfl⟩ := Option.map_eq_some_iff.1 h
    exact .linked hl fun _ => trivial
  | «open» id link kind pay =>
    simp only [step, openStream] at h
    split at h
    · next served phase hn hsr hp =>
      split at h
      · next hs =>
        cases h
        refine .opened hn hsr hs ?_
        cases kind <;> cases hp <;> rfl
      · cases h
    · cases h
  | stream id s =>
    simp only [step] at h
    split at h
    · next stream hst =>
      obtain ⟨phase, ha⟩ := advance_cases h
      exact .advanced hst ha
    · cases h
  | submitGrant ownerPubkey enc now =>
    simp only [step] at h
    split at h <;> cases h <;> exact .quiet ⟨rfl, rfl, rfl, .inl rfl⟩
  | lookGrant ownerPubkey now | record peer nonce obs =>
    cases h
    exact .quiet ⟨rfl, rfl, rfl, .inl rfl⟩
  | dropGrant ownerPubkey =>
    simp only [step] at h
    split at h
    · cases h
      exact .quiet ⟨rfl, rfl, rfl, .inl rfl⟩
    · cases h
  | prune nowMs =>
    cases h
    exact .quiet ⟨rfl, rfl, rfl, .inr (.inl ⟨_, _, rfl⟩)⟩
  | select mid path host =>
    cases h
    exact .quiet ⟨rfl, rfl, rfl, .inr (.inr ⟨_, _, _, rfl⟩)⟩

theorem reach_links {replay : PeerReplayRegistry}
    (h : Reach (step p localId) Regular (.init replay) w) :
    Reach (Links.step p.toTokenPlatform) Links.Regular .empty w.links := by
  apply Reach.invariant
    (fun w => Reach (Links.step p.toTokenPlatform) Links.Regular .empty w.links) .start _ h
  intro w a w' _ ih ha hs
  cases step_cases hs with
  | @advanced _ _ _ stream _ _ had =>
    rcases had.links with hsm | ⟨ten, now, hp⟩
    · rw [hsm]
      exact ih
    · have hr : w.links.Regular (.proveBound stream.remote stream.stableId ten now) := trivial
      exact ih.next hr hp
  | linked hl hr => exact ih.next (hr ha) hl
  | opened => exact ih
  | quiet hq =>
    rw [hq.links]
    exact ih

end ProxyState
end Podmesh
