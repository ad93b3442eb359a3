import Podmesh.Proxy.Runtime

namespace Podmesh

def maxOwnerPubkeyB64Len : Nat := 128
def maxConfiguredProxyEndpoints : Nat := 32

structure ProxyDiscoveryRequest where
  ownerPubkey : String
  limit : UInt16
  deriving DecidableEq

def ProxyDiscoveryRequest.validate (self : ProxyDiscoveryRequest) : Except String Unit := do
  ensure (self.ownerPubkey != "" && self.ownerPubkey.utf8ByteSize ≤ maxOwnerPubkeyB64Len)
    "owner public key length is invalid"
  ensure (self.limit != 0 && self.limit.toNat ≤ maxProxyEndpoints)
    "proxy discovery limit is invalid"

structure ProxyEndpointDiscoveryResponse where
  endpoints : List EndpointRecord
  deriving DecidableEq

structure ProxyAnnouncement where
  endpoint : EndpointRecord
  deriving DecidableEq

def validateEndpointRecords (p : Platform) (records : List EndpointRecord) (nowSecs : UInt64) :
    Except String Unit := do
  ensure (records.length ≤ maxProxyEndpoints) "proxy endpoint count is invalid"
  forEach (fun record => record.verify p nowSecs) records

structure DirectoryPlatform extends ProxyPlatform where
  encodeDiscovery : ProxyDiscoveryRequest → Except String Bytes
  decodeDiscovery : Bytes → Except String ProxyDiscoveryRequest
  encodeEndpoints : ProxyEndpointDiscoveryResponse → Except String Bytes
  decodeEndpoints : Bytes → Except String ProxyEndpointDiscoveryResponse
  encodeAnnouncement : ProxyAnnouncement → Except String Bytes
  decodeAnnouncement : Bytes → Except String ProxyAnnouncement
  /-- The bytes behind an endpoint id, and the endpoint id of bytes that are a key. -/
  endpointIdBytes : String → Bytes
  endpointIdOf : Bytes → Option String

namespace DirectoryPlatform
variable (p : DirectoryPlatform)

def discoveryRequest : WorkloadPayload ProxyDiscoveryRequest where
  payloadType := .proxyDiscoveryRequest
  encode := p.encodeDiscovery
  decode := p.decodeDiscovery
  validate request _ := request.validate

def discoveryResponse : WorkloadPayload ProxyEndpointDiscoveryResponse where
  payloadType := .proxyDiscoveryResponse
  encode := p.encodeEndpoints
  decode := p.decodeEndpoints
  validate response now := validateEndpointRecords p.toPlatform response.endpoints now

def announcement (payloadType : WorkloadPayloadType) : WorkloadPayload ProxyAnnouncement where
  payloadType := payloadType
  encode := p.encodeAnnouncement
  decode := p.decodeAnnouncement
  validate announcement now := announcement.endpoint.verify p.toPlatform now

def announcementRequest : WorkloadPayload ProxyAnnouncement :=
  p.announcement .proxyAnnouncementRequest

def announcementResponse : WorkloadPayload ProxyAnnouncement :=
  p.announcement .proxyAnnouncementResponse

def checkAnnounced (mismatch undecoded unbound : String) (remote : String)
    (accepted : AcceptedWorkloadPayload ProxyAnnouncement) : Except String EndpointRecord := do
  let record := accepted.payload.endpoint
  ensure (record.endpointId == p.endpointIdBytes remote) mismatch
  let signingKey ← withContext undecoded (p.b64Decode record.signingPubkey)
  ensure (accepted.senderSigningKey == signingKey) unbound
  return record

def checkAnnouncement :=
  p.checkAnnounced "proxy announcement EndpointId does not match transport"
    "decode proxy announcement signing key"
    "proxy announcement envelope key does not match endpoint record"

def checkAnnouncementResponse :=
  p.checkAnnounced "proxy announcement response does not match transport"
    "decode proxy announcement response signing key"
    "proxy announcement response envelope key does not match endpoint record"

end DirectoryPlatform

structure ProxyNode where
  platform : DirectoryPlatform
  endpointId : String
  signingPublic : Bytes
  signingPrivate : Bytes
  kemPublic : Bytes

/-- The streams that read or write the table of known proxies, by the lock they wait for. -/
inductive DirectoryTask where
  | announcing (remote : String) (record : EndpointRecord) (replies : Bool)
  | listing (remote : String) (limit : Nat) (authorized : Bool)
  | announced (reply : Except String Bytes)
  | answered (endpoints : List EndpointRecord) (reply : Except String Bytes)
  | refused (error : String)

/-- A proxy, the proxies it knows and the latest time at which it checked one of their records. -/
structure Directory where
  proxy : ProxyState
  known : AList fun _ : String => EndpointRecord
  own : EndpointRecord
  tasks : AList fun _ : Nat => DirectoryTask
  verifiedAt : Nat

inductive DirectoryAction where
  | proxy (a : ProxyAction)
  | announce (id link : Nat) (payload : Bytes) (nowMillis : UInt64) (observedAt : Nat)
  | learn (id : Nat) (remote : String) (payload : Bytes) (nowMillis : UInt64) (observedAt : Nat)
  | discover (id link : Nat) (payload : Bytes) (nowMillis : UInt64) (observedAt : Nat)
      (keyNow tenantNow grantNow : UInt64)
  | write (id : Nat) (nonce : String) (nowMillis : UInt64)
  | list (id : Nat) (order : List (Σ _ : String, EndpointRecord)) (nonce : String)
      (nowMillis : UInt64)
  | refresh (record : EndpointRecord) (now : UInt64)

namespace ProxyNode
variable (node : ProxyNode)

def parts (remote nonce : String) (nowMillis : UInt64) : WorkloadEnvelopeParts where
  nonce := nonce
  nowMillis := nowMillis
  senderId := node.endpointId
  recipientId := remote
  senderSigningPublic := node.signingPublic
  senderSigningPrivate := node.signingPrivate
  senderKemPublic := some node.kemPublic

def endpoints (order : List (Σ _ : String, EndpointRecord)) (remote : String) (limit : Nat) :
    List EndpointRecord :=
  ((order.map (·.2)).filter fun record =>
    record.endpointId != node.platform.endpointIdBytes remote).take limit

def start (replay : PeerReplayRegistry) (configured : List EndpointRecord) (own : EndpointRecord)
    (now : UInt64) : Except String Directory := do
  ensure (configured.length ≤ maxConfiguredProxyEndpoints) "too many configured proxy endpoints"
  forEach (fun record => record.verify node.platform.toPlatform now) configured
  return {
    proxy := .init replay
    known := configured.foldl (fun known record =>
      match node.platform.endpointIdOf record.endpointId with
      | some id => known.insert id record
      | none => known) ∅
    own
    tasks := ∅
    verifiedAt := now.toNat }

end ProxyNode

namespace Directory
variable (node : ProxyNode)

def served (d : Directory) (id link : Nat) : Option Link :=
  if (d.tasks.lookup id).isSome then none
  else (d.proxy.links.tasks.lookup link).filter fun served => served.phase = .serving

def announce (d : Directory) (id : Nat) (spec : WorkloadPayload ProxyAnnouncement)
    (check : AcceptedWorkloadPayload ProxyAnnouncement → Except String EndpointRecord)
    (remote : String) (replies : Bool) (payload : Bytes) (nowMillis : UInt64) (observedAt : Nat) :
    Directory :=
  let (accepted, replay) := acceptWorkloadPayload node.platform.toEnvelopePlatform spec payload
    node.endpointId remote nowMillis d.proxy.replay observedAt
  let task : DirectoryTask :=
    match accepted >>= check with
    | .ok record => .announcing remote record replies
    | .error e => .refused e
  { d with
    proxy := { d.proxy with replay }
    tasks := d.tasks.insert id task
    verifiedAt := max d.verifiedAt (nowMillis / 1000).toNat }

def discover (d : Directory) (id : Nat) (link : Link) (payload : Bytes) (nowMillis : UInt64)
    (observedAt : Nat) (keyNow tenantNow grantNow : UInt64) : Directory :=
  let p := node.platform.toTokenPlatform
  let (accepted, replay) := acceptWorkloadPayload node.platform.toEnvelopePlatform
    node.platform.discoveryRequest payload node.endpointId link.remote nowMillis d.proxy.replay
    observedAt
  let d := { d with proxy := { d.proxy with replay } }
  let checked : Except String ProxyDiscoveryRequest := do
    let request ← accepted
    checkSigningKey p d.proxy.links.sessions link.remote link.stableId request.senderSigningKey
      keyNow
    return request.payload
  match checked with
  | .error e => { d with tasks := d.tasks.insert id (.refused e) }
  | .ok request =>
    let (authorized, dropped) :=
      match d.proxy.links.sessions.provenLive p link.remote link.stableId tenantNow with
      | .ok tenant => d.proxy.grants.holdsLiveGrant p tenant.ownerPubkey node.endpointId grantNow
      | .error _ => (false, [])
    { d with
      proxy := { d.proxy with dropping := dropped ++ d.proxy.dropping }
      tasks := d.tasks.insert id (.listing link.remote request.limit.toNat authorized) }

def write (d : Directory) (id : Nat) (remote : String) (record : EndpointRecord) (replies : Bool)
    (nonce : String) (nowMillis : UInt64) : Directory :=
  let reply := if replies then
      sealWorkloadPayload node.platform.toEnvelopePlatform node.platform.announcementResponse
        (node.parts remote nonce nowMillis) ⟨d.own⟩
    else .ok []
  { d with known := d.known.insert remote record, tasks := d.tasks.insert id (.announced reply) }

def list (d : Directory) (id : Nat) (remote : String) (limit : Nat) (authorized : Bool)
    (order : List (Σ _ : String, EndpointRecord)) (nonce : String) (nowMillis : UInt64) :
    Directory :=
  let endpoints := if authorized then node.endpoints order remote limit else []
  let reply := sealWorkloadPayload node.platform.toEnvelopePlatform node.platform.discoveryResponse
    (node.parts remote nonce nowMillis) ⟨endpoints⟩
  { d with tasks := d.tasks.insert id (.answered endpoints reply) }

def step (d : Directory) : DirectoryAction → Option Directory
  | .proxy a => (d.proxy.step node.platform.toProxyPlatform node.endpointId a).map fun proxy =>
      { d with proxy }
  | .announce id link payload nowMillis observedAt =>
    (d.served id link).map fun served => d.announce node id node.platform.announcementRequest
      (node.platform.checkAnnouncement served.remote) served.remote true payload nowMillis observedAt
  | .learn id remote payload nowMillis observedAt =>
    if (d.tasks.lookup id).isSome then none
    else some (d.announce node id node.platform.announcementResponse
      (node.platform.checkAnnouncementResponse remote) remote false payload nowMillis observedAt)
  | .discover id link payload nowMillis observedAt keyNow tenantNow grantNow =>
    (d.served id link).map fun served =>
      d.discover node id served payload nowMillis observedAt keyNow tenantNow grantNow
  | .write id nonce nowMillis =>
    match d.tasks.lookup id with
    | some (.announcing remote record replies) =>
      some (d.write node id remote record replies nonce nowMillis)
    | _ => none
  | .list id order nonce nowMillis =>
    match d.tasks.lookup id with
    | some (.listing remote limit authorized) =>
      if order.isPerm d.known.entries then
        some (d.list node id remote limit authorized order nonce nowMillis)
      else none
    | _ => none
  | .refresh record now =>
    match record.sign node.platform.toPlatform node.signingPublic node.signingPrivate now with
    | .ok own => some { d with own }
    | .error _ => some d

end Directory
end Podmesh
