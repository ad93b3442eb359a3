import Podmesh.Proxy.Authorized

namespace Podmesh

def maxHttpHeaders : Nat := 128
def maxHttpHeaderNameBytes : Nat := 256
def maxHttpHeaderValueBytes : Nat := 8 * 1024
def maxHttpHeadersBytes : Nat := 48 * 1024

structure IngressRequestMetadata where
  manifestId : String
  pathAndQuery : String
  headers : List (String × String)
  upgradeRequested : Bool
  deriving DecidableEq

structure IngressResponseMetadata where
  statusCode : UInt16
  headers : List (String × String)
  upgradeAccepted : Bool
  deriving DecidableEq

def validateHeaders (headers : List (String × String)) : Except String Unit := do
  ensure (headers.length ≤ maxHttpHeaders) "too many ingress headers"
  forEach (fun header : String × String => do
    ensure (header.1 != "" && header.1.utf8ByteSize ≤ maxHttpHeaderNameBytes
      && (utf8Bytes header.1).all fun b => b < 128) "ingress header name is invalid"
    ensure (header.2.utf8ByteSize ≤ maxHttpHeaderValueBytes)
      "ingress header value exceeds its limit") headers
  ensure ((headers.map fun header => header.1.utf8ByteSize + header.2.utf8ByteSize).sum
      ≤ maxHttpHeadersBytes)
    "combined ingress headers exceed their limit"

def IngressResponseMetadata.validate (self : IngressResponseMetadata) : Except String Unit := do
  ensure (100 ≤ self.statusCode && self.statusCode ≤ 599) "ingress response status is invalid"
  ensure (!self.upgradeAccepted || self.statusCode == 101) "ingress upgrade requires status 101"
  validateHeaders self.headers

structure IngressPlatform extends ProxyPlatform where
  encodeIngressResponse : IngressResponseMetadata → Except String Bytes
  decodeIngressResponse : Bytes → Except String IngressResponseMetadata

def IngressPlatform.ingressResponse (p : IngressPlatform) : WorkloadPayload IngressResponseMetadata where
  payloadType := .ingressResponse
  encode := p.encodeIngressResponse
  decode := p.decodeIngressResponse
  validate response _ := response.validate

def extractHostHeader (headers : List (String × String)) : Option String :=
  (headers.find? fun header => toAsciiLowercase header.1 == "host").map fun header =>
    toAsciiLowercase (String.ofList (header.2.toList.takeWhile (· ≠ ':')))

/-- Where a call of `forward_inner` stands. From the moment the request is sent, the phase keeps the
state of the proxy at that moment and the time. -/
inductive ForwardPhase where
  | routed (targets : List RouteTarget)
  | opened (target : RouteTarget) (rest : List RouteTarget) (stableId : Nat)
  | sent (target : RouteTarget) (stableId : Nat) (view : ProxyState) (now : UInt64)
  | answered (target : RouteTarget) (stableId : Nat) (view : ProxyState) (now : UInt64)
      (signingKey : Bytes)
  | failed (message : String)

structure Forward where
  request : IngressRequestMetadata
  upgradeHandle : Bool
  owner : Option String
  phase : ForwardPhase

structure ForwardState where
  proxy : ProxyState
  forwards : AList fun _ : Nat => Forward

/-- The steps of a call after it has been routed. Opening or writing a stream can fail for reasons
of the transport, and so can waiting for the response. -/
inductive ForwardStep where
  | lookup
  | broken (message : String)
  | send (now : UInt64)
  | respond (payload : Bytes) (nowMillis : UInt64) (observedAt : Nat)

inductive ForwardAction where
  | proxy (a : ProxyAction)
  | request (id : Nat) (request : IngressRequestMetadata) (upgradeHandle : Bool)
  | call (id : Nat) (step : ForwardStep)

def ForwardPhase.next (targets : List RouteTarget) (message : String) : ForwardPhase :=
  if targets.isEmpty then .failed message else .routed targets

/-- The check of `forward_inner` on the metadata of an accepted response. -/
def checkUpgrade (forward : Forward) (metadata : IngressResponseMetadata) : Except String Unit :=
  if metadata.upgradeAccepted then do
    ensure (forward.request.upgradeRequested && metadata.statusCode == 101)
      "invalid ingress upgrade transition"
    ensure forward.upgradeHandle "external HTTP upgrade handle is missing"
  else
    .ok ()

namespace ForwardState

def init (replay : PeerReplayRegistry) : ForwardState := ⟨.init replay, ∅⟩

def move (w : ForwardState) (id : Nat) (forward : Forward) (phase : ForwardPhase) : ForwardState :=
  { w with forwards := w.forwards.insert id { forward with phase := phase } }

def route (w : ForwardState) (id : Nat) (request : IngressRequestMetadata) (upgradeHandle : Bool) :
    ForwardState :=
  let (targets, routes) := w.proxy.routes.select request.manifestId request.pathAndQuery
    (extractHostHeader request.headers)
  { proxy := { w.proxy with routes }
    forwards := w.forwards.insert id {
      request
      upgradeHandle
      owner := (w.proxy.routes.byManifest.lookup request.manifestId).map (·.ownerPubkey)
      phase := .next targets s!"manifest {request.manifestId} has no registered sidecar route" } }

def lookup (w : ForwardState) (id : Nat) (forward : Forward) (target : RouteTarget)
    (rest : List RouteTarget) : ForwardState :=
  match w.proxy.links.connections.lookup target.sidecarPeerId with
  | none => w.move id forward (.next rest "registered sidecar connection is unavailable")
  | some stableId => w.move id forward (.opened target rest stableId)

def respond (p : IngressPlatform) (localId : String) (w : ForwardState) (id : Nat)
    (forward : Forward) (target : RouteTarget) (stableId : Nat) (view : ProxyState) (now : UInt64)
    (payload : Bytes) (nowMillis : UInt64) (observedAt : Nat) : ForwardState :=
  let (result, replay) := acceptWorkloadPayload p.toEnvelopePlatform p.ingressResponse payload localId
    target.sidecarPeerId nowMillis w.proxy.replay observedAt
  let w := { w with proxy := { w.proxy with replay } }
  match result with
  | .error e => w.move id forward (.failed e)
  | .ok accepted =>
    match checkUpgrade forward accepted.payload with
    | .error e => w.move id forward (.failed e)
    | .ok () => w.move id forward (.answered target stableId view now accepted.senderSigningKey)

def advance (p : IngressPlatform) (localId : String) (w : ForwardState) (id : Nat)
    (forward : Forward) : ForwardStep → Option ForwardState
  | .lookup =>
    match forward.phase with
    | .routed (target :: rest) =>
      if w.proxy.links.lock = none then some (w.lookup id forward target rest) else none
    | _ => none
  | .broken message =>
    match forward.phase with
    | .opened _ rest _ => some (w.move id forward (.next rest message))
    | .sent _ _ _ _ => some (w.move id forward (.failed message))
    | _ => none
  | .send now =>
    match forward.phase with
    | .opened target _ stableId => some (w.move id forward (.sent target stableId w.proxy now))
    | _ => none
  | .respond payload nowMillis observedAt =>
    match forward.phase with
    | .sent target stableId view now =>
      some (w.respond p localId id forward target stableId view now payload nowMillis observedAt)
    | _ => none

def step (p : IngressPlatform) (localId : String) (w : ForwardState) :
    ForwardAction → Option ForwardState
  | .proxy a => (w.proxy.step p.toProxyPlatform localId a).map fun proxy => { w with proxy }
  | .request id request upgradeHandle =>
    if (w.forwards.lookup id).isNone then some (w.route id request upgradeHandle) else none
  | .call id s =>
    match w.forwards.lookup id with
    | some forward => w.advance p localId id forward s
    | none => none

end ForwardState

end Podmesh
