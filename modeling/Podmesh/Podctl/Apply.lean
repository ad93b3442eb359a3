import Podmesh.Podctl.Reconcile

namespace Podmesh

namespace Podctl

structure Apply where
  file : Bytes
  trustAnyAgent : Bool

/-- What an apply run knows before it looks at the catalogs. -/
structure Intent where
  trust : AgentTrust
  workloadName : String
  replicaCount : UInt32
  manifest : Bytes

structure Updating where
  plan : Plan
  catalog : DeploymentCatalog
  index : Nat
  failures : List String

structure Placing where
  plan : Plan
  catalog : DeploymentCatalog
  occupied : List String
  replicaIndex : UInt32
  excluded : List String
  refusals : List String

inductive Stage where
  | listing (intent : Option Intent) (request : WorkloadListRequest)
  | updating (u : Updating) (placement : ReplicaPlacement) (update : UpdateRequest)
      (expiresAtSecs : UInt64)
  | readying (u : Updating)
  | selecting (p : Placing)
  | admitting (p : Placing) (agent : CapacityOffer) (agentEndpointId : String)
      (admission : AdmissionRequest)
  | deploying (p : Placing) (agent : CapacityOffer) (agentEndpointId : String)
      (grant : DeploymentGrant) (expiresAtSecs : UInt64)
  | bootstrapping (deploymentId : String)

/-- What a wait ends with; an answer is decrypted, a failed exchange is an error. -/
inductive Answer where
  | listed (reply : Except String ListReply)
  | updated (response : Except String UpdateResponse)
  | ready (r : Except String Unit)
  | offered (offer : Except String CapacityOffer)
  | admitted (reservation : Except String Reservation)
  | deployed (receipt : Except String DeploymentReceipt)
  | bootstrapped (r : Except String Unit)

inductive Outcome where
  | listed
  | applied (deploymentId : String)
  deriving DecidableEq

inductive Next where
  | wait (s : Stage)
  | finish (o : Outcome)

/-- The agents of the deployments this one keeps away from; an unreadable catalog is skipped. -/
def antiAffinityAgents (p : Platform) (catalogs : CatalogDir) (targets : List String) :
    List String :=
  (targets.flatMap fun target =>
    match catalogs.load p target with
    | .ok catalog => catalog.replicas.map ReplicaPlacement.agentEndpointId
    | .error _ => []).eraseDups

namespace Client
variable (c : Client)

def placeFrom (plan : Plan) (catalog : DeploymentCatalog) (occupied : List String) : Nat → Next
  | 0 => .wait (.bootstrapping (c.deploymentId plan.workloadName))
  | remaining + 1 =>
    let replicaIndex := (plan.replicaCount.toNat - (remaining + 1)).toUInt32
    if catalog.contains replicaIndex then placeFrom plan catalog occupied remaining
    else .wait (.selecting ⟨plan, catalog, occupied, replicaIndex, occupied, []⟩)

def startPlacing (plan : Plan) (catalog : DeploymentCatalog) : Next :=
  let own := catalog.replicas.map ReplicaPlacement.agentEndpointId
  c.placeFrom plan catalog (own ++ plan.antiAffinityAgents.filter fun agent => !own.contains agent)
    plan.replicaCount.toNat

def updateFrom (i : Input) : Nat → Updating → Locked Owner Next
  | 0, u =>
    if u.failures.isEmpty then return c.startPlacing u.plan u.catalog
    else throw ("deployment update was only partially successful: " ++ "; ".intercalate u.failures)
  | remaining + 1, u =>
    match u.catalog.replicas[u.index]? with
    | none => updateFrom i remaining u
    | some placement =>
      let mark (state : ReplicaUpdateState) : DeploymentCatalog := { u.catalog with
        replicas := u.catalog.replicas.set u.index { placement with updateState := state } }
      if placement.revisionId == u.plan.revisionId && !placement.serviceMeshRenewalDue i.now then
        updateFrom i remaining { u with catalog := mark .active, index := u.index + 1 }
      else do
        let catalog := mark (.updating u.plan.revisionId)
        c.save i catalog
        let placement := { placement with updateState := .updating u.plan.revisionId }
        match ← (c.sendUpdate i u.plan placement).attempt with
        | .ok (update, expiresAtSecs) =>
          return .wait (.updating { u with catalog } placement update expiresAtSecs)
        | .error e =>
          updateFrom i remaining { u with
            catalog, index := u.index + 1
            failures := u.failures ++
              [s!"replica {placement.replicaIndex} on {placement.agentEndpointId}: {e}"] }

def updateNext (i : Input) (u : Updating) : Locked Owner Next :=
  c.updateFrom i (u.catalog.replicas.length - (u.index + 1)) { u with index := u.index + 1 }

def upToDate (revisionId : String) (replicaCount : UInt32) (now : UInt64)
    (catalog : DeploymentCatalog) : Bool :=
  catalog.replicas.length == replicaCount.toNat && catalog.replicas.all fun replica =>
    replica.revisionId == revisionId && !replica.serviceMeshRenewalDue now

def proxyRecord (now : UInt64) (encoded : String) : Except String EndpointRecord := do
  let bytes ← withContext "decode proxy EndpointRecord" (c.platform.b64Decode encoded)
  c.recordFromBytes bytes now

/-- `apply_file_internal` from the point where the catalog is known. -/
def continueApply (i : Input) (intent : Intent) (existing : Option DeploymentCatalog) :
    Locked Owner Next := do
  liftExcept (ensure (existing.all fun catalog => catalog.replicaCount == intent.replicaCount)
    s!"scaling an existing deployment is not supported in the MVP (recorded {(existing.elim 0 DeploymentCatalog.replicaCount)}, requested {intent.replicaCount})")
  let (manifest, measured) ← liftExcept (c.yaml.validateAndMeasureManifest intent.manifest)
  let resources ← liftExcept measured.withDefaultSidecar
  let revisionId := c.platform.revisionId manifest
  if existing.any (upToDate revisionId intent.replicaCount i.now) then
    liftExcept i.granted
    return .wait (.bootstrapping (c.deploymentId intent.workloadName))
  else
    let annotations ← liftExcept (c.annotations manifest)
    let o ← get
    let config ← liftExcept (i.proxies annotations)
    let proxyEndpoints ← liftExcept (config.endpoints.mapM (c.proxyRecord i.now))
    liftExcept (ensure (!proxyEndpoints.isEmpty)
      "initial proxy EndpointRecords are required in podmesh.io/proxy-endpoints or PODMESH_PROXY_ENDPOINTS")
    liftExcept i.granted
    let plan : Plan :=
      { trust := intent.trust
        workloadName := intent.workloadName
        replicaCount := intent.replicaCount
        manifest, resources, revisionId, proxyEndpoints
        relayAuthToken := config.relayAuthToken
        relayCaCertificates := config.relayCaCertificates
        antiAffinityAgents := antiAffinityAgents c.platform o.catalogs annotations.antiAffinity }
    match existing with
    | some catalog => c.updateFrom i catalog.replicas.length ⟨plan, catalog, 0, []⟩
    | none =>
      return c.startPlacing plan
        (.new (c.deploymentId intent.workloadName) intent.workloadName intent.replicaCount)

def startApply (i : Input) (apply : Apply) : Locked Owner Next := do
  let trust ← liftExcept (c.resolve apply.trustAnyAgent)
  let (workloadName, replicaCount, manifest) ← liftExcept (c.canonicalManifest apply.file)
  let intent : Intent := { trust, workloadName, replicaCount, manifest }
  let o ← get
  let existing ← liftExcept (o.catalogs.loadIfExists c.platform (c.deploymentId workloadName))
  match existing with
  | some catalog => c.continueApply i intent (some catalog)
  | none => do
    let request ← liftExcept (c.listRequest i)
    return .wait (.listing (some intent) request)

def startList (i : Input) : Locked Owner Next := do
  let request ← liftExcept (c.listRequest i)
  return .wait (.listing none request)

def afterListing (i : Input) (intent : Option Intent) (request : WorkloadListRequest)
    (reply : Except String ListReply) : Locked Owner Next := do
  let reply ← liftExcept reply
  c.reconcileWorkloads i request reply
  match intent with
  | none => return .finish .listed
  | some intent => do
    let o ← get
    let existing ← liftExcept
      (o.catalogs.loadIfExists c.platform (c.deploymentId intent.workloadName))
    liftExcept (ensure (existing.isSome || !reply.isPartial)
      "cannot safely create deployment while workload reconciliation is partial")
    c.continueApply i intent existing

def afterUpdate (i : Input) (u : Updating) (placement : ReplicaPlacement) (update : UpdateRequest)
    (expiresAtSecs : UInt64) (response : Except String UpdateResponse) : Locked Owner Next :=
  match response >>= c.confirmUpdate i u.plan placement update expiresAtSecs with
  | .ok updated => do
    let catalog := { u.catalog with replicas := u.catalog.replicas.set u.index updated }
    c.save i catalog
    return .wait (.readying { u with catalog })
  | .error e =>
    c.updateNext i { u with failures := u.failures ++
      [s!"replica {placement.replicaIndex} on {placement.agentEndpointId}: {e}"] }

def selectionContext (p : Placing) : String :=
  if p.refusals.isEmpty then
    s!"no agent available for replica {p.replicaIndex.toNat + 1} of {p.plan.replicaCount}; each replica needs its own agent"
  else s!"no replacement agent available for replica {p.replicaIndex.toNat + 1} of {p.plan.replicaCount} after capacity refusals from " ++
    ", ".intercalate p.refusals

def deployContext (p : Placing) (agentEndpointId : String) : String :=
  s!"deploying replica {p.replicaIndex} to {agentEndpointId}"

def afterOffer (i : Input) (p : Placing) (offer : Except String CapacityOffer) :
    Locked Owner Next := do
  let agent ← liftExcept (withContext (selectionContext p) (c.selectAgent i p.plan offer))
  let agentEndpointId ← liftExcept (offeredEndpointId p.excluded agent)
  let admission ← Locked.context (deployContext p agentEndpointId)
    (c.sendAdmission i p.plan p.replicaIndex agent)
  return .wait (.admitting p agent agentEndpointId admission)

def afterAdmission (i : Input) (p : Placing) (agent : CapacityOffer) (agentEndpointId : String)
    (admission : AdmissionRequest) (reservation : Except String Reservation) :
    Locked Owner Next := do
  let admitted ← liftExcept (withContext (deployContext p agentEndpointId)
    (reservation >>= c.readReservation i p.plan p.replicaIndex agent admission))
  match admitted with
  | .refused reason =>
    let refusals := p.refusals ++ [s!"{agentEndpointId} ({reason})"]
    liftExcept (ensure (refusals.length ≤ maxAdmissionCapacityRetries)
      (s!"replica {p.replicaIndex.toNat + 1} exhausted {maxAdmissionCapacityRetries} admission capacity retries: " ++
        ", ".intercalate refusals))
    return .wait (.selecting { p with refusals, excluded := p.excluded ++ [agentEndpointId] })
  | .reserved reservationId => do
    let (grant, expiresAtSecs) ← Locked.context (deployContext p agentEndpointId)
      (c.sendGrant i p.plan p.replicaIndex agent reservationId)
    return .wait (.deploying p agent agentEndpointId grant expiresAtSecs)

def afterDeploy (i : Input) (p : Placing) (agent : CapacityOffer) (agentEndpointId : String)
    (expiresAtSecs : UInt64) (receipt : Except String DeploymentReceipt) : Locked Owner Next := do
  let placement ← liftExcept (withContext (deployContext p agentEndpointId)
    (receipt >>= c.confirmDeploy p.plan p.replicaIndex agent agentEndpointId expiresAtSecs))
  let catalog := { p.catalog with replicas := p.catalog.replicas ++ [placement] }.sorted
  c.save i catalog
  return c.placeFrom p.plan catalog (p.occupied ++ [agentEndpointId])
    (p.plan.replicaCount.toNat - (p.replicaIndex.toNat + 1))

/-- Runs from one wait to the next; an answer to another request is not read. -/
def resume (i : Input) : Stage → Answer → Option (Locked Owner Next)
  | .listing intent request, .listed reply => some (c.afterListing i intent request reply)
  | .updating u placement update expiresAtSecs, .updated response =>
    some (c.afterUpdate i u placement update expiresAtSecs response)
  | .readying u, .ready r => some (liftExcept r >>= fun _ => c.updateNext i u)
  | .selecting p, .offered offer => some (c.afterOffer i p offer)
  | .admitting p agent agentEndpointId admission, .admitted reservation =>
    some (c.afterAdmission i p agent agentEndpointId admission reservation)
  | .deploying p agent agentEndpointId _ expiresAtSecs, .deployed receipt =>
    some (c.afterDeploy i p agent agentEndpointId expiresAtSecs receipt)
  | .bootstrapping deploymentId, .bootstrapped r =>
    some (liftExcept r >>= fun _ => return .finish (.applied deploymentId))
  | _, _ => none

end Client

structure Session where
  owner : Owner
  run : Option Stage
  returned : Option (Except String Outcome)

def Session.fresh : Session := ⟨⟨∅, []⟩, none, none⟩

inductive Action where
  | apply (apply : Apply) (i : Input)
  | list (i : Input)
  | answer (answer : Answer) (i : Input)
  /-- The process is killed at its wait. -/
  | crash

namespace Session

def advance (s : Session) (x : Locked Owner Next) : Session :=
  match x.exec s.owner with
  | (.ok (.wait stage), owner) => ⟨owner, some stage, none⟩
  | (.ok (.finish outcome), owner) => ⟨owner, none, some (.ok outcome)⟩
  | (.error e, owner) => ⟨owner, none, some (.error e)⟩

def step (c : Client) (s : Session) : Action → Option Session
  | .apply apply i => if s.run.isNone then some (s.advance (c.startApply i apply)) else none
  | .list i => if s.run.isNone then some (s.advance (c.startList i)) else none
  | .answer answer i => s.run.bind fun stage => (c.resume i stage answer).map s.advance
  | .crash => if s.run.isSome then some { s with run := none, returned := none } else none

end Session
end Podctl
end Podmesh
