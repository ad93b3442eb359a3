import Podmesh.Podctl.Client

namespace Podmesh

namespace Podctl

/-- One answer of the mesh-wide list: what its text decodes to, and what that decrypts to. -/
structure ListEntry where
  agentEndpointId : String
  decoded : Except String (Except String WorkloadListResponse)

structure ListReply where
  answered : List ListEntry
  unreachableAgents : List String
  unreachableSchedulers : List String

def ListReply.isPartial (reply : ListReply) : Bool :=
  !reply.unreachableAgents.isEmpty || !reply.unreachableSchedulers.isEmpty

/-- The catalogs rebuilt so far and the replicas some agent claimed. -/
structure Recovery where
  recovered : CatalogDir
  placements : List (String × UInt32)

def ReplicaPlacement.retaining (placement existing : ReplicaPlacement) : ReplicaPlacement :=
  if existing.revisionId == placement.revisionId
      && existing.agentEndpointId == placement.agentEndpointId then
    { placement with serviceMeshExpiresAtSecs := existing.serviceMeshExpiresAtSecs }
  else placement

def upsert (placement : ReplicaPlacement) : List ReplicaPlacement → List ReplicaPlacement
  | [] => [placement]
  | existing :: rest =>
    if existing.replicaIndex == placement.replicaIndex then placement.retaining existing :: rest
    else existing :: upsert placement rest

namespace Client
variable (c : Client)

def listRequest (i : Input) : Except String WorkloadListRequest :=
  c.signList
    { version := agentProtocolVersion
      requestId := i.requestId
      namespaceId := c.namespaceId
      responseKemPubkey := c.responseKemPubkey
      issuedAtSecs := i.now
      expiresAtSecs := i.now + requestTtlSecs
      nonce := i.nonce
      ownerSignature := "" }

def reportedPlacement (agentEndpointId : String) (response : WorkloadListResponse)
    (workload : WorkloadSummary) : ReplicaPlacement where
  replicaIndex := workload.replicaIndex
  revisionId := workload.revisionId
  receipt := workload.receipt
  apiBase := c.apiBase
  agentEndpointId := agentEndpointId
  agentEndpoint := response.agentEndpoint
  agentKemPubkey := response.agentKemPubkey
  agentSigningPubkey := response.agentNodeId
  serviceMeshExpiresAtSecs := 0
  updateState := .active

/-- The catalog a recovered replica belongs to: one already rebuilt, the one on disk or a new one. -/
def recoveredCatalog (catalogs : CatalogDir) (recovered : CatalogDir) (workload : WorkloadSummary) :
    Except String DeploymentCatalog :=
  let deploymentId := c.deploymentId workload.workloadName
  match recovered.lookup deploymentId with
  | some catalog => .ok catalog
  | none => do
    let existing ← catalogs.loadIfExists c.platform deploymentId
    return existing.getD (.new deploymentId workload.workloadName workload.replicaCount)

def recoverWorkload (catalogs : CatalogDir) (agentEndpointId : String)
    (response : WorkloadListResponse) (r : Recovery) (workload : WorkloadSummary) :
    Except String Recovery := do
  ensure (workload.receipt.namespaceId == c.namespaceId)
    "agent returned a receipt for a different namespace"
  ensure (workload.workloadId == c.workloadId workload.workloadName workload.replicaIndex)
    "agent returned a workload with an invalid stable identity"
  ensure (!r.placements.contains (workload.workloadId, workload.replicaIndex))
    "multiple agents claim the same workload replica"
  let catalog ← c.recoveredCatalog catalogs r.recovered workload
  ensure (catalog.workloadName == workload.workloadName
      && catalog.replicaCount == workload.replicaCount)
    "agents disagree about deployment identity or replica count"
  let placement := c.reportedPlacement agentEndpointId response workload
  return { recovered := r.recovered.insert (c.deploymentId workload.workloadName)
             { catalog with replicas := upsert placement catalog.replicas }
           placements := (workload.workloadId, workload.replicaIndex) :: r.placements }

/-- One answer of the list: unreadable and unsigned ones are ignored. -/
def recoverEntry (catalogs : CatalogDir) (request : WorkloadListRequest) (r : Recovery)
    (entry : ListEntry) : Except String Recovery := do
  match ← entry.decoded with
  | .error _ => return r
  | .ok response =>
    if (response.verify c.platform).isOk then do
      ensure (response.requestId == request.requestId)
        s!"agent {entry.agentEndpointId} answered a different list request"
      ensure (hexEncode response.agentEndpoint.endpointId == entry.agentEndpointId)
        "agent answer identity does not match authenticated scheduler attachment"
      response.workloads.foldlM (c.recoverWorkload catalogs entry.agentEndpointId response) r
    else return r

/-- The rest of `reconcile_workloads`, on the reply to its request. -/
def reconcileWorkloads (i : Input) (request : WorkloadListRequest) (reply : ListReply) :
    Locked Owner Unit := do
  let o ← get
  let r ← liftExcept (reply.answered.foldlM (c.recoverEntry o.catalogs request) ⟨∅, []⟩)
  (i.order (r.recovered.entries.map fun e => e.2)).1.forM fun catalog => c.save i catalog.sorted

end Client
end Podctl
end Podmesh
