import Podmesh.Agent.Task

namespace Podmesh

def updateReceive (h : Host) (i : Input) (n : Node) (request : UpdateRequest) : Polled :=
  match request.verify h.platform.toPlatform i.now with
  | .error e => failWith n e
  | .ok () =>
    if request.targetNodeId ≠ h.signingPubkeyB64 then failWith n "update target mismatch"
    else
      match n.replay.record (replayKey "update" request.namespaceId request.nonce)
          request.expiresAtSecs i.replayNow with
      | (replay, .error e) => failWith { n with replay } e
      | (replay, .ok ()) =>
        match h.decodeExecution request.grant with
        | .error e => failWith { n with replay } e
        | .ok execution => ({ n with replay }, .next (.updateGuard request execution))

def updateManifest (h : Host) (now : UInt64) (request : UpdateRequest)
    (execution : ExecutionSpec) : Except String Bytes := do
  request.verify h.platform.toPlatform now
  let _ ← h.validateAndMeasureManifest execution.manifest
  let (manifest, measured) ← h.runtimeManifest request.workloadId request.namespaceId execution
  ensure (measured.within request.cpuMilli request.memoryBytes request.storageBytes)
    "updated workload resource limits exceed signed request"
  return manifest

def updateGuard (h : Host) (i : Input) (n : Node) (request : UpdateRequest)
    (execution : ExecutionSpec) : Polled :=
  ownerMutation n i request.workloadId (.updateGuard request execution) fun guarded =>
    match updateManifest h i.now request execution with
    | .error e => failWith n e
    | .ok manifest => (guarded, .next (.updateLock i.now request execution manifest))

inductive UpdatePlan where
  | respond (outcome : UpdateOutcome) (reason : String)
  | transition

def WorkloadState.owned (state : WorkloadState) (workloadId namespaceId : String) :
    Option StoredWorkload :=
  (state.active.lookup workloadId).filter fun stored => stored.grant.namespaceId == namespaceId

def planUpdate (h : Host) (state : WorkloadState) (request : UpdateRequest)
    (execution : ExecutionSpec) (active : StoredWorkload) : Except String UpdatePlan := do
  ensure (!active.deleting && active.phase == .active && active.runtimeId != "")
    "workload is not active"
  if active.grant.revisionId = request.requestedRevisionId && !request.refreshServiceMesh then
    return .respond .alreadyActive ""
  ensure (execution.workloadName == active.workloadName
      && execution.replicaIndex == active.replicaIndex
      && execution.replicaCount == active.replicaCount)
    "update cannot change workload identity or replica count"
  if active.grant.revisionId ≠ request.expectedRevisionId || active.phase != .active then
    return .respond .conflict "stored revision does not match expected revision"
  ensure (h.config.fits ((state.usageWithout request.workloadId).plus request.cpuMilli.toNat
      request.memoryBytes.toNat request.storageBytes.toNat))
    "updated workload exceeds agent capacity"
  return .transition

/-- The record while the runtime replaces the pod: the new amounts are charged at once. -/
def transitioning (request : UpdateRequest) (active : StoredWorkload) : StoredWorkload :=
  { active with
    cpuMilli := request.cpuMilli
    memoryBytes := request.memoryBytes
    storageBytes := request.storageBytes
    phase := .updating active.grant active.runtimeId request }

def updatedWorkload (request : UpdateRequest) (execution : ExecutionSpec) (runtimeId : String) :
    StoredWorkload where
  version := storedWorkloadVersion
  phase := .active
  grant := request.grant
  runtimeId := runtimeId
  deleting := false
  cpuMilli := request.cpuMilli
  memoryBytes := request.memoryBytes
  storageBytes := request.storageBytes
  workloadName := execution.workloadName
  replicaIndex := execution.replicaIndex
  replicaCount := execution.replicaCount

def updateLock (h : Host) (i : Input) (n : Node) (now : UInt64) (request : UpdateRequest)
    (execution : ExecutionSpec) (manifest : Bytes) : Polled :=
  match n.state.owned request.workloadId request.namespaceId with
  | none => failWith n "workload not found"
  | some active =>
    match planUpdate h n.state request execution active with
    | .error e => failWith n e
    | .ok (.respond outcome reason) =>
      finish n ((h.updateResponse request active outcome reason now).map .update)
    | .ok .transition =>
      let changing := transitioning request active
      match n.write i (·.save changing) with
      | (n, .error e) => failWith n e
      | (n, .ok ()) =>
        (n.insertActive request.workloadId changing, .next (.updateRuntime now request execution
          active ⟨request.workloadId, request.namespaceId, manifest⟩))

def rollbackDeployment (h : Host) (active : StoredWorkload) : Except String WorkloadDeployment := do
  let (_, manifest, _) ← h.grantManifest active.grant
  return ⟨active.grant.workloadId, active.grant.namespaceId, manifest⟩

def updateRuntime (h : Host) (i : Input) (n : Node) (now : UInt64) (request : UpdateRequest)
    (execution : ExecutionSpec) (active : StoredWorkload) (deployment : WorkloadDeployment) :
    Polled :=
  match runtimeDeploy h i deployment n with
  | (n, .error e) =>
    match rollbackDeployment h active with
    | .error _ => failWith n e.message
    | .ok previous => (n, .next (.rollbackRuntime request active previous e.message))
  | (n, .ok runtimeId) =>
    let updated := updatedWorkload request execution runtimeId
    match n.write i (·.save updated) with
    | (n, .error e) => failWith n e
    | (n, .ok ()) => (n, .next (.updateCommit now request active updated))

def rollbackRuntime (h : Host) (i : Input) (n : Node) (request : UpdateRequest)
    (active : StoredWorkload) (deployment : WorkloadDeployment) (error : String) : Polled :=
  match runtimeDeploy h i deployment n with
  | (n, .error _) => failWith n error
  | (n, .ok _) =>
    match n.write i (·.save active) with
    | (n, .error _) => failWith n error
    | (n, .ok ()) => (n, .next (.rollbackInsert request active error))

def rollbackInsert (n : Node) (active : StoredWorkload) (error : String) : Polled :=
  failWith (n.insertActive active.grant.workloadId active) error

def updateCommit (h : Host) (n : Node) (now : UInt64) (request : UpdateRequest)
    (updated : StoredWorkload) : Polled :=
  finish (n.insertActive request.workloadId updated)
    ((h.updateResponse request updated .applied "" now).map .update)

end Podmesh
