import Podmesh.Agent.Task

namespace Podmesh

def admitReceive (h : Host) (i : Input) (n : Node) (request : AdmissionRequest) : Polled :=
  match request.verify h.platform.toPlatform i.now with
  | .error e => failWith n e
  | .ok () =>
    if request.targetNodeId ≠ h.signingPubkeyB64 then failWith n "admission target mismatch"
    else
      match n.replay.record (replayKey "admission" request.namespaceId request.nonce)
          request.expiresAtSecs i.replayNow with
      | (replay, .error e) => failWith { n with replay } e
      | (replay, .ok ()) => ({ n with replay }, .next (.admitLock i.now request))

def admitLock (h : Host) (i : Input) (n : Node) (now : UInt64) (request : AdmissionRequest) :
    Polled :=
  let (state, result) := admitLocked h now i.freshId request n.state
  finish { n with state } (result.map .reservation)

def deployReceive (h : Host) (i : Input) (n : Node) (grant : DeploymentGrant) : Polled :=
  match grant.verify h.platform.toPlatform i.now with
  | .error e => failWith n e
  | .ok () =>
    if grant.targetNodeId ≠ h.signingPubkeyB64 then failWith n "deployment target mismatch"
    else
      match n.replay.record (replayKey "deploy" grant.namespaceId grant.nonce)
          grant.expiresAtSecs i.replayNow with
      | (replay, .error e) => failWith { n with replay } e
      | (replay, .ok ()) =>
        let checked : Except String ExecutionSpec := do
          let execution ← h.decodeExecution grant
          let _ ← h.validateAndMeasureManifest execution.manifest
          return execution
        match checked with
        | .error e => failWith { n with replay } e
        | .ok execution => ({ n with replay }, .next (.deployGuard grant execution))

def deployGuard (h : Host) (i : Input) (n : Node) (grant : DeploymentGrant)
    (execution : ExecutionSpec) : Polled :=
  ownerMutation n i grant.workloadId (.deployGuard grant execution) fun guarded =>
    match grant.verify h.platform.toPlatform i.now with
    | .error e => failWith n e
    | .ok () => (guarded, .next (.deployLock i.now grant execution))

/-- The checks of a deployment against its consumed reservation; they plan the record. -/
def planDeployment (h : Host) (now : UInt64) (state : WorkloadState) (grant : DeploymentGrant)
    (execution : ExecutionSpec) (reservation : Reservation) :
    Except String (StoredWorkload × WorkloadDeployment) := do
  reservation.verify h.platform.toPlatform now
  ensure (reservation.accepted && reservation.namespaceId == grant.namespaceId
    && reservation.workloadId == grant.workloadId) "reservation binding mismatch"
  ensure (state.active.lookup grant.workloadId).isNone "workload is already active"
  let (manifest, measured) ← h.runtimeManifest grant.workloadId grant.namespaceId execution
  ensure (measured.within reservation.cpuMilli reservation.memoryBytes reservation.storageBytes)
    "workload resource limits exceed signed reservation"
  let deployment : WorkloadDeployment := ⟨grant.workloadId, grant.namespaceId, manifest⟩
  let plannedId ← h.runtime.targetId deployment
  ensure (plannedId != "") "runtime target is empty"
  return ({ version := storedWorkloadVersion
            phase := .creating
            grant
            runtimeId := plannedId
            deleting := false
            cpuMilli := reservation.cpuMilli
            memoryBytes := reservation.memoryBytes
            storageBytes := reservation.storageBytes
            workloadName := execution.workloadName
            replicaIndex := execution.replicaIndex
            replicaCount := execution.replicaCount }, deployment)

def WorkloadState.consume (state : WorkloadState) (reservationId : String) : WorkloadState :=
  { state with reservations := state.reservations.erase reservationId }

def deployLock (h : Host) (i : Input) (n : Node) (now : UInt64) (grant : DeploymentGrant)
    (execution : ExecutionSpec) : Polled :=
  match n.state.reservations.lookup grant.reservationId with
  | none => failWith n "reservation not found"
  | some reservation =>
    let n := { n with state := n.state.consume grant.reservationId }
    match planDeployment h now n.state grant execution reservation with
    | .error e => failWith n e
    | .ok (stored, deployment) =>
      match n.write i (·.save stored) with
      | (n, .error e) => failWith n e
      | (n, .ok ()) =>
        (n.insertActive grant.workloadId stored, .next (.deployRuntime now stored deployment))

def deployRuntime (h : Host) (i : Input) (n : Node) (now : UInt64) (stored : StoredWorkload)
    (deployment : WorkloadDeployment) : Polled :=
  match runtimeDeploy h i deployment n with
  | (n, .error e) => (n, .next (.deployFail stored e.unknown e.message))
  | (n, .ok runtimeId) =>
    if runtimeId ≠ stored.runtimeId then
      (n, .next (.deployFail stored true
        "runtime returned an unexpected workload identity; repair required"))
    else
      let stored := { stored with phase := .active }
      match n.write i (·.save stored) with
      | (n, .error e) => (n, .next (.deployFail stored false e))
      | (n, .ok ()) => (n, .next (.deployCommit now stored))

/-- `cleanup_pending` of a failed deployment up to its runtime call. -/
def beginCleanup (h : Host) (n : Node) (stored : StoredWorkload) (error : String) : Polled :=
  match h.cleanupTarget stored with
  | .error _ => failWith n error
  | .ok target => (n, .next (.deployCleanup stored target error))

/-- The section of `failed_deploy` under the state lock; a failed save is only logged. -/
def deployFail (h : Host) (i : Input) (n : Node) (stored : StoredWorkload) (uncertain : Bool)
    (error : String) : Polled :=
  let stored := { stored with phase := .cleanupPending uncertain }
  let (n, _) := (n.insertActive stored.grant.workloadId stored).write i (·.save stored)
  beginCleanup h n stored error

def deployCleanup (h : Host) (i : Input) (n : Node) (stored : StoredWorkload) (target : String)
    (error : String) : Polled :=
  match cleanupPending h i n stored target with
  | (n, .error _) => failWith n error
  | (n, .ok ()) => (n, .next (.deployRemove stored error))

def deployRemove (n : Node) (stored : StoredWorkload) (error : String) : Polled :=
  failWith (n.eraseActive stored.grant.workloadId) error

def deployCommit (h : Host) (n : Node) (now : UInt64) (stored : StoredWorkload) : Polled :=
  finish (n.insertActive stored.grant.workloadId stored) ((h.receipt stored now).map .receipt)

end Podmesh
