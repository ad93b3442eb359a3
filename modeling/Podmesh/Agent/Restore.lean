import Podmesh.Agent.Command
import Podmesh.Agent.Deploy

namespace Podmesh

inductive RestoreTask where
  | cleanup (stored : StoredWorkload) (target : String)
  | delete (stored : StoredWorkload)
  | update (stored : StoredWorkload) (request : UpdateRequest) (execution : ExecutionSpec)
      (deployment : WorkloadDeployment)
  | status (stored : StoredWorkload)
  | redeploy (stored : StoredWorkload) (deployment : WorkloadDeployment)
  | undo (stored : StoredWorkload) (runtimeId : String)

/-- The outcome of one section of `restore_one`; an error retains the record as it was loaded. -/
inductive Restored where
  | wait (t : RestoreTask)
  | keep (w : StoredWorkload)
  | gone

def planInterruptedUpdate (h : Host) (stored : StoredWorkload) (request : UpdateRequest) :
    Except String (ExecutionSpec × WorkloadDeployment) := do
  let execution ← h.decodeExecution request.grant
  let (manifest, measured) ←
    h.runtimeManifest stored.grant.workloadId request.namespaceId execution
  ensure (measured.within request.cpuMilli request.memoryBytes request.storageBytes)
    "interrupted update exceeds signed resource limits"
  return (execution, ⟨stored.grant.workloadId, request.namespaceId, manifest⟩)

def planRedeploy (h : Host) (stored : StoredWorkload) : Except String WorkloadDeployment := do
  let (_, manifest, measured) ← h.grantManifest stored.grant
  ensure (measured.within stored.cpuMilli stored.memoryBytes stored.storageBytes)
    "persisted workload resource limits exceed reservation"
  return ⟨stored.grant.workloadId, stored.grant.namespaceId, manifest⟩

/-- Clears the enrollment binding and waits for the pod to be recreated. -/
def restoreRedeploy (h : Host) (i : Input) (n : Node) (stored : StoredWorkload) :
    Node × Restored :=
  match planRedeploy h stored with
  | .error _ => (n, .keep stored)
  | .ok deployment =>
    match n.write i (·.removeEnrollment stored.grant.workloadId) with
    | (n, .error _) => (n, .keep stored)
    | (n, .ok ()) => (n, .wait (.redeploy stored deployment))

def restoreBegin (h : Host) (i : Input) (n : Node) (stored : StoredWorkload) : Node × Restored :=
  if stored.needsCleanup then
    match h.cleanupTarget stored with
    | .error _ => (n, .keep stored)
    | .ok target => (n, .wait (.cleanup stored target))
  else if stored.deleting then
    if stored.runtimeId = "" then
      match n.write i (·.remove stored.grant.workloadId) with
      | (n, .error _) => (n, .keep stored)
      | (n, .ok ()) => (n, .gone)
    else (n, .wait (.delete stored))
  else
    match stored.phase with
    | .updating _ _ request =>
      match planInterruptedUpdate h stored request with
      | .error _ => (n, .keep stored)
      | .ok (execution, deployment) => (n, .wait (.update stored request execution deployment))
    | _ =>
      if stored.runtimeId = "" then restoreRedeploy h i n stored
      else (n, .wait (.status stored))

def rolledForward (stored : StoredWorkload) (request : UpdateRequest) (execution : ExecutionSpec)
    (runtimeId : String) : StoredWorkload :=
  { stored with
    runtimeId
    grant := request.grant
    phase := .active
    cpuMilli := request.cpuMilli
    memoryBytes := request.memoryBytes
    storageBytes := request.storageBytes
    workloadName := execution.workloadName
    replicaIndex := execution.replicaIndex
    replicaCount := execution.replicaCount }

def restoreContinue (h : Host) (i : Input) (n : Node) : RestoreTask → Node × Restored
  | .cleanup stored target =>
    match cleanupPending h i n stored target with
    | (n, .error _) => (n, .keep stored)
    | (n, .ok ()) => (n, .gone)
  | .delete stored =>
    match runtimeDelete i stored.runtimeId n with
    | (n, .error _) => (n, .keep stored)
    | (n, .ok ()) =>
      match n.write i (·.remove stored.grant.workloadId) with
      | (n, .error _) => (n, .keep stored)
      | (n, .ok ()) => (n, .gone)
  | .update stored request execution deployment =>
    match runtimeDeploy h i deployment n with
    | (n, .error _) => (n, .keep stored)
    | (n, .ok runtimeId) =>
      let updated := rolledForward stored request execution runtimeId
      match n.write i (·.save updated) with
      | (n, .error _) => (n, .keep stored)
      | (n, .ok ()) => (n, .keep updated)
  | .status stored =>
    match i.reply with
    | .ok | .other _ => (n, .keep stored)
    | .failed _ | .unknown _ => restoreRedeploy h i n stored
  | .redeploy stored deployment =>
    match runtimeDeploy h i deployment n with
    | (n, .error _) => (n, .keep stored)
    | (n, .ok runtimeId) =>
      let redeployed := { stored with runtimeId }
      match n.write i (·.save redeployed) with
      | (n, .error _) => (n, .wait (.undo stored runtimeId))
      | (n, .ok ()) => (n, .keep redeployed)
  | .undo stored runtimeId => ((runtimeDelete i runtimeId n).1, .keep stored)

end Podmesh
