import Podmesh.Agent.Node

namespace Podmesh

inductive OwnerMessage where
  | admission (request : AdmissionRequest)
  | deploy (grant : DeploymentGrant)
  | update (request : UpdateRequest)
  | command (command : WorkloadCommand)
  | list (request : WorkloadListRequest)

inductive Response where
  | reservation (r : Reservation)
  | receipt (r : DeploymentReceipt)
  | update (r : UpdateResponse)
  | command (r : WorkloadCommandResponse)
  | list (r : WorkloadListResponse)

/-- Where an operation waits: at a lock, for a mutation guard or for a runtime call. -/
inductive Task where
  | admitLock (now : UInt64) (request : AdmissionRequest)
  | deployGuard (grant : DeploymentGrant) (execution : ExecutionSpec)
  | deployLock (now : UInt64) (grant : DeploymentGrant) (execution : ExecutionSpec)
  | deployRuntime (now : UInt64) (stored : StoredWorkload) (deployment : WorkloadDeployment)
  | deployFail (stored : StoredWorkload) (uncertain : Bool) (error : String)
  | deployCleanup (stored : StoredWorkload) (target : String) (error : String)
  | deployRemove (stored : StoredWorkload) (error : String)
  | deployCommit (now : UInt64) (stored : StoredWorkload)
  | updateGuard (request : UpdateRequest) (execution : ExecutionSpec)
  | updateLock (now : UInt64) (request : UpdateRequest) (execution : ExecutionSpec)
      (manifest : Bytes)
  | updateRuntime (now : UInt64) (request : UpdateRequest) (execution : ExecutionSpec)
      (active : StoredWorkload) (deployment : WorkloadDeployment)
  | rollbackRuntime (request : UpdateRequest) (active : StoredWorkload)
      (deployment : WorkloadDeployment) (error : String)
  | rollbackInsert (request : UpdateRequest) (active : StoredWorkload) (error : String)
  | updateCommit (now : UInt64) (request : UpdateRequest) (active updated : StoredWorkload)
  | commandLock (now : UInt64) (command : WorkloadCommand)
  | commandRuntime (now : UInt64) (command : WorkloadCommand) (active : StoredWorkload)
  | deleteGuard (now : UInt64) (command : WorkloadCommand)
  | deleteLookup (now : UInt64) (command : WorkloadCommand)
  | deleteCleanup (now : UInt64) (command : WorkloadCommand) (active : StoredWorkload)
      (target : String)
  | deleteMark (now : UInt64) (command : WorkloadCommand) (active : StoredWorkload)
  | deleteUnmark (command : WorkloadCommand) (active : StoredWorkload) (error : String)
  | deleteRuntime (now : UInt64) (command : WorkloadCommand) (active : StoredWorkload)
  | deleteRemove (now : UInt64) (command : WorkloadCommand) (active : StoredWorkload)
  | deleteRestore (now : UInt64) (command : WorkloadCommand) (active : StoredWorkload)
      (error : String)
  | listLock (now : UInt64) (request : WorkloadListRequest)
  | enrollLock (workloadId : String)
  | enrollInspect (stored : StoredWorkload) (delegation : EnrollmentDelegation)
  | enrollInstall (stored : StoredWorkload)

/-- The workload whose mutation guard a waiting operation holds, and for whom. -/
def Task.guard : Task → Option (String × MutationOwner)
  | .deployLock _ grant _ => some (grant.workloadId, .lifecycle)
  | .deployRuntime _ stored _ => some (stored.grant.workloadId, .lifecycle)
  | .deployFail stored _ _ => some (stored.grant.workloadId, .lifecycle)
  | .deployCleanup stored _ _ => some (stored.grant.workloadId, .lifecycle)
  | .deployRemove stored _ => some (stored.grant.workloadId, .lifecycle)
  | .deployCommit _ stored => some (stored.grant.workloadId, .lifecycle)
  | .updateLock _ request _ _ => some (request.workloadId, .lifecycle)
  | .updateRuntime _ request _ _ _ => some (request.workloadId, .lifecycle)
  | .rollbackRuntime request _ _ _ => some (request.workloadId, .lifecycle)
  | .rollbackInsert request _ _ => some (request.workloadId, .lifecycle)
  | .updateCommit _ request _ _ => some (request.workloadId, .lifecycle)
  | .deleteLookup _ command => some (command.workloadId, .lifecycle)
  | .deleteCleanup _ command _ _ => some (command.workloadId, .lifecycle)
  | .deleteMark _ command _ => some (command.workloadId, .lifecycle)
  | .deleteUnmark command _ _ => some (command.workloadId, .lifecycle)
  | .deleteRuntime _ command _ => some (command.workloadId, .lifecycle)
  | .deleteRemove _ command _ => some (command.workloadId, .lifecycle)
  | .deleteRestore _ command _ _ => some (command.workloadId, .lifecycle)
  | .enrollLock workloadId => some (workloadId, .enrollment)
  | .enrollInspect stored _ => some (stored.grant.workloadId, .enrollment)
  | .enrollInstall stored => some (stored.grant.workloadId, .enrollment)
  | _ => none

inductive After where
  | next (t : Task)
  | done (r : Except String Response)
  | quit (r : Except String Unit)

abbrev Polled := Node × After

def failWith (n : Node) (e : String) : Polled := (n, .done (.error e))

def finish (n : Node) (r : Except String Response) : Polled := (n, .done r)

/-- Waits for the mutation guard behind an enrollment; any other holder is an error. -/
def ownerMutation (n : Node) (i : Input) (workloadId : String) (wait : Task)
    (acquired : Node → Polled) : Polled :=
  if i.timedOut then
    failWith n "timed out waiting for endpoint enrollment to release workload"
  else
    match n.mutationWithOwner workloadId .lifecycle with
    | .ok n' => acquired n'
    | .error (some .enrollment) => (n, .next wait)
    | .error (some .lifecycle) => failWith n MutationOwner.lifecycle.text
    | .error none => failWith n "workload mutation limit reached"

def Host.cleanupTarget (h : Host) (stored : StoredWorkload) : Except String String :=
  if stored.runtimeId = "" then do
    let (_, manifest, _) ← h.grantManifest stored.grant
    h.runtime.targetId ⟨stored.grant.workloadId, stored.grant.namespaceId, manifest⟩
  else .ok stored.runtimeId

def StoredWorkload.cleanupUncertain (stored : StoredWorkload) : Bool :=
  match stored.phase with
  | .cleanupPending false => false
  | _ => true

def cleanupPending (h : Host) (i : Input) (n : Node) (stored : StoredWorkload) (target : String) :
    Node × Except String Unit :=
  match runtimeCleanup h i target stored.cleanupUncertain n with
  | (n, .error e) => (n, .error e.message)
  | (n, .ok ()) => n.write i (·.remove stored.grant.workloadId)

end Podmesh
