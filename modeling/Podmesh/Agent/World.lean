import Podmesh.Agent.Restore

namespace Podmesh

def enrollLock (h : Host) (i : Input) (n : Node) (workloadId : String) : Polled :=
  match n.state.active.lookup workloadId with
  | none => (n, .quit (.ok ()))
  | some stored =>
    let checked : Except String EnrollmentDelegation := do
      ensure (stored.phase == .active && !stored.deleting && stored.runtimeId != "")
        "workload is not enrollment-ready"
      let execution ← h.decodeExecution stored.grant
      let delegation ← h.platform.decodeDelegation execution.workloadCredentialB64
      let owner ← h.platform.b64Decode stored.grant.namespaceId
      delegation.verifyScope h.platform stored.grant.namespaceId
        (h.platform.routeId owner stored.workloadName) stored.grant.workloadId
        (some h.signingPubkeyB64) (some i.now)
      return delegation
    match checked with
    | .error e => (n, .quit (.error e))
    | .ok delegation => (n, .next (.enrollInspect stored delegation))

/-- Binds the reported keys to the delegation before any authority is handed out. -/
def enrollInspect (h : Host) (i : Input) (n : Node) (stored : StoredWorkload)
    (delegation : EnrollmentDelegation) : Polled :=
  let checked : Except String (ConnectorReport × String) := do
    let report ← i.report
    let encoded ← h.platform.encodeDelegation delegation
    i.loaded
    return (report, h.platform.blake3Hex [encoded])
  match checked with
  | .error e => (n, .quit (.error e))
  | .ok (report, delegationDigest) =>
    let binding : EnrollmentBinding :=
      { workloadId := stored.grant.workloadId
        delegationDigest
        endpointId := report.endpointId
        signingPublicKeyB64 := report.signingPublicKeyB64 }
    let existing := n.store.enrollments.lookup binding.workloadId
    if existing.any fun e => e.delegationDigest == binding.delegationDigest && e != binding then
      (n, .quit (.error "enrolled workload keys changed; owner generation update required"))
    else
      let (n, saved) := if existing = some binding then (n, .ok ())
        else n.write i (·.saveEnrollment binding)
      match saved with
      | .error e => (n, .quit (.error e))
      | .ok () =>
        if report.credentialFresh then (n, .quit (.ok ()))
        else (n, .next (.enrollInstall stored))

def enrollInstall (i : Input) (n : Node) : Polled := (n, .quit (i.payload.map fun _ => ()))

def receive (h : Host) (i : Input) (n : Node) : OwnerMessage → Polled
  | .admission request => admitReceive h i n request
  | .deploy grant => deployReceive h i n grant
  | .update request => updateReceive h i n request
  | .command command => commandReceive h i n command
  | .list request => listReceive h i n request

def poll (h : Host) (i : Input) (n : Node) : Task → Polled
  | .admitLock now request => admitLock h i n now request
  | .deployGuard grant execution => deployGuard h i n grant execution
  | .deployLock now grant execution => deployLock h i n now grant execution
  | .deployRuntime now stored deployment => deployRuntime h i n now stored deployment
  | .deployFail stored uncertain error => deployFail h i n stored uncertain error
  | .deployCleanup stored target error => deployCleanup h i n stored target error
  | .deployRemove stored error => deployRemove n stored error
  | .deployCommit now stored => deployCommit h n now stored
  | .updateGuard request execution => updateGuard h i n request execution
  | .updateLock now request execution manifest => updateLock h i n now request execution manifest
  | .updateRuntime now request execution active deployment =>
    updateRuntime h i n now request execution active deployment
  | .rollbackRuntime request active deployment error =>
    rollbackRuntime h i n request active deployment error
  | .rollbackInsert _ active error => rollbackInsert n active error
  | .updateCommit now request _ updated => updateCommit h n now request updated
  | .commandLock now command => commandLock h n now command
  | .commandRuntime now command _ => commandRuntime h i n now command
  | .deleteGuard now command => deleteGuard h i n now command
  | .deleteLookup now command => deleteLookup h n now command
  | .deleteCleanup now command active target => deleteCleanup h i n now command active target
  | .deleteMark now command active => deleteMark i n now command active
  | .deleteUnmark command _ error => deleteUnmark n command error
  | .deleteRuntime now command active => deleteRuntime i n now command active
  | .deleteRemove now command _ => deleteRemove h n now command
  | .deleteRestore now command active error => deleteRestore h n now command active error
  | .listLock now request => listLock h n now request
  | .enrollLock workloadId => enrollLock h i n workloadId
  | .enrollInspect stored delegation => enrollInspect h i n stored delegation
  | .enrollInstall _ => enrollInstall i n

def Task.effect (h : Host) (i : Input) (n : Node) : Task → Option Node
  | .deployRuntime _ _ deployment | .updateRuntime _ _ _ _ deployment
  | .rollbackRuntime _ _ deployment _ => some (runtimeDeploy h { i with reply := .ok } deployment n).1
  | .deployCleanup stored target _ =>
    some (runtimeCleanup h { i with reply := .ok } target stored.cleanupUncertain n).1
  | .deleteCleanup _ _ active target =>
    some (runtimeCleanup h { i with reply := .ok } target active.cleanupUncertain n).1
  | .deleteRuntime _ _ active => some (runtimeDelete { i with reply := .ok } active.runtimeId n).1
  | _ => none

def RestoreTask.effect (h : Host) (i : Input) (n : Node) : RestoreTask → Node
  | .cleanup stored target =>
    (runtimeCleanup h { i with reply := .ok } target stored.cleanupUncertain n).1
  | .delete stored => (runtimeDelete { i with reply := .ok } stored.runtimeId n).1
  | .update _ _ _ deployment | .redeploy _ deployment =>
    (runtimeDeploy h { i with reply := .ok } deployment n).1
  | .undo _ runtimeId => (runtimeDelete { i with reply := .ok } runtimeId n).1
  | .status _ => n

inductive Phase where
  | down
  /-- The process rebuilds its state: the records still to come, the one being reconciled, and
  what was rebuilt so far. -/
  | restoring (pending : List (String × Option StoredWorkload))
      (current : Option (String × RestoreTask)) (active : ActiveMap) (quarantined : Finset String)
  | running

/-- An agent process on its host, with the operations in flight and the answers it gave. -/
structure World where
  node : Node
  tasks : AList fun _ : Nat => Task
  phase : Phase
  responses : List (Nat × Except String Response)

def Node.fresh : Node := ⟨.empty, ∅, .empty, none, ⟨∅, ∅⟩, ∅⟩

def Node.reboot (n : Node) : Node := { Node.fresh with store := n.store, pods := n.pods }

def World.fresh : World := ⟨.fresh, ∅, .down, []⟩

def World.stopped (n : Node) (w : World) : World := ⟨n.reboot, ∅, .down, w.responses⟩

inductive Action where
  | restart (i : Input)
  | crash
  /-- A record on disk becomes unreadable while the agent is down. -/
  | corrupt (workloadId : String)
  | restore (i : Input)
  /-- The runtime call the restore waits for takes effect before it is answered. -/
  | restoreEffect (i : Input)
  | receive (task : Nat) (message : OwnerMessage) (i : Input)
  | enroll (task : Nat) (workloadId : String)
  | poll (task : Nat) (i : Input)
  /-- The runtime call a task waits for takes effect before it is answered. -/
  | effect (task : Nat) (i : Input)
  /-- The future of an operation is dropped at its wait. -/
  | cancel (task : Nat)
  | offer (query : CapacityQuery) (address : EndpointAddr) (now : UInt64)
  | attach (address : EndpointAddr)

def Node.dropGuard (n : Node) (t : Task) : Node :=
  match t.guard with
  | some (workloadId, _) => n.release workloadId
  | none => n

def World.advance (w : World) (task : Nat) (before : Option Task) (p : Polled) : World :=
  match p.2 with
  | .next t => { w with node := p.1, tasks := w.tasks.insert task t }
  | .done r =>
    { w with node := before.elim p.1 p.1.dropGuard, tasks := w.tasks.erase task
             responses := w.responses ++ [(task, r)] }
  | .quit _ => { w with node := before.elim p.1 p.1.dropGuard, tasks := w.tasks.erase task }

def Store.loadAll (s : Store) : List (String × Option StoredWorkload) :=
  s.workloads.entries.map fun e => (e.1, e.2)

def Restored.phase (pending : List (String × Option StoredWorkload)) (active : ActiveMap)
    (quarantined : Finset String) (workloadId : String) : Restored → Phase
  | .wait t => .restoring pending (some (workloadId, t)) active quarantined
  | .keep w => .restoring pending none (active.insert workloadId w) quarantined
  | .gone => .restoring pending none active quarantined

def World.restore (h : Host) (i : Input) (w : World) : Option World :=
  match w.phase with
  | .restoring pending (some (workloadId, t)) active quarantined =>
    let (node, restored) := restoreContinue h i w.node t
    some { w with node, phase := restored.phase pending active quarantined workloadId }
  | .restoring ((workloadId, none) :: pending) none active quarantined =>
    some { w with phase := .restoring pending none active (insert workloadId quarantined) }
  | .restoring ((workloadId, some stored) :: pending) none active quarantined =>
    let (node, restored) := restoreBegin h i w.node stored
    some { w with node, phase := restored.phase pending active quarantined workloadId }
  | .restoring [] none active quarantined =>
    let state : WorkloadState := ⟨active, ∅, quarantined⟩
    if h.config.fits state.usage then
      some { w with node := { w.node with state }, phase := .running }
    else some (w.stopped w.node)
  | _ => none

def World.step (h : Host) (w : World) : Action → Option World
  | .restart i =>
    match w.phase, h.config.validate, i.loaded with
    | .down, .ok (), .ok () =>
      if w.node.store.loadAll.length ≤ h.config.maxWorkloads then
        some { w with node := w.node.reboot, tasks := ∅
                      phase := .restoring w.node.store.loadAll none ∅ ∅ }
      else some w
    | .down, _, _ => some w
    | _, _, _ => none
  | .crash => some (w.stopped w.node)
  | .corrupt workloadId =>
    match w.phase, w.node.store.workloads.lookup workloadId with
    | .down, some _ => some { w with node := { w.node with store := { w.node.store with
        workloads := w.node.store.workloads.insert workloadId none } } }
    | _, _ => none
  | .restore i => w.restore h i
  | .restoreEffect i =>
    match w.phase with
    | .restoring _ (some (_, t)) _ _ => some { w with node := t.effect h i w.node }
    | _ => none
  | .receive task message i =>
    match w.phase, w.tasks.lookup task with
    | .running, none => some (w.advance task none (receive h i w.node message))
    | _, _ => none
  | .enroll task workloadId =>
    match w.phase, w.tasks.lookup task, w.node.mutationWithOwner workloadId .enrollment with
    | .running, none, .ok node =>
      some { w with node, tasks := w.tasks.insert task (.enrollLock workloadId) }
    | _, _, _ => none
  | .poll task i =>
    match w.tasks.lookup task with
    | some t => some (w.advance task (some t) (poll h i w.node t))
    | none => none
  | .effect task i =>
    ((w.tasks.lookup task).bind (Task.effect h i w.node)).map fun node => { w with node }
  | .cancel task =>
    match w.tasks.lookup task with
    | some t => some { w with node := w.node.dropGuard t, tasks := w.tasks.erase task }
    | none => none
  | .offer query address now =>
    match w.phase with
    | .running => some { w with node := { w.node with
        state := (capacityOffer h query address now w.node.state).1 } }
    | _ => none
  | .attach address =>
    match w.phase with
    | .running => some { w with node := { w.node with endpointAddress := some address } }
    | _ => none

end Podmesh
