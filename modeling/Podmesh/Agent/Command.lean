import Podmesh.Agent.Update

namespace Podmesh

def commandReceive (h : Host) (i : Input) (n : Node) (command : WorkloadCommand) : Polled :=
  match command.verify h.platform.toPlatform i.now with
  | .error e => failWith n e
  | .ok () =>
    if command.targetNodeId ≠ h.signingPubkeyB64 then failWith n "command target mismatch"
    else
      match n.replay.record (replayKey "command" command.namespaceId command.nonce)
          command.expiresAtSecs i.replayNow with
      | (replay, .error e) => failWith { n with replay } e
      | (replay, .ok ()) => ({ n with replay }, .next (.commandLock i.now command))

/-- The signed answer to a command; a refused operation is an answer too. -/
def respond (h : Host) (n : Node) (command : WorkloadCommand) (now : UInt64)
    (result : Except String String) : Polled :=
  match result with
  | .ok payload => finish n ((h.commandResponse command true payload now).map .command)
  | .error e => finish n ((h.commandResponse command false e now).map .command)

def operationRefusal (active : StoredWorkload) : Option String :=
  if active.needsCleanup then some "workload requires cleanup; creation may be incomplete"
  else if active.deleting then some "workload is deleting"
  else if active.isUpdating then some "workload is updating"
  else if active.runtimeId = "" then some "workload is starting"
  else none

def commandLock (h : Host) (n : Node) (now : UInt64) (command : WorkloadCommand) : Polled :=
  match n.state.owned command.workloadId command.namespaceId with
  | none => failWith n "workload not found"
  | some active =>
    if command.operation = .delete then (n, .next (.deleteGuard now command))
    else
      match operationRefusal active with
      | some reason => respond h n command now (.error reason)
      | none => (n, .next (.commandRuntime now command active))

def commandRuntime (h : Host) (i : Input) (n : Node) (now : UInt64) (command : WorkloadCommand) :
    Polled :=
  respond h n command now i.payload

def deleteGuard (h : Host) (i : Input) (n : Node) (now : UInt64) (command : WorkloadCommand) :
    Polled :=
  ownerMutation n i command.workloadId (.deleteGuard now command) fun guarded =>
    match command.verify h.platform.toPlatform i.now with
    | .error e => failWith n e
    | .ok () => (guarded, .next (.deleteLookup now command))

def deleteLookup (h : Host) (n : Node) (now : UInt64) (command : WorkloadCommand) : Polled :=
  match n.state.owned command.workloadId command.namespaceId with
  | none => failWith n "workload not found"
  | some active =>
    if active.needsCleanup then
      match h.cleanupTarget active with
      | .error e => respond h n command now (.error e)
      | .ok target => (n, .next (.deleteCleanup now command active target))
    else if active.isUpdating then respond h n command now (.error "workload is updating")
    else (n, .next (.deleteMark now command active))

def deleteCleanup (h : Host) (i : Input) (n : Node) (now : UInt64) (command : WorkloadCommand)
    (active : StoredWorkload) (target : String) : Polled :=
  match cleanupPending h i n active target with
  | (n, .error e) => respond h n command now (.error e)
  | (n, .ok ()) => (n, .next (.deleteRemove now command active))

def deleteMark (i : Input) (n : Node) (now : UInt64) (command : WorkloadCommand)
    (active : StoredWorkload) : Polled :=
  match n.state.active.lookup command.workloadId with
  | none => failWith n "workload not found"
  | some current =>
    let deleting := { current with deleting := true }
    match (n.insertActive command.workloadId deleting).write i (·.save deleting) with
    | (n, .error e) => (n, .next (.deleteUnmark command active e))
    | (n, .ok ()) => (n, .next (.deleteRuntime now command active))

def deleteUnmark (n : Node) (command : WorkloadCommand) (error : String) : Polled :=
  match n.state.active.lookup command.workloadId with
  | none => failWith n error
  | some current =>
    failWith (n.insertActive command.workloadId { current with deleting := false }) error

def deleteRuntime (i : Input) (n : Node) (now : UInt64) (command : WorkloadCommand)
    (active : StoredWorkload) : Polled :=
  let (n, result) :=
    if active.runtimeId = "" then (n, .ok ()) else runtimeDelete i active.runtimeId n
  match result with
  | .ok () =>
    match n.write i (·.remove command.workloadId) with
    | (n, .error e) => failWith n e
    | (n, .ok ()) => (n, .next (.deleteRemove now command active))
  | .error e =>
    match n.write i (·.save active) with
    | (n, .error failure) => failWith n failure
    | (n, .ok ()) => (n, .next (.deleteRestore now command active e.message))

def deleteRemove (h : Host) (n : Node) (now : UInt64) (command : WorkloadCommand) : Polled :=
  respond h (n.eraseActive command.workloadId) command now (.ok "deleted")

def deleteRestore (h : Host) (n : Node) (now : UInt64) (command : WorkloadCommand)
    (active : StoredWorkload) (error : String) : Polled :=
  respond h (n.insertActive command.workloadId active) command now (.error error)

def listReceive (h : Host) (i : Input) (n : Node) (request : WorkloadListRequest) : Polled :=
  match request.verify h.platform.toPlatform i.now with
  | .error e => failWith n e
  | .ok () =>
    match n.replay.record (replayKey "list" request.namespaceId request.nonce)
        request.expiresAtSecs i.replayNow with
    | (replay, .error e) => failWith { n with replay } e
    | (replay, .ok ()) => ({ n with replay }, .next (.listLock i.now request))

def StoredWorkload.stateText (stored : StoredWorkload) : String :=
  if stored.needsCleanup then "cleanup-required"
  else if stored.deleting then "deleting"
  else if stored.isUpdating then "updating"
  else if stored.runtimeId = "" then "starting"
  else "deployed"

def Host.summary (h : Host) (now : UInt64) (stored : StoredWorkload) :
    Except String WorkloadSummary := do
  let receipt ← h.receipt stored now
  return { workloadId := stored.grant.workloadId
           workloadName := stored.workloadName
           revisionId := stored.grant.revisionId
           replicaIndex := stored.replicaIndex
           replicaCount := stored.replicaCount
           state := stored.stateText
           deployingSinceSecs := stored.grant.issuedAtSecs
           receipt }

def Host.summaries (h : Host) (now : UInt64) (namespaceId : String) :
    List StoredWorkload → Except String (List WorkloadSummary)
  | [] => .ok []
  | stored :: rest =>
    if stored.grant.namespaceId = namespaceId then do
      let summary ← h.summary now stored
      let tail ← h.summaries now namespaceId rest
      return summary :: tail
    else h.summaries now namespaceId rest

def Host.listResponse (h : Host) (n : Node) (now : UInt64) (request : WorkloadListRequest) :
    Except String WorkloadListResponse := do
  let workloads ← h.summaries now request.namespaceId (n.state.active.entries.map (·.2))
  let address ← orError n.endpointAddress "agent has no active scheduler attachment record"
  let agentEndpoint ← h.signedEndpointRecord address now (now + 60)
  let response : WorkloadListResponse :=
    { version := agentProtocolVersion
      requestId := request.requestId
      agentNodeId := h.signingPubkeyB64
      agentEndpoint
      agentKemPubkey := h.platform.b64Encode h.kemPublic
      workloads
      respondedAtSecs := now
      signature := "" }
  let signature ← h.platform.signBody h.signingPrivate .workloadListResponse
    (.workloadListResponse response)
  return { response with signature }

def listLock (h : Host) (n : Node) (now : UInt64) (request : WorkloadListRequest) : Polled :=
  finish n ((h.listResponse n now request).map .list)

end Podmesh
