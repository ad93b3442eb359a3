import Podmesh.Agent.Admission
import Podmesh.Agent.Replay

namespace Podmesh

structure Pod where
  manifest : Bytes
  endpointId : String
  signingPublicKeyB64 : String

abbrev PodMap := AList fun _ : String => Pod

/-- The persistent tables; a workload record that cannot be decoded is `none`. -/
structure Store where
  workloads : AList fun _ : String => Option StoredWorkload
  enrollments : AList fun _ : String => EnrollmentBinding

inductive MutationOwner where
  | lifecycle | enrollment
  deriving DecidableEq

def MutationOwner.text : MutationOwner → String
  | .lifecycle => "workload is busy"
  | .enrollment => "workload is busy with endpoint enrollment"

/-- Everything that outlives one poll of a task: memory, disk and pods. -/
structure Node where
  state : WorkloadState
  mutations : AList fun _ : String => MutationOwner
  replay : ReplayCache
  endpointAddress : Option EndpointAddr
  store : Store
  pods : PodMap

inductive RuntimeReply where
  | ok
  /-- The call succeeded but answered with another identity than the planned one. -/
  | other (id : String)
  | failed (message : String)
  /-- The call timed out or was interrupted: its outcome is unknown. -/
  | unknown (message : String)

structure RuntimeError where
  message : String
  unknown : Bool

structure ConnectorReport where
  endpointId : String
  signingPublicKeyB64 : String
  /-- The workload already holds a credential that need not be renewed. -/
  credentialFresh : Bool

/-- What the environment decides during one poll of a task. -/
structure Input where
  now : UInt64
  replayNow : UInt64
  freshId : String
  timedOut : Bool
  stored : Except String Unit
  loaded : Except String Unit
  reply : RuntimeReply
  /-- Whether a runtime call that did not succeed took effect all the same. -/
  tookEffect : Bool
  podEndpointId : String
  podSigningKey : String
  payload : Except String String
  report : Except String ConnectorReport

namespace Store

def save (s : Store) (w : StoredWorkload) : Store :=
  { s with workloads := s.workloads.insert w.grant.workloadId (some w) }

def remove (s : Store) (workloadId : String) : Store :=
  ⟨s.workloads.erase workloadId, s.enrollments.erase workloadId⟩

def saveEnrollment (s : Store) (binding : EnrollmentBinding) : Store :=
  { s with enrollments := s.enrollments.insert binding.workloadId binding }

def removeEnrollment (s : Store) (workloadId : String) : Store :=
  { s with enrollments := s.enrollments.erase workloadId }

end Store

namespace Node

def write (n : Node) (i : Input) (f : Store → Store) : Node × Except String Unit :=
  match i.stored with
  | .ok () => ({ n with store := f n.store }, .ok ())
  | .error e => (n, .error e)

def insertActive (n : Node) (workloadId : String) (w : StoredWorkload) : Node :=
  { n with state := { n.state with active := n.state.active.insert workloadId w } }

def eraseActive (n : Node) (workloadId : String) : Node :=
  { n with state := { n.state with active := n.state.active.erase workloadId } }

def mutationWithOwner (n : Node) (workloadId : String) (owner : MutationOwner) :
    Except (Option MutationOwner) Node :=
  if Assoc.size n.mutations ≥ maxConfiguredWorkloads then .error none
  else match n.mutations.lookup workloadId with
    | some other => .error (some other)
    | none => .ok { n with mutations := n.mutations.insert workloadId owner }

def release (n : Node) (workloadId : String) : Node :=
  { n with mutations := n.mutations.erase workloadId }

end Node

def runtimeCall (i : Input) (pods after : PodMap) : PodMap × Except RuntimeError (Option String) :=
  match i.reply with
  | .ok => (after, .ok none)
  | .other id => (after, .ok (some id))
  | .failed m => (if i.tookEffect then after else pods, .error ⟨m, false⟩)
  | .unknown m => (if i.tookEffect then after else pods, .error ⟨m, true⟩)

/-- `deploy` of the runtime: replaces the pod under the target name and returns its identity. -/
def runtimeDeploy (h : Host) (i : Input) (d : WorkloadDeployment) (n : Node) :
    Node × Except RuntimeError String :=
  match h.runtime.targetId d with
  | .error e => (n, .error ⟨e, false⟩)
  | .ok id =>
    let created := n.pods.insert id ⟨d.manifest, i.podEndpointId, i.podSigningKey⟩
    let (pods, result) := runtimeCall i n.pods created
    ({ n with pods }, result.map fun other => other.getD id)

def runtimeDelete (i : Input) (id : String) (n : Node) : Node × Except RuntimeError Unit :=
  let (pods, result) := runtimeCall i n.pods (n.pods.erase id)
  ({ n with pods }, result.map fun _ => ())

def runtimeCleanup (h : Host) (i : Input) (id : String) (uncertain : Bool) (n : Node) :
    Node × Except RuntimeError Unit :=
  if uncertain && h.runtime.refusesUncertainCleanup then
    (n, .error ⟨"runtime creation outcome is uncertain; operator repair required", false⟩)
  else runtimeDelete i id n

end Podmesh
