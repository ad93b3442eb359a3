import Podmesh.Lib.Assoc
import Podmesh.Protocol.Answers
import Mathlib.Data.List.Sort

namespace Podmesh

namespace Podctl

def deploymentCatalogVersion : UInt16 := 1

inductive ReplicaUpdateState where
  | active
  | updating (requestedRevisionId : String)
  deriving DecidableEq

structure ReplicaPlacement where
  replicaIndex : UInt32
  revisionId : String
  receipt : DeploymentReceipt
  apiBase : String
  agentEndpointId : String
  agentEndpoint : EndpointRecord
  agentKemPubkey : String
  agentSigningPubkey : String
  serviceMeshExpiresAtSecs : UInt64
  updateState : ReplicaUpdateState
  deriving DecidableEq

structure DeploymentCatalog where
  version : UInt16
  deploymentId : String
  workloadName : String
  replicaCount : UInt32
  replicas : List ReplicaPlacement
  deriving DecidableEq

/-- The catalogs of a key directory, under the deployment id that names their file. -/
abbrev CatalogDir := AList fun _ : String => DeploymentCatalog

def hexDigit (n : Nat) : Char := Char.ofNat (if n < 10 then 48 + n else 87 + n)

def hexEncode (bytes : Bytes) : String :=
  String.ofList (bytes.flatMap fun b => [hexDigit (b.toNat / 16), hexDigit (b.toNat % 16)])

namespace DeploymentCatalog

def new (deploymentId workloadName : String) (replicaCount : UInt32) : DeploymentCatalog :=
  ⟨deploymentCatalogVersion, deploymentId, workloadName, replicaCount, []⟩

def validateReplica (p : Platform) (self : DeploymentCatalog) (replica : ReplicaPlacement) :
    Except String Unit := do
  ensure (replica.replicaIndex < self.replicaCount) "deployment catalog replica index is invalid"
  ensure (replica.revisionId == replica.receipt.revisionId)
    "deployment catalog revision does not match receipt"
  replica.receipt.verify p
  replica.agentEndpoint.verifyStructure p
  ensure (hexEncode replica.agentEndpoint.endpointId == replica.agentEndpointId
      && replica.agentEndpoint.signingPubkey == replica.agentSigningPubkey)
    "deployment catalog agent identity binding is invalid"

def validate (p : Platform) (self : DeploymentCatalog) : Except String Unit := do
  ensure (self.version == deploymentCatalogVersion) "unsupported deployment catalog version"
  ensure (1 ≤ self.replicaCount.toNat && self.replicaCount.toNat ≤ maxWorkloadReplicas)
    "deployment catalog replica count is invalid"
  ensure (self.replicas.length ≤ self.replicaCount.toNat)
    "deployment catalog contains too many replicas"
  forEach (self.validateReplica p) self.replicas

def sorted (self : DeploymentCatalog) : DeploymentCatalog :=
  { self with replicas := self.replicas.insertionSort fun a b => a.replicaIndex ≤ b.replicaIndex }

def contains (self : DeploymentCatalog) (replicaIndex : UInt32) : Bool :=
  self.replicas.any fun replica => replica.replicaIndex == replicaIndex

end DeploymentCatalog

namespace CatalogDir

def catalogPath (deploymentId : String) : Except String String := do
  ensure (deploymentId.utf8ByteSize == 64 && (utf8Bytes deploymentId).all isAsciiHexdigit)
    "invalid deployment id"
  return deploymentId

def loadIfExists (p : Platform) (self : CatalogDir) (deploymentId : String) :
    Except String (Option DeploymentCatalog) := do
  let path ← catalogPath deploymentId
  match self.lookup path with
  | none => return none
  | some catalog => do
    catalog.validate p
    return some catalog

def loadAll (p : Platform) (self : CatalogDir) : List DeploymentCatalog :=
  (self.entries.map fun e => e.2).filter fun catalog => (catalog.validate p).isOk

def load (p : Platform) (self : CatalogDir) (identifier : String) :
    Except String DeploymentCatalog :=
  match catalogPath identifier with
  | .ok path => do
    let catalog ← match self.lookup path with
      | some catalog => .ok catalog
      | none => .error "deployment catalog not found"
    catalog.validate p
    return catalog
  | .error _ =>
    match (self.loadAll p).filter fun catalog => catalog.workloadName == identifier with
    | [] => .error s!"no deployment named {identifier}"
    | [catalog] => .ok catalog
    | _ => .error s!"workload name {identifier} is ambiguous, use the deployment id"

end CatalogDir

end Podctl
end Podmesh
