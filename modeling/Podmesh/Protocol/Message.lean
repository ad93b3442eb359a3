import Mathlib.Tactic.Common

namespace Podmesh

abbrev Bytes := List UInt8

def agentProtocolVersion : UInt16 := 1
def endpointRecordVersion : UInt16 := 1
def maxEncryptedCapsuleBytes : Nat := 16 * 1024 * 1024
def maxWrappedKeyBytes : Nat := 4 * 1024
def maxManifestBytes : Nat := 8 * 1024 * 1024
def maxWorkloadReplicas : Nat := 64
def maxAgentMessageLifetimeSecs : Nat := 300
def maxAgentClockSkewSecs : Nat := 60
def maxListedWorkloads : Nat := 10000

structure EndpointRecord where
  version : UInt16
  endpointId : Bytes
  relayUrl : Option String
  directAddresses : List String
  signingPubkey : String
  issuedAtSecs : UInt64
  expiresAtSecs : UInt64
  signature : String
  deriving DecidableEq

structure EndpointAddr where
  id : Bytes
  relayUrl : Option String
  ipAddrs : List String

structure AdmissionRequest where
  version : UInt16
  requestId : String
  namespaceId : String
  workloadId : String
  targetNodeId : String
  responseKemPubkey : String
  cpuMilli : UInt32
  memoryBytes : UInt64
  storageBytes : UInt64
  issuedAtSecs : UInt64
  expiresAtSecs : UInt64
  nonce : String
  ownerSignature : String
  deriving DecidableEq

structure Reservation where
  version : UInt16
  reservationId : String
  requestId : String
  namespaceId : String
  workloadId : String
  agentNodeId : String
  cpuMilli : UInt32
  memoryBytes : UInt64
  storageBytes : UInt64
  accepted : Bool
  reason : String
  expiresAtSecs : UInt64
  signature : String
  deriving DecidableEq

inductive AdmissionRefusal where
  | stateRequiresRepair | alreadyActive | workloadLimit
  | reservationLimit | insufficientCapacity | pendingCapacityLimit
  deriving DecidableEq

def AdmissionRefusal.all : List AdmissionRefusal :=
  [.stateRequiresRepair, .alreadyActive, .workloadLimit,
    .reservationLimit, .insufficientCapacity, .pendingCapacityLimit]

def AdmissionRefusal.asStr : AdmissionRefusal → String
  | .stateRequiresRepair => "agent workload state requires repair"
  | .alreadyActive => "workload is already active or reserved"
  | .workloadLimit => "agent workload limit reached"
  | .reservationLimit => "agent reservation limit reached"
  | .insufficientCapacity => "insufficient capacity"
  | .pendingCapacityLimit => "pending reservation limit reached; retry once admissions settle"

def AdmissionRefusal.fromReason (reason : String) : Option AdmissionRefusal :=
  AdmissionRefusal.all.find? fun refusal => refusal.asStr = reason

def AdmissionRefusal.isCapacity : AdmissionRefusal → Bool
  | .workloadLimit | .reservationLimit | .insufficientCapacity | .pendingCapacityLimit => true
  | .stateRequiresRepair | .alreadyActive => false

structure EncryptedWorkloadCapsule where
  ciphertext : Bytes
  nonce : Bytes
  wrappedDek : Bytes
  deriving DecidableEq

structure DeploymentGrant where
  version : UInt16
  namespaceId : String
  workloadId : String
  revisionId : String
  targetNodeId : String
  responseKemPubkey : String
  reservationId : String
  capsule : EncryptedWorkloadCapsule
  issuedAtSecs : UInt64
  expiresAtSecs : UInt64
  nonce : String
  ownerSignature : String
  deriving DecidableEq

structure UpdateRequest where
  version : UInt16
  requestId : String
  namespaceId : String
  workloadId : String
  targetNodeId : String
  responseKemPubkey : String
  expectedRevisionId : String
  requestedRevisionId : String
  refreshServiceMesh : Bool
  cpuMilli : UInt32
  memoryBytes : UInt64
  storageBytes : UInt64
  grant : DeploymentGrant
  issuedAtSecs : UInt64
  expiresAtSecs : UInt64
  nonce : String
  ownerSignature : String
  deriving DecidableEq

/-- The lifecycle operations of an owner; a peer seed carries the encoded service record. -/
inductive WorkloadOperation where
  | status | logs | delete | connectorInspect
  | seedPeer (record : Bytes)
  deriving DecidableEq

structure WorkloadCommand where
  version : UInt16
  requestId : String
  namespaceId : String
  workloadId : String
  targetNodeId : String
  operation : WorkloadOperation
  logTail : Option UInt32
  responseKemPubkey : String
  issuedAtSecs : UInt64
  expiresAtSecs : UInt64
  nonce : String
  ownerSignature : String
  deriving DecidableEq

structure WorkloadListRequest where
  version : UInt16
  requestId : String
  namespaceId : String
  responseKemPubkey : String
  issuedAtSecs : UInt64
  expiresAtSecs : UInt64
  nonce : String
  ownerSignature : String
  deriving DecidableEq

structure DeploymentReceipt where
  version : UInt16
  namespaceId : String
  workloadId : String
  revisionId : String
  agentNodeId : String
  runtimeId : String
  acceptedAtSecs : UInt64
  signature : String
  deriving DecidableEq

inductive UpdateOutcome where
  | applied | alreadyActive | conflict | rejected
  deriving DecidableEq

structure UpdateResponse where
  version : UInt16
  requestId : String
  expectedRevisionId : String
  requestedRevisionId : String
  receipt : DeploymentReceipt
  outcome : UpdateOutcome
  reason : String
  respondedAtSecs : UInt64
  signature : String
  deriving DecidableEq

structure WorkloadCommandResponse where
  version : UInt16
  requestId : String
  workloadId : String
  agentNodeId : String
  ok : Bool
  payload : String
  respondedAtSecs : UInt64
  signature : String
  deriving DecidableEq

structure WorkloadSummary where
  workloadId : String
  workloadName : String
  revisionId : String
  replicaIndex : UInt32
  replicaCount : UInt32
  state : String
  deployingSinceSecs : UInt64
  receipt : DeploymentReceipt
  deriving DecidableEq

structure WorkloadListResponse where
  version : UInt16
  requestId : String
  agentNodeId : String
  agentEndpoint : EndpointRecord
  agentKemPubkey : String
  workloads : List WorkloadSummary
  respondedAtSecs : UInt64
  signature : String
  deriving DecidableEq

structure CapacityQuery where
  version : UInt16
  queryId : String
  nonce : String
  cpuMilli : UInt32
  memoryBytes : UInt64
  storageBytes : UInt64
  requiredCapabilities : List String
  excludedEndpointIds : List Bytes
  replyEndpoint : EndpointRecord
  issuedAtSecs : UInt64
  expiresAtSecs : UInt64
  signingPubkey : String
  signature : String
  deriving DecidableEq

structure CapacityOffer where
  version : UInt16
  queryId : String
  agentEndpoint : EndpointRecord
  kemPubkey : String
  availableCpuMilli : UInt32
  availableMemoryBytes : UInt64
  availableStorageBytes : UInt64
  capabilities : List String
  issuedAtSecs : UInt64
  expiresAtSecs : UInt64
  signingPubkey : String
  signature : String
  deriving DecidableEq

/-- What a signature covers: one constructor for each signed message type. -/
inductive SignedBody where
  | endpointRecord (m : EndpointRecord)
  | admissionRequest (m : AdmissionRequest)
  | reservation (m : Reservation)
  | deploymentGrant (m : DeploymentGrant)
  | updateRequest (m : UpdateRequest)
  | updateResponse (m : UpdateResponse)
  | workloadCommand (m : WorkloadCommand)
  | workloadCommandResponse (m : WorkloadCommandResponse)
  | workloadListRequest (m : WorkloadListRequest)
  | workloadListResponse (m : WorkloadListResponse)
  | deploymentReceipt (m : DeploymentReceipt)
  | capacityQuery (m : CapacityQuery)
  | capacityOffer (m : CapacityOffer)
  deriving DecidableEq

inductive SignatureDomain where
  | admissionRequest | reservation | deploymentGrant | deploymentReceipt | updateRequest
  | updateResponse | workloadCommand | workloadCommandResponse | workloadListRequest
  | workloadListResponse | endpointRecord | capacityQuery | capacityOffer | workloadEnvelope
  | agentLocationQuery | schedulerReconciliationQuery
  deriving DecidableEq

end Podmesh
