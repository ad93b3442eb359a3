import Podmesh.Agent.State

namespace Podmesh

structure WorkloadDeployment where
  workloadId : String
  namespaceId : String
  manifest : Bytes

structure Runtime where
  targetId : WorkloadDeployment → Except String String
  /-- Whether the cleanup of a deployment of unknown outcome is refused. -/
  refusesUncertainCleanup : Bool

/-- Everything about an agent process that does not change while it runs. -/
structure Host where
  platform : IdentityPlatform
  yaml : YamlLib
  runtime : Runtime
  config : Config
  signingPublic : Bytes
  signingPrivate : Bytes
  kemPublic : Bytes
  openCapsule : EncryptedWorkloadCapsule → Except String ExecutionSpec
  serviceMeshRequired : Bool

namespace Host
variable (h : Host)

def signingPubkeyB64 : String := h.platform.b64Encode h.signingPublic

def decodeExecution (grant : DeploymentGrant) : Except String ExecutionSpec := do
  let spec ← h.openCapsule grant.capsule
  spec.validate h.platform.toPlatform
  let owner ← h.platform.b64Decode grant.namespaceId
  ensure (h.platform.workloadId owner spec.workloadName spec.replicaIndex == grant.workloadId)
    "workload identity mismatch"
  ensure (h.platform.revisionId spec.manifest == grant.revisionId) "revision identity mismatch"
  let delegation ← h.platform.decodeDelegation spec.workloadCredentialB64
  delegation.verifyScope h.platform grant.namespaceId
    (h.platform.routeId owner spec.workloadName) grant.workloadId (some h.signingPubkeyB64) none
  ensure (delegation.scope.revisionId == grant.revisionId) "enrollment revision mismatch"
  return spec

def validateAndMeasureManifest (manifest : Bytes) : Except String (Bytes × ManifestResources) :=
  h.yaml.validateAndMeasureManifest manifest

def runtimeManifest (workloadId namespaceId : String) (execution : ExecutionSpec) :
    Except String (Bytes × ManifestResources) := do
  let manifest ←
    if h.serviceMeshRequired then
      inject h.yaml h.platform execution.manifest
        { workloadId, workloadName := execution.workloadName
          replicaIndex := execution.replicaIndex, replicaCount := execution.replicaCount
          namespaceId, sidecarImage := h.config.sidecarImage
          proxyEndpoints := execution.proxyEndpoints
          serviceCatalog := execution.serviceCatalog
          workloadCredentialB64 := execution.workloadCredentialB64
          workloadRelayAuthToken := execution.workloadRelayAuthToken
          workloadRelayCaCertificates := execution.workloadRelayCaCertificates
          metricsListen := h.config.sidecarMetricsListen }
    else pure execution.manifest
  h.validateAndMeasureManifest manifest

def grantManifest (grant : DeploymentGrant) :
    Except String (ExecutionSpec × Bytes × ManifestResources) := do
  let execution ← h.decodeExecution grant
  let (manifest, measured) ← h.runtimeManifest grant.workloadId grant.namespaceId execution
  return (execution, manifest, measured)

def signReceipt (receipt : DeploymentReceipt) : Except String DeploymentReceipt := do
  let named := { receipt with agentNodeId := h.signingPubkeyB64, signature := "" }
  let signature ← h.platform.signBody h.signingPrivate .deploymentReceipt (.deploymentReceipt named)
  return { named with signature }

def receipt (stored : StoredWorkload) (now : UInt64) : Except String DeploymentReceipt :=
  h.signReceipt
    { version := agentProtocolVersion
      namespaceId := stored.grant.namespaceId
      workloadId := stored.grant.workloadId
      revisionId := stored.grant.revisionId
      agentNodeId := ""
      runtimeId := stored.runtimeId
      acceptedAtSecs := now
      signature := "" }

def updateResponse (request : UpdateRequest) (stored : StoredWorkload) (outcome : UpdateOutcome)
    (reason : String) (now : UInt64) : Except String UpdateResponse := do
  let receipt ← h.receipt stored now
  let response : UpdateResponse :=
    { version := agentProtocolVersion
      requestId := request.requestId
      expectedRevisionId := request.expectedRevisionId
      requestedRevisionId := request.requestedRevisionId
      receipt, outcome, reason, respondedAtSecs := now, signature := "" }
  ensure (response.receipt.agentNodeId == h.signingPubkeyB64)
    "update response receipt signer mismatch"
  let signature ← h.platform.signBody h.signingPrivate .updateResponse (.updateResponse response)
  return { response with signature }

def commandResponse (command : WorkloadCommand) (ok : Bool) (payload : String) (now : UInt64) :
    Except String WorkloadCommandResponse := do
  let response : WorkloadCommandResponse :=
    { version := agentProtocolVersion
      requestId := command.requestId
      workloadId := command.workloadId
      agentNodeId := h.signingPubkeyB64
      ok, payload, respondedAtSecs := now, signature := "" }
  let signature ← h.platform.signBody h.signingPrivate .workloadCommandResponse
    (.workloadCommandResponse response)
  return { response with signature }

end Host

def ManifestResources.within (measured : ManifestResources) (cpuMilli : UInt32)
    (memoryBytes storageBytes : UInt64) : Bool :=
  measured.cpuMilli ≤ cpuMilli && measured.memoryBytes ≤ memoryBytes
    && measured.storageBytes ≤ storageBytes

/-- The pod name Podman derives from the first pod-bearing document of a manifest. -/
def PodmanRuntime.podName (lib : YamlLib) (manifest : Bytes) : Except String String := do
  let contents ← orError (decodeUtf8 manifest) "parse workload manifest"
  let documents ← lib.parseYamlDocuments contents
  let value ← orError (documents.find? fun document =>
      if document.kind = some "Pod" then (document.get "spec").isSome
      else (((document.get "spec").bind (·.get "template")).bind (·.get "spec")).isSome)
    "manifest does not contain a pod workload"
  let name ← orError (((value.get "metadata").bind (·.get "name")).bind Yaml.asStr)
    "workload metadata.name is required"
  ensure (name.utf8ByteSize ≤ 253 && (utf8Bytes name).all fun b =>
      isAsciiAlphanumeric b || b == 45 || b == 46) "invalid workload name"
  return if value.kind = some "Pod" then name else name ++ "-pod"

def PodmanRuntime.runtime (lib : YamlLib) : Runtime where
  targetId deployment := PodmanRuntime.podName lib deployment.manifest
  refusesUncertainCleanup := true

end Podmesh
