import Podmesh.Lib.Contract
import Podmesh.Manifest.Measured
import Podmesh.Podctl.Catalog

namespace Podmesh

/-! The replicas of a manifest. -/

def replicasAnnotation : String := "podmesh.io/replicas"

def isAsciiSpace (b : UInt8) : Bool := b == 32 || (9 ≤ b && b ≤ 13)

def trimSpaces (text : Bytes) : Bytes :=
  ((text.dropWhile isAsciiSpace).reverse.dropWhile isAsciiSpace).reverse

/-- Annotations are texts, but a plain integer is tolerated. -/
def annotationAsU64 : Yaml → Option Nat
  | .string text => parseUnsigned u64Max (trimSpaces (utf8Bytes text))
  | other => other.asU64

def annotatedReplicas (document : Yaml) : Option Nat :=
  (((document.get "metadata").bind (·.get "annotations")).bind (·.get replicasAnnotation)).bind
    annotationAsU64

def specReplicas (document : Yaml) : Option Nat :=
  ((document.get "spec").bind (·.get "replicas")).bind Yaml.asU64

def pinReplicas (document : Yaml) : Yaml :=
  if (specReplicas document).isSome then
    document.modify "spec" (Yaml.modify "replicas" fun _ => .number (.int 1))
  else document

/-- The largest count any document asks for, within the limits, and the pinned documents. -/
def normalizeReplicas (documents : List Yaml) : List Yaml × UInt32 :=
  let desired := documents.foldl (fun desired document =>
    max (max desired ((annotatedReplicas document).getD 0)) ((specReplicas document).getD 0)) 0
  (documents.map pinReplicas, (min (max desired 1) maxWorkloadReplicas).toUInt32)

namespace Podctl

def requestTtlSecs : UInt64 := 30
def workloadCredentialTtlSecs : UInt64 := 30 * 24 * 60 * 60
def serviceMeshRenewalWindowSecs : Nat := 24 * 60 * 60
def maxAdmissionCapacityRetries : Nat := 3

structure PodmeshAnnotations where
  antiAffinity : List String
  proxyEndpoints : List String

/-- The key directory, the options and the libraries one owner works with. -/
structure Client where
  platform : Platform
  yaml : YamlLib
  ownerPublic : Bytes
  ownerPrivate : Bytes
  responseKemPublic : Bytes
  apiBase : String
  keyDir : String
  trustedAgents : List String
  annotations : Bytes → Except String PodmeshAnnotations
  recordFromBytes : Bytes → UInt64 → Except String EndpointRecord
  /-- `EnrollmentDelegation::mint` with the owner's key, in its encoded form. -/
  mintDelegation : EnrollmentScope → UInt64 → Except String String
  /-- The signed catalog of the services of a manifest: its name, revision and bytes. -/
  serviceCatalog : String → String → Bytes → Except String (Option Bytes)
  /-- Encrypts a spec under a new key and wraps that key for a recipient. -/
  wrapExecution : Bytes → ExecutionSpec → Except String EncryptedWorkloadCapsule
  canEncrypt : Bytes → Except String Unit

inductive AgentTrust where
  | allowlist (keys : List String)
  | anyAgent
  deriving DecidableEq

def AgentTrust.authorize (self : AgentTrust) (agentSigningPubkey : String) : Except String Unit :=
  match self with
  | .anyAgent => .ok ()
  | .allowlist keys =>
    ensure (keys.contains agentSigningPubkey)
      s!"the mesh offered agent {agentSigningPubkey}, which is not in trusted_agents; add its signing key or re-run with --trust-any-agent"

inductive Secret where
  | admission (request : AdmissionRequest)
  | execution (spec : ExecutionSpec)
  | grant (grant : DeploymentGrant)
  | update (request : UpdateRequest)
  deriving DecidableEq

structure Sealed where
  recipientKem : String
  secret : Secret
  deriving DecidableEq

/-- The catalogs on disk and everything that was ever encrypted for an agent. -/
structure Owner where
  catalogs : CatalogDir
  seals : List Sealed

structure ProxyConfig where
  endpoints : List String
  relayAuthToken : String
  relayCaCertificates : List Bytes

structure Input where
  now : UInt64
  requestId : String
  nonce : String
  grantNonce : String
  tokenId : String
  written : DeploymentCatalog → Except String Unit
  order : (catalogs : List DeploymentCatalog) → { l : List DeploymentCatalog // l.Perm catalogs }
  proxies : PodmeshAnnotations → Except String ProxyConfig
  granted : Except String Unit

namespace Client
variable (c : Client)

def namespaceId : String := c.platform.b64Encode c.ownerPublic

def responseKemPubkey : String := c.platform.b64Encode c.responseKemPublic

def workloadId (workloadName : String) (replicaIndex : UInt32) : String :=
  c.platform.workloadId c.ownerPublic workloadName replicaIndex

def deploymentId (workloadName : String) : String :=
  c.platform.deploymentId c.ownerPublic workloadName

def resolve (trustAnyAgent : Bool) : Except String AgentTrust :=
  if trustAnyAgent then .ok .anyAgent
  else if c.trustedAgents.isEmpty then
    .error s!"no trusted agents configured. List the base64 Ed25519 signing keys of the agents you are willing to run workloads on in {c.keyDir}/trusted_agents, set PODMESH_TRUSTED_AGENTS, or pass --trust-any-agent to accept whichever agent the mesh offers"
  else .ok (.allowlist c.trustedAgents)

def isNamedWorkload (document : Yaml) : Bool :=
  document.kind == some "Pod"
    || (((document.get "spec").bind (·.get "template")).bind (·.get "spec")).isSome

/-- The name, the replica count and the canonical text of a manifest. -/
def canonicalManifest (raw : Bytes) : Except String (String × UInt32 × Bytes) := do
  let contents ← orError (decodeUtf8 raw) "parse workload YAML documents"
  let documents ← c.yaml.parseYamlDocuments contents
  ensure (!documents.isEmpty) "workload manifest is empty"
  let (documents, replicas) := normalizeReplicas documents
  let name ← orError
    (((((documents.find? isNamedWorkload).bind (·.get "metadata")).bind (·.get "name")).bind
      Yaml.asStr).filter fun name => name != "" && name.utf8ByteSize ≤ 253)
    "metadata.name is required"
  let canonical ← c.yaml.serializeYamlDocuments documents
  return (name, replicas, utf8Bytes canonical)

def signAdmission (request : AdmissionRequest) : Except String AdmissionRequest := do
  let signature ← c.platform.signBody c.ownerPrivate .admissionRequest
    (.admissionRequest { request with ownerSignature := "" })
  return { request with ownerSignature := signature }

def signGrant (grant : DeploymentGrant) : Except String DeploymentGrant := do
  let signature ← c.platform.signBody c.ownerPrivate .deploymentGrant
    (.deploymentGrant { grant with ownerSignature := "" })
  return { grant with ownerSignature := signature }

def signUpdate (request : UpdateRequest) : Except String UpdateRequest := do
  let signature ← c.platform.signBody c.ownerPrivate .updateRequest
    (.updateRequest { request with ownerSignature := "" })
  return { request with ownerSignature := signature }

def signList (request : WorkloadListRequest) : Except String WorkloadListRequest := do
  let signature ← c.platform.signBody c.ownerPrivate .workloadListRequest
    (.workloadListRequest { request with ownerSignature := "" })
  return { request with ownerSignature := signature }

def encryptFor (secret : Secret) (recipientKem : String) : Locked Owner Unit := do
  let recipient ← liftExcept (c.platform.b64Decode recipientKem)
  liftExcept (c.canEncrypt recipient)
  modify fun o => { o with seals := o.seals ++ [⟨recipientKem, secret⟩] }

def save (i : Input) (catalog : DeploymentCatalog) : Locked Owner Unit := do
  liftExcept (catalog.validate c.platform)
  let path ← liftExcept (CatalogDir.catalogPath catalog.deploymentId)
  liftExcept (i.written catalog)
  modify fun o => { o with catalogs := o.catalogs.insert path catalog }

end Client

def isCapacityRefusal (reason : String) : Bool :=
  (AdmissionRefusal.fromReason reason).any AdmissionRefusal.isCapacity

def ReplicaPlacement.serviceMeshRenewalDue (placement : ReplicaPlacement) (now : UInt64) : Bool :=
  placement.serviceMeshExpiresAtSecs.toNat
    ≤ saturatingAdd u64Max now.toNat serviceMeshRenewalWindowSecs

structure Plan where
  trust : AgentTrust
  workloadName : String
  replicaCount : UInt32
  manifest : Bytes
  resources : ManifestResources
  revisionId : String
  proxyEndpoints : List EndpointRecord
  relayAuthToken : String
  relayCaCertificates : List Bytes
  antiAffinityAgents : List String

namespace Client
variable (c : Client) (i : Input) (plan : Plan)

def prepareExecution (replicaIndex : UInt32) (agentSigningPubkey agentKemPubkey : String) :
    Locked Owner (EncryptedWorkloadCapsule × UInt64) := do
  let credential ← liftExcept (c.mintDelegation
    { tenantOwner := c.namespaceId
      manifestId := c.platform.routeId c.ownerPublic plan.workloadName
      workloadId := c.workloadId plan.workloadName replicaIndex
      revisionId := plan.revisionId
      issuerPublicKeyB64 := agentSigningPubkey
      tokenId := i.tokenId
      issuedAtSecs := i.now
      expiresAtSecs := none
      maxChildLifetimeSecs := maxIdentityLifetimeSecs.toUInt64 } i.now)
  let serviceCatalog ← liftExcept (c.serviceCatalog plan.workloadName plan.revisionId plan.manifest)
  let execution : ExecutionSpec :=
    { workloadName := plan.workloadName
      replicaIndex
      replicaCount := plan.replicaCount
      manifest := plan.manifest
      proxyEndpoints := plan.proxyEndpoints
      serviceCatalog
      workloadCredentialB64 := credential
      workloadRelayAuthToken := plan.relayAuthToken
      workloadRelayCaCertificates := plan.relayCaCertificates }
  let agentKem ← liftExcept (c.platform.b64Decode agentKemPubkey)
  let capsule ← liftExcept (c.wrapExecution agentKem execution)
  modify fun o => { o with seals := o.seals ++ [⟨agentKemPubkey, .execution execution⟩] }
  return (capsule, i.now + workloadCredentialTtlSecs)

def buildGrant (replicaIndex : UInt32) (agentSigningPubkey reservationId : String)
    (capsule : EncryptedWorkloadCapsule) : Except String DeploymentGrant :=
  c.signGrant
    { version := agentProtocolVersion
      namespaceId := c.namespaceId
      workloadId := c.workloadId plan.workloadName replicaIndex
      revisionId := plan.revisionId
      targetNodeId := agentSigningPubkey
      responseKemPubkey := c.responseKemPubkey
      reservationId
      capsule
      issuedAtSecs := i.now
      expiresAtSecs := i.now + requestTtlSecs
      nonce := i.grantNonce
      ownerSignature := "" }

def sendUpdate (placement : ReplicaPlacement) : Locked Owner (UpdateRequest × UInt64) := do
  let workloadId := c.workloadId plan.workloadName placement.replicaIndex
  liftExcept (ensure (workloadId == placement.receipt.workloadId)
    "catalog workload identity does not match requested update")
  let (capsule, expiresAtSecs) ← c.prepareExecution i plan placement.replicaIndex
    placement.agentSigningPubkey placement.agentKemPubkey
  let grant ← liftExcept (c.buildGrant i plan placement.replicaIndex placement.agentSigningPubkey
    i.requestId capsule)
  let update ← liftExcept (c.signUpdate
    { version := agentProtocolVersion
      requestId := i.requestId
      namespaceId := c.namespaceId
      workloadId
      targetNodeId := placement.agentSigningPubkey
      responseKemPubkey := c.responseKemPubkey
      expectedRevisionId := placement.revisionId
      requestedRevisionId := plan.revisionId
      refreshServiceMesh := placement.revisionId == plan.revisionId
      cpuMilli := plan.resources.cpuMilli
      memoryBytes := plan.resources.memoryBytes
      storageBytes := plan.resources.storageBytes
      grant
      issuedAtSecs := i.now
      expiresAtSecs := i.now + requestTtlSecs
      nonce := i.nonce
      ownerSignature := "" })
  c.encryptFor (.update update) placement.agentKemPubkey
  return (update, expiresAtSecs)

def confirmUpdate (placement : ReplicaPlacement) (update : UpdateRequest) (expiresAtSecs : UInt64)
    (response : UpdateResponse) : Except String ReplicaPlacement := do
  response.verify c.platform i.now
  ensure (response.requestId == update.requestId
      && response.expectedRevisionId == update.expectedRevisionId
      && response.requestedRevisionId == update.requestedRevisionId
      && response.receipt.namespaceId == c.namespaceId
      && response.receipt.workloadId == c.workloadId plan.workloadName placement.replicaIndex
      && response.receipt.agentNodeId == placement.agentSigningPubkey)
    "update response binding mismatch"
  match response.outcome with
  | .applied | .alreadyActive =>
    ensure (response.receipt.revisionId == plan.revisionId)
      "update response confirmed an unexpected revision"
  | .conflict =>
    throw s!"revision conflict: agent reports active revision {response.receipt.revisionId}"
  | .rejected => throw s!"agent rejected update: {response.reason}"
  return { placement with
    revisionId := response.receipt.revisionId
    receipt := response.receipt
    apiBase := c.apiBase
    serviceMeshExpiresAtSecs := expiresAtSecs
    updateState := .active }

def selectAgent (offer : Except String CapacityOffer) : Except String CapacityOffer := do
  let offer ← offer
  offer.verify c.platform i.now
  plan.trust.authorize offer.signingPubkey
  return offer

/-- The address of an offered agent, unless the agent was excluded. -/
def offeredEndpointId (excluded : List String) (offer : CapacityOffer) : Except String String := do
  ensure (offer.agentEndpoint.endpointId.length == 32)
    "capacity offer carries a malformed agent EndpointId"
  let agentEndpointId := hexEncode offer.agentEndpoint.endpointId
  ensure (!excluded.contains agentEndpointId) s!"scheduler offered excluded agent {agentEndpointId}"
  return agentEndpointId

def sendAdmission (replicaIndex : UInt32) (agent : CapacityOffer) :
    Locked Owner AdmissionRequest := do
  let admission ← liftExcept (c.signAdmission
    { version := agentProtocolVersion
      requestId := i.requestId
      namespaceId := c.namespaceId
      workloadId := c.workloadId plan.workloadName replicaIndex
      targetNodeId := agent.signingPubkey
      responseKemPubkey := c.responseKemPubkey
      cpuMilli := plan.resources.cpuMilli
      memoryBytes := plan.resources.memoryBytes
      storageBytes := plan.resources.storageBytes
      issuedAtSecs := i.now
      expiresAtSecs := i.now + requestTtlSecs
      nonce := i.nonce
      ownerSignature := "" })
  c.encryptFor (.admission admission) agent.kemPubkey
  return admission

/-- How `deploy_replica` reads the answer to its admission. -/
inductive Admitted where
  | reserved (reservationId : String)
  /-- `AdmissionCapacityRefusal`: another agent may be tried. -/
  | refused (reason : String)

def readReservation (replicaIndex : UInt32) (agent : CapacityOffer) (admission : AdmissionRequest)
    (reservation : Reservation) : Except String Admitted := do
  reservation.verify c.platform i.now
  if !reservation.accepted then
    if isCapacityRefusal reservation.reason then return .refused reservation.reason
    else throw s!"agent rejected workload: {reservation.reason}"
  else
    ensure (reservation.agentNodeId == agent.signingPubkey
        && reservation.requestId == admission.requestId
        && reservation.namespaceId == c.namespaceId
        && reservation.workloadId == c.workloadId plan.workloadName replicaIndex
        && reservation.cpuMilli == admission.cpuMilli
        && reservation.memoryBytes == admission.memoryBytes
        && reservation.storageBytes == admission.storageBytes)
      "reservation response binding mismatch"
    return .reserved reservation.reservationId

def sendGrant (replicaIndex : UInt32) (agent : CapacityOffer) (reservationId : String) :
    Locked Owner (DeploymentGrant × UInt64) := do
  let (capsule, expiresAtSecs) ← c.prepareExecution i plan replicaIndex agent.signingPubkey
    agent.kemPubkey
  let grant ← liftExcept (c.buildGrant i plan replicaIndex agent.signingPubkey reservationId capsule)
  c.encryptFor (.grant grant) agent.kemPubkey
  return (grant, expiresAtSecs)

def confirmDeploy (replicaIndex : UInt32) (agent : CapacityOffer) (agentEndpointId : String)
    (expiresAtSecs : UInt64) (receipt : DeploymentReceipt) : Except String ReplicaPlacement := do
  receipt.verify c.platform
  ensure (receipt.workloadId == c.workloadId plan.workloadName replicaIndex
      && receipt.agentNodeId == agent.signingPubkey)
    "deployment receipt binding mismatch"
  return { replicaIndex
           revisionId := receipt.revisionId
           receipt
           apiBase := c.apiBase
           agentEndpointId
           agentEndpoint := agent.agentEndpoint
           agentKemPubkey := agent.kemPubkey
           agentSigningPubkey := agent.signingPubkey
           serviceMeshExpiresAtSecs := expiresAtSecs
           updateState := .active }

end Client
end Podctl
end Podmesh
