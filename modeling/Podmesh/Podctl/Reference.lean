import Podmesh.Podctl.Apply

namespace Podmesh

namespace Reference
open Podctl

def client : Client where
  platform := platform
  yaml := yaml
  ownerPublic := key 1
  ownerPrivate := key 1
  responseKemPublic := key 2
  apiBase := "http://scheduler"
  keyDir := "/keys"
  trustedAgents := [owner 9]
  annotations _ := .ok ⟨[], []⟩
  recordFromBytes _ _ := .ok proxyEndpoint
  mintDelegation _ _ := .ok "credential"
  serviceCatalog _ _ _ := .ok none
  wrapExecution _ spec := .ok ⟨spec.manifest, List.replicate 24 0, utf8Bytes spec.workloadName⟩
  canEncrypt _ := .ok ()

def podctlInput (requestId : String) : Podctl.Input where
  now := 1000
  requestId := requestId
  nonce := requestId
  grantNonce := requestId
  tokenId := requestId
  written _ := .ok ()
  order catalogs := ⟨catalogs, .refl _⟩
  proxies _ := .ok ⟨["proxy"], "0123456789abcdef0123456789abcdef", []⟩
  granted := .ok ()

def agentEndpoint (n : UInt8) : EndpointRecord where
  version := endpointRecordVersion
  endpointId := key n
  relayUrl := none
  directAddresses := ["127.0.0.1:7000"]
  signingPubkey := owner n
  issuedAtSecs := 1000
  expiresAtSecs := 1015
  signature := signedBy n

def offer (n : UInt8) : CapacityOffer where
  version := capacityProtocolVersion
  queryId := "query"
  agentEndpoint := agentEndpoint n
  kemPubkey := owner (n + 32)
  availableCpuMilli := 4000
  availableMemoryBytes := 4096
  availableStorageBytes := 4096
  capabilities := offeredCapabilities
  issuedAtSecs := 1000
  expiresAtSecs := 1015
  signingPubkey := owner n
  signature := signedBy n

def reserved : ManifestResources := ⟨101, 128 * 1024 * 1024 + 1024, 1024 * 1024 * 1024 + 1024⟩

def reservation (n : UInt8) (requestId name : String) (replicaIndex : UInt32) : Reservation where
  version := agentProtocolVersion
  reservationId := requestId
  requestId := requestId
  namespaceId := owner 1
  workloadId := client.workloadId name replicaIndex
  agentNodeId := owner n
  cpuMilli := reserved.cpuMilli
  memoryBytes := reserved.memoryBytes
  storageBytes := reserved.storageBytes
  accepted := true
  reason := ""
  expiresAtSecs := 1030
  signature := signedBy n

def receipt (n : UInt8) (name : String) (replicaIndex : UInt32) : DeploymentReceipt where
  version := agentProtocolVersion
  namespaceId := owner 1
  workloadId := client.workloadId name replicaIndex
  revisionId := platform.revisionId (utf8Bytes ("Pod/" ++ name ++ "\n"))
  agentNodeId := owner n
  runtimeId := name
  acceptedAtSecs := 1000
  signature := signedBy n

def summary (n : UInt8) (name : String) (replicaIndex replicaCount : UInt32) :
    WorkloadSummary where
  workloadId := client.workloadId name replicaIndex
  workloadName := name
  revisionId := (receipt n name replicaIndex).revisionId
  replicaIndex := replicaIndex
  replicaCount := replicaCount
  state := "deployed"
  deployingSinceSecs := 1000
  receipt := receipt n name replicaIndex

def listEntry (n : UInt8) (requestId : String) (workloads : List WorkloadSummary) : ListEntry where
  agentEndpointId := hexEncode (key n)
  decoded := .ok (.ok
    { version := agentProtocolVersion
      requestId
      agentNodeId := owner n
      agentEndpoint := agentEndpoint n
      agentKemPubkey := owner (n + 32)
      workloads
      respondedAtSecs := 1000
      signature := signedBy n })

end Reference
end Podmesh
