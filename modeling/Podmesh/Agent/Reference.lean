import Podmesh.Agent.World
import Podmesh.Protocol.Reference

namespace Podmesh

namespace Reference

def agentKey : Bytes := key 9

def podDocument (kind name : String) : Yaml :=
  let limits : Yaml := .mapping [(.string "cpu", .string "1m"), (.string "memory", .string "1Ki"),
    (.string "ephemeral-storage", .string "1Ki")]
  let container : Yaml := .mapping [(.string "name", .string "main"),
    (.string "resources", .mapping [(.string "limits", limits), (.string "requests", limits)])]
  let podSpec : Yaml := .mapping [(.string "containers", .sequence [container])]
  let spec : Yaml := if kind = "Pod" then podSpec
    else .mapping [(.string "template", .mapping [(.string "spec", podSpec)])]
  .mapping [(.string "kind", .string kind),
    (.string "metadata", .mapping [(.string "name", .string name)]), (.string "spec", spec)]

def yaml : YamlLib where
  deserialize text :=
    let bytes := utf8Bytes text
    let kind := bytes.takeWhile (· != 47)
    let name := (bytes.drop (kind.length + 1)).takeWhile (· != 10)
    match decodeUtf8 kind, decodeUtf8 name with
    | some kind, some name => .ok [podDocument kind name]
    | _, _ => .error "unsupported document"
  render document :=
    match document.kind, ((document.get "metadata").bind (·.get "name")).bind Yaml.asStr with
    | some kind, some name => .ok (kind ++ "/" ++ name ++ "\n")
    | _, _ => .error "unsupported document"

def proxyEndpoint : EndpointRecord where
  version := endpointRecordVersion
  endpointId := key 7
  relayUrl := none
  directAddresses := ["127.0.0.1:7000"]
  signingPubkey := owner 7
  issuedAtSecs := 0
  expiresAtSecs := 0
  signature := signedBy 7

def executionSpec (name : String) (manifest : Bytes) : ExecutionSpec where
  workloadName := name
  replicaIndex := 0
  replicaCount := 1
  manifest := manifest
  proxyEndpoints := [proxyEndpoint]
  serviceCatalog := none
  workloadCredentialB64 := name ++ "=" ++ b64Encode manifest
  workloadRelayAuthToken := "0123456789abcdef0123456789abcdef"
  workloadRelayCaCertificates := []

def delegation (name : String) (manifest : Bytes) : EnrollmentDelegation where
  version := 1
  biscuitB64 := ""
  scope :=
    { tenantOwner := owner 1
      manifestId := platform.routeId (key 1) name
      workloadId := platform.workloadId (key 1) name 0
      revisionId := platform.revisionId manifest
      issuerPublicKeyB64 := b64Encode agentKey
      tokenId := "token"
      issuedAtSecs := 0
      expiresAtSecs := none
      maxChildLifetimeSecs := 3600 }

def identityPlatform : IdentityPlatform where
  toPlatform := platform
  decodeDelegation text :=
    let bytes := utf8Bytes text
    let name := bytes.takeWhile (· != 61)
    (orError (decodeUtf8 name) "invalid credential").map fun text =>
      delegation text (bytes.drop (name.length + 1))
  verifyToken _ _ _ := .ok ()
  verifyCatalog _ _ _ := .ok ()
  encodeMetadata _ := .ok []
  encodeDelegation _ := .ok []

def host (config : Config) : Host where
  platform := identityPlatform
  yaml := yaml
  runtime := PodmanRuntime.runtime yaml
  config := config
  signingPublic := agentKey
  signingPrivate := agentKey
  kemPublic := key 8
  openCapsule capsule := do
    let name ← orError (decodeUtf8 capsule.wrappedDek) "invalid wrapped key"
    return executionSpec name capsule.ciphertext
  serviceMeshRequired := false

def workloadId (name : String) : String := platform.workloadId (key 1) name 0

def capsule (name manifest : String) : EncryptedWorkloadCapsule :=
  ⟨utf8Bytes manifest, List.replicate 24 0, utf8Bytes name⟩

def admission (name nonce : String) (cpu : UInt32) (memory storage : UInt64) :
    AdmissionRequest where
  version := agentProtocolVersion
  requestId := nonce
  namespaceId := owner 1
  workloadId := workloadId name
  targetNodeId := b64Encode agentKey
  responseKemPubkey := b64Encode (key 8)
  cpuMilli := cpu
  memoryBytes := memory
  storageBytes := storage
  issuedAtSecs := 1000
  expiresAtSecs := 1060
  nonce := nonce
  ownerSignature := signedBy 1

def grant (name manifest reservationId nonce : String) : DeploymentGrant where
  version := agentProtocolVersion
  namespaceId := owner 1
  workloadId := workloadId name
  revisionId := platform.revisionId (utf8Bytes manifest)
  targetNodeId := b64Encode agentKey
  responseKemPubkey := b64Encode (key 8)
  reservationId := reservationId
  capsule := capsule name manifest
  issuedAtSecs := 1000
  expiresAtSecs := 1060
  nonce := nonce
  ownerSignature := signedBy 1

def update (name previous manifest nonce : String) (cpu : UInt32) (memory storage : UInt64) :
    UpdateRequest where
  version := agentProtocolVersion
  requestId := nonce
  namespaceId := owner 1
  workloadId := workloadId name
  targetNodeId := b64Encode agentKey
  responseKemPubkey := b64Encode (key 8)
  expectedRevisionId := platform.revisionId (utf8Bytes previous)
  requestedRevisionId := platform.revisionId (utf8Bytes manifest)
  refreshServiceMesh := false
  cpuMilli := cpu
  memoryBytes := memory
  storageBytes := storage
  grant := grant name manifest "update" nonce
  issuedAtSecs := 1000
  expiresAtSecs := 1060
  nonce := nonce
  ownerSignature := signedBy 1

def command (name nonce : String) (operation : WorkloadOperation) : WorkloadCommand where
  version := agentProtocolVersion
  requestId := nonce
  namespaceId := owner 1
  workloadId := workloadId name
  targetNodeId := b64Encode agentKey
  operation := operation
  logTail := none
  responseKemPubkey := b64Encode (key 8)
  issuedAtSecs := 1000
  expiresAtSecs := 1060
  nonce := nonce
  ownerSignature := signedBy 1

def input (freshId : String) : Input where
  now := 1000
  replayNow := 1000
  freshId := freshId
  timedOut := false
  stored := .ok ()
  loaded := .ok ()
  reply := .ok
  tookEffect := true
  podEndpointId := "endpoint"
  podSigningKey := "key"
  payload := .ok ""
  report := .error "none"

def startUp : List Action := [.restart (input ""), .restore (input "")]

def reserve (task : Nat) (name nonce : String) (cpu : UInt32) (memory storage : UInt64) :
    List Action :=
  [.receive task (.admission (admission name nonce cpu memory storage)) (input name),
    .poll task (input name)]

def deploy (task : Nat) (name manifest nonce : String) : List Action :=
  .receive task (.deploy (grant name manifest name nonce)) (input "") ::
    List.replicate 4 (.poll task (input ""))

def failing : Input := { input "" with reply := .failed "refused", tookEffect := false }

def unsaved : Input := { input "" with stored := .error "disk" }

def delete (task : Nat) (name nonce : String) (mark remove : Input) : List Action :=
  .receive task (.command (command name nonce .delete)) (input "") ::
    List.replicate 3 (.poll task (input "")) ++ [.poll task mark, .poll task remove]

def deployedRun : List Action :=
  startUp ++ reserve 0 "a" "n1" 1000 1024 1024 ++ deploy 0 "a" "Pod/a\n" "n2"

def applied (task : Nat) (name previous manifest nonce : String) : List Action :=
  .receive task (.update (update name previous manifest nonce 1000 1024 1024)) (input "") ::
    List.replicate 4 (.poll task (input ""))

def updateRun (manifest : String) : List Action :=
  startUp ++ reserve 0 "a" "n1" 1000 1024 1024 ++ deploy 0 "a" "Pod/a\n" "n2" ++
    applied 0 "a" "Pod/a\n" manifest "n3"

def wasApplied (w : World) : Bool :=
  w.responses.any fun r =>
    match r.2 with
    | .ok (.update response) => response.outcome == .applied
    | _ => false

end Reference
end Podmesh
