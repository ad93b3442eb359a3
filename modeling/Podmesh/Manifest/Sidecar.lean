import Podmesh.Manifest.Resources
import Podmesh.Protocol.Execution

namespace Podmesh

open Rego

def sidecarName : String := "podmesh-sidecar"

/-- The digest of a workload id, cut so that the pod name stays a DNS label. -/
def workloadRuntimeName (p : Platform) (workloadId : String) : String :=
  "podmesh-" ++ String.ofList ((p.blake3Hex [utf8Bytes workloadId]).toList.take (63 - 4 - 8))

structure MetricsListen where
  text : String
  port : UInt16
  deriving DecidableEq

structure SidecarInjection where
  workloadId : String
  workloadName : String
  replicaIndex : UInt32
  replicaCount : UInt32
  namespaceId : String
  sidecarImage : String
  proxyEndpoints : List EndpointRecord
  serviceCatalog : Option Bytes
  workloadCredentialB64 : String
  workloadRelayAuthToken : String
  workloadRelayCaCertificates : List Bytes
  metricsListen : Option MetricsListen

def SidecarInjection.metadata (p : IdentityPlatform) (self : SidecarInjection) (owner : Bytes)
    (manifest : Bytes) : SidecarMetadata where
  workloadName := self.workloadName
  manifestId := p.routeId owner self.workloadName
  replicaIndex := self.replicaIndex
  replicaCount := self.replicaCount
  manifestB64 := p.b64Encode manifest
  ownerPublicKeyB64 := self.namespaceId
  proxyEndpoints := self.proxyEndpoints
  serviceCatalog := self.serviceCatalog
  workloadCredentialB64 := self.workloadCredentialB64
  workloadRelayAuthToken := self.workloadRelayAuthToken
  workloadRelayCaCertificates := self.workloadRelayCaCertificates

def environmentEntry (name value : String) : Json :=
  .object [("name", .string name), ("value", .string value)]

def sidecarEnvironment (metadataBlob : String) (metricsListen : Option MetricsListen) :
    List Json :=
  [environmentEntry "PODMESH_SIDECAR_METADATA_B64" metadataBlob,
    environmentEntry "PODMESH_CONNECTOR_SOCKET" "/var/run/podmesh/connector/control.sock",
    environmentEntry "PODMESH_CONNECTOR_IDENTITY_DIR" "/var/lib/podmesh-connector/identity",
    environmentEntry "PODMESH_ENABLE_EGRESS" "true",
    environmentEntry "RUST_LOG" "info"] ++
  match metricsListen with
  | some listen => [environmentEntry "PODMESH_METRICS_LISTEN" listen.text]
  | none => []

def sidecarContainer (image metadataBlob : String) (metricsListen : Option MetricsListen) : Json :=
  .object <|
    [("name", .string sidecarName),
      ("image", .string image),
      ("imagePullPolicy", .string "IfNotPresent"),
      ("env", .array (sidecarEnvironment metadataBlob metricsListen)),
      ("securityContext", .object [
        ("runAsUser", .number (.int 0)),
        ("runAsNonRoot", .bool false),
        ("capabilities", .object [("add", .array [.string "NET_ADMIN"])])])] ++
    match metricsListen with
    | some listen => [("ports", .array [.object [
        ("containerPort", .number (.int listen.port.toNat)), ("protocol", .string "TCP")]])]
    | none => []

def setField (key : String) (v : Json) : List (String × Json) → List (String × Json)
  | [] => [(key, v)]
  | (k, w) :: rest => if k == key then (k, v) :: rest else (k, w) :: setField key v rest

def updatePath (f : Json → Except String Json) : List String → Json → Except String Json
  | [], v => f v
  | key :: path, .object fields =>
    match fields.lookup key with
    | some w => do
      let w ← updatePath f path w
      return .object (setField key w fields)
    | none => .error "workload pod spec disappeared during transformation"
  | _ :: _, _ => .error "workload pod spec disappeared during transformation"

def pointer : List String → Json → Option Json
  | [], v => some v
  | key :: path, v => (ref v key).bind (pointer path)

def podSpecPath (value : Json) : List String :=
  if (ref value "kind").any (isText "Pod") then ["spec"] else ["spec", "template", "spec"]

def hasPodSpec (value : Json) : Bool := (pointer (podSpecPath value) value).isSome

def nameWorkload (runtimeName : String) : Json → Except String Json
  | .object fields =>
    match fields.lookup "metadata" with
    | some (.object metadata) =>
      .ok (.object (setField "metadata"
        (.object (setField "name" (.string runtimeName) metadata)) fields))
    | _ => .error "workload metadata must be an object"
  | _ => .error "workload metadata must be an object"

def appendSidecar (sidecar : Json) : Json → Except String Json
  | .object fields =>
    match fields.lookup "containers" with
    | some (.array containers) => do
      ensure (!containers.any fun container => (ref container "name").any (isText sidecarName))
        "manifest already contains a podmesh sidecar"
      return .object (setField "containers" (.array (containers ++ [sidecar])) fields)
    | _ => .error "pod spec containers must be an array"
  | _ => .error "pod spec containers must be an array"

def injectDocument (runtimeName : String) (sidecar value : Json) : Except String Json := do
  let named ← nameWorkload runtimeName value
  updatePath (appendSidecar sidecar) (podSpecPath value) named

def injectDocuments (runtimeName : String) (sidecar : Json) :
    List Yaml → Except String (List Yaml)
  | [] => .ok []
  | document :: rest => do
    let value ← document.toJson
    if hasPodSpec value then
      let value ← injectDocument runtimeName sidecar value
      let output ← injectDocuments runtimeName sidecar rest
      return Yaml.ofJson value :: output
    else injectDocuments runtimeName sidecar rest

def inject (lib : YamlLib) (p : IdentityPlatform) (manifest : Bytes)
    (injection : SidecarInjection) : Except String Bytes := do
  let owner ← p.b64Decode injection.namespaceId
  let metadata := injection.metadata p owner manifest
  metadata.validate p
  let encoded ← p.encodeMetadata metadata
  let sidecar :=
    sidecarContainer injection.sidecarImage (p.b64Encode encoded) injection.metricsListen
  let contents ← orError (decodeUtf8 manifest) "decode canonical workload manifest"
  let documents ← lib.parseYamlDocuments contents
  let output ← injectDocuments (workloadRuntimeName p.toPlatform injection.workloadId) sidecar
    documents
  ensure (output.length > 0) "manifest does not contain a supported pod spec"
  ensure (output.length == 1) "a workload may contain only one pod-bearing document"
  let text ← lib.serializeYamlDocuments output
  return utf8Bytes text

end Podmesh
