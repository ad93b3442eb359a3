import Podmesh.Lib.Rego
import Mathlib.Data.List.Dedup
import Mathlib.Data.List.Sort

namespace Podmesh

open Rego

def injectedSidecarName : String := "podmesh-sidecar"

/-! The deny rules of the built-in policy, each as the list of the messages it contributes. -/

namespace Rules

def podSpec (input : Json) : Option Json :=
  if (ref input "kind").any (isText "Pod") then ref input "spec"
  else if (ref input "kind").any
      (isOneOf ["Deployment", "ReplicaSet", "DaemonSet", "StatefulSet", "Job", "CronJob"]) then do
    let spec ← ref input "spec"
    let template ← ref spec "template"
    ref template "spec"
  else none

def allContainers (spec : Json) : Option Json := do
  let inputContainers ← objectGet spec "containers" (.array [])
  let initContainers ← objectGet spec "initContainers" (.array [])
  let ephemeralContainers ← objectGet spec "ephemeralContainers" (.array [])
  let declared ← arrayConcat inputContainers initContainers
  arrayConcat declared ephemeralContainers

def isInjectedSidecar (container : Json) : Bool :=
  (ref container "name").any (isText "podmesh-sidecar")

def holds (condition : Bool) : List (List Json) := if condition then [[]] else []

/-- A rule over one container whose message names the container: no name, no message. -/
def containerRule (fmt : String) (bindings : Json → List (List Json)) (container : Json) :
    List String :=
  (bindings container).flatMap fun args =>
    (ref container "name").toList.map fun name => sprintf fmt (name :: args)

def securityContext (v : Json) : Option Json := objectGet v "securityContext" (.object [])

def addedCapabilities (container : Json) : List Json :=
  ((securityContext container).bind fun context =>
    (objectGet context "capabilities" (.object [])).bind fun capabilities =>
      objectGet capabilities "add" (.array [])).elim [] members

def foreignProfile (field : String) (v : Json) : List (List Json) :=
  match (securityContext v).bind fun context =>
      (objectGet context field (.object [])).bind fun profile => ref profile "type" with
  | some type => if isOneOf ["RuntimeDefault"] type then [] else [[type]]
  | none => []

def countPositive (v : Option Json) : Bool := (v.bind count).any fun n => 0 < n

def privileged : Json → List String :=
  containerRule "container '%s' requests privileged: true" fun container =>
    holds (((ref container "securityContext").bind (ref · "privileged")).any (isBool true))

def allowPrivilegeEscalation : Json → List String :=
  containerRule "container '%s' requests allowPrivilegeEscalation: true" fun container =>
    holds (((ref container "securityContext").bind
      (ref · "allowPrivilegeEscalation")).any (isBool true))

def addsCapability : Json → List String :=
  containerRule ("container '%s' adds capability %s; only the injected sidecar may add " ++
      "capabilities") fun container =>
    if isInjectedSidecar container then []
    else (addedCapabilities container).map fun capability => [capability]

def sidecarCapability (container : Json) : List String :=
  if isInjectedSidecar container then
    ((addedCapabilities container).filter fun capability => !isText "NET_ADMIN" capability).map
      fun capability => sprintf "injected sidecar may only add NET_ADMIN, not %s" [capability]
  else []

def runAsRoot : Json → List String :=
  containerRule "container '%s' requests runAsUser: 0" fun container =>
    holds (!isInjectedSidecar container &&
      ((ref container "securityContext").bind (ref · "runAsUser")).any isZero)

def runAsNonRootFalse : Json → List String :=
  containerRule "container '%s' sets runAsNonRoot: false" fun container =>
    holds (!isInjectedSidecar container &&
      ((ref container "securityContext").bind (ref · "runAsNonRoot")).any (isBool false))

def procMount : Json → List String :=
  containerRule "container '%s' requests an unmasked /proc" fun container =>
    holds (((securityContext container).bind (ref · "procMount")).any (isText "Unmasked"))

def seccompProfile : Json → List String :=
  containerRule ("container '%s' requests seccompProfile.type '%v'; only RuntimeDefault is " ++
      "allowed") (foreignProfile "seccompProfile")

def appArmorProfile : Json → List String :=
  containerRule ("container '%s' requests appArmorProfile.type '%v'; only RuntimeDefault is " ++
      "allowed") (foreignProfile "appArmorProfile")

def seLinuxOptions : Json → List String :=
  containerRule "container '%s' sets seLinuxOptions, which is not permitted" fun container =>
    holds (countPositive ((securityContext container).bind
      (objectGet · "seLinuxOptions" (.object []))))

def hostPorts : Json → List String :=
  containerRule "container '%s' requests hostPort %v" fun container =>
    ((objectGet container "ports" (.array [])).elim [] members).flatMap fun port =>
      if (objectGet port "hostPort" (.number (.int 0))).any (fun value => !isZero value) then
        (ref port "hostPort").toList.map fun value => [value]
      else []

def podFlag (message : String) (condition : Json → Bool) (spec : Json) : List String :=
  if condition spec then [message] else []

def hostNetwork : Json → List String :=
  podFlag "pod requests hostNetwork" fun spec => (ref spec "hostNetwork").any (isBool true)

def hostPID : Json → List String :=
  podFlag "pod requests hostPID" fun spec => (ref spec "hostPID").any (isBool true)

def hostIPC : Json → List String :=
  podFlag "pod requests hostIPC" fun spec => (ref spec "hostIPC").any (isBool true)

def shareProcessNamespace : Json → List String :=
  podFlag ("pod requests shareProcessNamespace, which exposes the sidecar's environment to the " ++
      "application") fun spec => (ref spec "shareProcessNamespace").any (isBool true)

def podRunAsRoot : Json → List String :=
  podFlag "pod securityContext requests runAsUser: 0" fun spec =>
    ((ref spec "securityContext").bind (ref · "runAsUser")).any isZero

def podRunAsNonRootFalse : Json → List String :=
  podFlag "pod securityContext sets runAsNonRoot: false" fun spec =>
    ((ref spec "securityContext").bind (ref · "runAsNonRoot")).any (isBool false)

def hostUsers : Json → List String :=
  podFlag "pod requests hostUsers, disabling user-namespace isolation" fun spec =>
    (ref spec "hostUsers").any (isBool true)

def podSeccompProfile (spec : Json) : List String :=
  (foreignProfile "seccompProfile" spec).map (sprintf
    "pod securityContext requests seccompProfile.type '%v'; only RuntimeDefault is allowed")

def podAppArmorProfile (spec : Json) : List String :=
  (foreignProfile "appArmorProfile" spec).map (sprintf
    "pod securityContext requests appArmorProfile.type '%v'; only RuntimeDefault is allowed")

def podSeLinuxOptions : Json → List String :=
  podFlag "pod securityContext sets seLinuxOptions, which is not permitted" fun spec =>
    countPositive ((securityContext spec).bind (objectGet · "seLinuxOptions" (.object [])))

def podSysctls : Json → List String :=
  podFlag "pod securityContext sets sysctls, which is not permitted" fun spec =>
    countPositive ((securityContext spec).bind (objectGet · "sysctls" (.array [])))

def allAnnotations (input : Json) : Option Json := do
  let metadata ← objectGet input "metadata" (.object [])
  let own ← objectGet metadata "annotations" (.object [])
  let spec ← objectGet input "spec" (.object [])
  let template ← objectGet spec "template" (.object [])
  let templateMetadata ← objectGet template "metadata" (.object [])
  let templated ← objectGet templateMetadata "annotations" (.object [])
  objectUnion own templated

def annotations (input : Json) : List String :=
  (((allAnnotations input).elim [] objectKeys).filter fun key =>
      !startswith key "podmesh.io/").map fun key =>
    sprintf "annotation '%s' is not allowed; only podmesh.io/* annotations are permitted"
      [.string key]

def isSafeEmptydirVolume (vol : Json) : Bool :=
  isObject vol
    && (ref vol "name").any (fun name => isString name && !isText "" name)
    && (ref vol "emptyDir").any (fun dir =>
      isObject dir && (objectKeys dir).all fun key => ["medium", "sizeLimit"].contains key)
    && (objectKeys vol).all fun key => ["name", "emptyDir"].contains key

def volumes (spec : Json) : List Json := (objectGet spec "volumes" (.array [])).elim [] members

def textOf : Json → Option String
  | .string s => some s
  | _ => none

def declaredEmptydirNames (spec : Json) : List String :=
  ((volumes spec).filter isSafeEmptydirVolume).filterMap fun vol => (ref vol "name").bind textOf

def unsupportedVolumes (spec : Json) : List String :=
  ((volumes spec).filter fun vol => !isSafeEmptydirVolume vol).flatMap fun vol =>
    (objectGet vol "name" (.string "unnamed")).toList.map fun name =>
      sprintf "pod declares unsupported volume '%v'; only emptyDir volumes are supported" [name]

def isSafeMountPath : Json → Bool
  | .string path => startswith path "/" && !contains path ".."
      && !startswith path "/var/run/podmesh" && !startswith path "/var/lib/podmesh-connector"
  | _ => false

def isSafeVolumeMount (declared : List String) (mount : Json) : Bool :=
  isObject mount
    && (ref mount "name").any (isOneOf declared)
    && (ref mount "mountPath").any isSafeMountPath
    && (objectGet mount "mountPropagation" (.string "None")).any (isOneOf ["None", ""])
    && (objectGet mount "subPathExpr" (.string "")).any (isText "")

def unsupportedMounts (declared : List String) : Json → List String :=
  containerRule ("container '%s' declares unsupported volumeMount '%v'; only mounts of declared " ++
      "emptyDir volumes are supported") fun container =>
    if isInjectedSidecar container then []
    else (((objectGet container "volumeMounts" (.array [])).elim [] members).filter fun mount =>
        !isSafeVolumeMount declared mount).flatMap fun mount =>
      (objectGet mount "name" (.string "unnamed")).toList.map fun name => [name]

/-- Every rule over one container, for the emptyDir names the pod declares. -/
def containerRules (declared : List String) : List (Json → List String) :=
  [privileged, allowPrivilegeEscalation, addsCapability, sidecarCapability, runAsRoot,
    runAsNonRootFalse, procMount, seccompProfile, appArmorProfile, seLinuxOptions, hostPorts,
    unsupportedMounts declared]

def podRules : List (Json → List String) :=
  [hostNetwork, hostPID, hostIPC, shareProcessNamespace, podRunAsRoot, podRunAsNonRootFalse,
    hostUsers, podSeccompProfile, podAppArmorProfile, podSeLinuxOptions, podSysctls,
    unsupportedVolumes]

def containerMessages (spec : Json) : List String :=
  ((allContainers spec).elim [] members).flatMap fun container =>
    (containerRules (declaredEmptydirNames spec)).flatMap fun rule => rule container

def podMessages (spec : Json) : List String := podRules.flatMap fun rule => rule spec

def violations (input : Json) : List String :=
  (annotations input ++ (podSpec input).elim [] fun spec =>
    containerMessages spec ++ podMessages spec).dedup.insertionSort (· ≤ ·)

def allow (input : Json) : Bool := (violations input).length == 0

end Rules
end Podmesh
