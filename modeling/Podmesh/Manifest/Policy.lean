import Podmesh.Lib.Yaml
import Podmesh.Manifest.Rules
import Podmesh.Protocol.Verify

namespace Podmesh

/-- The YAML library: the values of the documents of a text, and the text of one value. -/
structure YamlLib where
  deserialize : String → Except String (List Yaml)
  render : Yaml → Except String String

namespace YamlLib
variable (lib : YamlLib)

def parseYamlDocuments (contents : String) : Except String (List Yaml) := do
  let docs ← lib.deserialize contents
  return docs.filter fun doc => !doc.isNull

def renderLine (doc : Yaml) : Except String String := do
  let rendered ← lib.render doc
  return if (utf8Bytes rendered).getLast? = some 10 then rendered else rendered ++ "\n"

def serializeFrom (first : Bool) : List Yaml → Except String String
  | [] => .ok ""
  | doc :: rest => do
    let rendered ← lib.renderLine doc
    let tail ← serializeFrom false rest
    return (if first then "" else "---\n") ++ rendered ++ tail

def serializeYamlDocuments (docs : List Yaml) : Except String String := lib.serializeFrom true docs

end YamlLib

def supportedPodKinds : List String := ["Pod", "Deployment"]
def supportedAuxiliaryKinds : List String := ["Service", "Ingress"]
def containerFields : List String := ["containers", "initContainers"]

def Yaml.kind (document : Yaml) : Option String := (document.get "kind").bind Yaml.asStr

def podSpec (document : Yaml) (kind : String) : Option Yaml :=
  if kind = "Pod" then document.get "spec"
  else if kind = "Deployment" then do
    let spec ← document.get "spec"
    let template ← spec.get "template"
    template.get "spec"
  else none

def documentShape (index : Nat) (document : Yaml) : List String :=
  match document.kind with
  | none => [s!"document {index}: kind is required"]
  | some kind =>
    if supportedPodKinds.contains kind then
      match podSpec document kind with
      | none => [s!"document {index}: {kind} does not contain a pod specification"]
      | some spec =>
        (if ((spec.get "ephemeralContainers").bind Yaml.asSequence).any (fun l => !l.isEmpty) then
          [s!"document {index}: ephemeralContainers are not supported"] else []) ++
        (if kind = "Deployment" && ((document.get "spec").bind (·.get "replicas")).any
            (fun replicas => replicas.asU64 != some 1) then
          [s!"document {index}: Deployment spec.replicas must be exactly 1"] else [])
    else if supportedAuxiliaryKinds.contains kind then []
    else [s!"document {index}: manifest kind {kind} is not supported"]

def isPodDocument (document : Yaml) : Bool := document.kind.any supportedPodKinds.contains

def shapesFrom (index : Nat) : List Yaml → List String
  | [] => []
  | document :: rest => documentShape index document ++ shapesFrom (index + 1) rest

def validateDocumentShape (documents : List Yaml) : List String :=
  let podDocuments := (documents.filter isPodDocument).length
  shapesFrom 0 documents ++
    (if podDocuments != 1 then
      [s!"manifest must contain exactly one Pod or Deployment document, found {podDocuments}"]
    else [])

namespace Yaml

def modifyEntries (key : String) (f : Yaml → Yaml) : List (Yaml × Yaml) → List (Yaml × Yaml)
  | [] => []
  | (k, v) :: rest =>
    if (lookup key rest).isSome then (k, v) :: modifyEntries key f rest
    else (k, if k.isKey key then f v else v) :: rest

def modify (key : String) (f : Yaml → Yaml) : Yaml → Yaml
  | .tagged tag value => .tagged tag (modify key f value)
  | .mapping entries => .mapping (modifyEntries key f entries)
  | y => y

def ensureKey : Yaml → String → Yaml → Yaml
  | .tagged tag value, key, default => .tagged tag (ensureKey value key default)
  | .mapping entries, key, default =>
    if (lookup key entries).isSome then .mapping entries
    else .mapping (entries ++ [(.string key, default)])
  | y, _, _ => y

def mapItems (f : Yaml → Yaml) : Yaml → Yaml
  | .tagged tag value => .tagged tag (mapItems f value)
  | .sequence items => .sequence (items.map f)
  | y => y

end Yaml

def ensureQuantities (cpu memory storage : String) (y : Yaml) : Yaml :=
  ((y.ensureKey "cpu" (.string cpu)).ensureKey "memory" (.string memory)).ensureKey
    "ephemeral-storage" (.string storage)

def injectResourceDefaults (container : Yaml) : Yaml :=
  (container.ensureKey "resources" (.mapping [])).modify "resources" fun resources =>
    (((resources.ensureKey "limits" (.mapping [])).modify "limits"
      (ensureQuantities "100m" "128Mi" "1Gi")).ensureKey "requests" (.mapping [])).modify "requests"
        (ensureQuantities "50m" "64Mi" "512Mi")

def mutateContainers (field : String) (f : Yaml → Yaml) (doc : Yaml) : Yaml :=
  match doc.kind with
  | some "Pod" => doc.modify "spec" (Yaml.modify field (Yaml.mapItems f))
  | some "Deployment" =>
    doc.modify "spec" (Yaml.modify "template" (Yaml.modify "spec"
      (Yaml.modify field (Yaml.mapItems f))))
  | _ => doc

def mutateDocumentDefaults (doc : Yaml) : Yaml :=
  containerFields.foldl (fun doc field => mutateContainers field injectResourceDefaults doc) doc

structure PolicyResult where
  allowed : Bool
  violations : List String
  mutatedManifest : Option String

def evaluateDocuments (total : Nat) (index : Nat) : List Yaml →
    Except String (Bool × List String)
  | [] => .ok (true, [])
  | doc :: rest => do
    let input ← doc.toJson
    let (allowed, messages) ← evaluateDocuments total (index + 1) rest
    let own := (Rules.violations input).map fun message =>
      if total > 1 then s!"document {index}: {message}" else message
    return (Rules.allow input && allowed, own ++ messages)

namespace YamlLib
variable (lib : YamlLib)

def mutateManifestDefaults (manifest : String) : Except String String := do
  let docs ← lib.parseYamlDocuments manifest
  lib.serializeYamlDocuments (docs.map mutateDocumentDefaults)

def validate (manifest : String) : Except String PolicyResult := do
  let docs ← lib.parseYamlDocuments manifest
  ensure (!docs.isEmpty) "manifest contains no documents"
  let shape := validateDocumentShape docs
  let (allowed, messages) ← evaluateDocuments docs.length 0 docs
  if shape.isEmpty && allowed then do
    let mutated ← lib.mutateManifestDefaults manifest
    return { allowed := true, violations := shape ++ messages, mutatedManifest := some mutated }
  else
    return { allowed := false, violations := shape ++ messages, mutatedManifest := none }

def validateAndMutateManifest (manifest : String) : Except String String := do
  let result ← lib.validate manifest
  ensure result.allowed
    (if result.violations.isEmpty then "manifest rejected by policy"
    else "manifest rejected by policy: " ++ "; ".intercalate result.violations)
  match result.mutatedManifest with
  | some mutated => return mutated
  | none => throw "internal error: allowed manifest has no mutation result"

end YamlLib
end Podmesh
