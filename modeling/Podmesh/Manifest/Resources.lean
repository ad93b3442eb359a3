import Podmesh.Manifest.Policy

namespace Podmesh

def u128Max : Nat := 2 ^ 128 - 1

structure ManifestResources where
  cpuMilli : UInt32
  memoryBytes : UInt64
  storageBytes : UInt64
  deriving DecidableEq

def decodeUtf8 (bytes : Bytes) : Option String := String.fromUTF8? bytes.toByteArray

theorem decodeUtf8_utf8Bytes : decodeUtf8 (utf8Bytes s) = some s := by
  have hb : (utf8Bytes s).toByteArray = s.toByteArray := by
    apply ByteArray.ext
    rw [List.data_toByteArray, utf8Bytes, Array.toArray_toList]
  unfold decodeUtf8
  rw [hb]
  unfold String.fromUTF8?
  split
  · rfl
  · next hn => exact absurd s.isValidUTF8 (by simpa using hn)

def containers (document : Yaml) (field : String) : Option (List Yaml) := do
  let kind ← document.kind
  let spec ← if kind = "Pod" then document.get "spec" else do
    let outer ← document.get "spec"
    let template ← outer.get "template"
    template.get "spec"
  let list ← spec.get field
  list.asSequence

def requiredQuantity (limits : Yaml) (key : String) : Except String String :=
  match (limits.get key).bind Yaml.asStr with
  | some quantity => .ok quantity
  | none => .error s!"resource limit {key} must be a string quantity"

def digitsValue (digits : Bytes) : Nat :=
  digits.foldl (fun value b => value * 10 + (b.toNat - 48)) 0

/-- Parses an unsigned integer of bounded width; one leading plus sign is accepted. -/
def parseUnsigned (limit : Nat) (text : Bytes) : Option Nat :=
  let digits := match text with
    | 43 :: rest => rest
    | _ => text
  if !digits.isEmpty && digits.all isAsciiDigit && digitsValue digits ≤ limit then
    some (digitsValue digits)
  else none

def stripSuffix (suffix text : Bytes) : Option Bytes :=
  if suffix.isSuffixOf text then some (text.take (text.length - suffix.length)) else none

def splitDot : Bytes → Option (Bytes × Bytes)
  | [] => none
  | 46 :: rest => some ([], rest)
  | b :: rest => (splitDot rest).map fun parts => (b :: parts.1, parts.2)

def decimalParts (text : Bytes) : Bytes × Bytes := (splitDot text).getD (text, [])

def parseCpu (quantity : String) : Except String Nat := do
  match stripSuffix [109] (utf8Bytes quantity) with
  | some milli =>
    let value ← orError (parseUnsigned u32Max milli) "invalid millicore quantity"
    ensure (value > 0) "CPU limit must be greater than zero"
    return value
  | none =>
    let (whole, fraction) := decimalParts (utf8Bytes quantity)
    ensure (!whole.isEmpty && whole.all isAsciiDigit && fraction.length ≤ 3
      && fraction.all isAsciiDigit) "unsupported CPU quantity"
    let whole ← orError (parseUnsigned u32Max whole) "invalid CPU quantity"
    let padded := fraction ++ List.replicate (3 - fraction.length) 48
    let fractional ← orError (parseUnsigned u32Max padded) "invalid CPU fraction"
    let milli := whole * 1000 + fractional
    ensure (milli ≤ u32Max) "CPU quantity overflow"
    ensure (milli > 0) "CPU limit must be greater than zero"
    return milli

def byteSuffixes : List (String × Nat) :=
  [("Ti", 1024 ^ 4), ("Gi", 1024 ^ 3), ("Mi", 1024 ^ 2), ("Ki", 1024),
    ("T", 1000 ^ 4), ("G", 1000 ^ 3), ("M", 1000 ^ 2), ("K", 1000)]

def byteMultiplier (quantity : Bytes) : Bytes × Nat :=
  (byteSuffixes.findSome? fun (suffix, multiplier) =>
    (stripSuffix (utf8Bytes suffix) quantity).map fun number => (number, multiplier)).getD (quantity, 1)

def parseBytes (quantity : String) : Except String Nat := do
  let (number, multiplier) := byteMultiplier (utf8Bytes quantity)
  let (whole, fraction) := decimalParts number
  ensure (!whole.isEmpty && whole.all isAsciiDigit && fraction.length ≤ 9
    && fraction.all isAsciiDigit) "unsupported byte quantity"
  let scale := 10 ^ fraction.length
  let whole ← orError (parseUnsigned u128Max whole) "invalid byte quantity"
  let fraction := digitsValue fraction
  let scaled := (whole * scale + fraction) * multiplier
  ensure (scaled ≤ u128Max) "byte quantity overflow"
  ensure (scaled + (scale - 1) ≤ u128Max) "byte quantity rounding overflow"
  let bytes := (scaled + (scale - 1)) / scale
  ensure (bytes > 0) "byte limit must be greater than zero"
  ensure (bytes ≤ u64Max) "byte quantity exceeds u64"
  return bytes

structure Measured where
  cpuMilli : Nat
  memoryBytes : Nat
  storageBytes : Nat
  containerCount : Nat

def checkedAdd (limit a b : Nat) (message : String) : Except String Nat := do
  ensure (a + b ≤ limit) message
  return a + b

def measureContainer (total : Measured) (container : Yaml) : Except String Measured := do
  let limits ← orError ((container.get "resources").bind (·.get "limits"))
    "container resource limits are required"
  let cpu ← requiredQuantity limits "cpu" >>= parseCpu
  let cpuMilli ← checkedAdd u64Max total.cpuMilli cpu "aggregate CPU limit overflow"
  let memory ← requiredQuantity limits "memory" >>= parseBytes
  let memoryBytes ← checkedAdd u64Max total.memoryBytes memory "aggregate memory limit overflow"
  let storage ← requiredQuantity limits "ephemeral-storage" >>= parseBytes
  let storageBytes ← checkedAdd u64Max total.storageBytes storage "aggregate storage limit overflow"
  return { cpuMilli, memoryBytes, storageBytes, containerCount := total.containerCount + 1 }

def measureContainers : Measured → List Yaml → Except String Measured
  | total, [] => .ok total
  | total, container :: rest => do
    let total ← measureContainer total container
    measureContainers total rest

def measuredContainers (documents : List Yaml) : List Yaml :=
  documents.flatMap fun document =>
    containerFields.flatMap fun field => (containers document field).getD []

def measureDocuments (documents : List Yaml) : Except String ManifestResources := do
  let total ← measureContainers ⟨0, 0, 0, 0⟩ (measuredContainers documents)
  ensure (total.containerCount > 0) "workload contains no containers"
  ensure (total.cpuMilli ≤ u32Max) "aggregate CPU exceeds u32"
  return { cpuMilli := total.cpuMilli.toUInt32, memoryBytes := total.memoryBytes.toUInt64,
           storageBytes := total.storageBytes.toUInt64 }

def YamlLib.validateAndMeasureManifest (lib : YamlLib) (manifest : Bytes) :
    Except String (Bytes × ManifestResources) := do
  let manifest ← orError (decodeUtf8 manifest) "workload manifest must be UTF-8"
  let mutated ← lib.validateAndMutateManifest manifest
  let documents ← lib.parseYamlDocuments mutated
  let resources ← measureDocuments documents
  return (utf8Bytes mutated, resources)

example : parseCpu "0.125" = .ok 125 := by decide

example : parseBytes "1.5Gi" = .ok (1536 * 1024 * 1024) := by decide

end Podmesh
