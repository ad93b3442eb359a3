import Podmesh.Lib.Assoc
import Podmesh.Manifest.Sidecar
import Mathlib.Data.Finset.Card

namespace Podmesh

def reservationTtlSecs : Nat := 30
def maxReservationsPerNamespace : Nat := 16
def maxReservations : Nat := 1024
def maxConfiguredWorkloads : Nat := 10000
def runtimeOperationsLimit : Nat := 1024
def storedWorkloadVersion : UInt16 := 1

structure Config where
  capacityCpuMilli : UInt32
  capacityMemoryBytes : UInt64
  capacityStorageBytes : UInt64
  maxWorkloads : Nat
  maxReservedCapacityPercent : UInt32
  maxConcurrentRuntimeOperations : Nat
  runtimeOperationTimeoutSecs : UInt64
  sidecarImage : String
  sidecarMetricsListen : Option MetricsListen
  advertiseAddresses : List String
  deriving DecidableEq

/-- The checks `AgentService::new` makes before it opens the store. -/
def Config.validate (config : Config) : Except String Unit := do
  ensure (config.maxWorkloads > 0 && config.maxWorkloads ≤ maxConfiguredWorkloads)
    s!"max_workloads must be between 1 and {maxConfiguredWorkloads}"
  ensure (1 ≤ config.maxConcurrentRuntimeOperations
      && config.maxConcurrentRuntimeOperations ≤ runtimeOperationsLimit)
    s!"max_concurrent_runtime_operations must be between 1 and {runtimeOperationsLimit}"
  ensure (config.runtimeOperationTimeoutSecs > 0) "runtime_operation_timeout_secs must be non-zero"

def Config.default : Config where
  capacityCpuMilli := 4000
  capacityMemoryBytes := 16 * 1024 * 1024 * 1024
  capacityStorageBytes := 100 * 1024 * 1024 * 1024
  maxWorkloads := 100
  maxReservedCapacityPercent := 50
  maxConcurrentRuntimeOperations := 8
  runtimeOperationTimeoutSecs := 120
  sidecarImage := "podmesh/sidecar:latest"
  sidecarMetricsListen := none
  advertiseAddresses := []

theorem Config.default_validate : Config.default.validate = .ok () := by decide

inductive Dim where
  | cpu | memory | storage
  deriving DecidableEq

def Dim.all (p : Dim → Bool) : Bool := p .cpu && p .memory && p .storage

theorem Dim.all_iff : Dim.all p = true ↔ ∀ d, p d = true := by
  simp only [Dim.all, Bool.and_eq_true]
  constructor
  · rintro ⟨⟨hc, hm⟩, hs⟩ d
    cases d with
    | cpu => exact hc
    | memory => exact hm
    | storage => exact hs
  · intro hp
    exact ⟨⟨hp .cpu, hp .memory⟩, hp .storage⟩

structure ResourceUsage where
  cpuMilli : Nat
  memoryBytes : Nat
  storageBytes : Nat
  deriving DecidableEq

def ResourceUsage.zero : ResourceUsage := ⟨0, 0, 0⟩

def ResourceUsage.get (u : ResourceUsage) : Dim → Nat
  | .cpu => u.cpuMilli
  | .memory => u.memoryBytes
  | .storage => u.storageBytes

def ResourceUsage.plus (u : ResourceUsage) (cpuMilli memoryBytes storageBytes : Nat) :
    ResourceUsage where
  cpuMilli := saturatingAdd u64Max u.cpuMilli cpuMilli
  memoryBytes := saturatingAdd u64Max u.memoryBytes memoryBytes
  storageBytes := saturatingAdd u64Max u.storageBytes storageBytes

def ResourceUsage.fitsWithin (u : ResourceUsage) (cpuMilli memoryBytes storageBytes : Nat) : Bool :=
  u.cpuMilli ≤ cpuMilli && u.memoryBytes ≤ memoryBytes && u.storageBytes ≤ storageBytes

def Config.capacity (config : Config) : Dim → Nat
  | .cpu => config.capacityCpuMilli.toNat
  | .memory => config.capacityMemoryBytes.toNat
  | .storage => config.capacityStorageBytes.toNat

def Config.fits (config : Config) (u : ResourceUsage) : Bool :=
  u.fitsWithin config.capacityCpuMilli.toNat config.capacityMemoryBytes.toNat
    config.capacityStorageBytes.toNat

def Config.reservedCapacityCeiling (config : Config) : ResourceUsage :=
  let share := min config.maxReservedCapacityPercent.toNat 100
  let scale (capacity : Nat) := min (capacity * share / 100) u64Max
  { cpuMilli := scale config.capacityCpuMilli.toNat
    memoryBytes := scale config.capacityMemoryBytes.toNat
    storageBytes := scale config.capacityStorageBytes.toNat }

inductive StoredWorkloadPhase where
  | active
  | updating (previousGrant : DeploymentGrant) (previousRuntimeId : String)
      (request : UpdateRequest)
  | creating
  | cleanupPending (uncertain : Bool)
  deriving DecidableEq

structure StoredWorkload where
  version : UInt16
  phase : StoredWorkloadPhase
  grant : DeploymentGrant
  runtimeId : String
  deleting : Bool
  cpuMilli : UInt32
  memoryBytes : UInt64
  storageBytes : UInt64
  workloadName : String
  replicaIndex : UInt32
  replicaCount : UInt32
  deriving DecidableEq

namespace StoredWorkload

def amount (w : StoredWorkload) : Dim → Nat
  | .cpu => w.cpuMilli.toNat
  | .memory => w.memoryBytes.toNat
  | .storage => w.storageBytes.toNat

def isUpdating (w : StoredWorkload) : Bool :=
  match w.phase with
  | .updating _ _ _ => true
  | _ => false

def needsCleanup (w : StoredWorkload) : Bool :=
  match w.phase with
  | .creating => true
  | .cleanupPending _ => true
  | .active => w.runtimeId == ""
  | .updating _ _ _ => false

end StoredWorkload

def Reservation.amount (r : Reservation) : Dim → Nat
  | .cpu => r.cpuMilli.toNat
  | .memory => r.memoryBytes.toNat
  | .storage => r.storageBytes.toNat

structure EnrollmentBinding where
  workloadId : String
  delegationDigest : String
  endpointId : String
  signingPublicKeyB64 : String
  deriving DecidableEq

abbrev ActiveMap := AList fun _ : String => StoredWorkload
abbrev ReservationMap := AList fun _ : String => Reservation

structure WorkloadState where
  active : ActiveMap
  reservations : ReservationMap
  quarantined : Finset String

def WorkloadState.empty : WorkloadState := ⟨∅, ∅, ∅⟩

namespace WorkloadState

def addWorkload (u : ResourceUsage) (w : StoredWorkload) : ResourceUsage :=
  u.plus w.cpuMilli.toNat w.memoryBytes.toNat w.storageBytes.toNat

def addReservation (u : ResourceUsage) (r : Reservation) : ResourceUsage :=
  u.plus r.cpuMilli.toNat r.memoryBytes.toNat r.storageBytes.toNat

def activeUsage (s : WorkloadState) : ResourceUsage :=
  s.active.entries.foldl (fun u e => addWorkload u e.2) .zero

def reservedUsage (s : WorkloadState) : ResourceUsage :=
  s.reservations.entries.foldl (fun u e => addReservation u e.2) .zero

def usage (s : WorkloadState) : ResourceUsage :=
  let reserved := s.reservedUsage
  s.activeUsage.plus (min reserved.cpuMilli u32Max) reserved.memoryBytes reserved.storageBytes

def usageWithout (s : WorkloadState) (workloadId : String) : ResourceUsage :=
  s.active.entries.foldl (fun u e => if e.1 = workloadId then u else addWorkload u e.2)
    s.reservedUsage

def reservationsFor (s : WorkloadState) (namespaceId : String) : Nat :=
  (s.reservations.entries.filter fun e => e.2.namespaceId == namespaceId).length

def containsWorkload (s : WorkloadState) (workloadId : String) : Bool :=
  (s.active.lookup workloadId).isSome || decide (workloadId ∈ s.quarantined)
    || s.reservations.entries.any fun e => e.2.workloadId == workloadId

def retainReservations (s : WorkloadState) (now : UInt64) : WorkloadState :=
  { s with reservations := Assoc.retain (fun _ r => decide (r.expiresAtSecs.toNat ≥ now.toNat))
                             s.reservations }

def slots (s : WorkloadState) : Nat :=
  Assoc.size s.active + Assoc.size s.reservations + s.quarantined.card

end WorkloadState

def WorkloadState.activeTotal (s : WorkloadState) (d : Dim) : Nat :=
  Assoc.total (fun _ w => w.amount d) s.active

def WorkloadState.reservedTotal (s : WorkloadState) (d : Dim) : Nat :=
  Assoc.total (fun _ r => r.amount d) s.reservations

end Podmesh
