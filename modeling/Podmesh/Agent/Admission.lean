import Podmesh.Agent.Host
import Podmesh.Protocol.Capacity

namespace Podmesh

structure AdmissionChecks where
  stateReliable : Bool
  duplicate : Bool
  countAvailable : Bool
  reservationAvailable : Bool
  capacityOk : Bool
  reservationCapacityOk : Bool

def admissionChecks (config : Config) (state : WorkloadState) (request : AdmissionRequest) :
    AdmissionChecks :=
  let ceiling := config.reservedCapacityCeiling
  { stateReliable := state.quarantined.card == 0
    duplicate := state.containsWorkload request.workloadId
    countAvailable := decide (state.slots < config.maxWorkloads)
    reservationAvailable := decide (Assoc.size state.reservations < maxReservations)
      && decide (state.reservationsFor request.namespaceId < maxReservationsPerNamespace)
    capacityOk := config.fits (state.usage.plus request.cpuMilli.toNat request.memoryBytes.toNat
      request.storageBytes.toNat)
    reservationCapacityOk := (state.reservedUsage.plus request.cpuMilli.toNat
      request.memoryBytes.toNat request.storageBytes.toNat).fitsWithin ceiling.cpuMilli
        ceiling.memoryBytes ceiling.storageBytes }

namespace AdmissionChecks

def accepted (c : AdmissionChecks) : Bool :=
  c.stateReliable && !c.duplicate && c.countAvailable && c.reservationAvailable && c.capacityOk
    && c.reservationCapacityOk

def refusal (c : AdmissionChecks) : Option AdmissionRefusal :=
  if !c.stateReliable then some .stateRequiresRepair
  else if c.duplicate then some .alreadyActive
  else if !c.countAvailable then some .workloadLimit
  else if !c.reservationAvailable then some .reservationLimit
  else if !c.capacityOk then some .insufficientCapacity
  else if !c.reservationCapacityOk then some .pendingCapacityLimit
  else none

end AdmissionChecks

/-- The section of `admit` under the state lock, for a fresh reservation id. -/
def admitLocked (h : Host) (now : UInt64) (reservationId : String) (request : AdmissionRequest)
    (state : WorkloadState) : WorkloadState × Except String Reservation :=
  let state := state.retainReservations now
  let checks := admissionChecks h.config state request
  let unsigned : Reservation :=
    { version := agentProtocolVersion
      reservationId
      requestId := request.requestId
      namespaceId := request.namespaceId
      workloadId := request.workloadId
      agentNodeId := ""
      cpuMilli := request.cpuMilli
      memoryBytes := request.memoryBytes
      storageBytes := request.storageBytes
      accepted := checks.accepted
      reason := checks.refusal.elim "" AdmissionRefusal.asStr
      expiresAtSecs := now + 30
      signature := "" }
  match unsigned.sign h.platform.toPlatform h.signingPublic h.signingPrivate with
  | .error e => (state, .error e)
  | .ok reservation =>
    if checks.accepted then
      ({ state with reservations :=
          state.reservations.insert reservation.reservationId reservation }, .ok reservation)
    else (state, .ok reservation)

def Host.signedEndpointRecord (h : Host) (address : EndpointAddr) (now expiresAt : UInt64) :
    Except String EndpointRecord :=
  let direct := if h.config.advertiseAddresses.isEmpty then address.ipAddrs
    else h.config.advertiseAddresses
  EndpointRecord.sign h.platform.toPlatform
    { version := endpointRecordVersion
      endpointId := address.id
      relayUrl := address.relayUrl
      directAddresses := direct.take maxEndpointDirectAddresses
      signingPubkey := ""
      issuedAtSecs := now
      expiresAtSecs := expiresAt
      signature := "" }
    h.signingPublic h.signingPrivate now

def offeredCapabilities : List String := ["multi-workload"]

def Config.available (config : Config) (usage : ResourceUsage) : ResourceUsage where
  cpuMilli := config.capacityCpuMilli.toNat - usage.cpuMilli
  memoryBytes := config.capacityMemoryBytes.toNat - usage.memoryBytes
  storageBytes := config.capacityStorageBytes.toNat - usage.storageBytes

def canSatisfy (config : Config) (state : WorkloadState) (query : CapacityQuery) : Bool :=
  let available := config.available state.usage
  state.quarantined.card == 0
    && decide (Assoc.size state.active + Assoc.size state.reservations < config.maxWorkloads)
    && decide (available.cpuMilli ≥ query.cpuMilli.toNat)
    && decide (available.memoryBytes ≥ query.memoryBytes.toNat)
    && decide (available.storageBytes ≥ query.storageBytes.toNat)

def Host.capacityAnswer (h : Host) (query : CapacityQuery) (address : EndpointAddr)
    (now : UInt64) (state : WorkloadState) : Except String CapacityOffer := do
  let expiresAt := now + 15
  let available := h.config.available state.usage
  let agentEndpoint ← h.signedEndpointRecord address now expiresAt
  CapacityOffer.sign h.platform.toPlatform
    { version := capacityProtocolVersion
      queryId := query.queryId
      agentEndpoint
      kemPubkey := h.platform.b64Encode h.kemPublic
      availableCpuMilli := if available.cpuMilli ≤ u32Max then available.cpuMilli.toUInt32
        else h.config.capacityCpuMilli
      availableMemoryBytes := available.memoryBytes.toUInt64
      availableStorageBytes := available.storageBytes.toUInt64
      capabilities := offeredCapabilities
      issuedAtSecs := now
      expiresAtSecs := expiresAt
      signingPubkey := ""
      signature := "" }
    h.signingPublic h.signingPrivate now

def capacityOffer (h : Host) (query : CapacityQuery) (address : EndpointAddr) (now : UInt64)
    (state : WorkloadState) : WorkloadState × Except String (Option CapacityOffer) :=
  match query.verify h.platform.toPlatform now with
  | .error e => (state, .error e)
  | .ok () =>
    if query.excludedEndpointIds.contains address.id then (state, .ok none)
    else if !query.requiredCapabilities.all offeredCapabilities.contains then (state, .ok none)
    else
      let state := state.retainReservations now
      if canSatisfy h.config state query then
        (state, (h.capacityAnswer query address now state).map some)
      else (state, .ok none)

end Podmesh
