import Mathlib.Data.List.Sort
import Podmesh.Lib.Assoc
import Podmesh.Protocol.Capacity

namespace Podmesh

def bytesLe : Bytes → Bytes → Bool
  | [], _ => true
  | _ :: _, [] => false
  | a :: as, b :: bs => a < b || (a == b && bytesLe as bs)

def CapacityQuery.sign (p : Platform) (self : CapacityQuery) (signingPublic signingPrivate : Bytes)
    (nowSecs : UInt64) : Except String CapacityQuery := do
  let named := { self with signingPubkey := p.b64Encode signingPublic, signature := "" }
  named.validateUnsigned p nowSecs
  let bytes ← Capacity.encodeBounded p (.capacityQuery named)
  let signature ← p.signDomain signingPrivate .capacityQuery bytes
  let signed := { named with signature := p.b64Encode signature }
  signed.validateUnsigned p nowSecs
  Capacity.validateSignatureFields p signed.signingPubkey signed.signature
  return signed

structure CapacityCriteria where
  cpuMilli : UInt32
  memoryBytes : UInt64
  storageBytes : UInt64
  requiredCapabilities : List String
  excludedEndpointIds : List Bytes
  deriving DecidableEq

def CapacityCriteria.normalized (self : CapacityCriteria) : CapacityCriteria :=
  { self with
    requiredCapabilities := self.requiredCapabilities.insertionSort
      fun a b => bytesLe (utf8Bytes a) (utf8Bytes b) = true
    excludedEndpointIds := self.excludedEndpointIds.insertionSort fun a b => bytesLe a b = true }

/-- The keys of a scheduler and the endpoint record it signs for its reply address. -/
structure SchedulerIdentity where
  signingPublic : Bytes
  signingPrivate : Bytes
  endpointRecord : UInt64 → UInt64 → Except String EndpointRecord

structure BegunQuery where
  query : CapacityQuery
  newlyCreated : Bool
  targetOffers : Nat
  offers : Nat

structure PendingQuery where
  criteria : CapacityCriteria
  query : CapacityQuery
  offers : AList fun _ : Bytes => CapacityOffer
  selected : List Bytes
  targetOffers : Nat
  offerCount : Nat

structure QueryState where
  pending : AList fun _ : String => PendingQuery
  equivalent : AList fun _ : CapacityCriteria => String

def QueryState.empty : QueryState := ⟨∅, ∅⟩

structure QueryLimits where
  maxPendingQueries : Nat
  maxOffersPerQuery : Nat
  /-- The whole seconds of the query timeout. -/
  queryTimeoutSecs : Nat

def PendingQuery.overdue (nowSecs : UInt64) (self : PendingQuery) : Bool :=
  saturatingAdd u64Max self.query.expiresAtSecs.toNat 1 < nowSecs.toNat

namespace QueryState

def drop (self : QueryState) (queryId : String) (criteria : CapacityCriteria) : QueryState :=
  ⟨self.pending.erase queryId, self.equivalent.erase criteria⟩

def cleanupLocked (self : QueryState) (nowSecs : UInt64) : QueryState :=
  let expired := self.pending.entries.filter fun e => e.2.overdue nowSecs
  expired.foldl (fun state e => state.drop e.1 e.2.criteria) self

end QueryState

def CapacityCriteria.query (p : Platform) (criteria : CapacityCriteria) (identity : SchedulerIdentity)
    (lifetimeSecs : Nat) (nowSecs : UInt64) (queryId nonce : String) :
    Except String CapacityQuery := do
  let expiresAtSecs := UInt64.ofNat (saturatingAdd u64Max nowSecs.toNat lifetimeSecs)
  let replyEndpoint ← identity.endpointRecord nowSecs expiresAtSecs
  CapacityQuery.sign p {
    version := capacityProtocolVersion
    queryId
    nonce
    cpuMilli := criteria.cpuMilli
    memoryBytes := criteria.memoryBytes
    storageBytes := criteria.storageBytes
    requiredCapabilities := criteria.requiredCapabilities
    excludedEndpointIds := criteria.excludedEndpointIds
    replyEndpoint
    issuedAtSecs := nowSecs
    expiresAtSecs
    signingPubkey := ""
    signature := "" } identity.signingPublic identity.signingPrivate nowSecs

/-- One call of `begin`, with the two identifiers it draws at random. -/
structure BeginCall where
  criteria : CapacityCriteria
  identity : SchedulerIdentity
  targetOffers : Nat
  nowSecs : UInt64
  queryId : String
  nonce : String

namespace QueryState

def openQuery (p : Platform) (limits : QueryLimits) (self : QueryState) (c : BeginCall)
    (criteria : CapacityCriteria) (targetOffers : Nat) : Except String BegunQuery × QueryState :=
  if limits.maxPendingQueries ≤ Assoc.size self.pending then
    (.error "scheduler pending-query limit reached", self)
  else
    match criteria.query p c.identity limits.queryTimeoutSecs c.nowSecs c.queryId c.nonce with
    | .error e => (.error e, self)
    | .ok query =>
      let pending : PendingQuery := ⟨criteria, query, ∅, [], targetOffers, 0⟩
      (.ok ⟨query, true, targetOffers, 0⟩,
        ⟨self.pending.insert query.queryId pending, self.equivalent.insert criteria query.queryId⟩)

def joinQuery (p : Platform) (limits : QueryLimits) (self : QueryState) (c : BeginCall)
    (criteria : CapacityCriteria) (targetOffers : Nat) : Except String BegunQuery × QueryState :=
  match self.equivalent.lookup criteria with
  | none => self.openQuery p limits c criteria targetOffers
  | some queryId =>
    match self.pending.lookup queryId with
    | none => self.openQuery p limits c criteria targetOffers
    | some pending =>
      let joined := { pending with
        targetOffers := min (pending.targetOffers + targetOffers) limits.maxOffersPerQuery }
      (.ok ⟨pending.query, false, joined.targetOffers, pending.offerCount⟩,
        { self with pending := self.pending.insert queryId joined })

def begin (p : Platform) (limits : QueryLimits) (self : QueryState) (c : BeginCall) :
    Except String BegunQuery × QueryState :=
  -- `clamp` asserts that its bounds are in order before the lock is taken
  if limits.maxOffersPerQuery < 1 then (.error "assertion failed: min <= max", self)
  else
    (self.cleanupLocked c.nowSecs).joinQuery p limits c c.criteria.normalized
      (min (max c.targetOffers 1) limits.maxOffersPerQuery)

def checkOffer (pending : PendingQuery) (offer : CapacityOffer) (authenticatedEndpoint : Bytes)
    (nowSecs : UInt64) : Except String Unit := do
  ensure (pending.query.expiresAtSecs.toNat ≥ nowSecs.toNat)
    "capacity offer arrived after query deadline"
  ensure (!pending.criteria.excludedEndpointIds.contains authenticatedEndpoint)
    "capacity offer came from an excluded agent"
  ensure (offer.availableCpuMilli.toNat ≥ pending.criteria.cpuMilli.toNat
      && offer.availableMemoryBytes.toNat ≥ pending.criteria.memoryBytes.toNat
      && offer.availableStorageBytes.toNat ≥ pending.criteria.storageBytes.toNat)
    "capacity offer does not satisfy requested resources"
  ensure (pending.criteria.requiredCapabilities.all fun required =>
      offer.capabilities.contains required)
    "capacity offer does not satisfy required capabilities"

def checkSender (p : Platform) (offer : CapacityOffer) (authenticatedEndpoint : Bytes)
    (nowSecs : UInt64) : Except String Unit := do
  offer.verify p nowSecs
  ensure (offer.agentEndpoint.endpointId == authenticatedEndpoint)
    "capacity offer EndpointId does not match authenticated sender"

def recordOffer (limits : QueryLimits) (self : QueryState) (offer : CapacityOffer)
    (authenticatedEndpoint : Bytes) (nowSecs : UInt64) : Except String Bool × QueryState :=
  match self.pending.lookup offer.queryId with
  | none => (.error "capacity offer names no active query", self)
  | some pending =>
    match checkOffer pending offer authenticatedEndpoint nowSecs with
    | .error e => (.error e, self)
    | .ok () =>
      if (pending.offers.lookup authenticatedEndpoint).isSome then (.ok false, self)
      else if limits.maxOffersPerQuery ≤ Assoc.size pending.offers then
        (.error "capacity offer limit reached for query", self)
      else
        let offers := pending.offers.insert authenticatedEndpoint offer
        let filled := { pending with offers, offerCount := Assoc.size offers }
        (.ok true, { self with pending := self.pending.insert offer.queryId filled })

def submitOffer (p : Platform) (limits : QueryLimits) (self : QueryState) (offer : CapacityOffer)
    (authenticatedEndpoint : Bytes) (nowSecs : UInt64) : Except String Bool × QueryState :=
  match checkSender p offer authenticatedEndpoint nowSecs with
  | .error e => (.error e, self)
  | .ok () =>
    (self.cleanupLocked nowSecs).recordOffer limits offer authenticatedEndpoint nowSecs

end QueryState

/-- The tighter fit of two offers, cpu first, then memory, storage and endpoint. -/
def compareOffers (left right : CapacityOffer) (criteria : CapacityCriteria) : Ordering :=
  let cpu (o : CapacityOffer) := o.availableCpuMilli.toNat - criteria.cpuMilli.toNat
  let memory (o : CapacityOffer) := o.availableMemoryBytes.toNat - criteria.memoryBytes.toNat
  let storage (o : CapacityOffer) := o.availableStorageBytes.toNat - criteria.storageBytes.toNat
  (compare (cpu left) (cpu right)).then <| (compare (memory left) (memory right)).then <|
    (compare (storage left) (storage right)).then <|
      if left.agentEndpoint.endpointId = right.agentEndpoint.endpointId then .eq
      else if bytesLe left.agentEndpoint.endpointId right.agentEndpoint.endpointId then .lt
      else .gt

/-- The first of the least elements of a list. -/
def minBy (order : α → α → Ordering) : List α → Option α
  | [] => none
  | a :: as => some (as.foldl (fun best b => if order b best = .lt then b else best) a)

def PendingQuery.available (self : PendingQuery) (nowSecs : UInt64) :
    List (Sigma fun _ : Bytes => CapacityOffer) :=
  self.offers.entries.filter fun e =>
    e.2.expiresAtSecs.toNat ≥ nowSecs.toNat && !self.selected.contains e.1

namespace QueryState

def finish (self : QueryState) (queryId : String) (nowSecs : UInt64) :
    Option CapacityOffer × QueryState :=
  match self.pending.lookup queryId with
  | none => (none, self)
  | some pending =>
    match minBy (fun a b => compareOffers a.2 b.2 pending.criteria) (pending.available nowSecs) with
    | none => (none, self)
    | some best =>
      let handed := { pending with selected := best.1 :: pending.selected }
      (pending.offers.lookup best.1, { self with pending := self.pending.insert queryId handed })

def abort (self : QueryState) (queryId : String) : QueryState :=
  match self.pending.lookup queryId with
  | some pending => self.drop queryId pending.criteria
  | none => self

end QueryState
end Podmesh
