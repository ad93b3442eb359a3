import Mathlib.Data.List.Sort
import Podmesh.Lib.Assoc
import Podmesh.Protocol.Registration

namespace Podmesh

structure Backend where
  sidecarPeerId : String
  routes : List SidecarRoute
  registeredAt : UInt64

structure RouteTarget where
  replicaIndex : UInt32
  sidecarPeerId : String
  port : UInt16
  deriving DecidableEq

structure SidecarRouteEntry where
  ownerPubkey : String
  workloadName : String
  replicaCount : UInt32
  backends : AList fun _ : UInt32 => Backend
  cursor : Nat

structure HostClaim where
  manifestId : String
  ownerPubkey : String
  registeredAt : UInt64

structure RouteTable where
  byManifest : AList fun _ : String => SidecarRouteEntry
  hostClaims : AList fun _ : String => HostClaim

def RouteTable.empty : RouteTable := ⟨∅, ∅⟩

def SidecarRegistration.claim (self : SidecarRegistration) (registeredAt : UInt64) : HostClaim where
  manifestId := self.manifestId
  ownerPubkey := self.ownerPubkey
  registeredAt := registeredAt

def SidecarRegistration.backend (self : SidecarRegistration) (registeredAt : UInt64) : Backend where
  sidecarPeerId := self.sidecarPeerId
  routes := self.routes
  registeredAt := registeredAt

def SidecarRegistration.emptyEntry (self : SidecarRegistration) : SidecarRouteEntry where
  ownerPubkey := self.ownerPubkey
  workloadName := self.workloadName
  replicaCount := self.replicaCount
  backends := ∅
  cursor := 0

namespace RouteTable

def checkHost (owner host : String) : Locked RouteTable Unit := do
  let inner ← get
  match inner.hostClaims.lookup (toAsciiLowercase host) with
  | some claim =>
    if claim.ownerPubkey ≠ owner then
      throw s!"host {toAsciiLowercase host} is already claimed by another owner"
  | none => pure ()

def claimHost (claim : HostClaim) (host : String) : Locked RouteTable Unit :=
  modify fun inner =>
    { inner with hostClaims := inner.hostClaims.insert (toAsciiLowercase host) claim }

/-- Refuses a routing key that another owner holds, and a new one when the table is full. -/
def checkManifest (registration : SidecarRegistration) (maxEntries : Nat) :
    Locked RouteTable Unit := do
  let inner ← get
  match inner.byManifest.lookup registration.manifestId with
  | some existing =>
    if existing.ownerPubkey ≠ registration.ownerPubkey then
      throw s!"manifest {registration.manifestId} belongs to another owner"
  | none =>
    if maxEntries ≤ Assoc.size inner.byManifest then
      throw "proxy sidecar route capacity reached"

def refreshBackend (registration : SidecarRegistration) (registeredAt : UInt64) :
    Locked RouteTable Unit :=
  modify fun inner =>
    let entry := (inner.byManifest.lookup registration.manifestId).getD registration.emptyEntry
    { inner with
      byManifest := inner.byManifest.insert registration.manifestId
        { entry with
          replicaCount := registration.replicaCount
          backends := entry.backends.insert registration.replicaIndex
            (registration.backend registeredAt) } }

def registerInner (registration : SidecarRegistration) (registeredAt : UInt64) (maxEntries : Nat) :
    Locked RouteTable Unit := do
  checkManifest registration maxEntries
  -- every hostname is checked before the first write
  registration.hosts.forM (checkHost registration.ownerPubkey)
  registration.hosts.forM (claimHost (registration.claim registeredAt))
  refreshBackend registration registeredAt

def register (self : RouteTable) (registration : SidecarRegistration) (registeredAt : UInt64)
    (maxEntries : Nat) : Except String Unit × RouteTable :=
  (registerInner registration registeredAt maxEntries).exec self

/-- A registration has not been refreshed for longer than the time to live, in milliseconds. -/
def stale (nowMillis : UInt64) (ttl : Nat) (registeredAt : UInt64) : Bool :=
  min ttl u64Max < nowMillis.toNat - registeredAt.toNat

def prune (self : RouteTable) (nowMillis : UInt64) (ttl : Nat) : RouteTable :=
  let pruned := Assoc.mapValues
    (fun entry : SidecarRouteEntry => { entry with
      backends := Assoc.retain (fun _ b => !stale nowMillis ttl b.registeredAt) entry.backends })
    self.byManifest
  { byManifest := Assoc.retain (fun _ e => !e.backends.entries.isEmpty) pruned
    hostClaims := Assoc.retain (fun _ c => !stale nowMillis ttl c.registeredAt) self.hostClaims }

def backendCount (self : RouteTable) (manifestId : String) : Nat :=
  ((self.byManifest.lookup manifestId).map fun entry => Assoc.size entry.backends).getD 0

def contains (self : RouteTable) (manifestId : String) : Bool := 0 < self.backendCount manifestId

def resolveHost (self : RouteTable) (host : String) : Option String :=
  (self.hostClaims.lookup (toAsciiLowercase host)).map HostClaim.manifestId

end RouteTable

/-- Host-scoped routes win over host-agnostic ones, then the longest path, then the lowest port. -/
def routeOrder (a b : SidecarRoute) : Ordering :=
  (compare a.hostName.isSome b.hostName.isSome).then
    ((compare a.pathPrefix.utf8ByteSize b.pathPrefix.utf8ByteSize).then
      (compare b.port.toNat a.port.toNat))

def SidecarRoute.serves (path : String) (host : Option String) (route : SidecarRoute) : Bool :=
  startsWith path route.pathPrefix && match route.hostName, host with
    | none, _ => true
    | some routeHost, some requestHost =>
      toAsciiLowercase routeHost == toAsciiLowercase requestHost
    | some _, none => false

def selectRoutePort (routes : List SidecarRoute) (path : String) (host : Option String) :
    Option UInt16 :=
  let normalized := String.ofList (path.toList.takeWhile (· ≠ '?'))
  -- the last of several greatest routes is taken
  let best := (routes.filter (SidecarRoute.serves normalized host)).foldl
    (fun best route => match best with
      | none => some route
      | some kept => if routeOrder kept route = .gt then some kept else some route) none
  best.map SidecarRoute.port

namespace RouteTable

def candidates (entry : SidecarRouteEntry) (path : String) (host : Option String) :
    List RouteTarget :=
  (entry.backends.entries.insertionSort fun a b => a.1.toNat ≤ b.1.toNat).filterMap fun e =>
    (selectRoutePort e.2.routes path host).map fun port => ⟨e.1, e.2.sidecarPeerId, port⟩

/-- The backends for a request, rotated by the cursor of the entry, which moves on. -/
def select (self : RouteTable) (manifestId path : String) (host : Option String) :
    List RouteTarget × RouteTable :=
  match self.byManifest.lookup manifestId with
  | none => ([], self)
  | some entry =>
    let targets := candidates entry path host
    if targets.isEmpty then ([], self)
    else
      let moved := { entry with cursor := (entry.cursor + 1) % 2 ^ 64 }
      (targets.rotate (entry.cursor % targets.length),
        { self with byManifest := self.byManifest.insert manifestId moved })

end RouteTable
end Podmesh
