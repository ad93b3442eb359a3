import Podmesh.Protocol.Execution

namespace Podmesh

def sidecarRegistrationVersion : UInt16 := 2
def maxSidecarRoutes : Nat := 64
def maxRouteHostLen : Nat := 253
def maxRoutePathLen : Nat := 1024

def toAsciiLowercase (s : String) : String := String.ofList (s.toList.map Char.toLower)

/-- A route that a sidecar serves; an empty host answers for any host of the workload. -/
structure SidecarRoute where
  host : String
  pathPrefix : String
  port : UInt16
  deriving DecidableEq

namespace SidecarRoute

def hostName (self : SidecarRoute) : Option String :=
  if self.host = "" then none else some self.host

def validate (self : SidecarRoute) : Except String Unit := do
  ensure (self.host.utf8ByteSize ≤ maxRouteHostLen)
    s!"route host exceeds {maxRouteHostLen} bytes"
  ensure ((utf8Bytes self.host).all fun b => isAsciiAlphanumeric b || b == 46 || b == 45)
    "route host contains characters outside the hostname alphabet"
  ensure (startsWith self.pathPrefix "/" && self.pathPrefix.utf8ByteSize ≤ maxRoutePathLen)
    s!"route path prefix must be absolute and at most {maxRoutePathLen} bytes"
  ensure (self.port != 0) "route target port must be non-zero"

end SidecarRoute

structure SidecarRegistration where
  version : UInt16
  ownerPubkey : String
  workloadName : String
  manifestId : String
  replicaIndex : UInt32
  replicaCount : UInt32
  routes : List SidecarRoute
  sidecarPeerId : String
  deriving DecidableEq

namespace SidecarRegistration

def hosts (self : SidecarRegistration) : List String := self.routes.filterMap SidecarRoute.hostName

def validate (p : Platform) (self : SidecarRegistration) : Except String Unit := do
  ensure (self.version == sidecarRegistrationVersion)
    s!"unsupported sidecar registration version {self.version}"
  let owner ← p.b64Decode self.ownerPubkey
  ensure (owner.length == 32) "owner_pubkey must decode to 32 bytes"
  ensure (self.workloadName != "" && self.workloadName.utf8ByteSize ≤ 253) "invalid workload name"
  ensure (self.manifestId == p.routeId owner self.workloadName)
    "manifest_id is not derived from this owner key and workload name"
  validateReplica self.replicaIndex self.replicaCount
  ensure (!self.routes.isEmpty && self.routes.length ≤ maxSidecarRoutes)
    s!"a registration must carry between 1 and {maxSidecarRoutes} routes"
  forEach SidecarRoute.validate self.routes
  ensure (self.sidecarPeerId != "" && self.sidecarPeerId.utf8ByteSize ≤ 128)
    "invalid sidecar peer id"

theorem validate_routeId {p : Platform} {self : SidecarRegistration} (h : self.validate p = .ok ()) :
    ∃ owner, p.b64Decode self.ownerPubkey = .ok owner ∧
      self.manifestId = p.routeId owner self.workloadName := by
  simp only [validate, bind_ok] at h
  obtain ⟨_, -, owner, ho, _, -, _, -, _, hid, _⟩ := h
  exact ⟨owner, ho, eq_of_beq (ensure_ok.1 hid)⟩

end SidecarRegistration
end Podmesh
