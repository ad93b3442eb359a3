import Podmesh.Lib.Fallible
import Podmesh.Lib.Queued

namespace Podmesh

def nanosPerSec : Nat := 1000000000

def maxReplayPeers : Nat := 10000
def maxReplayNoncesPerPeer : Nat := 1000
def minReplayNonceBytes : Nat := 36
def maxReplayNonceBytes : Nat := 128
def minReplayRetention : Nat := 60 * nanosPerSec
def maxReplayRetention : Nat := 300 * nanosPerSec

structure ReplayLimits where
  maxPeers : Nat
  noncesPerPeer : Nat
  maxNonceBytes : Nat
  retention : Nat
  deriving DecidableEq

namespace ReplayLimits

def default : ReplayLimits where
  maxPeers := 10000
  noncesPerPeer := 1000
  maxNonceBytes := 128
  retention := 120 * nanosPerSec

def validate (self : ReplayLimits) : Except String ReplayLimits := do
  ensure (1 ≤ self.maxPeers && self.maxPeers ≤ maxReplayPeers)
    "replay peer limit is outside its allowed range"
  ensure (1 ≤ self.noncesPerPeer && self.noncesPerPeer ≤ maxReplayNoncesPerPeer)
    "replay per-peer nonce limit is outside its allowed range"
  ensure (minReplayNonceBytes ≤ self.maxNonceBytes && self.maxNonceBytes ≤ maxReplayNonceBytes)
    "replay nonce byte limit is outside its allowed range"
  ensure (minReplayRetention ≤ self.retention && self.retention ≤ maxReplayRetention)
    "replay retention is outside its allowed range"
  return self

structure Valid (limits : ReplayLimits) : Prop where
  maxPeers : 1 ≤ limits.maxPeers
  noncesPerPeer : 1 ≤ limits.noncesPerPeer
  maxNonceBytes : minReplayNonceBytes ≤ limits.maxNonceBytes
  retention : minReplayRetention ≤ limits.retention

theorem valid_of_validate {self limits : ReplayLimits} (h : self.validate = .ok limits) :
    limits.Valid := by
  simp only [validate, bind_ok] at h
  obtain ⟨_, hp, _, hn, _, hb, _, hr, h⟩ := h
  cases h
  simp only [ensure_ok, Bool.and_eq_true, decide_eq_true_eq] at hp hn hb hr
  exact ⟨hp.1, hn.1, hb.1, hr.1⟩

end ReplayLimits

/-- The nonces of one peer (`seen`), with the instant each was recorded, and their `order`. -/
abbrev PeerNonces := Queued String Nat

namespace PeerNonces

def expired (now retention recorded : Nat) : Bool := retention ≤ now - recorded

def pruneExpired (self : PeerNonces) (now retention : Nat) : PeerNonces :=
  Queued.pruneFront (expired now retention) self.map self.order

def makeRoom (self : PeerNonces) (limit : Nat) : PeerNonces :=
  if limit ≤ self.order.length then self.evict else self

def insert (self : PeerNonces) (nonce : String) (now limit : Nat) : PeerNonces :=
  (self.makeRoom limit).push nonce now

end PeerNonces

abbrev ReplayState := Queued String PeerNonces

namespace ReplayState

def pruneExpiredPeers (self : ReplayState) (now retention : Nat) : ReplayState :=
  Queued.refine (fun peer => peer.pruneExpired now retention)
    (fun peer => !peer.map.entries.isEmpty) self

/-- Makes room for one more peer: first among the expired ones, then the oldest. -/
def makeRoom (self : ReplayState) (limits : ReplayLimits) (now : Nat) : ReplayState :=
  let pruned := if limits.maxPeers ≤ Assoc.size self.map
    then self.pruneExpiredPeers now limits.retention else self
  if limits.maxPeers ≤ Assoc.size pruned.map then pruned.evict else pruned

end ReplayState

structure PeerReplayRegistry where
  limits : ReplayLimits
  state : ReplayState

namespace PeerReplayRegistry

def new (limits : ReplayLimits) : Except String PeerReplayRegistry := do
  let limits ← limits.validate
  return ⟨limits, .empty⟩

def checkCall (limits : ReplayLimits) (peerId nonce : String) : Except String Unit := do
  ensure (peerId != "") "replay peer id is empty"
  ensure (nonce != "") "envelope nonce is empty"
  ensure (nonce.utf8ByteSize ≤ limits.maxNonceBytes) "envelope nonce exceeds configured byte limit"

/-- The answer under the lock of the registry, and the state it leaves behind. -/
def record (limits : ReplayLimits) (state : ReplayState) (peerId nonce : String) (now : Nat) :
    Except String Unit × ReplayState :=
  match state.map.lookup peerId with
  | some peer =>
    let pruned := peer.pruneExpired now limits.retention
    if (pruned.map.lookup nonce).isSome then
      -- a refused nonce still leaves the pruned queue behind
      (.error "envelope replay detected", ⟨state.map.insert peerId pruned, state.order⟩)
    else
      (.ok (), ⟨state.map.insert peerId (pruned.insert nonce now limits.noncesPerPeer),
        state.order⟩)
  | none =>
    (.ok (), (state.makeRoom limits now).push peerId
      (PeerNonces.insert .empty nonce now limits.noncesPerPeer))

def checkAndInsert (self : PeerReplayRegistry) (peerId nonce : String) (now : Nat) :
    Except String Unit × PeerReplayRegistry :=
  match checkCall self.limits peerId nonce with
  | .error e => (.error e, self)
  | .ok () =>
    let (answer, state) := record self.limits self.state peerId nonce now
    (answer, { self with state })

end PeerReplayRegistry
end Podmesh
