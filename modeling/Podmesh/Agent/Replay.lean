import Podmesh.Agent.State

namespace Podmesh

def maxReplayEntries : Nat := 16384

structure ReplayCache where
  seen : AList fun _ : String => UInt64
  order : List String

namespace ReplayCache

def empty : ReplayCache := ⟨∅, []⟩

def prune (now : UInt64) (seen : AList fun _ : String => UInt64) : List String → ReplayCache
  | [] => ⟨seen, []⟩
  | oldest :: rest =>
    match seen.lookup oldest with
    | some expiry =>
      if expiry.toNat < now.toNat then prune now (seen.erase oldest) rest
      else ⟨seen, oldest :: rest⟩
    | none => prune now seen rest

def evict (c : ReplayCache) : ReplayCache :=
  if c.order.length ≥ maxReplayEntries then
    match c.order with
    | evicted :: rest => ⟨c.seen.erase evicted, rest⟩
    | [] => c
  else c

def push (c : ReplayCache) (key : String) (expiresAtSecs : UInt64) : ReplayCache :=
  ⟨c.seen.insert key expiresAtSecs, c.order ++ [key]⟩

def record (c : ReplayCache) (key : String) (expiresAtSecs nowSecs : UInt64) :
    ReplayCache × Except String Unit :=
  let pruned := prune nowSecs c.seen c.order
  if (pruned.seen.lookup key).isSome then (pruned, .error "replayed request")
  else (pruned.evict.push key expiresAtSecs, .ok ())

end ReplayCache

def replayKey (operation namespaceId nonce : String) : String :=
  operation ++ ":" ++ namespaceId ++ ":" ++ nonce

end Podmesh
