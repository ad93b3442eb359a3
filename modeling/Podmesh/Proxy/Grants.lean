import Podmesh.Lib.Assoc
import Podmesh.Protocol.ProxyGrant

namespace Podmesh

def maxTenantGrants : Nat := 1024

structure StoredGrant where
  ownerPublic : Bytes
  encoded : Bytes
  deriving DecidableEq

abbrev ProxyGrantStore := AList fun _ : String => StoredGrant

namespace ProxyGrantStore

def accept (p : TokenPlatform) (grants : ProxyGrantStore) (ownerPubkey : String) (encoded : Bytes)
    (localEndpoint : String) (nowSecs : UInt64) : Except String ProxyGrantStore := do
  let ownerPublic ← withContext "decode proxy grant owner key" (p.b64Decode ownerPubkey)
  ensure (ownerPublic.length == 32) "proxy grant owner key must decode to 32 bytes"
  withContext "verify submitted proxy grant"
    (verifyProxyGrant p encoded ownerPublic ownerPubkey localEndpoint nowSecs)
  ensure ((grants.lookup ownerPubkey).isSome || Assoc.size grants < maxTenantGrants)
    s!"proxy grant capacity of {maxTenantGrants} tenants is reached"
  return grants.insert ownerPubkey ⟨ownerPublic, encoded⟩

def live (p : TokenPlatform) (grants : ProxyGrantStore) (ownerPubkey localEndpoint : String)
    (nowSecs : UInt64) : Bool :=
  match grants.lookup ownerPubkey with
  | none => false
  | some stored =>
    (verifyProxyGrant p stored.encoded stored.ownerPublic ownerPubkey localEndpoint nowSecs).isOk

/-- The grant of an owner if it is valid. A grant that is not is to be dropped, under a lock that is
taken after this look. -/
def liveGrant (p : TokenPlatform) (grants : ProxyGrantStore) (ownerPubkey localEndpoint : String)
    (nowSecs : UInt64) : Option Bytes × List String :=
  match grants.lookup ownerPubkey with
  | none => (none, [])
  | some stored =>
    match verifyProxyGrant p stored.encoded stored.ownerPublic ownerPubkey localEndpoint nowSecs with
    | .ok () => (some stored.encoded, [])
    | .error _ => (none, [ownerPubkey])

def holdsLiveGrant (p : TokenPlatform) (grants : ProxyGrantStore)
    (ownerPubkey localEndpoint : String) (nowSecs : UInt64) : Bool × List String :=
  let (grant, dropped) := grants.liveGrant p ownerPubkey localEndpoint nowSecs
  (grant.isSome, dropped)

theorem holdsLiveGrant_fst (p : TokenPlatform) (grants : ProxyGrantStore)
    (ownerPubkey localEndpoint : String) (nowSecs : UInt64) :
    (grants.holdsLiveGrant p ownerPubkey localEndpoint nowSecs).1 =
      grants.live p ownerPubkey localEndpoint nowSecs := by
  unfold holdsLiveGrant liveGrant live
  cases grants.lookup ownerPubkey with
  | none => rfl
  | some st =>
    cases hv : verifyProxyGrant p st.encoded st.ownerPublic ownerPubkey localEndpoint
        nowSecs with
    | ok => simp only [hv]; rfl
    | error => simp only [hv]; rfl

theorem granted_of_live {p : TokenPlatform} {signed : Bytes → List Biscuit.Fact → Prop}
    {grants : ProxyGrantStore} (hu : p.Unforgeable signed) (hp : PlainGrants signed)
    (h : grants.live p ownerPubkey localEndpoint nowSecs = true) :
    Granted p signed ownerPubkey localEndpoint nowSecs := by
  unfold live at h
  split at h
  · cases h
  · next st _ =>
    cases hv : verifyProxyGrant p st.encoded st.ownerPublic ownerPubkey localEndpoint
        nowSecs with
    | ok => exact granted_of_verifyProxyGrant hu hp hv
    | error =>
      rw [hv] at h
      cases h

end ProxyGrantStore
end Podmesh
