import Podmesh.Protocol.IdentityAuthority

namespace Podmesh

open Biscuit (Fact Atom Query Binding)

def maxBiscuitTokenBytes : Nat := 16 * 1024
def maxAuthzValueLen : Nat := 256
def maxProxyGrantClockSkewSecs : Nat := 60

def validateValue (value field : String) : Except String Unit :=
  ensure (value != "" && value.utf8ByteSize ≤ maxAuthzValueLen) s!"{field} length is invalid"

def toI64 (value : Nat) : Except String Unit :=
  ensure (value ≤ i64Max) "proxy grant timestamp exceeds i64"

/-- What a verifier adds to a grant: the tenant and the proxy it asks about, and the time. -/
def proxyGrantGiven (tenantOwner proxyEndpoint : String) (nowSecs : UInt64) : List Fact :=
  [⟨"request_tenant_owner", [.str tenantOwner]⟩, ⟨"request_subject_peer", [.str proxyEndpoint]⟩,
    ⟨"request_time", [.int nowSecs.toNat]⟩,
    ⟨"latest_issue_time", [.int (saturatingAdd u64Max nowSecs.toNat maxProxyGrantClockSkewSecs)]⟩]

/-- The owner's facts must match the request, inside the validity window of the grant. -/
def proxyGrantPolicy : Query where
  atoms := [⟨"tenant_owner", [.var 0]⟩, ⟨"request_tenant_owner", [.var 0]⟩,
    ⟨"subject_peer", [.var 1]⟩, ⟨"request_subject_peer", [.var 1]⟩,
    ⟨"role", [.value (.str "proxy")]⟩, ⟨"operation", [.value (.str "proxy_service")]⟩,
    ⟨"issued_at", [.var 2]⟩, ⟨"expires_at", [.var 3]⟩, ⟨"request_time", [.var 4]⟩,
    ⟨"latest_issue_time", [.var 5]⟩, ⟨"token_id", [.var 6]⟩]
  guard b := match b 2, b 3, b 4, b 5 with
    | some (.int issued), some (.int expires), some (.int now), some (.int latest) =>
      issued ≤ latest && now ≤ expires
    | _, _, _, _ => false

def verifyProxyGrant (p : TokenPlatform) (encoded ownerPublic : Bytes)
    (expectedTenantOwner expectedProxyEndpoint : String) (nowSecs : UInt64) :
    Except String Unit := do
  ensure (!encoded.isEmpty && encoded.length ≤ maxBiscuitTokenBytes)
    "proxy grant encoded size is invalid"
  validateValue expectedTenantOwner "proxy grant tenant owner"
  validateValue expectedProxyEndpoint "proxy grant endpoint"
  ensure (expectedTenantOwner == p.b64Encode ownerPublic)
    "proxy grant tenant owner does not match the trusted owner key"
  let token ← withContext "verify proxy grant Biscuit signature" (p.tokenFrom encoded ownerPublic)
  toI64 nowSecs.toNat
  toI64 (saturatingAdd u64Max nowSecs.toNat maxProxyGrantClockSkewSecs)
  ensure (token.authorize (proxyGrantGiven expectedTenantOwner expectedProxyEndpoint nowSecs)
    proxyGrantPolicy) "proxy grant authorization failed"

theorem var_atom_is : (⟨name, [.var i]⟩ : Atom).Is b f ↔ ∃ v, b i = some v ∧ f = ⟨name, [v]⟩ := by
  obtain ⟨fname, terms⟩ := f
  constructor
  · rintro ⟨rfl, ht⟩
    have ht' : terms.map some = [b i] := ht.symm
    obtain ⟨v, rest, rfl, hv, hr⟩ := List.map_eq_cons_iff.1 ht'
    obtain rfl := List.map_eq_nil_iff.1 hr
    exact ⟨v, hv.symm, rfl⟩
  · rintro ⟨v, hv, h⟩
    cases h
    refine ⟨rfl, ?_⟩
    change [b i] = [some v]
    rw [hv]

def requestNames : List String :=
  ["request_tenant_owner", "request_subject_peer", "request_time", "latest_issue_time"]

/-- The blocks signed leave it to the verifier to say what is requested, as minted grants do. -/
def PlainGrants (signed : Bytes → List Fact → Prop) : Prop :=
  ∀ key facts, signed key facts → ∀ f ∈ facts, f.name ∉ requestNames

/-- The owner signed that the proxy may serve, for a window around a time. -/
def Granted (p : TokenPlatform) (signed : Bytes → List Fact → Prop)
    (tenantOwner proxyEndpoint : String) (nowSecs : UInt64) : Prop :=
  ∃ key facts, ∃ issued expires : Int, tenantOwner = p.b64Encode key ∧ signed key facts ∧
    ⟨"tenant_owner", [.str tenantOwner]⟩ ∈ facts ∧ ⟨"subject_peer", [.str proxyEndpoint]⟩ ∈ facts ∧
    ⟨"role", [.str "proxy"]⟩ ∈ facts ∧ ⟨"operation", [.str "proxy_service"]⟩ ∈ facts ∧
    ⟨"issued_at", [.int issued]⟩ ∈ facts ∧ ⟨"expires_at", [.int expires]⟩ ∈ facts ∧
    issued ≤ nowSecs.toNat + maxProxyGrantClockSkewSecs ∧ nowSecs.toNat ≤ expires

section Policy
variable {facts given : List Fact} {v : Biscuit.Term}

theorem signed_of_trusted (hf : ⟨name, [v]⟩ ∈ facts ++ proxyGrantGiven owner ep now)
    (hn : name ∉ requestNames) : ⟨name, [v]⟩ ∈ facts := by
  rcases List.mem_append.1 hf with hf | hf
  · exact hf
  · refine absurd ?_ hn
    simp only [proxyGrantGiven, List.mem_cons, List.not_mem_nil, or_false, Fact.mk.injEq] at hf
    rcases hf with ⟨rfl, _⟩ | ⟨rfl, _⟩ | ⟨rfl, _⟩ | ⟨rfl, _⟩ <;> decide

theorem given_of_trusted (hp : ∀ f ∈ facts, f.name ∉ requestNames)
    (hf : ⟨name, [v]⟩ ∈ facts ++ given) (hn : name ∈ requestNames) : ⟨name, [v]⟩ ∈ given := by
  rcases List.mem_append.1 hf with hf | hf
  · exact absurd hn (hp _ hf)
  · exact hf

end Policy

theorem granted_of_verifyProxyGrant (hu : p.Unforgeable signed) (hp : PlainGrants signed)
    (h : verifyProxyGrant p enc ownerPublic owner ep now = .ok ()) :
    Granted p signed owner ep now := by
  simp only [verifyProxyGrant, bind_ok, ensure_ok, exists_const, withContext_ok, beq_iff_eq,
    Biscuit.Token.authorize, Bool.and_eq_true] at h
  obtain ⟨_, _, _, _, _, how, token, htk, _, _, _, _, _, hpo⟩ := h
  have hs := hu enc ownerPublic token htk
  have hpl := hp ownerPublic _ hs
  obtain ⟨b, hg, ha⟩ := Query.holds_sound hpo
  -- each variable of the policy names one value, in the block or in the request
  have hvr : ∀ name i, (⟨name, [.var i]⟩ : Atom) ∈ proxyGrantPolicy.atoms →
      ∃ v, b i = some v ∧
        ⟨name, [v]⟩ ∈ token.authority.facts ++ proxyGrantGiven owner ep now := by
    intro name i hm
    obtain ⟨f, hf, his⟩ := ha _ hm
    obtain ⟨v, hv, rfl⟩ := var_atom_is.1 his
    exact ⟨v, hv, hf⟩
  have hc : ∀ name k, (⟨name, [.value k]⟩ : Atom) ∈ proxyGrantPolicy.atoms →
      ⟨name, [k]⟩ ∈ token.authority.facts ++ proxyGrantGiven owner ep now := by
    intro name k hm
    obtain ⟨f, hf, his⟩ := ha _ hm
    rw [ground_atom_is.1 his] at hf
    exact hf
  obtain ⟨o, ho, hof⟩ := hvr "tenant_owner" 0 (by decide)
  obtain ⟨o', ho', hro⟩ := hvr "request_tenant_owner" 0 (by decide)
  obtain ⟨e, he, hef⟩ := hvr "subject_peer" 1 (by decide)
  obtain ⟨e', he', hrf⟩ := hvr "request_subject_peer" 1 (by decide)
  obtain ⟨issued, hi, hif⟩ := hvr "issued_at" 2 (by decide)
  obtain ⟨expires, hex, hxf⟩ := hvr "expires_at" 3 (by decide)
  obtain ⟨t, ht, htf⟩ := hvr "request_time" 4 (by decide)
  obtain ⟨latest, hl, hlf⟩ := hvr "latest_issue_time" 5 (by decide)
  have hr := hc "role" (.str "proxy") (by decide)
  have hop := hc "operation" (.str "proxy_service") (by decide)
  have hro := given_of_trusted hpl hro (by decide)
  have hrf := given_of_trusted hpl hrf (by decide)
  have htf := given_of_trusted hpl htf (by decide)
  have hlf := given_of_trusted hpl hlf (by decide)
  simp [proxyGrantGiven] at hro hrf htf hlf
  rw [ho] at ho'
  rw [he] at he'
  cases ho'
  cases he'
  subst hro hrf htf hlf
  simp only [proxyGrantPolicy, hi, hex, ht, hl] at hg
  cases issued with
  | str s => cases hg
  | int issued =>
    cases expires with
    | str s => cases hg
    | int expires =>
      simp only [Bool.and_eq_true, decide_eq_true_eq] at hg
      refine ⟨ownerPublic, _, issued, expires, how, hs, ?_, ?_, ?_, ?_, ?_, ?_, ?_, ?_⟩
      · exact signed_of_trusted hof (by decide)
      · exact signed_of_trusted hef (by decide)
      · exact signed_of_trusted hr (by decide)
      · exact signed_of_trusted hop (by decide)
      · exact signed_of_trusted hif (by decide)
      · exact signed_of_trusted hxf (by decide)
      · have hiss := hg.1
        unfold saturatingAdd at hiss
        omega
      · exact hg.2

end Podmesh
