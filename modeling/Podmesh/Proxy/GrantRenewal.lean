import Podmesh.Proxy.Grants
import Mathlib.Data.String.Basic

namespace Podmesh

namespace ProxyGrantStore

/-- The store between the sections that hold its lock, and the owners whose grants are going to be
removed by lookups that found them no longer valid. -/
structure Calls where
  grants : ProxyGrantStore
  dropping : List String

inductive Locking where
  | accept (owner : String) (encoded : Bytes) (localEndpoint : String) (now : UInt64)
  | look (owner localEndpoint : String) (now : UInt64)
  | drop (owner : String)

/-- A refused submission changes nothing, so that only accepted ones are steps. -/
def step (p : TokenPlatform) (s : Calls) : Locking → Option Calls
  | .accept owner encoded localEndpoint now =>
    (s.grants.accept p owner encoded localEndpoint now).toOption.map fun grants => { s with grants }
  | .look owner localEndpoint now =>
    some { s with dropping := (s.grants.liveGrant p owner localEndpoint now).2 ++ s.dropping }
  | .drop owner =>
    if owner ∈ s.dropping then some ⟨s.grants.erase owner, s.dropping.erase owner⟩ else none

def idle : Calls := ⟨∅, []⟩

section Accept
variable {p : TokenPlatform} {grants grants' : ProxyGrantStore} {owner localEndpoint : String}
  {encoded : Bytes} {now : UInt64}

def Verified (p : TokenPlatform) (owner : String) (stored : StoredGrant) (localEndpoint : String)
    (now : UInt64) : Prop :=
  p.b64Decode owner = .ok stored.ownerPublic ∧ stored.ownerPublic.length = 32 ∧
    verifyProxyGrant p stored.encoded stored.ownerPublic owner localEndpoint now = .ok ()

theorem accept_ok : grants.accept p owner encoded localEndpoint now = .ok grants' ↔
    ∃ key, Verified p owner ⟨key, encoded⟩ localEndpoint now ∧
      ((grants.lookup owner).isSome ∨ Assoc.size grants < maxTenantGrants) ∧
      grants' = grants.insert owner ⟨key, encoded⟩ := by
  simp only [accept, bind_ok, withContext_ok, ensure_ok, Verified, exists_const, beq_iff_eq,
    Bool.or_eq_true, decide_eq_true_eq, pure, Except.pure, Except.ok.injEq]
  constructor
  · rintro ⟨key, hk, hl, _, hv, hr, rfl⟩
    exact ⟨key, ⟨hk, hl, hv⟩, hr, rfl⟩
  · rintro ⟨key, ⟨hk, hl, hv⟩, hr, rfl⟩
    exact ⟨key, hk, hl, (), hv, hr, rfl⟩

theorem step_accept (h : step p s (.accept owner encoded localEndpoint now) = some s') :
    ∃ key, Verified p owner ⟨key, encoded⟩ localEndpoint now ∧
      ((s.grants.lookup owner).isSome ∨ Assoc.size s.grants < maxTenantGrants) ∧
      s' = { s with grants := s.grants.insert owner ⟨key, encoded⟩ } := by
  obtain ⟨grants, ha, rfl⟩ := Option.map_eq_some_iff.1 h
  cases hr : s.grants.accept p owner encoded localEndpoint now with
  | error e =>
    rw [hr] at ha
    cases ha
  | ok grants' =>
    rw [hr] at ha
    cases ha
    obtain ⟨key, hv, hrm, rfl⟩ := accept_ok.1 hr
    exact ⟨key, hv, hrm, rfl⟩

end Accept

section Renewal
variable {p : TokenPlatform} {owner : String} {stored : StoredGrant} {s s' t : Calls}

/-- The grant is in the store, and no lookup is going to remove it. -/
def Kept (owner : String) (stored : StoredGrant) (s : Calls) : Prop :=
  s.grants.lookup owner = some stored ∧ owner ∉ s.dropping

/-- Sections that are no business of a grant: it is not replaced, and looked up only while it is
valid. -/
def Undisturbed (p : TokenPlatform) (owner : String) (stored : StoredGrant) : Locking → Prop
  | .accept other _ _ _ => other ≠ owner
  | .look other localEndpoint now => other = owner → Verified p owner stored localEndpoint now
  | .drop _ => True

theorem liveGrant_of_verified (h : s.grants.lookup owner = some stored)
    (hv : Verified p owner stored localEndpoint now) :
    s.grants.liveGrant p owner localEndpoint now = (some stored.encoded, []) := by
  simp only [liveGrant, h, hv.2.2]

theorem not_dropping_of_ne {grants : ProxyGrantStore} (hne : oth ≠ owner) :
    owner ∉ (grants.liveGrant p oth localEndpoint now).2 := by
  unfold liveGrant
  split
  · exact List.not_mem_nil
  · split
    · exact List.not_mem_nil
    · exact fun h => hne (List.mem_singleton.1 h).symm

theorem kept_step (h : Kept owner stored s) (ha : Undisturbed p owner stored a)
    (hs : step p s a = some s') : Kept owner stored s' := by
  obtain ⟨hst, hd⟩ := h
  cases a with
  | accept other encoded localEndpoint now =>
    obtain ⟨key, _, _, rfl⟩ := step_accept hs
    exact ⟨(AList.lookup_insert_ne (Ne.symm ha)).trans hst, hd⟩
  | look other localEndpoint now =>
    cases hs
    refine ⟨hst, fun hm => ?_⟩
    rcases List.mem_append.1 hm with hm | hm
    · by_cases ho : other = owner
      · subst ho
        rw [liveGrant_of_verified hst (ha rfl)] at hm
        cases hm
      · exact not_dropping_of_ne ho hm
    · exact hd hm
  | drop other =>
    dsimp only [step] at hs
    split at hs
    · next hm =>
      cases hs
      have hne : owner ≠ other := fun he => hd (he ▸ hm)
      exact ⟨(AList.lookup_erase_ne hne).trans hst, fun h => hd (List.mem_of_mem_erase h)⟩
    · cases hs

theorem kept_reach (h : Kept owner stored s)
    (hr : Reach (step p) (fun _ a => Undisturbed p owner stored a) s t) : Kept owner stored t :=
      by
  induction hr with
  | start => exact h
  | next _ ha hs ih => exact kept_step ih ha hs

end Renewal

/-- An accepted grant is returned by every lookup that starts while it is valid, if no lookup that
found an earlier grant of the owner invalid was still about to remove it when it was accepted. -/
theorem renewed_grant_served (p : TokenPlatform) (s s' t : Calls) (owner : String) (encoded : Bytes)
    (accepting : String) (accepted : UInt64) (localEndpoint : String) (now : UInt64) (key : Bytes)
    (haccept : step p s (.accept owner encoded accepting accepted) = some s')
    (hsettled : owner ∉ s.dropping)
    (hrun : Reach (step p) (fun _ a => Undisturbed p owner ⟨key, encoded⟩ a) s' t)
    (hlive : Verified p owner ⟨key, encoded⟩ localEndpoint now) :
    t.grants.liveGrant p owner localEndpoint now = (some encoded, []) := by
  obtain ⟨key', hv, _, rfl⟩ := step_accept haccept
  have hky : key' = key := by
    have h := hv.1.symm.trans hlive.1
    exact Except.ok.inj h
  subst hky
  have hk : Kept owner ⟨key', encoded⟩
      { s with grants := s.grants.insert owner ⟨key', encoded⟩ } :=
    ⟨AList.lookup_insert _, hsettled⟩
  exact liveGrant_of_verified (kept_reach hk hrun).1 hlive

section Capacity
variable {p : TokenPlatform} {s : Calls}

theorem reach_size (h : Reach (step p) ok idle s) : Assoc.size s.grants ≤ maxTenantGrants := by
  induction h with
  | start => exact Nat.zero_le _
  | @next s a s' _ _ hs ih =>
    cases a with
    | accept owner encoded localEndpoint now =>
      obtain ⟨key, _, hr, rfl⟩ := step_accept hs
      cases hh : s.grants.lookup owner with
      | none =>
        rw [hh] at hr
        have hlt := hr.resolve_left (by simp)
        exact (Assoc.size_insert_le _ _ _).trans hlt
      | some old =>
        have hsm := Assoc.total_insert_replace (fun _ _ => 1) ⟨key, encoded⟩ hh
        rw [← Assoc.size_eq_total, ← Assoc.size_eq_total] at hsm
        exact (Nat.add_right_cancel hsm).trans_le ih
    | look owner localEndpoint now =>
      cases hs
      exact ih
    | drop owner =>
      dsimp only [step] at hs
      split at hs
      · cases hs
        rw [Assoc.size_eq_total] at ih ⊢
        exact (Assoc.total_erase_le _ _ _).trans ih
      · cases hs

def liveGrants (p : TokenPlatform) (grants : ProxyGrantStore) (localEndpoint : String)
    (now : UInt64) : ProxyGrantStore :=
  Assoc.retain (fun owner _ => grants.live p owner localEndpoint now) grants

end Capacity

/-- A verified grant of a new owner that is refused finds the store full. The grants in it are all
live, as they should be, exactly if each of them is: one that expired counts until it is looked
up. -/
theorem refused_for_live_grants_iff (p : TokenPlatform) (s : Calls) (owner : String)
    (stored : StoredGrant) (localEndpoint : String) (now : UInt64) (e : String)
    (h : Reach (step p) always idle s) (hverified : Verified p owner stored localEndpoint now)
    (hrefused : s.grants.accept p owner stored.encoded localEndpoint now = .error e) :
    Assoc.size (s.grants.liveGrants p localEndpoint now) = maxTenantGrants ↔
      ∀ other, (s.grants.lookup other).isSome → s.grants.live p other localEndpoint now = true := by
  have hfl : Assoc.size s.grants = maxTenantGrants := by
    refine Nat.le_antisymm (reach_size h) (Nat.le_of_not_lt fun hlt => ?_)
    have ha := accept_ok.2 ⟨stored.ownerPublic, hverified, .inr hlt, rfl⟩
    rw [hrefused] at ha
    cases ha
  rw [← hfl, liveGrants, Assoc.size_retain_eq_iff]
  constructor
  · intro hal other hs
    obtain ⟨found, hf⟩ := Option.isSome_iff_exists.1 hs
    exact hal other found hf
  · intro hal other found hf
    exact hal other (by rw [hf]; rfl)

namespace Sample
open IdentityReference (encodeText narrowed)
open Biscuit (Fact)

def grantFacts (owner localEndpoint : String) (expires : Nat) : List Fact :=
  [⟨"tenant_owner", [.str owner]⟩, ⟨"subject_peer", [.str localEndpoint]⟩,
    ⟨"role", [.str "proxy"]⟩, ⟨"operation", [.str "proxy_service"]⟩, ⟨"issued_at", [.int 0]⟩,
    ⟨"expires_at", [.int expires]⟩, ⟨"token_id", [.str "grant"]⟩]

/-- A grant of `n` bytes ends at time `1000 * n`. -/
def platform : TokenPlatform :=
  { IdentityReference.platform narrowed with
    tokenFrom encoded root :=
      .ok ⟨⟨grantFacts (encodeText root) "proxy" (1000 * encoded.length), []⟩, []⟩ }

def key (n : Nat) : Bytes := UInt8.ofNat (n / 32) :: UInt8.ofNat (n % 32) :: List.replicate 30 0

def owner (n : Nat) : String := encodeText (key n)

theorem policy_holds (owner localEndpoint : String) (expires : Nat) (now : UInt64) :
    proxyGrantPolicy.holds
        (grantFacts owner localEndpoint expires ++ proxyGrantGiven owner localEndpoint now) =
      decide (now.toNat ≤ expires) := by
  simp [Biscuit.Query.holds, Biscuit.search, proxyGrantPolicy, grantFacts, proxyGrantGiven,
    Biscuit.Atom.unify, Biscuit.unifyArgs, Biscuit.Pattern.unify, Biscuit.Binding.set,
    Biscuit.Binding.free]

theorem owner_valid : validateValue (owner n) "proxy grant tenant owner" = .ok () := by
  have hne : owner n ≠ "" := fun h => by
    have hd := IdentityReference.decode_encode (key n)
    rw [← owner, h] at hd
    cases hd
  have hs : (owner n).utf8ByteSize ≤ 256 := by
    have hz : String.utf8Len ((List.replicate 30 (0 : UInt8)).map fun b => .ofNat b.toNat) = 30 :=
      rfl
    have hh := (Char.ofNat (UInt8.ofNat (n / 32)).toNat).utf8Size_le_four
    have hl := (Char.ofNat (UInt8.ofNat (n % 32)).toNat).utf8Size_le_four
    rw [owner, encodeText, String.utf8ByteSize_ofList, key, List.map_cons, List.map_cons,
      String.utf8Len, String.utf8Len, hz]
    omega
  exact ensure_ok.2 (Bool.and_eq_true_iff.2 ⟨bne_iff_ne.2 hne, decide_eq_true hs⟩)

theorem verify_iff (n : Nat) (hn : now = 0 ∨ now = 5000) :
    verifyProxyGrant platform [0] (key n) (owner n) "proxy" now = .ok () ↔ now = 0 := by
  have hp : validateValue "proxy" "proxy grant endpoint" = .ok () := by decide
  have ha : ∀ now, (⟨⟨grantFacts (owner n) "proxy" 1000, []⟩, []⟩ : Biscuit.Token).authorize
      (proxyGrantGiven (owner n) "proxy" now) proxyGrantPolicy = decide (now.toNat ≤ 1000) :=
    policy_holds (owner n) "proxy" 1000
  have ht : platform.tokenFrom [0] (key n) =
      .ok ⟨⟨grantFacts (owner n) "proxy" 1000, []⟩, []⟩ := rfl
  have ho : (owner n == platform.b64Encode (key n)) = true := beq_self_eq_true (owner n)
  simp only [verifyProxyGrant, owner_valid, hp, ho, ht, bind_ok, ensure_ok, withContext_ok,
    Except.ok.injEq, exists_eq_left', ha, toI64, exists_const, true_and]
  rcases hn with rfl | rfl <;> decide

theorem verified (n : Nat) : Verified platform (owner n) ⟨key n, [0]⟩ "proxy" 0 :=
  ⟨congrArg Except.ok (IdentityReference.decode_encode _), rfl, (verify_iff n (.inl rfl)).2 rfl⟩

theorem owner_inj (hm : m < 1025) (hn : n < 1025) (h : owner m = owner n) : m = n := by
  have hk : key m = key n := by
    rw [← IdentityReference.decode_encode (key m), ← IdentityReference.decode_encode (key n)]
    exact congrArg _ h
  simp only [key, List.cons.injEq, and_true, ← UInt8.toNat_inj, UInt8.toNat_ofNat'] at hk
  omega

def Early (_ : Calls) (a : Locking) : Prop := ∃ owner, a = .accept owner [0] "proxy" 0

theorem full : ∃ s, Reach (step platform) Early idle s ∧
    (∀ encoded now, ∃ e, s.grants.accept platform (owner 1024) encoded "proxy" now = .error e) ∧
    ∀ now, now = 0 ∨ now = 5000 → ∀ other, (s.grants.lookup other).isSome →
      (s.grants.live platform other "proxy" now = true ↔ now = 0) := by
  have hsb : ∀ n < 1024, ∀ s : Calls, Assoc.size s.grants = n →
      ∃ a s', Early s a ∧ step platform s a = some s' ∧
        s'.grants = s.grants.insert (owner n) ⟨key n, [0]⟩ := by
    intro n hn s hsz
    have ha : s.grants.accept platform (owner n) [0] "proxy" 0 = .ok _ :=
      accept_ok.2 ⟨key n, verified n, .inr (hsz ▸ hn), rfl⟩
    exact ⟨_, _, ⟨owner n, rfl⟩, by rw [step, ha]; rfl, rfl⟩
  obtain ⟨s, hrc, hsz, hs⟩ := Assoc.exists_reach_filled (step platform) Early
    idle Calls.grants owner (fun n => ⟨key n, [0]⟩) (fun m hm n hn h =>
      owner_inj (Nat.lt_succ_of_lt hm) (Nat.lt_succ_of_lt hn) h) rfl hsb
  refine ⟨s, hrc, ?_, ?_⟩
  · intro encoded now
    cases hr : s.grants.accept platform (owner 1024) encoded "proxy" now with
    | error e => exact ⟨e, rfl⟩
    | ok grants =>
      obtain ⟨_, _, hh | hrm, _⟩ := accept_ok.1 hr
      · obtain ⟨stored, hf⟩ := Option.isSome_iff_exists.1 hh
        obtain ⟨m, hm, heq, _⟩ := hs _ _ hf
        exact absurd hm (owner_inj (by decide) (Nat.lt_succ_of_lt hm) heq ▸ Nat.lt_irrefl 1024)
      · exact absurd hsz (Nat.ne_of_lt hrm)
  · intro now hnw other hh
    obtain ⟨stored, hf⟩ := Option.isSome_iff_exists.1 hh
    obtain ⟨m, hm, rfl, rfl⟩ := hs _ _ hf
    simp only [← verify_iff m hnw, live, hf]
    exact ⟨ok_of_isOk, fun h => by rw [h]; rfl⟩

end Sample

open Sample in
/-- The lookup that finds the first grant expired removes the second one, accepted in between: the
owner is left without a grant at a time at which the second one is valid. -/
theorem renewed_grant_lost :
    (runWhile (step platform) (fun _ _ => true) idle
        [.accept (owner 1) [0] "proxy" 0, .look (owner 1) "proxy" 1500,
          .accept (owner 1) [0, 0] "proxy" 1500, .drop (owner 1)]).map
        (fun s => s.grants.liveGrant platform (owner 1) "proxy" 1500) = some (none, []) ∧
      verifyProxyGrant platform [0, 0] (key 1) (owner 1) "proxy" 1500 = .ok () := by
  decide +kernel

open Sample in
theorem renewed_grant_served_at_once :
    ((step platform idle (.accept (owner 1) [0] "proxy" 0)).map
      fun s => s.grants.liveGrant platform (owner 1) "proxy" 0) = some (some [0], []) := by
  have ha : step platform idle (.accept (owner 1) [0] "proxy" 0) =
      some ⟨(∅ : ProxyGrantStore).insert (owner 1) ⟨key 1, [0]⟩, []⟩ := by
    have h : idle.grants.accept platform (owner 1) [0] "proxy" 0 = .ok _ :=
      accept_ok.2 ⟨key 1, verified 1, .inr (by decide), rfl⟩
    rw [step, h]
    rfl
  rw [ha]
  exact congrArg some (renewed_grant_served platform idle _ _ (owner 1) [0] "proxy" 0 "proxy" 0
    (key 1) ha List.not_mem_nil .start (verified _))

open Sample in
/-- The store is full of grants that expired long ago, of owners that nobody looks up, and refuses
a valid grant of a new owner. -/
theorem expired_grants_refuse_new_owner :
    ∃ s e, Reach (step platform) Early idle s ∧
      Verified platform (owner 1024) ⟨key 1024, List.replicate 6 0⟩ "proxy" 5000 ∧
      s.grants.accept platform (owner 1024) (List.replicate 6 0) "proxy" 5000 = .error e ∧
      Assoc.size (s.grants.liveGrants platform "proxy" 5000) = 0 := by
  obtain ⟨s, hrc, hrf, hlv⟩ := full
  obtain ⟨e, hr⟩ := hrf (List.replicate 6 0) 5000
  refine ⟨s, e, hrc, ?_, hr, ?_⟩
  · exact ⟨congrArg Except.ok (IdentityReference.decode_encode _), rfl, by decide +kernel⟩
  · rw [Assoc.size, liveGrants, Assoc.retain, List.length_eq_zero_iff, List.filter_eq_nil_iff]
    intro entry he hl
    have hf := AList.mem_lookup_iff.2 he
    exact absurd ((hlv 5000 (.inr rfl) entry.1 (by rw [hf]; rfl)).1 hl) (by decide)

open Sample in
theorem refused_for_live_grants_iff_full :
    ∃ (s : Calls) (e : String),
      s.grants.accept platform (owner 1024) [0] "proxy" 0 = .error e ∧
      Assoc.size (s.grants.liveGrants platform "proxy" 0) = maxTenantGrants := by
  obtain ⟨s, hrc, hrf, hl⟩ := full
  obtain ⟨e, hr⟩ := hrf [0] 0
  refine ⟨s, e, hr, ?_⟩
  exact (refused_for_live_grants_iff platform s (owner 1024) ⟨key 1024, [0]⟩ "proxy" 0 e
    hrc.toAlways (verified _) hr).2
      fun oth h => (hl 0 (.inl rfl) oth h).2 rfl

end ProxyGrantStore
end Podmesh
